import Mathlib.Data.List.Nodup
import Mathlib.Data.List.Pairwise

/-! Keyed tables with uniqueness constraints, as a relational store keeps them.
A table carries the proof that its rows respect the primary key and every
further unique index, so a statement either keeps both or is refused. A row
lists its entries in the unique indexes; a partial index lists nothing for the
rows it leaves out. -/
namespace Anet

variable {κ ρ ι : Type*}

structure Table (key : ρ → κ) (marks : ρ → List ι) where
  rows : List ρ
  keys : (rows.map key).Nodup
  unique : rows.Pairwise fun r r' => List.Disjoint (marks r) (marks r')

/-- A table whose only constraint is its primary key. -/
def noMarks (_ : ρ) : List Empty := []

theorem noMarks_subset (f : ρ → ρ) (r : ρ) : noMarks (f r) ⊆ noMarks r := List.Subset.refl _

namespace Table

variable {key : ρ → κ} {marks : ρ → List ι}

def empty : Table key marks := ⟨[],by simp,by simp⟩

section Reads

variable [DecidableEq κ]

/-- `SELECT ... WHERE key = k`. -/
def get (t : Table key marks) (k : κ) : Option ρ := t.rows.find? fun r => key r = k

/-- `SELECT ... WHERE p`, and then `fetchone`. -/
def first (t : Table key marks) (p : ρ → Prop) [DecidablePred p] : Option ρ :=
  t.rows.find? fun r => p r

def select (t : Table key marks) (p : ρ → Prop) [DecidablePred p] : List ρ :=
  t.rows.filter fun r => p r

/-- `SELECT COUNT(*)`, and the `rowcount` of a statement with this condition. -/
def count (t : Table key marks) (p : ρ → Prop) [DecidablePred p] : ℕ :=
  t.rows.countP fun r => p r

end Reads

/-- Rows that keep their keys when some of them change have different keys still. -/
theorem changed_keys (t : Table key marks) (p : ρ → Prop) [DecidablePred p] (f : ρ → ρ)
    (hkey : ∀ r, key (f r) = key r) :
    ((t.rows.map fun r => if p r then f r else r).map key).Nodup := by
  have h : (t.rows.map fun r => if p r then f r else r).map key = t.rows.map key := by
    rw [List.map_map]
    apply List.map_congr_left
    intro r _
    by_cases hp : p r <;> simp [hp,hkey]
  rw [h]
  exact t.keys

/-- `UPDATE ... SET f WHERE p`, for an `f` that adds no entry to a unique index. -/
def update (t : Table key marks) (p : ρ → Prop) [DecidablePred p] (f : ρ → ρ)
    (hkey : ∀ r, key (f r) = key r) (hmarks : ∀ r, marks (f r) ⊆ marks r) : Table key marks where
  rows := t.rows.map fun r => if p r then f r else r
  keys := t.changed_keys p f hkey
  unique := by
    have hsub (r : ρ) : marks (if p r then f r else r) ⊆ marks r := by
      by_cases hp : p r <;> simp [hp,hmarks]
    rw [List.pairwise_map]
    exact t.unique.imp fun hd a ha hb => hd (hsub _ ha) (hsub _ hb)

/-- `DELETE ... WHERE p`. -/
def delete (t : Table key marks) (p : ρ → Prop) [DecidablePred p] : Table key marks where
  rows := t.rows.filter fun r => ¬ p r
  keys := t.keys.sublist (List.filter_sublist.map key)
  unique := t.unique.filter _

/-- `INSERT`; `none` is an integrity error. -/
def insert [DecidableEq κ] [DecidableEq ι] (t : Table key marks) (r : ρ) :
    Option (Table key marks) :=
  if h : (∀ r' ∈ t.rows, key r' ≠ key r) ∧ ∀ r' ∈ t.rows, ∀ m ∈ marks r', m ∉ marks r then
    some
      { rows := t.rows ++ [r]
        keys := by
          rw [List.map_append,List.nodup_append]
          refine ⟨t.keys,by simp,?_⟩
          intro a ha b hb
          obtain ⟨r',hr',rfl⟩ := List.mem_map.mp ha
          simp only [List.map_cons,List.map_nil,List.mem_singleton] at hb
          subst hb
          exact h.1 r' hr'
        unique := by
          rw [List.pairwise_append]
          refine ⟨t.unique,by simp,?_⟩
          intro r' hr' b hb
          rw [List.mem_singleton] at hb
          subst hb
          exact fun m ha hb => h.2 r' hr' m ha hb }
  else none

/-- `INSERT OR IGNORE`. -/
def insertOrIgnore [DecidableEq κ] [DecidableEq ι] (t : Table key marks) (r : ρ) :
    Table key marks :=
  (t.insert r).getD t

/-- `UPDATE ... SET f WHERE key = k`, for an `f` that may enter unique indexes;
`none` is an integrity error. -/
def assign [DecidableEq κ] [DecidableEq ι] (t : Table key marks) (k : κ) (f : ρ → ρ)
    (hkey : ∀ r, key (f r) = key r) : Option (Table key marks) :=
  if h : (t.rows.map fun r => if key r = k then f r else r).Pairwise
      (fun r r' => ∀ m ∈ marks r, m ∉ marks r') then
    some
      { rows := t.rows.map fun r => if key r = k then f r else r
        keys := by
          have he : (t.rows.map fun r => if key r = k then f r else r).map key =
              t.rows.map key := by
            rw [List.map_map]
            apply List.map_congr_left
            intro r _
            by_cases hp : key r = k <;> simp [hp,hkey]
          rw [he]
          exact t.keys
        unique := h.imp fun hd m ha hb => hd m ha hb }
  else none

/-- `INSERT ... ON CONFLICT(key) DO UPDATE SET f`. -/
def upsert [DecidableEq κ] [DecidableEq ι] (t : Table key marks) (r : ρ) (f : ρ → ρ)
    (hkey : ∀ r, key (f r) = key r) : Option (Table key marks) :=
  if (t.get (key r)).isSome then t.assign (key r) f hkey else t.insert r

section Lookup

variable [DecidableEq κ]

theorem get_eq_some {t : Table key marks} {k : κ} {r : ρ} :
    t.get k = some r ↔ r ∈ t.rows ∧ key r = k := by
  constructor
  · intro h
    have hk := List.find?_some h
    exact ⟨List.mem_of_find?_eq_some h,by simpa using hk⟩
  · rintro ⟨hr,rfl⟩
    cases h : t.get (key r) with
    | none => simpa using List.find?_eq_none.mp h r hr
    | some r' =>
      have hk := List.find?_some h
      have hm := List.mem_of_find?_eq_some h
      rw [List.inj_on_of_nodup_map t.keys hm hr (by simpa using hk)]

theorem get_key {t : Table key marks} {k : κ} {r : ρ} (h : t.get k = some r) : key r = k :=
  (get_eq_some.mp h).2

theorem mem_rows {t : Table key marks} {r : ρ} : r ∈ t.rows ↔ t.get (key r) = some r := by
  simp [get_eq_some]

theorem get_eq_none {t : Table key marks} {k : κ} :
    t.get k = none ↔ ∀ r ∈ t.rows, key r ≠ k := by
  simp [get]

@[simp] theorem get_empty (k : κ) : (empty : Table key marks).get k = none := rfl

theorem first_some {t : Table key marks} {p : ρ → Prop} [DecidablePred p] {r : ρ}
    (h : t.first p = some r) : t.get (key r) = some r ∧ p r := by
  have hp := List.find?_some h
  exact ⟨mem_rows.mp (List.mem_of_find?_eq_some h),by simpa using hp⟩

theorem first_none {t : Table key marks} {p : ρ → Prop} [DecidablePred p]
    (h : t.first p = none) {k : κ} {r : ρ} (hr : t.get k = some r) : ¬ p r := by
  simpa using List.find?_eq_none.mp h r (get_eq_some.mp hr).1

theorem mem_select {t : Table key marks} {p : ρ → Prop} [DecidablePred p] {r : ρ} :
    r ∈ t.select p ↔ t.get (key r) = some r ∧ p r := by
  simp [select,mem_rows]

/-- An entry of a unique index belongs to one row. -/
theorem mark_unique {t : Table key marks} {k k' : κ} {r r' : ρ} {m : ι}
    (h : t.get k = some r) (h' : t.get k' = some r') (hm : m ∈ marks r) (hm' : m ∈ marks r') :
    r = r' := by
  by_contra hne
  have : Std.Symm fun r r' : ρ => List.Disjoint (marks r) (marks r') := ⟨fun _ _ hd _ ha hb => hd hb ha⟩
  exact t.unique.forall (get_eq_some.mp h).1 (get_eq_some.mp h').1 hne hm hm'

theorem get_update (t : Table key marks) (p : ρ → Prop) [DecidablePred p] (f : ρ → ρ)
    (hkey : ∀ r, key (f r) = key r) (hmarks : ∀ r, marks (f r) ⊆ marks r) (k : κ) :
    (t.update p f hkey hmarks).get k = (t.get k).map fun r => if p r then f r else r := by
  simp only [get,update,List.find?_map]
  congr 2
  funext r
  by_cases hp : p r <;> simp [hp,hkey]

/-- An update by primary key. -/
theorem get_update_key (t : Table key marks) (k : κ) (f : ρ → ρ)
    (hkey : ∀ r, key (f r) = key r) (hmarks : ∀ r, marks (f r) ⊆ marks r) (k' : κ) :
    (t.update (fun r => key r = k) f hkey hmarks).get k' =
      if k' = k then (t.get k).map f else t.get k' := by
  rw [get_update]
  by_cases hk : k' = k
  · subst hk
    rw [if_pos rfl]
    cases hg : t.get k' with
    | none => rfl
    | some r => simp [get_key hg]
  · rw [if_neg hk]
    cases hg : t.get k' with
    | none => rfl
    | some r => simp [get_key hg,hk]

theorem get_delete (t : Table key marks) (p : ρ → Prop) [DecidablePred p] (k : κ) :
    (t.delete p).get k = (t.get k).filter fun r => ¬ p r := by
  apply Option.ext
  intro r
  rw [get_eq_some,Option.filter_eq_some_iff,get_eq_some]
  simp only [delete,List.mem_filter]
  tauto

end Lookup

section Writes

variable [DecidableEq κ] [DecidableEq ι]

theorem insert_eq_some {t t' : Table key marks} {r : ρ} (h : t.insert r = some t') :
    t.get (key r) = none ∧ (∀ r' ∈ t.rows, ∀ m ∈ marks r', m ∉ marks r) ∧
      t'.rows = t.rows ++ [r] := by
  unfold insert at h
  split at h
  · rename_i hc
    obtain rfl := Option.some.inj h
    exact ⟨get_eq_none.mpr hc.1,hc.2,rfl⟩
  · cases h

theorem get_insert {t t' : Table key marks} {r : ρ} (h : t.insert r = some t') (k : κ) :
    t'.get k = if k = key r then some r else t.get k := by
  obtain ⟨hn,-,hrows⟩ := insert_eq_some h
  apply Option.ext
  intro x
  rw [get_eq_some,hrows,List.mem_append,List.mem_singleton]
  by_cases hk : k = key r
  · subst hk
    simp only [if_true,Option.some.injEq]
    constructor
    · rintro ⟨hx | rfl,hkey⟩
      · exact absurd hkey (get_eq_none.mp hn x hx)
      · rfl
    · rintro rfl
      exact ⟨Or.inr rfl,rfl⟩
  · rw [if_neg hk,get_eq_some]
    constructor
    · rintro ⟨hx | rfl,hkey⟩
      · exact ⟨hx,hkey⟩
      · exact absurd hkey.symm hk
    · rintro ⟨hx,hkey⟩
      exact ⟨Or.inl hx,hkey⟩

theorem insertOrIgnore_cases (t : Table key marks) (r : ρ) :
    t.insertOrIgnore r = t ∨ t.insert r = some (t.insertOrIgnore r) := by
  unfold insertOrIgnore
  cases h : t.insert r <;> simp

theorem get_assign {t t' : Table key marks} {k : κ} {f : ρ → ρ} {hkey : ∀ r, key (f r) = key r}
    (h : t.assign k f hkey = some t') (k' : κ) :
    t'.get k' = if k' = k then (t.get k).map f else t.get k' := by
  unfold assign at h
  split at h
  swap
  · cases h
  · obtain rfl := Option.some.inj h
    simp only [get,List.find?_map]
    have hp : ((fun r => decide (key r = k')) ∘ fun r => if key r = k then f r else r) =
        fun r => decide (key r = k') := by
      funext r
      by_cases hr : key r = k <;> simp [hr,hkey]
    rw [hp]
    by_cases hk : k' = k
    · subst hk
      rw [if_pos rfl]
      cases hg : t.rows.find? (fun r => decide (key r = k')) with
      | none => rfl
      | some r =>
        have hr : key r = k' := by simpa using List.find?_some hg
        simp [hr]
    · rw [if_neg hk]
      cases hg : t.rows.find? (fun r => decide (key r = k')) with
      | none => rfl
      | some r =>
        have hr : key r = k' := by simpa using List.find?_some hg
        simp [hr,hk]

theorem get_upsert {t t' : Table key marks} {r : ρ} {f : ρ → ρ} {hkey : ∀ r, key (f r) = key r}
    (h : t.upsert r f hkey = some t') (k : κ) :
    t'.get k = if k = key r then some ((t.get (key r)).elim r f) else t.get k := by
  unfold upsert at h
  split at h
  · rename_i hs
    rw [get_assign h]
    obtain ⟨x,hx⟩ := Option.isSome_iff_exists.mp hs
    simp [hx]
  · rename_i hs
    rw [get_insert h]
    simp only [Bool.not_eq_true,Option.isSome_eq_false_iff,Option.isNone_iff_eq_none] at hs
    simp [hs]

/-- A table without unique indexes takes every row whose key is free. -/
theorem insert_noMarks {key : ρ → κ} (t : Table key noMarks) {r : ρ} (h : t.get (key r) = none) :
    ∃ t', t.insert r = some t' := by
  have hfree : (∀ x ∈ t.rows, key x ≠ key r) ∧ ∀ x ∈ t.rows, ∀ m ∈ noMarks x, m ∉ noMarks r := by
    refine ⟨get_eq_none.mp h,?_⟩
    intro x _ m hm
    cases hm
  rw [insert,dif_pos hfree]
  exact ⟨_,rfl⟩

/-- A table without unique indexes takes every row by `INSERT ... ON CONFLICT DO UPDATE`. -/
theorem upsert_noMarks {key : ρ → κ} (t : Table key noMarks) (r : ρ) (f : ρ → ρ)
    (hkey : ∀ r, key (f r) = key r) : ∃ t', t.upsert r f hkey = some t' := by
  unfold upsert
  by_cases hget : (t.get (key r)).isSome
  · have hpair : (t.rows.map fun x => if key x = key r then f x else x).Pairwise
        (fun x y => ∀ m ∈ noMarks x, m ∉ noMarks y) := by
      apply List.pairwise_of_forall
      intro x y m hm
      cases hm
    rw [if_pos hget,assign,dif_pos hpair]
    exact ⟨_,rfl⟩
  · rw [if_neg hget]
    exact insert_noMarks t (by simpa using hget)

end Writes

section Counts

variable {p q : ρ → Prop} [DecidablePred p] [DecidablePred q]

theorem count_eq_zero {t : Table key marks} : t.count p = 0 ↔ ∀ r ∈ t.rows, ¬ p r := by
  simp [count,List.countP_eq_zero]

theorem count_pos {t : Table key marks} : 0 < t.count p ↔ ∃ r ∈ t.rows, p r := by
  simp [count,List.countP_pos_iff]

theorem length_le_one_of_mark {l : List ρ} {m : ι}
    (hl : l.Pairwise fun r r' => List.Disjoint (marks r) (marks r'))
    (hm : ∀ r ∈ l, m ∈ marks r) : l.length ≤ 1 := by
  match l with
  | [] => simp
  | [_] => simp
  | a :: b :: l =>
    have hd := (List.pairwise_cons.mp hl).1 b (by simp)
    exact absurd (hm b (by simp)) (hd (hm a (by simp)))

/-- A statement whose condition fixes an entry of a unique index touches one row at most. -/
theorem count_le_one {t : Table key marks} {m : ι} (h : ∀ r, p r → m ∈ marks r) :
    t.count p ≤ 1 := by
  rw [count,List.countP_eq_length_filter]
  exact length_le_one_of_mark (t.unique.filter _)
    fun r hr => h r (by simpa using (List.mem_filter.mp hr).2)

/-- A statement whose condition fixes the primary key touches one row at most. -/
theorem count_key_le_one {t : Table key marks} {k : κ} (h : ∀ r, p r → key r = k) :
    t.count p ≤ 1 := by
  have hkeys : (t.rows.filter fun r => p r).map key = List.replicate (t.count p) k := by
    rw [List.eq_replicate_iff]
    refine ⟨by simp [count,List.countP_eq_length_filter],?_⟩
    intro b hb
    obtain ⟨r,hr,rfl⟩ := List.mem_map.mp hb
    exact h r (by simpa using (List.mem_filter.mp hr).2)
  have hnodup : (List.replicate (t.count p) k).Nodup := by
    rw [← hkeys]
    exact t.keys.sublist (List.filter_sublist.map key)
  exact List.nodup_replicate.mp hnodup

theorem update_eq_self {t : Table key marks} {f : ρ → ρ} {hkey : ∀ r, key (f r) = key r}
    {hmarks : ∀ r, marks (f r) ⊆ marks r} (h : ∀ r ∈ t.rows, ¬ p r) :
    t.update p f hkey hmarks = t := by
  have hrows : (t.update p f hkey hmarks).rows = t.rows := by
    rw [← List.map_id t.rows]
    exact List.map_congr_left fun r hr => by simp [h r (by simpa using hr)]
  cases t
  simpa [update] using hrows

theorem count_insert [DecidableEq κ] [DecidableEq ι] {t t' : Table key marks} {r : ρ}
    (h : t.insert r = some t') : t'.count p = t.count p + if p r then 1 else 0 := by
  obtain ⟨-,-,hrows⟩ := insert_eq_some h
  simp [count,hrows,List.countP_append]

/-- An update that brings no row under a condition does not raise its count. -/
theorem count_update_le {t : Table key marks} {f : ρ → ρ} {hkey : ∀ r, key (f r) = key r}
    {hmarks : ∀ r, marks (f r) ⊆ marks r} (h : ∀ r ∈ t.rows, q r → p (f r) → p r) :
    (t.update q f hkey hmarks).count p ≤ t.count p := by
  simp only [count,update,List.countP_map]
  apply List.countP_mono_left
  intro r hr hp
  by_cases hq : q r
  · simpa using h r hr hq (by simpa [hq] using hp)
  · simpa [hq] using hp

theorem count_assign_le [DecidableEq κ] [DecidableEq ι] {t t' : Table key marks} {k : κ}
    {f : ρ → ρ} {hkey : ∀ r, key (f r) = key r} (ht : t.assign k f hkey = some t')
    (h : ∀ r, t.get k = some r → p (f r) → p r) : t'.count p ≤ t.count p := by
  unfold assign at ht
  split at ht
  swap
  · cases ht
  · obtain rfl := Option.some.inj ht
    simp only [count,List.countP_map]
    apply List.countP_mono_left
    intro r hr hp
    by_cases hk : key r = k
    · simpa using h r (get_eq_some.mpr ⟨hr,hk⟩) (by simpa [hk] using hp)
    · simpa [hk] using hp

end Counts

section Origins

variable [DecidableEq κ] {t t' t'' : Table key marks} {R : ρ → ρ → Prop} {new p : ρ → Prop}

/-- Every row of `t'` comes from the row of `t` with its key along `R`, or is new. -/
def Derives (R : ρ → ρ → Prop) (new : ρ → Prop) (t t' : Table key marks) : Prop :=
  ∀ k r', t'.get k = some r' →
    (∃ r, t.get k = some r ∧ R r r') ∨ (t.get k = none ∧ new r')

theorem Derives.refl (hrefl : ∀ r, R r r) (t : Table key marks) : Derives R new t t :=
  fun _ r hr => Or.inl ⟨r,hr,hrefl r⟩

theorem Derives.update {q : ρ → Prop} [DecidablePred q] {f : ρ → ρ}
    (hkey : ∀ r, key (f r) = key r) (hmarks : ∀ r, marks (f r) ⊆ marks r)
    (hrefl : ∀ r, R r r) (h : ∀ r, q r → R r (f r)) :
    Derives R new t (t.update q f hkey hmarks) := by
  intro k r' hr'
  rw [get_update] at hr'
  obtain ⟨r,hr,rfl⟩ := Option.map_eq_some_iff.mp hr'
  refine Or.inl ⟨r,hr,?_⟩
  by_cases hq : q r
  · simpa [hq] using h r hq
  · simpa [hq] using hrefl r

theorem Derives.delete {q : ρ → Prop} [DecidablePred q] (hrefl : ∀ r, R r r) :
    Derives R new t (t.delete q) := by
  intro k r' hr'
  rw [get_delete] at hr'
  exact Or.inl ⟨r',(Option.filter_eq_some_iff.mp hr').1,hrefl r'⟩

theorem Derives.insert [DecidableEq ι] {r : ρ} (hrefl : ∀ r, R r r) (h : t.insert r = some t')
    (hnew : new r) : Derives R new t t' := by
  intro k r' hr'
  rw [get_insert h] at hr'
  by_cases hk : k = key r
  · rw [if_pos hk] at hr'
    cases hr'
    exact Or.inr ⟨hk ▸ (insert_eq_some h).1,hnew⟩
  · rw [if_neg hk] at hr'
    exact Or.inl ⟨r',hr',hrefl r'⟩

/-- No row is deleted. -/
def Keeps (t t' : Table key marks) : Prop := ∀ k, t'.get k = none → t.get k = none

theorem Keeps.refl (t : Table key marks) : Keeps t t := fun _ h => h

theorem Keeps.trans (h : Keeps t t') (h' : Keeps t' t'') : Keeps t t'' :=
  fun k hk => h k (h' k hk)

theorem Keeps.update {q : ρ → Prop} [DecidablePred q] {f : ρ → ρ}
    (hkey : ∀ r, key (f r) = key r) (hmarks : ∀ r, marks (f r) ⊆ marks r) :
    Keeps t (t.update q f hkey hmarks) := by
  intro k hk
  rw [get_update] at hk
  exact Option.map_eq_none_iff.mp hk

theorem Keeps.insert [DecidableEq ι] {r : ρ} (h : t.insert r = some t') : Keeps t t' := by
  intro k hk
  rw [get_insert h] at hk
  split at hk
  · cases hk
  · exact hk

/-- The first part loses no row and the second may add some. -/
theorem Derives.trans (htrans : ∀ r r' r'', R r r' → R r' r'' → R r r'')
    (hnew : ∀ r r', new r → R r r' → new r') (hkept : Keeps t t') (h : Derives R new t t') (h' : Derives R new t' t'') : Derives R new t t'' := by
  intro k r'' hr''
  rcases h' k r'' hr'' with ⟨r',hr',hmove⟩ | ⟨hnone,hn⟩
  · rcases h k r' hr' with ⟨r,hr,hfirst⟩ | ⟨hnone,hn⟩
    · exact Or.inl ⟨r,hr,htrans _ _ _ hfirst hmove⟩
    · exact Or.inr ⟨hnone,hnew _ _ hn hmove⟩
  · exact Or.inr ⟨hkept k hnone,hn⟩

/-- The second part only changes rows. -/
theorem Derives.changed (htrans : ∀ r r' r'', R r r' → R r' r'' → R r r'')
    (hnew : ∀ r r', new r → R r r' → new r') (h : Derives R new t t')
    (h' : Derives R (fun _ => False) t' t'') : Derives R new t t'' := by
  intro k r'' hr''
  rcases h' k r'' hr'' with ⟨r',hr',hmove⟩ | ⟨-,hn⟩
  · rcases h k r' hr' with ⟨r,hr,hfirst⟩ | ⟨hnone,hn⟩
    · exact Or.inl ⟨r,hr,htrans _ _ _ hfirst hmove⟩
    · exact Or.inr ⟨hnone,hnew _ _ hn hmove⟩
  · exact hn.elim

theorem Derives.mono {R' : ρ → ρ → Prop} {new' : ρ → Prop} (h : Derives R new t t')
    (hmove : ∀ r r', R r r' → R' r r') (hnew : ∀ r, new r → new' r) : Derives R' new' t t' := by
  intro k r' hr'
  rcases h k r' hr' with ⟨r,hr,hold⟩ | ⟨hnone,hn⟩
  · exact Or.inl ⟨r,hr,hmove r r' hold⟩
  · exact Or.inr ⟨hnone,hnew r' hn⟩

end Origins

end Table
end Anet
