import Anet.Table

/-! The rows of a table that satisfy a condition, as a table of their own: what a statement about
these rows reads and writes is the same in both. -/
namespace Anet

variable {κ ρ ι : Type*}

namespace Table

variable {key : ρ → κ} {marks : ρ → List ι}

/-- Tables with the same rows are the same. -/
theorem rows_inj {t t' : Table key marks} (h : t.rows = t'.rows) : t = t' := by
  cases t
  cases t'
  cases h
  rfl

variable (p : ρ → Prop) [DecidablePred p]

/-- The rows with `p`. -/
def only (t : Table key marks) : Table key marks where
  rows := t.rows.filter fun r => p r
  keys := t.keys.sublist (List.filter_sublist.map key)
  unique := t.unique.filter _

variable {p} {q : ρ → Prop} [DecidablePred q] {t t' : Table key marks} {r : ρ}

theorem find?_filter_imp {c d : ρ → Bool} (l : List ρ) (h : ∀ r, c r = true → d r = true) :
    (l.filter d).find? c = l.find? c := by
  rw [List.find?_filter]
  congr 1
  funext r
  cases hc : c r with
  | false => simp
  | true => simp [h r hc]

theorem get_only [DecidableEq κ] {k : κ} (h : ∀ r, key r = k → p r) :
    (t.only p).get k = t.get k :=
  find?_filter_imp _ fun r hr => by
    have hkey : key r = k := by simpa using hr
    simpa using h r hkey

theorem first_only (h : ∀ r, q r → p r) : (t.only p).first q = t.first q :=
  find?_filter_imp _ fun r hr => by
    have hq : q r := by simpa using hr
    simpa using h r hq

theorem select_only (h : ∀ r, q r → p r) : (t.only p).select q = t.select q := by
  unfold select only
  simp only
  rw [List.filter_filter]
  congr 1
  funext r
  by_cases hq : q r
  · simp [hq,h r hq]
  · simp [hq]

theorem filter_update {f : ρ → ρ} (l : List ρ) (hp : ∀ r, p (f r) ↔ p r) :
    (l.map fun r => if q r then f r else r).filter (fun r => p r) =
      (l.filter fun r => p r).map fun r => if q r then f r else r := by
  rw [List.filter_map]
  congr 2
  funext r
  by_cases hq : q r
  · simp [hq,hp]
  · simp [hq]

/-- An update that moves no row into or out of the view. -/
theorem only_update {f : ρ → ρ} (hkey : ∀ r, key (f r) = key r)
    (hmarks : ∀ r, marks (f r) ⊆ marks r) (hp : ∀ r, p (f r) ↔ p r) :
    (t.update q f hkey hmarks).only p = (t.only p).update q f hkey hmarks :=
  rows_inj (filter_update t.rows hp)

/-- An update of rows outside the view. -/
theorem only_update_other {f : ρ → ρ} (hkey : ∀ r, key (f r) = key r)
    (hmarks : ∀ r, marks (f r) ⊆ marks r) (hp : ∀ r, p (f r) ↔ p r)
    (h : ∀ r ∈ t.rows, q r → ¬ p r) :
    (t.update q f hkey hmarks).only p = t.only p := by
  refine rows_inj ((filter_update t.rows hp).trans ?_)
  have hsame : ∀ r ∈ t.rows.filter fun r => p r, (if q r then f r else r) = id r := by
    intro r hr
    have hpr : p r := by simpa using (List.mem_filter.mp hr).2
    exact if_neg fun hq => h r (List.mem_of_mem_filter hr) hq hpr
  exact (List.map_congr_left hsame).trans (List.map_id _)

section Writes

variable [DecidableEq κ] [DecidableEq ι]

/-- An insertion into the view, which no row outside it can refuse. -/
theorem insert_only (hr : p r) (hkey : ∀ r', key r' = key r → p r')
    (hmarks : ∀ r', ∀ m ∈ marks r', m ∈ marks r → p r') :
    (t.only p).insert r = (t.insert r).map fun t => t.only p := by
  by_cases h : (∀ r' ∈ t.rows, key r' ≠ key r) ∧ ∀ r' ∈ t.rows, ∀ m ∈ marks r', m ∉ marks r
  · have hview : (∀ r' ∈ (t.only p).rows, key r' ≠ key r) ∧
        ∀ r' ∈ (t.only p).rows, ∀ m ∈ marks r', m ∉ marks r :=
      ⟨fun r' hr' => h.1 r' (List.mem_of_mem_filter hr'),
        fun r' hr' => h.2 r' (List.mem_of_mem_filter hr')⟩
    unfold insert
    rw [dif_pos h,dif_pos hview]
    refine congrArg some (rows_inj ?_)
    simp [only,hr]
  · have hview : ¬ ((∀ r' ∈ (t.only p).rows, key r' ≠ key r) ∧
        ∀ r' ∈ (t.only p).rows, ∀ m ∈ marks r', m ∉ marks r) := by
      rintro ⟨hkeys,hindex⟩
      refine h ⟨fun r' hr' heq => ?_,fun r' hr' m hm hmr => ?_⟩
      · exact hkeys r' (List.mem_filter.mpr ⟨hr',by simpa using hkey r' heq⟩) heq
      · exact hindex r' (List.mem_filter.mpr ⟨hr',by simpa using hmarks r' m hm hmr⟩) m hm hmr
    unfold insert
    rw [dif_neg h,dif_neg hview]
    rfl

/-- An insertion outside the view. -/
theorem only_insert (hr : ¬ p r) (h : t.insert r = some t') : t'.only p = t.only p := by
  obtain ⟨-,-,hrows⟩ := insert_eq_some h
  apply rows_inj
  simp [only,hrows,hr]

theorem only_insertOrIgnore (hr : ¬ p r) : (t.insertOrIgnore r).only p = t.only p := by
  rcases insertOrIgnore_cases t r with h | h
  · rw [h]
  · exact only_insert hr h

end Writes

end Table
end Anet
