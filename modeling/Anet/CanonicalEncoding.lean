import Anet.MsgPack
import Mathlib.Data.List.Sort

/-! What the canonical encoding binds. The order of map entries does not reach the bytes, and the
bytes determine the entries with their keys as text, as long as no two keys of a map have the same
text; where two do, one of the entries is dropped. -/
namespace Anet

section Nested

variable {P : Value → Prop}
  (scalar : ∀ v : Value, (∀ vs, v ≠ .list vs) → (∀ es, v ≠ .map es) → P v)
  (list : ∀ vs, (∀ v ∈ vs, P v) → P (.list vs))
  (map : ∀ es : List (Value × Value), (∀ e ∈ es, P e.2) → P (.map es))

include scalar list map

mutual

theorem Value.nestedValue (v : Value) : P v := by
  match v with
  | .list vs => exact list vs (Value.nestedItems vs)
  | .map es => exact map es (Value.nestedEntries es)
  | .nil | .bool _ | .int _ | .float _ | .str _ | .bin _ =>
    exact scalar _ (fun _ h => by cases h) fun _ h => by cases h

theorem Value.nestedItems (vs : List Value) : ∀ v ∈ vs, P v := by
  match vs with
  | [] => exact fun _ h => by cases h
  | v :: vs =>
    intro w hw
    rcases List.mem_cons.mp hw with heq | hw
    · exact heq ▸ Value.nestedValue v
    · exact Value.nestedItems vs w hw

theorem Value.nestedEntries (es : List (Value × Value)) : ∀ e ∈ es, P e.2 := by
  match es with
  | [] => exact fun _ h => by cases h
  | (k,v) :: es =>
    intro e he
    rcases List.mem_cons.mp he with heq | he
    · exact heq ▸ Value.nestedValue v
    · exact Value.nestedEntries es e he

end

end Nested

/-- Induction over the items of lists and the values of maps. -/
@[elab_as_elim]
theorem Value.nested {P : Value → Prop} (v : Value)
    (scalar : ∀ v : Value, (∀ vs, v ≠ .list vs) → (∀ es, v ≠ .map es) → P v)
    (list : ∀ vs, (∀ v ∈ vs, P v) → P (.list vs))
    (map : ∀ es : List (Value × Value), (∀ e ∈ es, P e.2) → P (.map es)) : P v :=
  Value.nestedValue scalar list map v

section Keys

mutual

/-- Keys are strings, and no map has one of them twice. -/
def Value.keyed : Value → Prop
  | .map entries => (entries.map Prod.fst).Nodup ∧ entriesKeyed entries
  | .list items => itemsKeyed items
  | _ => True

def itemsKeyed : List Value → Prop
  | [] => True
  | v :: vs => v.keyed ∧ itemsKeyed vs

def entriesKeyed : List (Value × Value) → Prop
  | [] => True
  | (k,v) :: es => (∃ s, k = .str s) ∧ v.keyed ∧ entriesKeyed es

end

theorem itemsKeyed_iff (vs : List Value) : itemsKeyed vs ↔ ∀ v ∈ vs, v.keyed := by
  induction vs with
  | nil => simp [itemsKeyed]
  | cons v vs ih => simp [itemsKeyed,ih]

theorem entriesKeyed_iff (es : List (Value × Value)) :
    entriesKeyed es ↔ ∀ e ∈ es, (∃ s, e.1 = .str s) ∧ e.2.keyed := by
  induction es with
  | nil => simp [entriesKeyed]
  | cons e es ih =>
    obtain ⟨k,v⟩ := e
    simp [entriesKeyed,ih,and_assoc]

theorem keyed_map {es : List (Value × Value)} : (Value.map es).keyed ↔
    (es.map Prod.fst).Nodup ∧ ∀ e ∈ es, (∃ s, e.1 = .str s) ∧ e.2.keyed := by
  rw [Value.keyed,entriesKeyed_iff]

theorem keyed_list {vs : List Value} : (Value.list vs).keyed ↔ ∀ v ∈ vs, v.keyed := by
  rw [Value.keyed,itemsKeyed_iff]

end Keys

section Unfolded

variable {rt : Runtime}

theorem canonicalItems_eq (vs : List Value) :
    canonicalItems rt vs = vs.map (Value.canonical rt) := by
  induction vs with
  | nil => rfl
  | cons v vs ih => rw [canonicalItems,ih,List.map_cons]

theorem canonicalEntries_eq (es : List (Value × Value)) :
    canonicalEntries rt es = es.map fun e => (rt.str e.1,e.2.canonical rt) := by
  induction es with
  | nil => rfl
  | cons e es ih =>
    obtain ⟨k,v⟩ := e
    rw [canonicalEntries,ih,List.map_cons]

theorem canonical_map (es : List (Value × Value)) : (Value.map es).canonical rt =
    .map (lastEntries ((canonicalEntries rt es).insertionSort fun a b => a.1 ≤ b.1)) := by
  rw [Value.canonical]

theorem canonical_list (vs : List Value) :
    (Value.list vs).canonical rt = .list (vs.map (Value.canonical rt)) := by
  rw [Value.canonical,canonicalItems_eq]

end Unfolded

/-- The same value with the entries of its maps in another order. -/
inductive Value.Reordered : Value → Value → Prop
  | refl (v : Value) : Reordered v v
  | symm {v w : Value} (h : Reordered v w) : Reordered w v
  | trans {u v w : Value} (h : Reordered u v) (h' : Reordered v w) : Reordered u w
  | swap (es : List (Value × Value)) (e e' : Value × Value) (es' : List (Value × Value)) :
      Reordered (.map (es ++ e :: e' :: es')) (.map (es ++ e' :: e :: es'))
  | entry (es : List (Value × Value)) (k : Value) {v w : Value} (es' : List (Value × Value))
      (h : Reordered v w) : Reordered (.map (es ++ (k,v) :: es')) (.map (es ++ (k,w) :: es'))
  | item (vs : List Value) {v w : Value} (vs' : List Value) (h : Reordered v w) :
      Reordered (.list (vs ++ v :: vs')) (.list (vs ++ w :: vs'))

namespace Value.Reordered

theorem of_perm {es es' : List (Value × Value)} (h : es.Perm es') (before : List (Value × Value)) :
    Reordered (.map (before ++ es)) (.map (before ++ es')) := by
  induction h generalizing before with
  | nil => exact refl _
  | cons e _ ih =>
    have hstep := ih (before ++ [e])
    simpa only [List.append_assoc,List.singleton_append] using hstep
  | swap e e' es => exact swap before e' e es
  | trans _ _ ih ih' => exact trans (ih before) (ih' before)

/-- Entry by entry. -/
theorem of_entries {es : List (Value × Value)} {f : Value → Value}
    (h : ∀ e ∈ es, Reordered e.2 (f e.2)) (before : List (Value × Value)) :
    Reordered (.map (before ++ es)) (.map (before ++ es.map fun e => (e.1,f e.2))) := by
  induction es generalizing before with
  | nil => exact refl _
  | cons e es ih =>
    have hhead := entry before e.1 es (h e (List.mem_cons_self ..))
    have htail := ih (fun x hx => h x (List.mem_cons_of_mem _ hx)) (before ++ [(e.1,f e.2)])
    simp only [List.append_assoc,List.singleton_append] at htail
    exact trans hhead htail

theorem of_items {vs : List Value} {f : Value → Value} (h : ∀ v ∈ vs, Reordered v (f v))
    (before : List Value) : Reordered (.list (before ++ vs)) (.list (before ++ vs.map f)) := by
  induction vs generalizing before with
  | nil => exact refl _
  | cons v vs ih =>
    have hhead := item before vs (h v (List.mem_cons_self ..))
    have htail := ih (fun x hx => h x (List.mem_cons_of_mem _ hx)) (before ++ [f v])
    simp only [List.append_assoc,List.singleton_append] at htail
    exact trans hhead htail

/-- Keys stay apart in another order. -/
theorem keyed_iff {v w : Value} (h : Reordered v w) : v.keyed ↔ w.keyed := by
  induction h with
  | refl v => exact Iff.rfl
  | symm _ ih => exact ih.symm
  | trans _ _ ih ih' => exact ih.trans ih'
  | swap es e e' es' =>
    have hperm : (es ++ e :: e' :: es').Perm (es ++ e' :: e :: es') :=
      (List.Perm.swap e' e es').append_left es
    rw [keyed_map,keyed_map,(hperm.map Prod.fst).nodup_iff]
    simp only [hperm.mem_iff]
  | entry es k es' _ ih =>
    simp only [keyed_map,List.map_append,List.map_cons,List.mem_append,List.mem_cons]
    refine and_congr_right fun _ => ⟨fun h e he => ?_,fun h e he => ?_⟩
    · rcases he with he | rfl | he
      · exact h e (.inl he)
      · exact ⟨(h _ (.inr (.inl rfl))).1,ih.mp (h _ (.inr (.inl rfl))).2⟩
      · exact h e (.inr (.inr he))
    · rcases he with he | rfl | he
      · exact h e (.inl he)
      · exact ⟨(h _ (.inr (.inl rfl))).1,ih.mpr (h _ (.inr (.inl rfl))).2⟩
      · exact h e (.inr (.inr he))
  | item vs vs' _ ih =>
    simp only [keyed_list,List.mem_append,List.mem_cons,or_imp,forall_and,forall_eq,ih]

end Value.Reordered

section Canonical

variable {rt : Runtime}

/-- Entries of different keys all stay. -/
theorem lastEntries_nodup {es : List (String × Value)} (h : (es.map Prod.fst).Nodup) :
    lastEntries es = es.map fun e => (.str e.1,e.2) := by
  induction es with
  | nil => rfl
  | cons e es ih =>
    rw [List.map_cons,List.nodup_cons] at h
    have hany : es.any (fun e' => e'.1 = e.1) = false := by
      rw [List.any_eq_false]
      intro x hx
      have hne : x.1 ≠ e.1 := fun heq => h.1 (heq ▸ List.mem_map_of_mem hx)
      simpa using hne
    rw [lastEntries,hany,if_neg (by decide),ih h.2,List.map_cons]

theorem mem_lastEntries {es : List (String × Value)} {e : Value × Value}
    (h : e ∈ lastEntries es) : ∃ x ∈ es, e = (.str x.1,x.2) := by
  induction es with
  | nil => cases h
  | cons x es ih =>
    rw [lastEntries] at h
    split at h
    · obtain ⟨y,hy,he⟩ := ih h
      exact ⟨y,List.mem_cons_of_mem _ hy,he⟩
    · rcases List.mem_cons.mp h with rfl | h
      · exact ⟨x,List.mem_cons_self ..,rfl⟩
      · obtain ⟨y,hy,he⟩ := ih h
        exact ⟨y,List.mem_cons_of_mem _ hy,he⟩

theorem nodup_lastEntries (es : List (String × Value)) :
    ((lastEntries es).map Prod.fst).Nodup := by
  induction es with
  | nil => exact List.nodup_nil
  | cons e es ih =>
    rw [lastEntries]
    split
    · exact ih
    · next hany =>
      rw [List.map_cons,List.nodup_cons]
      refine ⟨fun hmem => hany ?_,ih⟩
      obtain ⟨x,hx,hkey⟩ := List.mem_map.mp hmem
      obtain ⟨y,hy,rfl⟩ := mem_lastEntries hx
      exact List.any_eq_true.mpr ⟨y,hy,by simpa using hkey⟩

theorem canonicalKeys_nodup (hstr : ∀ s, rt.str (.str s) = s) {es : List (Value × Value)}
    (h : (es.map Prod.fst).Nodup ∧ ∀ e ∈ es, (∃ s, e.1 = .str s) ∧ e.2.keyed) :
    ((canonicalEntries rt es).map Prod.fst).Nodup := by
  rw [canonicalEntries_eq,List.map_map]
  refine List.Nodup.map_on ?_ (List.Nodup.of_map _ h.1)
  intro x hx y hy heq
  obtain ⟨⟨s,hs⟩,-⟩ := h.2 x hx
  obtain ⟨⟨s',hs'⟩,-⟩ := h.2 y hy
  simp only [Function.comp,hs,hs',hstr] at heq
  exact List.inj_on_of_nodup_map h.1 hx hy (by rw [hs,hs',heq])

/-- The canonical form has its keys apart. -/
theorem canonical_keyed (v : Value) : (v.canonical rt).keyed := by
  induction v using Value.nested with
  | scalar v hlist hmap =>
    cases v with
    | list vs => exact absurd rfl (hlist vs)
    | map es => exact absurd rfl (hmap es)
    | _ => simp only [Value.canonical,Value.keyed]
  | list vs ih =>
    rw [canonical_list,keyed_list]
    intro w hw
    obtain ⟨v,hv,rfl⟩ := List.mem_map.mp hw
    exact ih v hv
  | map es ih =>
    rw [canonical_map,keyed_map]
    refine ⟨nodup_lastEntries _,fun e he => ?_⟩
    obtain ⟨x,hx,rfl⟩ := mem_lastEntries he
    rw [List.mem_insertionSort,canonicalEntries_eq] at hx
    obtain ⟨e,hmem,rfl⟩ := List.mem_map.mp hx
    exact ⟨⟨_,rfl⟩,ih e hmem⟩

/-- The canonical form of a value with its keys apart is the value in another order. -/
theorem canonical_reordered (rt : Runtime) (hstr : ∀ s, rt.str (.str s) = s) (v : Value) (h : v.keyed) :
    v.Reordered (v.canonical rt) := by
  induction v using Value.nested with
  | scalar v hlist hmap =>
    cases v with
    | list vs => exact absurd rfl (hlist vs)
    | map es => exact absurd rfl (hmap es)
    | _ =>
      simp only [Value.canonical]
      exact .refl _
  | list vs ih =>
    rw [keyed_list] at h
    rw [canonical_list]
    exact .of_items (fun v hv => ih v hv (h v hv)) []
  | map es ih =>
    rw [keyed_map] at h
    have hvalues : (Value.map es).Reordered (.map (es.map fun e => (e.1,e.2.canonical rt))) :=
      .of_entries (fun e he => ih e he (h.2 e he).2) []
    have htexts : es.map (fun e => (e.1,e.2.canonical rt)) =
        (canonicalEntries rt es).map fun e => (.str e.1,e.2) := by
      rw [canonicalEntries_eq,List.map_map]
      refine List.map_congr_left fun e he => ?_
      obtain ⟨⟨s,hs⟩,-⟩ := h.2 e he
      rw [Function.comp,hs,hstr]
    have hsorted := List.perm_insertionSort (fun a b : String × Value => a.1 ≤ b.1)
      (canonicalEntries rt es)
    have hnodup : ((canonicalEntries rt es).map Prod.fst).Nodup := canonicalKeys_nodup hstr h
    rw [canonical_map,lastEntries_nodup ((hsorted.map Prod.fst).nodup_iff.mpr hnodup)]
    rw [htexts] at hvalues
    exact hvalues.trans (.of_perm (hsorted.symm.map _) [])

/-- The order of the entries does not reach the canonical form. -/
theorem canonical_eq_of_reordered (rt : Runtime) (hstr : ∀ s, rt.str (.str s) = s) {v w : Value}
    (h : v.Reordered w) (hv : v.keyed) : v.canonical rt = w.canonical rt := by
  induction h with
  | refl v => rfl
  | symm h ih => exact (ih (h.keyed_iff.mpr hv)).symm
  | trans h _ ih ih' => exact (ih hv).trans (ih' (h.keyed_iff.mp hv))
  | swap es e e' es' =>
    have hperm : (es ++ e :: e' :: es').Perm (es ++ e' :: e :: es') :=
      (List.Perm.swap e' e es').append_left es
    have hnodup := canonicalKeys_nodup hstr (keyed_map.mp hv)
    rw [canonical_map,canonical_map]
    congr 1
    refine congrArg lastEntries (List.Perm.eq_of_pairwise ?_ (List.pairwise_insertionSort _ _)
      (List.pairwise_insertionSort _ _) ?_)
    · intro a b ha hb hab hba
      have ha' := (List.mem_insertionSort _).mp ha
      have hb' := (List.mem_insertionSort _).mp hb
      rw [canonicalEntries_eq,← (hperm.map _).mem_iff,← canonicalEntries_eq] at hb'
      exact List.inj_on_of_nodup_map hnodup ha' hb' (String.le_antisymm hab hba)
    · refine (List.perm_insertionSort _ _).trans (.trans ?_ (List.perm_insertionSort _ _).symm)
      rw [canonicalEntries_eq,canonicalEntries_eq]
      exact hperm.map _
  | entry es k es' _ ih =>
    have hvalue := (keyed_map.mp hv).2 (k,_) (List.mem_append_right _ (List.mem_cons_self ..))
    simp only [Value.canonical,canonicalEntries_eq,List.map_append,List.map_cons,ih hvalue.2]
  | item vs vs' _ ih =>
    have hvalue := keyed_list.mp hv _ (List.mem_append_right _ (List.mem_cons_self ..))
    simp only [Value.canonical,canonicalItems_eq,List.map_append,List.map_cons,ih hvalue]

end Canonical

/-- What `_canonical` is given; `other` is a value of a type it does not take. -/
inductive Object
  | none | bool (b : Bool) | int (i : ℤ) | float (bits : UInt64) | str (s : String)
  | bytes (b : Bytes) | bytearray (b : Bytes) | list (items : List Object)
  | tuple (items : List Object) | dict (entries : List (Object × Object)) | other (type : String)

/-- All the results, or the first error among them. -/
def sequenceEntries : List (String × Result Value) → Result (List (String × Value))
  | [] => .ok []
  | (k,r) :: rest => do
    let v ← r
    let es ← sequenceEntries rest
    return (k,v) :: es

namespace Object

variable (text : Object → String)

mutual

/-- `_canonical`; `text` is `str`. -/
def canonical : Object → Result Value
  | .dict entries => do
    let es ← sequenceEntries ((canonicalEntries entries).insertionSort fun a b => a.1 ≤ b.1)
    return .map (lastEntries es)
  | .list items => do return .list (← canonicalItems items)
  | .tuple items => do return .list (← canonicalItems items)
  | .bytearray b => .ok (.bin b)
  | .none => .ok .nil
  | .str s => .ok (.str s)
  | .bytes b => .ok (.bin b)
  | .bool b => .ok (.bool b)
  | .int i => .ok (.int i)
  | .float bits => .ok (.float bits)
  | .other type => .error (.type s!"unsupported canonical value: {type}")

def canonicalItems : List Object → Result (List Value)
  | [] => .ok []
  | o :: os => do
    let v ← canonical o
    let vs ← canonicalItems os
    return v :: vs

def canonicalEntries : List (Object × Object) → List (String × Result Value)
  | [] => []
  | (k,o) :: es => (text k,canonical o) :: canonicalEntries es

end

/-- `canonical_pack`. -/
def canonicalPack (rt : Runtime) (o : Object) : Result Bytes := do
  let v ← o.canonical text
  rt.packb v

mutual

/-- The value with keys as text, tuples as lists and bytearrays as bytes, every entry kept. -/
def plain : Object → Value
  | .none => .nil
  | .bool b => .bool b
  | .int i => .int i
  | .float bits => .float bits
  | .str s => .str s
  | .bytes b => .bin b
  | .bytearray b => .bin b
  | .list items => .list (plainItems items)
  | .tuple items => .list (plainItems items)
  | .dict entries => .map (plainEntries entries)
  | .other _ => .nil

def plainItems : List Object → List Value
  | [] => []
  | o :: os => plain o :: plainItems os

def plainEntries : List (Object × Object) → List (Value × Value)
  | [] => []
  | (k,o) :: es => (.str (text k),plain o) :: plainEntries es

end

mutual

/-- No map has two keys of one text. -/
def Distinct : Object → Prop
  | .list items => DistinctItems items
  | .tuple items => DistinctItems items
  | .dict entries => (entries.map fun e => text e.1).Nodup ∧ DistinctEntries entries
  | _ => True

def DistinctItems : List Object → Prop
  | [] => True
  | o :: os => Distinct o ∧ DistinctItems os

def DistinctEntries : List (Object × Object) → Prop
  | [] => True
  | (_,o) :: es => Distinct o ∧ DistinctEntries es

end

/-- The canonical form has every entry of the value. -/
def Kept (o : Object) : Prop := ∃ v, o.canonical text = .ok v ∧ v.Reordered (o.plain text)

section Nested

variable {P : Object → Prop} (scalar : ∀ o : Object, (∀ os, o ≠ .list os) →
    (∀ os, o ≠ .tuple os) → (∀ es, o ≠ .dict es) → P o)
  (list : ∀ os, (∀ o ∈ os, P o) → P (.list os)) (tuple : ∀ os, (∀ o ∈ os, P o) → P (.tuple os))
  (dict : ∀ es : List (Object × Object), (∀ e ∈ es, P e.2) → P (.dict es))

include scalar list tuple dict

mutual

theorem nestedObject (o : Object) : P o := by
  match o with
  | .list os => exact list os (nestedItems os)
  | .tuple os => exact tuple os (nestedItems os)
  | .dict es => exact dict es (nestedEntries es)
  | .none | .bool _ | .int _ | .float _ | .str _ | .bytes _ | .bytearray _ | .other _ =>
    exact scalar _ (fun _ h => by cases h) (fun _ h => by cases h) fun _ h => by cases h

theorem nestedItems (os : List Object) : ∀ o ∈ os, P o := by
  match os with
  | [] => exact fun _ h => by cases h
  | o :: os =>
    intro p hp
    rcases List.mem_cons.mp hp with heq | hp
    · exact heq ▸ nestedObject o
    · exact nestedItems os p hp

theorem nestedEntries (es : List (Object × Object)) : ∀ e ∈ es, P e.2 := by
  match es with
  | [] => exact fun _ h => by cases h
  | (k,o) :: es =>
    intro e he
    rcases List.mem_cons.mp he with heq | he
    · exact heq ▸ nestedObject o
    · exact nestedEntries es e he

end

end Nested

/-- Induction over the members of lists and tuples and the values of dictionaries. -/
@[elab_as_elim]
theorem nested {P : Object → Prop} (o : Object) (scalar : ∀ o : Object, (∀ os, o ≠ .list os) →
    (∀ os, o ≠ .tuple os) → (∀ es, o ≠ .dict es) → P o)
    (list : ∀ os, (∀ o ∈ os, P o) → P (.list os)) (tuple : ∀ os, (∀ o ∈ os, P o) → P (.tuple os))
    (dict : ∀ es : List (Object × Object), (∀ e ∈ es, P e.2) → P (.dict es)) : P o :=
  nestedObject scalar list tuple dict o

variable {text : Object → String}

section Forms

theorem canonicalEntries_map (es : List (Object × Object)) :
    canonicalEntries text es = es.map fun e => (text e.1,e.2.canonical text) := by
  induction es with
  | nil => rfl
  | cons e es ih =>
    obtain ⟨k,o⟩ := e
    rw [canonicalEntries,ih,List.map_cons]

theorem plainEntries_map (es : List (Object × Object)) :
    plainEntries text es = es.map fun e => (.str (text e.1),e.2.plain text) := by
  induction es with
  | nil => rfl
  | cons e es ih =>
    obtain ⟨k,o⟩ := e
    rw [plainEntries,ih,List.map_cons]

theorem plainItems_map (os : List Object) : plainItems text os = os.map (plain text) := by
  induction os with
  | nil => rfl
  | cons o os ih => rw [plainItems,ih,List.map_cons]

theorem canonicalItems_ok {os : List Object} {vs : List Value} :
    canonicalItems text os = .ok vs ↔ os.map (canonical text) = vs.map .ok := by
  induction os generalizing vs with
  | nil => cases vs <;> simp [canonicalItems]
  | cons o os ih =>
    rw [canonicalItems,List.map_cons]
    simp only [bind_ok,ih]
    constructor
    · rintro ⟨v,hv,vs',hvs,h⟩
      cases h
      rw [hv,hvs,List.map_cons]
    · intro h
      cases vs with
      | nil => cases h
      | cons v vs =>
        obtain ⟨hv,hvs⟩ := List.cons.inj h
        exact ⟨v,hv,vs,hvs,rfl⟩

theorem sequenceEntries_ok {l : List (String × Result Value)} {r : List (String × Value)} :
    sequenceEntries l = .ok r ↔ l = r.map fun e => (e.1,.ok e.2) := by
  induction l generalizing r with
  | nil => cases r <;> simp [sequenceEntries]
  | cons e l ih =>
    obtain ⟨k,x⟩ := e
    rw [sequenceEntries]
    simp only [bind_ok,ih]
    constructor
    · rintro ⟨v,rfl,r',rfl,h⟩
      cases h
      rfl
    · intro h
      cases r with
      | nil => cases h
      | cons e r =>
        obtain ⟨he,hl⟩ := List.cons.inj h
        obtain ⟨hk,hx⟩ := Prod.mk.inj he
        exact ⟨e.2,hx,r,hl,by rw [hk]; rfl⟩

/-- A runtime whose `str` leaves strings as they are. -/
def textRuntime : Runtime := .plain fun _ => .error .integrity

/-- `_canonical` takes the value. -/
def Accepted (text : Object → String) (o : Object) : Prop := ∃ v, o.canonical text = .ok v

theorem canonical_dict {es : List (Object × Object)} {f : Object → Value}
    (h : ∀ e ∈ es, e.2.canonical text = .ok (f e.2)) : (Object.dict es).canonical text =
      .ok (.map (lastEntries ((es.map fun e => (text e.1,f e.2)).insertionSort
        fun a b => a.1 ≤ b.1))) := by
  have hentries : canonicalEntries text es =
      (es.map fun e => (text e.1,f e.2)).map fun e => (e.1,.ok e.2) := by
    rw [canonicalEntries_map,List.map_map]
    exact List.map_congr_left fun e he => by rw [h e he]; rfl
  rw [canonical]
  refine bind_ok.mpr ⟨_,sequenceEntries_ok.mpr ?_,rfl⟩
  rw [hentries]
  exact (List.map_insertionSort (fun a b : String × Value => a.1 ≤ b.1)
    (fun a b : String × Result Value => a.1 ≤ b.1) (fun e => (e.1,.ok e.2)) _
      fun _ _ _ _ => Iff.rfl).symm

theorem accepted_dict {es : List (Object × Object)} :
    Accepted text (.dict es) ↔ ∀ e ∈ es, Accepted text e.2 := by
  constructor
  · rintro ⟨v,h⟩ e he
    rw [canonical] at h
    obtain ⟨r,hr,-⟩ := bind_ok.mp h
    rw [sequenceEntries_ok] at hr
    have hmem : (text e.1,e.2.canonical text) ∈ r.map fun e => (e.1,Except.ok e.2) := by
      rw [← hr,List.mem_insertionSort,canonicalEntries_map]
      exact List.mem_map.mpr ⟨e,he,rfl⟩
    obtain ⟨x,-,hx⟩ := List.mem_map.mp hmem
    exact ⟨x.2,(Prod.mk.inj hx).2.symm⟩
  · intro h
    have hvalue : ∀ e ∈ es, e.2.canonical text = .ok ((e.2.canonical text).toOption.getD .nil) := by
      intro e he
      obtain ⟨v,hv⟩ := h e he
      rw [hv]
      rfl
    exact ⟨_,canonical_dict (f := fun o => (o.canonical text).toOption.getD .nil) hvalue⟩

theorem acceptedItems {os : List Object} :
    (∃ vs, canonicalItems text os = .ok vs) ↔ ∀ o ∈ os, Accepted text o := by
  simp only [canonicalItems_ok]
  constructor
  · rintro ⟨vs,h⟩ o ho
    have hmem : o.canonical text ∈ vs.map Except.ok := h ▸ List.mem_map_of_mem ho
    obtain ⟨v,-,hv⟩ := List.mem_map.mp hmem
    exact ⟨v,hv.symm⟩
  · intro h
    refine ⟨os.map fun o => (o.canonical text).toOption.getD .nil,?_⟩
    rw [List.map_map]
    refine List.map_congr_left fun o ho => ?_
    obtain ⟨v,hv⟩ := h o ho
    rw [Function.comp,hv]
    rfl

/-- The same value with the entries of its dictionaries in another order. -/
inductive Reordered : Object → Object → Prop
  | refl (o : Object) : Reordered o o
  | symm {o p : Object} (h : Reordered o p) : Reordered p o
  | trans {o p q : Object} (h : Reordered o p) (h' : Reordered p q) : Reordered o q
  | swap (es : List (Object × Object)) (e e' : Object × Object) (es' : List (Object × Object)) :
      Reordered (.dict (es ++ e :: e' :: es')) (.dict (es ++ e' :: e :: es'))
  | entry (es : List (Object × Object)) (k : Object) {o p : Object} (es' : List (Object × Object))
      (h : Reordered o p) : Reordered (.dict (es ++ (k,o) :: es')) (.dict (es ++ (k,p) :: es'))
  | item (os : List Object) {o p : Object} (os' : List Object) (h : Reordered o p) :
      Reordered (.list (os ++ o :: os')) (.list (os ++ p :: os'))
  | member (os : List Object) {o p : Object} (os' : List Object) (h : Reordered o p) :
      Reordered (.tuple (os ++ o :: os')) (.tuple (os ++ p :: os'))

theorem accepted_list {os : List Object} :
    Accepted text (.list os) ↔ ∀ o ∈ os, Accepted text o := by
  rw [← acceptedItems]
  constructor
  · rintro ⟨v,h⟩
    rw [canonical] at h
    obtain ⟨vs,hvs,-⟩ := bind_ok.mp h
    exact ⟨vs,hvs⟩
  · rintro ⟨vs,hvs⟩
    exact ⟨.list vs,by rw [canonical,hvs]; rfl⟩

theorem canonical_tuple (os : List Object) :
    (Object.tuple os).canonical text = (Object.list os).canonical text := by
  rw [canonical,canonical]

theorem plain_tuple (os : List Object) :
    (Object.tuple os).plain text = (Object.list os).plain text := by
  rw [plain,plain]

theorem canonical_list_plain {os : List Object} (ih : ∀ o ∈ os, ∀ {v : Value},
    o.canonical text = .ok v → v = (o.plain text).canonical textRuntime) {v : Value}
    (h : (Object.list os).canonical text = .ok v) :
    v = ((Object.list os).plain text).canonical textRuntime := by
  rw [canonical] at h
  obtain ⟨vs,hvs,h⟩ := bind_ok.mp h
  cases h
  rw [canonicalItems_ok] at hvs
  rw [plain,Value.canonical,canonicalItems_eq,plainItems_map,List.map_map]
  congr 1
  have hsame : (os.map (canonical text)) =
      (os.map (Value.canonical textRuntime ∘ plain text)).map Except.ok := by
    rw [List.map_map]
    refine List.map_congr_left fun o ho => ?_
    have hmem : o.canonical text ∈ vs.map Except.ok := hvs ▸ List.mem_map_of_mem ho
    obtain ⟨v,-,hv⟩ := List.mem_map.mp hmem
    rw [← hv,ih o ho hv.symm]
    rfl
  exact List.map_injective_iff.mpr (fun _ _ h => Except.ok.inj h) (hvs.symm.trans hsame)

/-- What is accepted has the canonical form of its plain value. -/
theorem canonical_plain (o : Object) {v : Value} (h : o.canonical text = .ok v) :
    v = (o.plain text).canonical textRuntime := by
  induction o using nested generalizing v with
  | scalar o hlist htuple hdict =>
    cases o with
    | list os => exact absurd rfl (hlist os)
    | tuple os => exact absurd rfl (htuple os)
    | dict es => exact absurd rfl (hdict es)
    | other type =>
      rw [canonical] at h
      cases h
    | _ =>
      rw [canonical] at h
      cases h
      simp only [plain,Value.canonical]
  | list os ih => exact canonical_list_plain ih h
  | tuple os ih =>
    rw [canonical_tuple] at h
    rw [plain_tuple]
    exact canonical_list_plain ih h
  | dict es ih =>
    have hvalues : ∀ e ∈ es, e.2.canonical text =
        .ok ((e.2.plain text).canonical textRuntime) := by
      intro e he
      obtain ⟨w,hw⟩ := accepted_dict.mp ⟨v,h⟩ e he
      rw [hw,ih e he hw]
    rw [canonical_dict (f := fun o => (o.plain text).canonical textRuntime) hvalues] at h
    cases h
    rw [plain,Value.canonical,canonicalEntries_eq,plainEntries_map,List.map_map]
    rfl

end Forms

/-- Another order of the entries is accepted as well. -/
theorem Reordered.accepted_iff {o p : Object} (h : o.Reordered p) :
    Accepted text o ↔ Accepted text p := by
  induction h with
  | refl o => exact Iff.rfl
  | symm _ ih => exact ih.symm
  | trans _ _ ih ih' => exact ih.trans ih'
  | swap es e e' es' =>
    have hperm : (es ++ e :: e' :: es').Perm (es ++ e' :: e :: es') :=
      (List.Perm.swap e' e es').append_left es
    simp only [accepted_dict,hperm.mem_iff]
  | entry es k es' _ ih =>
    simp only [accepted_dict,List.mem_append,List.mem_cons,or_imp,forall_and,forall_eq,ih]
  | item os os' _ ih =>
    simp only [accepted_list,List.mem_append,List.mem_cons,or_imp,forall_and,forall_eq,ih]
  | member os os' _ ih =>
    simp only [Accepted,canonical_tuple]
    change Accepted text (.list _) ↔ Accepted text (.list _)
    simp only [accepted_list,List.mem_append,List.mem_cons,or_imp,forall_and,forall_eq,ih]

theorem Reordered.plain {o p : Object} (h : o.Reordered p) :
    (o.plain text).Reordered (p.plain text) := by
  induction h with
  | refl o => exact .refl _
  | symm _ ih => exact .symm ih
  | trans _ _ ih ih' => exact .trans ih ih'
  | swap es e e' es' =>
    simp only [Object.plain,plainEntries_map,List.map_append,List.map_cons]
    exact .swap _ _ _ _
  | entry es k es' _ ih =>
    simp only [Object.plain,plainEntries_map,List.map_append,List.map_cons]
    exact .entry _ _ _ ih
  | item os os' _ ih =>
    simp only [Object.plain,plainItems_map,List.map_append,List.map_cons]
    exact .item _ _ ih
  | member os os' _ ih =>
    simp only [Object.plain,plainItems_map,List.map_append,List.map_cons]
    exact .item _ _ ih

theorem distinctItems_iff (os : List Object) :
    DistinctItems text os ↔ ∀ o ∈ os, o.Distinct text := by
  induction os with
  | nil => simp [DistinctItems]
  | cons o os ih => simp [DistinctItems,ih]

theorem distinctEntries_iff (es : List (Object × Object)) :
    DistinctEntries text es ↔ ∀ e ∈ es, e.2.Distinct text := by
  induction es with
  | nil => simp [DistinctEntries]
  | cons e es ih =>
    obtain ⟨k,o⟩ := e
    simp [DistinctEntries,ih]

theorem distinct_iff (o : Object) : o.Distinct text ↔ (o.plain text).keyed := by
  induction o using nested with
  | scalar o hlist htuple hdict =>
    cases o with
    | list os => exact absurd rfl (hlist os)
    | tuple os => exact absurd rfl (htuple os)
    | dict es => exact absurd rfl (hdict es)
    | _ => simp only [Distinct,Object.plain,Value.keyed]
  | list os ih =>
    rw [Distinct,Object.plain,keyed_list,distinctItems_iff,plainItems_map,List.forall_mem_map]
    exact forall₂_congr ih
  | tuple os ih =>
    rw [Distinct,Object.plain,keyed_list,distinctItems_iff,plainItems_map,List.forall_mem_map]
    exact forall₂_congr ih
  | dict es ih =>
    rw [Distinct,Object.plain,keyed_map,distinctEntries_iff,plainEntries_map,List.map_map,
      List.forall_mem_map]
    refine and_congr ?_ (forall₂_congr fun e he => ?_)
    · have hkeys : es.map (Prod.fst ∘ fun e => (Value.str (text e.1),e.2.plain text)) =
          (es.map fun e => text e.1).map Value.str := by
        rw [List.map_map]
        rfl
      rw [hkeys,List.nodup_map_iff fun _ _ h => Value.str.inj h]
    · exact (ih e he).trans ⟨fun h => ⟨⟨_,rfl⟩,h⟩,fun h => h.2⟩

/-- Nothing is dropped exactly where the texts of the keys are apart. -/
theorem kept_iff {o : Object} (h : Accepted text o) : o.Kept text ↔ o.Distinct text := by
  obtain ⟨v,hv⟩ := h
  have hplain := canonical_plain o hv
  rw [distinct_iff]
  constructor
  · rintro ⟨w,hw,hreordered⟩
    rw [canonical_plain o hw] at hreordered
    exact hreordered.keyed_iff.mp (canonical_keyed _)
  · intro hkeyed
    refine ⟨v,hv,?_⟩
    rw [hplain]
    exact (canonical_reordered textRuntime (fun _ => rfl) _ hkeyed).symm

/-- Another order of the entries has the same bytes. -/
theorem canonicalPack_reordered {rt : Runtime} {o p : Object} (h : o.Reordered p)
    (ho : Accepted text o) (hdistinct : o.Distinct text) :
    p.canonicalPack text rt = o.canonicalPack text rt := by
  obtain ⟨v,hv⟩ := ho
  obtain ⟨w,hw⟩ := h.accepted_iff.mp ⟨v,hv⟩
  have hsame := canonical_eq_of_reordered textRuntime (fun _ => rfl) h.plain
    ((distinct_iff o).mp hdistinct)
  rw [canonicalPack,canonicalPack,hv,hw,canonical_plain o hv,canonical_plain p hw,hsame]

theorem canonicalPack_ok {rt : Runtime} {o : Object} {raw : Bytes}
    (h : o.canonicalPack text rt = .ok raw) :
    Accepted text o ∧ rt.packb ((o.plain text).canonical textRuntime) = .ok raw := by
  obtain ⟨v,hv,hraw⟩ := bind_ok.mp h
  rw [canonical_plain o hv] at hraw
  exact ⟨⟨v,hv⟩,hraw⟩

/-- Equal bytes come from equal canonical forms. -/
theorem canonical_eq_of_bytes {rt : Runtime}
    (hcodec : ∀ v raw, v.keyed → rt.packb v = .ok raw → rt.unpackb raw = .ok v) {o p : Object}
    {raw : Bytes} (ho : o.canonicalPack text rt = .ok raw)
    (hp : p.canonicalPack text rt = .ok raw) :
    (o.plain text).canonical textRuntime = (p.plain text).canonical textRuntime := by
  have hleft := hcodec _ _ (canonical_keyed _) (canonicalPack_ok ho).2
  have hright := hcodec _ _ (canonical_keyed _) (canonicalPack_ok hp).2
  exact Except.ok.inj (hleft.symm.trans hright)

mutual

/-- A decoded value among the objects. -/
def ofValue : Value → Object
  | .nil => .none
  | .bool b => .bool b
  | .int i => .int i
  | .float bits => .float bits
  | .str s => .str s
  | .bin b => .bytes b
  | .list vs => .list (ofItems vs)
  | .map es => .dict (ofEntries es)

def ofItems : List Value → List Object
  | [] => []
  | v :: vs => ofValue v :: ofItems vs

def ofEntries : List (Value × Value) → List (Object × Object)
  | [] => []
  | (k,v) :: es => (ofValue k,ofValue v) :: ofEntries es

end

theorem ofItems_map (vs : List Value) : ofItems vs = vs.map ofValue := by
  induction vs with
  | nil => rfl
  | cons v vs ih => rw [ofItems,ih,List.map_cons]

theorem ofEntries_map (es : List (Value × Value)) :
    ofEntries es = es.map fun e => (ofValue e.1,ofValue e.2) := by
  induction es with
  | nil => rfl
  | cons e es ih =>
    obtain ⟨k,v⟩ := e
    rw [ofEntries,ih,List.map_cons]

theorem canonical_ofValue {rt : Runtime} (htext : ∀ v, text (ofValue v) = rt.str v) (v : Value) :
    (ofValue v).canonical text = .ok (v.canonical rt) := by
  induction v using Value.nested with
  | scalar v hlist hmap =>
    cases v with
    | list vs => exact absurd rfl (hlist vs)
    | map es => exact absurd rfl (hmap es)
    | _ => simp only [ofValue,canonical,Value.canonical]
  | list vs ih =>
    rw [ofValue,canonical,Value.canonical,canonicalItems_eq,ofItems_map]
    refine bind_ok.mpr ⟨_,canonicalItems_ok.mpr ?_,rfl⟩
    rw [List.map_map,List.map_map]
    exact List.map_congr_left ih
  | map es ih =>
    have hentries : canonicalEntries text (ofEntries es) =
        (Anet.canonicalEntries rt es).map fun e => (e.1,.ok e.2) := by
      rw [canonicalEntries_map,ofEntries_map,canonicalEntries_eq,List.map_map,List.map_map]
      refine List.map_congr_left fun e he => ?_
      simp only [Function.comp,htext,ih e he]
    rw [ofValue,canonical,Value.canonical,hentries]
    refine bind_ok.mpr ⟨_,sequenceEntries_ok.mpr ?_,rfl⟩
    exact (List.map_insertionSort (fun a b : String × Value => a.1 ≤ b.1)
      (fun a b : String × Result Value => a.1 ≤ b.1) (fun e => (e.1,.ok e.2)) _
        fun _ _ _ _ => Iff.rfl).symm

/-- On what a receiver decodes this is the encoding that packets are signed over. -/
theorem canonicalPack_ofValue {rt : Runtime} (htext : ∀ v, text (ofValue v) = rt.str v)
    (v : Value) : (ofValue v).canonicalPack text rt = rt.canonicalPack v := by
  rw [canonicalPack,canonical_ofValue htext]
  rfl

end Object

/-- The bytes are the same for every order of the entries and hold each of them exactly for the
values without two keys of one text; among these, equal bytes are from equal values. -/
theorem canonicalPack_binds_iff (text : Object → String) (rt : Runtime)
    (hcodec : ∀ v raw, v.keyed → rt.packb v = .ok raw → rt.unpackb raw = .ok v) :
    (∀ (o : Object) raw, o.canonicalPack text rt = .ok raw →
      ((∀ p, o.Reordered p → p.canonicalPack text rt = .ok raw) ∧ o.Kept text ↔
        o.Distinct text)) ∧
    ∀ (o p : Object) raw, o.canonicalPack text rt = .ok raw → p.canonicalPack text rt = .ok raw →
      ((o.plain text).Reordered (p.plain text) ∧ o.Kept text ∧ p.Kept text ↔
        o.Distinct text ∧ p.Distinct text) := by
  constructor
  · intro o raw ho
    have haccepted := (Object.canonicalPack_ok ho).1
    rw [Object.kept_iff haccepted]
    refine ⟨fun h => h.2,fun h => ⟨fun p hp => ?_,h⟩⟩
    rw [Object.canonicalPack_reordered hp haccepted h,ho]
  · intro o p raw ho hp
    have hsame := Object.canonical_eq_of_bytes hcodec ho hp
    rw [Object.kept_iff (Object.canonicalPack_ok ho).1,
      Object.kept_iff (Object.canonicalPack_ok hp).1]
    refine ⟨fun h => h.2,fun h => ⟨?_,h⟩⟩
    have hleft := canonical_reordered Object.textRuntime (fun _ => rfl) _
      ((Object.distinct_iff o).mp h.1)
    have hright := canonical_reordered Object.textRuntime (fun _ => rfl) _
      ((Object.distinct_iff p).mp h.2)
    rw [← hsame] at hright
    exact hleft.trans hright.symm

section Sample

open Object

/-- `str` of the values that the samples use as keys. -/
def sampleText : Object → String
  | .str s => s
  | .int i => toString i
  | _ => ""

/-- Two entries of one dictionary whose keys have the text `1`. -/
def numbered : Object := .dict [(.int 1,.str "a"),(.str "1",.str "b")]

def textFirst : Object := .dict [(.str "1",.str "b"),(.int 1,.str "a")]

def textOnly : Object := .dict [(.str "1",.str "b")]

theorem msgpack_codec (v : Value) (raw : Bytes) (_ : v.keyed)
    (h : Runtime.msgpack.packb v = .ok raw) : Runtime.msgpack.unpackb raw = .ok v :=
  unpackValue_packValue h

theorem canonicalPack_binds_iff_sample : ∃ raw,
    textOnly.canonicalPack sampleText .msgpack = .ok raw ∧ textOnly.Kept sampleText := by
  have hraw : textOnly.canonicalPack sampleText .msgpack =
      .ok (Value.map [(.str "1",.str "b")]).wire := by rfl
  have hdistinct : textOnly.Distinct sampleText := by
    simp [textOnly,Distinct,DistinctEntries,sampleText]
  exact ⟨_,hraw,(((canonicalPack_binds_iff sampleText .msgpack msgpack_codec).1 _ _ hraw).mpr
    hdistinct).2⟩

/-- The order of two entries reaches the bytes, and a dictionary with one of them has the same
bytes as one with both. -/
theorem canonicalPack_drops_entry :
    (numbered.Reordered textFirst ∧ (∃ raw, numbered.canonicalPack sampleText .msgpack = .ok raw) ∧
      numbered.canonicalPack sampleText .msgpack ≠ textFirst.canonicalPack sampleText .msgpack) ∧
    numbered.canonicalPack sampleText .msgpack = textOnly.canonicalPack sampleText .msgpack ∧
      ¬ (numbered.plain sampleText).Reordered (textOnly.plain sampleText) := by
  refine ⟨⟨.swap [] _ _ [],⟨_,rfl⟩,?_⟩,rfl,fun h => ?_⟩
  · have hfirst : textFirst.canonicalPack sampleText .msgpack =
        .ok (Value.map [(.str "1",.str "a")]).wire := by rfl
    have hlast : numbered.canonicalPack sampleText .msgpack =
        .ok (Value.map [(.str "1",.str "b")]).wire := by rfl
    rw [hfirst,hlast]
    exact fun h => absurd (Except.ok.inj h) (by decide +kernel)
  · have hkeyed : (textOnly.plain sampleText).keyed := by
      simp [textOnly,Object.plain,plainEntries,Value.keyed,entriesKeyed,sampleText]
    have hnumbered := h.keyed_iff.mpr hkeyed
    have hone : Int.repr 1 = "1" := by rfl
    simp [numbered,Object.plain,plainEntries,Value.keyed,entriesKeyed,sampleText,hone] at hnumbered

end Sample
end Anet
