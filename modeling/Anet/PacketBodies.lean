import Anet.PacketSeal

/-! Packet bodies as their sender has them. msgpack reads tuples back as lists and byte arrays as
bytes, so a body without tuples among its keys is signed and verified over the same bytes. -/
namespace Anet

namespace Object

/-- A dictionary whose values all have a canonical form has one. -/
theorem canonical_dict_entries {text : Object → String} {es : List (Object × Object)}
    {ls : List (String × Value)} (h : canonicalEntries text es = ls.map fun e => (e.1,.ok e.2)) :
    (Object.dict es).canonical text =
      .ok (.map (lastEntries (ls.insertionSort fun a b => a.1 ≤ b.1))) := by
  rw [canonical]
  refine bind_ok.mpr ⟨_,sequenceEntries_ok.mpr ?_,rfl⟩
  rw [h]
  exact (List.map_insertionSort (fun a b : String × Value => a.1 ≤ b.1)
    (fun a b : String × Result Value => a.1 ≤ b.1) (fun e => (e.1,.ok e.2)) _
      fun _ _ _ _ => Iff.rfl).symm

/-- A key that msgpack reads back as it was. -/
def isScalar : Object → Bool
  | .none | .bool _ | .int _ | .float _ | .str _ | .bytes _ => true
  | _ => false

mutual

/-- What msgpack reads back of a value that it packs. -/
def packed : Object → Result Value
  | .dict entries => do return .map (← packedEntries entries)
  | .list items => do return .list (← packedItems items)
  | .tuple items => do return .list (← packedItems items)
  | .bytearray b => .ok (.bin b)
  | .none => .ok .nil
  | .str s => .ok (.str s)
  | .bytes b => .ok (.bin b)
  | .bool b => .ok (.bool b)
  | .int i => .ok (.int i)
  | .float bits => .ok (.float bits)
  | .other type => .error (.type s!"can not serialize '{type}' object")

def packedItems : List Object → Result (List Value)
  | [] => .ok []
  | o :: os => do
    let v ← packed o
    let vs ← packedItems os
    return v :: vs

def packedEntries : List (Object × Object) → Result (List (Value × Value))
  | [] => .ok []
  | (k,o) :: es => do
    let k ← packed k
    let v ← packed o
    let rest ← packedEntries es
    return (k,v) :: rest

end

mutual

/-- No tuple is a key of a dictionary. -/
def scalarKeys : Object → Bool
  | .dict entries => entriesScalar entries
  | .list items => itemsScalar items
  | .tuple items => itemsScalar items
  | _ => true

def itemsScalar : List Object → Bool
  | [] => true
  | o :: os => o.scalarKeys && itemsScalar os

def entriesScalar : List (Object × Object) → Bool
  | [] => true
  | (k,o) :: es => k.isScalar && o.scalarKeys && entriesScalar es

end

end Object

mutual

/-- No list and no map is a key of a map. -/
def Value.scalarKeys : Value → Bool
  | .map entries => entriesScalar entries
  | .list items => itemsScalar items
  | _ => true

def itemsScalar : List Value → Bool
  | [] => true
  | v :: vs => v.scalarKeys && itemsScalar vs

def entriesScalar : List (Value × Value) → Bool
  | [] => true
  | (k,v) :: es => k.scalar && v.scalarKeys && entriesScalar es

end

theorem itemsScalar_iff (vs : List Value) : itemsScalar vs ↔ ∀ v ∈ vs, v.scalarKeys := by
  induction vs with
  | nil => simp [itemsScalar]
  | cons v vs ih => simp [itemsScalar,ih]

namespace Object

variable {rt : Runtime} {text : Object → String}

theorem packed_scalar {k : Object} {v : Value} (hk : k.isScalar) (h : k.packed = .ok v) :
    v.scalar := by
  cases k with
  | list _ | tuple _ | dict _ | bytearray _ | other _ => cases hk
  | none | bool _ | int _ | float _ | str _ | bytes _ =>
    cases h
    rfl

/-- The texts of keys are those of what is read back of them. -/
def TextAgrees (rt : Runtime) (text : Object → String) : Prop :=
  ∀ k v, k.isScalar → k.packed = .ok v → text k = rt.str v

mutual

/-- What is signed does not change on the way: the canonical form of a body is that of what is
read back of it. -/
theorem canonical_packed (htext : TextAgrees rt text) (o : Object) (hkeys : o.scalarKeys)
    {v : Value} (h : o.packed = .ok v) : o.canonical text = .ok (v.canonical rt) := by
  match o with
  | .dict es =>
    obtain ⟨ws,hws,hval⟩ := bind_ok.mp h
    cases hval
    rw [canonical_map]
    exact canonical_dict_entries (canonicalEntries_packed htext es hkeys hws)
  | .list os =>
    obtain ⟨vs,hvs,hval⟩ := bind_ok.mp h
    cases hval
    rw [canonical,canonicalItems_packed htext os hkeys hvs]
    rfl
  | .tuple os =>
    obtain ⟨vs,hvs,hval⟩ := bind_ok.mp h
    cases hval
    rw [canonical,canonicalItems_packed htext os hkeys hvs]
    rfl
  | .none | .bool _ | .int _ | .float _ | .str _ | .bytes _ | .bytearray _ =>
    cases h
    simp only [canonical,Value.canonical]
  | .other _ => cases h

theorem canonicalItems_packed (htext : TextAgrees rt text) (os : List Object)
    (hkeys : itemsScalar os) {vs : List Value} (h : packedItems os = .ok vs) :
    canonicalItems text os = .ok (Anet.canonicalItems rt vs) := by
  match os with
  | [] =>
    cases h
    rfl
  | o :: os =>
    simp only [itemsScalar,Bool.and_eq_true] at hkeys
    simp only [packedItems,bind_ok] at h
    obtain ⟨v,hv,ws,hws,hval⟩ := h
    cases hval
    rw [canonicalItems,canonical_packed htext o hkeys.1 hv,
      canonicalItems_packed htext os hkeys.2 hws]
    rfl

theorem canonicalEntries_packed (htext : TextAgrees rt text) (es : List (Object × Object))
    (hkeys : entriesScalar es) {ws : List (Value × Value)} (h : packedEntries es = .ok ws) :
    canonicalEntries text es = (Anet.canonicalEntries rt ws).map fun e => (e.1,.ok e.2) := by
  match es with
  | [] =>
    cases h
    rfl
  | (k,o) :: es =>
    simp only [entriesScalar,Bool.and_eq_true] at hkeys
    simp only [packedEntries,bind_ok] at h
    obtain ⟨key,hkey,v,hv,rest,hrest,hval⟩ := h
    cases hval
    rw [canonicalEntries,canonical_packed htext o hkeys.1.2 hv,
      canonicalEntries_packed htext es hkeys.2 hrest,htext k key hkeys.1.1 hkey]
    rfl

end

mutual

theorem packed_scalarKeys (o : Object) (hkeys : o.scalarKeys) {v : Value} (h : o.packed = .ok v) :
    v.scalarKeys := by
  match o with
  | .dict es =>
    obtain ⟨ws,hws,hval⟩ := bind_ok.mp h
    cases hval
    exact packedEntries_scalar es hkeys hws
  | .list os =>
    obtain ⟨vs,hvs,hval⟩ := bind_ok.mp h
    cases hval
    exact packedItems_scalar os hkeys hvs
  | .tuple os =>
    obtain ⟨vs,hvs,hval⟩ := bind_ok.mp h
    cases hval
    exact packedItems_scalar os hkeys hvs
  | .none | .bool _ | .int _ | .float _ | .str _ | .bytes _ | .bytearray _ =>
    cases h
    rfl
  | .other _ => cases h

theorem packedItems_scalar (os : List Object) (hkeys : itemsScalar os) {vs : List Value}
    (h : packedItems os = .ok vs) : Anet.itemsScalar vs := by
  match os with
  | [] =>
    cases h
    rfl
  | o :: os =>
    simp only [itemsScalar,Bool.and_eq_true] at hkeys
    simp only [packedItems,bind_ok] at h
    obtain ⟨v,hv,ws,hws,hval⟩ := h
    cases hval
    simp only [Anet.itemsScalar,Bool.and_eq_true]
    exact ⟨packed_scalarKeys o hkeys.1 hv,packedItems_scalar os hkeys.2 hws⟩

theorem packedEntries_scalar (es : List (Object × Object)) (hkeys : entriesScalar es)
    {ws : List (Value × Value)} (h : packedEntries es = .ok ws) : Anet.entriesScalar ws := by
  match es with
  | [] =>
    cases h
    rfl
  | (k,o) :: es =>
    simp only [entriesScalar,Bool.and_eq_true] at hkeys
    simp only [packedEntries,bind_ok] at h
    obtain ⟨key,hkey,v,hv,rest,hrest,hval⟩ := h
    cases hval
    simp only [Anet.entriesScalar,Bool.and_eq_true]
    exact ⟨⟨packed_scalar hkeys.1.1 hkey,packed_scalarKeys o hkeys.1.2 hv⟩,
      packedEntries_scalar es hkeys.2 hrest⟩

end

end Object

end Anet
