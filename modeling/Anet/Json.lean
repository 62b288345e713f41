import Anet.Encoding

/-! JSON as the gateway uses it: a value survives `json.dumps` and `json.loads` with
its keys made text, unless something in it has no JSON form or the text is too long. -/
namespace Anet

def maxJsonBytes : ℕ := 7 * 1024 * 1024

/-- `dict[k] = v`: a key keeps its place. -/
def dictPut (key : String) (value : Value) : List (String × Value) → List (String × Value)
  | [] => [(key,value)]
  | e :: es => if e.1 = key then (key,value) :: es else e :: dictPut key value es

def dictOf (entries : List (String × Value)) : List (String × Value) :=
  entries.foldl (fun d e => dictPut e.1 e.2 d) []

def textEntries (entries : List (String × Value)) : List (Value × Value) :=
  entries.map fun e => (.str e.1,e.2)

/-- Neither infinite nor NaN. -/
def isFinite (bits : UInt64) : Bool := bits &&& 0x7ff0000000000000 != 0x7ff0000000000000

/-- The digits `int.__repr__` is willing to print. -/
def printable (i : ℤ) : Bool := i.natAbs < 10 ^ 4300

/-- A dictionary key as `json.dumps` writes it. -/
def jsonKey (rt : Runtime) : Value → Option String
  | .str s => some s
  | .int i => if printable i then some (toString i) else none
  | .float bits => if isFinite bits then some (rt.repr (.float bits)) else none
  | .bool b => some (if b then "true" else "false")
  | .nil => some "null"
  | .bin _ => none
  | .list _ => none
  | .map _ => none

mutual

/-- `json.loads(json.dumps(v, allow_nan=False))`. -/
def Value.json (rt : Runtime) : Value → Option Value
  | .nil => some .nil
  | .bool b => some (.bool b)
  | .int i => if printable i then some (.int i) else none
  | .float bits => if isFinite bits then some (.float bits) else none
  | .str s => some (.str s)
  | .bin _ => none
  | .list items => (jsonItems rt items).map .list
  | .map entries => (jsonEntries rt entries).map fun es => .map (textEntries (dictOf es))

def jsonItems (rt : Runtime) : List Value → Option (List Value)
  | [] => some []
  | v :: vs => do
    let v ← v.json rt
    let vs ← jsonItems rt vs
    return v :: vs

def jsonEntries (rt : Runtime) : List (Value × Value) → Option (List (String × Value))
  | [] => some []
  | (k,v) :: es => do
    let k ← jsonKey rt k
    let v ← v.json rt
    let es ← jsonEntries rt es
    return (k,v) :: es

end

/-- The bytes of one character inside a JSON string. -/
def jsonCharSize (c : Char) : ℕ :=
  if c = '"' ∨ c = '\\' ∨ c = '\n' ∨ c = '\r' ∨ c = '\t' ∨ c.toNat = 8 ∨ c.toNat = 12 then 2
  else if c.toNat < 32 then 6
  else c.utf8Size

def jsonTextSize (s : String) : ℕ := 2 + (s.toList.map jsonCharSize).sum

mutual

/-- The length of `json.dumps(v, ensure_ascii=False, separators=(",", ":"))` in UTF-8. -/
def Value.jsonSize (rt : Runtime) : Value → ℕ
  | .nil => 4
  | .bool b => if b then 4 else 5
  | .int i => (toString i).length
  | .float bits => (rt.repr (.float bits)).length
  | .str s => jsonTextSize s
  | .bin _ => 0
  | .list items => 2 + (items.length - 1) + jsonItemsSize rt items
  | .map entries => 2 + (entries.length - 1) + jsonEntriesSize rt entries

def jsonItemsSize (rt : Runtime) : List Value → ℕ
  | [] => 0
  | v :: vs => v.jsonSize rt + jsonItemsSize rt vs

def jsonEntriesSize (rt : Runtime) : List (Value × Value) → ℕ
  | [] => 0
  | (k,v) :: es =>
    jsonTextSize ((jsonKey rt k).getD "") + 1 + v.jsonSize rt + jsonEntriesSize rt es

end

/-- `_json_clone`. -/
def jsonClone (rt : Runtime) (name : String) (value : Value) : Result Value :=
  match value.json rt with
  | none => .error (.value s!"{name} must contain JSON values")
  | some clone =>
    if maxJsonBytes < value.jsonSize rt then .error (.value s!"{name} is too large") else .ok clone

/-- `_json_map`. -/
def jsonMap (rt : Runtime) (name : String) : Value → Result Value
  | .nil => .ok (.map [])
  | .map entries => jsonClone rt name (.map entries)
  | _ => .error (.value s!"{name} must be an object")

section Forms

variable {rt : Runtime}

theorem json_map {entries : List (Value × Value)} {v : Value} :
    (Value.map entries).json rt = some v ↔
      ∃ es, jsonEntries rt entries = some es ∧ .map (textEntries (dictOf es)) = v := by
  simp only [Value.json,Option.map_eq_some_iff]

theorem json_str {s : String} {v : Value} : (Value.str s).json rt = some v ↔ .str s = v := by
  simp [Value.json]

theorem jsonEntries_nil {es : List (String × Value)} : jsonEntries rt [] = some es ↔ es = [] := by
  simp [jsonEntries,eq_comm]

theorem jsonEntries_cons {k : String} {v : Value} {entries : List (Value × Value)}
    {es : List (String × Value)} : jsonEntries rt ((.str k,v) :: entries) = some es ↔
      ∃ w ws, v.json rt = some w ∧ jsonEntries rt entries = some ws ∧ es = (k,w) :: ws := by
  simp only [jsonEntries,jsonKey,Option.bind_eq_bind,Option.bind_some,Option.bind_eq_some_iff,
    Option.pure_def,Option.some.injEq]
  constructor
  · rintro ⟨w,hw,ws,hws,rfl⟩
    exact ⟨w,ws,hw,hws,rfl⟩
  · rintro ⟨w,ws,hw,hws,rfl⟩
    exact ⟨w,hw,ws,hws,rfl⟩

end Forms

theorem jsonClone_ok {rt : Runtime} {name : String} {value clone : Value} :
    jsonClone rt name value = .ok clone ↔
      value.json rt = some clone ∧ value.jsonSize rt ≤ maxJsonBytes := by
  unfold jsonClone
  cases h : value.json rt with
  | none => simp
  | some c =>
    by_cases hsize : maxJsonBytes < value.jsonSize rt
    · simp [hsize]
    · simp only [hsize,if_false,Except.ok.injEq,Option.some.injEq]
      constructor
      · rintro rfl
        exact ⟨rfl,by omega⟩
      · exact fun h => h.1

end Anet
