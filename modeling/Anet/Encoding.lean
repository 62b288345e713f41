import Anet.Python

/-! The wire encoding: msgpack with a size limit, and the canonical form that is
hashed and signed. -/
namespace Anet

def maxWireBytes : ℕ := 16 * 1024 * 1024

/-- A dictionary built from pairs in order: a later value replaces an earlier one. -/
def lastEntries : List (String × Value) → List (Value × Value)
  | [] => []
  | e :: es => if es.any fun e' => e'.1 = e.1 then lastEntries es else (.str e.1,e.2) :: lastEntries es

mutual

/-- `_canonical`: keys as text, in order. -/
def Value.canonical (rt : Runtime) : Value → Value
  | .map entries => .map (lastEntries
      ((canonicalEntries rt entries).insertionSort fun a b => a.1 ≤ b.1))
  | .list items => .list (canonicalItems rt items)
  | .nil => .nil
  | .bool b => .bool b
  | .int i => .int i
  | .float bits => .float bits
  | .str s => .str s
  | .bin b => .bin b

def canonicalItems (rt : Runtime) : List Value → List Value
  | [] => []
  | v :: vs => v.canonical rt :: canonicalItems rt vs

def canonicalEntries (rt : Runtime) : List (Value × Value) → List (String × Value)
  | [] => []
  | (k,v) :: es => (rt.str k,v.canonical rt) :: canonicalEntries rt es

end

namespace Runtime

def pack (rt : Runtime) (value : Value) : Result Bytes := rt.packb value

def canonicalPack (rt : Runtime) (value : Value) : Result Bytes := rt.packb (value.canonical rt)

def unpack (rt : Runtime) (raw : Bytes) : Result Value :=
  if maxWireBytes < raw.length then .error (.value "wire object exceeds size limit")
  else rt.unpackb raw

end Runtime

/-- `n` as big-endian bytes of the given width. -/
def wordBytes : (width n : ℕ) → Bytes
  | 0,_ => []
  | width + 1,n => wordBytes width (n / 256) ++ [UInt8.ofNat n]

def utf8 (s : String) : Bytes := s.toList.flatMap String.utf8EncodeChar

mutual

/-- msgpack in its 32-bit forms. -/
def Value.wire : Value → Bytes
  | .nil => [0xc0]
  | .bool b => [if b then 0xc3 else 0xc2]
  | .int i => (if 0 ≤ i then 0xcf else 0xd3) :: wordBytes 8 (i % 2 ^ 64).toNat
  | .float bits => 0xcb :: wordBytes 8 bits.toNat
  | .str s => 0xdb :: wordBytes 4 (utf8 s).length ++ utf8 s
  | .bin b => 0xc6 :: wordBytes 4 b.length ++ b
  | .list items => 0xdd :: wordBytes 4 items.length ++ wireItems items
  | .map entries => 0xdf :: wordBytes 4 entries.length ++ wireEntries entries

def wireItems : List Value → Bytes
  | [] => []
  | v :: vs => v.wire ++ wireItems vs

def wireEntries : List (Value × Value) → Bytes
  | [] => []
  | (k,v) :: es => k.wire ++ v.wire ++ wireEntries es

end

/-- A runtime to run the model with: conversions that succeed on values of the
expected type only, a decoder of the caller's choice, and hashes that keep their
input. -/
def Runtime.plain (decode : Bytes → Result Value) : Runtime where
  str v := match v with | .str s => s | .nil => "None" | .int i => toString i | _ => ""
  repr v := match v with | .str s => s!"'{s}'" | _ => ""
  int v := match v with | .int i => .ok i | _ => .error (.type "int() argument")
  float v := match v with | .float bits => .ok bits | _ => .error (.type "float() argument")
  bytes v := match v with | .bin b => .ok b | _ => .error (.type "cannot convert to bytes")
  list v := match v with | .list vs => .ok vs | _ => .error (.type "not iterable")
  iter v := match v with | .list vs => .ok vs | .nil => .ok [] | _ => .error (.type "not iterable")
  dict v := match v with | .map es => .ok es | .nil => .ok [] | _ => .error (.type "not iterable")
  packb v := .ok v.wire
  unpackb := decode
  blake2s _ _ b := String.ofList (b.map fun x => Char.ofNat x.toNat)
  sha256 b := String.ofList (b.map fun x => Char.ofNat x.toNat)

end Anet
