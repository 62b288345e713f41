import Anet.Encoding

/-! Decoding what `Value.wire` writes. Every form starts with its tag and carries its
length, so a decoder reads one value and leaves the rest; a value whose integers and
lengths fit their fields comes back from its bytes. -/
namespace Anet

/-- The number written in big-endian bytes. -/
def wordValue (bytes : Bytes) : ℕ := bytes.foldl (fun n b => 256 * n + b.toNat) 0

@[simp] theorem length_wordBytes (width n : ℕ) : (wordBytes width n).length = width := by
  induction width generalizing n with
  | zero => rfl
  | succ width ih => simp [wordBytes,ih]

theorem wordValue_wordBytes {width n : ℕ} (h : n < 256 ^ width) :
    wordValue (wordBytes width n) = n := by
  induction width generalizing n with
  | zero =>
    have hzero : n = 0 := by simpa using h
    simp [wordValue,wordBytes,hzero]
  | succ width ih =>
    have hhigh : n / 256 < 256 ^ width := by
      rw [Nat.pow_succ] at h
      omega
    have hlow : (UInt8.ofNat n).toNat = n % 256 := by simp
    have hread : wordValue (wordBytes width (n / 256) ++ [UInt8.ofNat n]) =
        256 * wordValue (wordBytes width (n / 256)) + (UInt8.ofNat n).toNat := by
      simp [wordValue,List.foldl_append]
    rw [wordBytes,hread,ih hhigh,hlow]
    omega

/-- The first `n` bytes and what follows them. -/
def takeBytes (n : ℕ) (bytes : Bytes) : Option (Bytes × Bytes) :=
  if n ≤ bytes.length then some (bytes.take n,bytes.drop n) else none

@[simp] theorem takeBytes_append (xs rest : Bytes) :
    takeBytes xs.length (xs ++ rest) = some (xs,rest) := by
  simp [takeBytes]

def takeWord (width : ℕ) (bytes : Bytes) : Option (ℕ × Bytes) :=
  (takeBytes width bytes).map fun r => (wordValue r.1,r.2)

theorem takeWord_wordBytes {width n : ℕ} (h : n < 256 ^ width) (rest : Bytes) :
    takeWord width (wordBytes width n ++ rest) = some (n,rest) := by
  have htake := takeBytes_append (wordBytes width n) rest
  rw [length_wordBytes] at htake
  simp [takeWord,htake,wordValue_wordBytes h]

/-- The characters of UTF-8 bytes, for at most `fuel` of them. -/
def utf8Chars : (fuel : ℕ) → Bytes → Option (List Char)
  | _,[] => some []
  | 0,_ => none
  | fuel + 1,bytes => do
    let c ← bytes.toByteArray.utf8DecodeChar? 0
    let cs ← utf8Chars fuel (bytes.drop c.utf8Size)
    return c :: cs

def utf8Text (bytes : Bytes) : Option String := (utf8Chars bytes.length bytes).map String.ofList

theorem utf8Chars_flatMap (cs : List Char) {fuel : ℕ}
    (h : (cs.flatMap String.utf8EncodeChar).length ≤ fuel) :
    utf8Chars fuel (cs.flatMap String.utf8EncodeChar) = some cs := by
  induction cs generalizing fuel with
  | nil => simp [utf8Chars]
  | cons c cs ih =>
    have hsize := String.length_utf8EncodeChar c
    have hpos := c.utf8Size_pos
    simp only [List.flatMap_cons,List.length_append,hsize] at h ⊢
    obtain ⟨fuel,rfl⟩ : ∃ m, fuel = m + 1 := ⟨fuel - 1,by omega⟩
    cases hbytes : String.utf8EncodeChar c ++ cs.flatMap String.utf8EncodeChar with
    | nil =>
      have hlen := congrArg List.length hbytes
      simp only [List.length_append,hsize,List.length_nil] at hlen
      omega
    | cons b bs =>
      have hchar : (b :: bs).toByteArray.utf8DecodeChar? 0 = some c := by
        rw [← hbytes,List.toByteArray_append]
        exact ByteArray.utf8DecodeChar?_utf8EncodeChar_append
      have hdrop : (b :: bs).drop c.utf8Size = cs.flatMap String.utf8EncodeChar := by
        rw [← hbytes,← hsize,List.drop_left]
      simp [utf8Chars,hchar,hdrop,ih (show _ ≤ fuel by omega)]

@[simp] theorem utf8Text_utf8 (s : String) : utf8Text (utf8 s) = some s := by
  rw [utf8Text,utf8,utf8Chars_flatMap s.toList le_rfl]
  simp

/-- The integer of an 8-byte field: read with its sign after the signed tag. -/
def signedWord (n : ℕ) : ℤ := if n < 2 ^ 63 then n else (n : ℤ) - 2 ^ 64

mutual

/-- One value from the front of `bytes`. -/
def decodeValue : (fuel : ℕ) → Bytes → Option (Value × Bytes)
  | 0,_ => none
  | _,[] => none
  | fuel + 1,tag :: bytes =>
    if tag = 0xc0 then some (.nil,bytes)
    else if tag = 0xc2 then some (.bool false,bytes)
    else if tag = 0xc3 then some (.bool true,bytes)
    else if tag = 0xcf then (takeWord 8 bytes).map fun r => (.int r.1,r.2)
    else if tag = 0xd3 then (takeWord 8 bytes).map fun r => (.int (signedWord r.1),r.2)
    else if tag = 0xcb then (takeWord 8 bytes).map fun r => (.float (UInt64.ofNat r.1),r.2)
    else do
      let size ← takeWord 4 bytes
      if tag = 0xdb then
        let text ← takeBytes size.1 size.2
        let s ← utf8Text text.1
        return (.str s,text.2)
      else if tag = 0xc6 then (takeBytes size.1 size.2).map fun r => (.bin r.1,r.2)
      else if tag = 0xdd then (decodeItems fuel size.1 size.2).map fun r => (.list r.1,r.2)
      else if tag = 0xdf then (decodeEntries fuel size.1 size.2).map fun r => (.map r.1,r.2)
      else none

def decodeItems : (fuel n : ℕ) → Bytes → Option (List Value × Bytes)
  | 0,_,_ => none
  | _ + 1,0,bytes => some ([],bytes)
  | fuel + 1,n + 1,bytes => do
    let item ← decodeValue fuel bytes
    let items ← decodeItems fuel n item.2
    return (item.1 :: items.1,items.2)

def decodeEntries : (fuel n : ℕ) → Bytes → Option (List (Value × Value) × Bytes)
  | 0,_,_ => none
  | _ + 1,0,bytes => some ([],bytes)
  | fuel + 1,n + 1,bytes => do
    let key ← decodeValue fuel bytes
    let value ← decodeValue fuel key.2
    let entries ← decodeEntries fuel n value.2
    return ((key.1,value.1) :: entries.1,entries.2)

end

mutual

/-- The integers and the lengths of a value fit the fields they are written to. -/
def Value.fits : Value → Bool
  | .nil => true
  | .bool _ => true
  | .int i => -2 ^ 63 ≤ i && i < 2 ^ 64
  | .float _ => true
  | .str s => (utf8 s).length < 2 ^ 32
  | .bin b => b.length < 2 ^ 32
  | .list items => items.length < 2 ^ 32 && itemsFit items
  | .map entries => entries.length < 2 ^ 32 && entriesFit entries

def itemsFit : List Value → Bool
  | [] => true
  | v :: vs => v.fits && itemsFit vs

def entriesFit : List (Value × Value) → Bool
  | [] => true
  | (k,v) :: es => k.fits && v.fits && entriesFit es

end

def Value.scalar : Value → Bool
  | .list _ => false
  | .map _ => false
  | _ => true

/-- A list or a map without another inside. -/
def Value.flat : Value → Bool
  | .list items => items.all Value.scalar
  | .map entries => entries.all fun e => e.1.scalar && e.2.scalar
  | _ => true

/-- The encoder takes every flat value that fits. -/
def PacksFlat (rt : Runtime) : Prop := ∀ v : Value, v.fits → v.flat → ∃ raw, rt.packb v = .ok raw

theorem utf8_length_le (s : String) : (utf8 s).length ≤ 4 * s.toList.length := by
  rw [utf8]
  induction s.toList with
  | nil => simp
  | cons c cs ih =>
    have hsize := String.length_utf8EncodeChar c
    have hle := c.utf8Size_le_four
    simp only [List.flatMap_cons,List.length_append,List.length_cons,hsize]
    omega

theorem wire_pos (v : Value) : 0 < v.wire.length := by
  cases v <;> simp [Value.wire]

theorem decode_int {i : ℤ} (h : (Value.int i).fits) {fuel : ℕ} (rest : Bytes) :
    decodeValue (fuel + 1) ((Value.int i).wire ++ rest) = some (.int i,rest) := by
  simp only [Value.fits,Bool.and_eq_true,decide_eq_true_eq] at h
  obtain ⟨n,hn⟩ : ∃ n, n = (i % 2 ^ 64).toNat := ⟨_,rfl⟩
  have hword : n < 256 ^ 8 := by omega
  rw [Value.wire,← hn]
  by_cases hi : 0 ≤ i
  · have hvalue : (n : ℤ) = i := by omega
    simp [hi,decodeValue,takeWord_wordBytes hword,hvalue]
  · have hvalue : signedWord n = i := by
      have hlow : ¬ n < 2 ^ 63 := by omega
      simp only [signedWord,hlow,if_false]
      omega
    simp [hi,decodeValue,takeWord_wordBytes hword,hvalue]

theorem decode_float (bits : UInt64) {fuel : ℕ} (rest : Bytes) :
    decodeValue (fuel + 1) ((Value.float bits).wire ++ rest) = some (.float bits,rest) := by
  have hword : bits.toNat < 256 ^ 8 := bits.toNat_lt
  simp [Value.wire,decodeValue,takeWord_wordBytes hword]

/-- The length field of the four forms that carry one. -/
theorem decode_sized {tag : UInt8} {n : ℕ} (h : n < 2 ^ 32) (body : Bytes) {fuel : ℕ}
    (htag : tag = 0xdb ∨ tag = 0xc6 ∨ tag = 0xdd ∨ tag = 0xdf) :
    decodeValue (fuel + 1) (tag :: wordBytes 4 n ++ body) =
      if tag = 0xdb then do
        let text ← takeBytes n body
        let s ← utf8Text text.1
        return (.str s,text.2)
      else if tag = 0xc6 then (takeBytes n body).map fun r => (.bin r.1,r.2)
      else if tag = 0xdd then (decodeItems fuel n body).map fun r => (.list r.1,r.2)
      else (decodeEntries fuel n body).map fun r => (.map r.1,r.2) := by
  have hword : n < 256 ^ 4 := h
  rcases htag with rfl | rfl | rfl | rfl <;>
    simp [decodeValue,takeWord_wordBytes hword]

mutual

/-- A value comes back from the front of the bytes, whatever follows it. -/
theorem decode_wire (v : Value) (h : v.fits) {fuel : ℕ} (hfuel : v.wire.length ≤ fuel)
    (rest : Bytes) : decodeValue fuel (v.wire ++ rest) = some (v,rest) := by
  obtain ⟨fuel,rfl⟩ : ∃ m, fuel = m + 1 := ⟨fuel - 1,by have := wire_pos v; omega⟩
  match v with
  | .nil => simp [Value.wire,decodeValue]
  | .bool b => cases b <;> simp [Value.wire,decodeValue]
  | .int i => exact decode_int h rest
  | .float bits => exact decode_float bits rest
  | .str s =>
    simp only [Value.fits,decide_eq_true_eq] at h
    rw [Value.wire,List.append_assoc,decode_sized h _ (by simp)]
    simp
  | .bin b =>
    simp only [Value.fits,decide_eq_true_eq] at h
    rw [Value.wire,List.append_assoc,decode_sized h _ (by simp)]
    simp
  | .list items =>
    simp only [Value.fits,Bool.and_eq_true,decide_eq_true_eq] at h
    simp only [Value.wire,List.length_append,List.length_cons,length_wordBytes] at hfuel
    rw [Value.wire,List.append_assoc,decode_sized h.1 _ (by simp)]
    simp [decode_items items h.2 (show (wireItems items).length + 1 ≤ fuel by omega)]
  | .map entries =>
    simp only [Value.fits,Bool.and_eq_true,decide_eq_true_eq] at h
    simp only [Value.wire,List.length_append,List.length_cons,length_wordBytes] at hfuel
    rw [Value.wire,List.append_assoc,decode_sized h.1 _ (by simp)]
    simp [decode_entries entries h.2 (show (wireEntries entries).length + 1 ≤ fuel by omega)]

theorem decode_items (vs : List Value) (h : itemsFit vs) {fuel : ℕ}
    (hfuel : (wireItems vs).length + 1 ≤ fuel) (rest : Bytes) :
    decodeItems fuel vs.length (wireItems vs ++ rest) = some (vs,rest) := by
  obtain ⟨fuel,rfl⟩ : ∃ m, fuel = m + 1 := ⟨fuel - 1,by omega⟩
  match vs with
  | [] => simp [wireItems,decodeItems]
  | v :: vs =>
    simp only [itemsFit,Bool.and_eq_true] at h
    simp only [wireItems,List.length_append] at hfuel
    have hpos := wire_pos v
    rw [wireItems,List.append_assoc,List.length_cons,decodeItems,
      decode_wire v h.1 (show v.wire.length ≤ fuel by omega)]
    simp [decode_items vs h.2 (show (wireItems vs).length + 1 ≤ fuel by omega)]

theorem decode_entries (es : List (Value × Value)) (h : entriesFit es) {fuel : ℕ}
    (hfuel : (wireEntries es).length + 1 ≤ fuel) (rest : Bytes) :
    decodeEntries fuel es.length (wireEntries es ++ rest) = some (es,rest) := by
  obtain ⟨fuel,rfl⟩ : ∃ m, fuel = m + 1 := ⟨fuel - 1,by omega⟩
  match es with
  | [] => simp [wireEntries,decodeEntries]
  | (k,v) :: es =>
    simp only [entriesFit,Bool.and_eq_true] at h
    simp only [wireEntries,List.length_append] at hfuel
    have hpos := wire_pos k
    rw [wireEntries,List.append_assoc,List.append_assoc,List.length_cons,decodeEntries,
      decode_wire k h.1.1 (show k.wire.length ≤ fuel by omega)]
    simp [decode_wire v h.1.2 (show v.wire.length ≤ fuel by omega),
      decode_entries es h.2 (show (wireEntries es).length + 1 ≤ fuel by omega)]

end

def packValue (v : Value) : Result Bytes :=
  if v.fits then .ok v.wire else .error (.value "value does not fit its encoding")

def unpackValue (raw : Bytes) : Result Value :=
  match decodeValue raw.length raw with
  | some (v,[]) => .ok v
  | _ => .error (.value "not one encoded value")

/-- What was packed unpacks to itself. -/
theorem unpackValue_packValue {v : Value} {raw : Bytes} (h : packValue v = .ok raw) :
    unpackValue raw = .ok v := by
  unfold packValue at h
  split at h
  · rename_i hfits
    cases h
    have hdecode := decode_wire v hfits le_rfl []
    rw [List.append_nil] at hdecode
    simp [unpackValue,hdecode]
  · cases h

/-- A value written in the same bytes is the same value. -/
theorem packValue_injective {v w : Value} {raw : Bytes} (hv : packValue v = .ok raw)
    (hw : packValue w = .ok raw) : v = w := by
  have hunpack := unpackValue_packValue hv
  rw [unpackValue_packValue hw] at hunpack
  exact (Except.ok.inj hunpack).symm

def hexDigit (n : ℕ) : Char := if n < 10 then Char.ofNat (48 + n) else Char.ofNat (87 + n)

/-- `digits` hexadecimal digits. -/
def hexText : (digits n : ℕ) → List Char
  | 0,_ => []
  | digits + 1,n => hexText digits (n / 16) ++ [hexDigit (n % 16)]

/-- A digest of the given size that depends on every byte. -/
def checksum (digestSize : ℕ) (bytes : Bytes) : String :=
  String.ofList (hexText (2 * digestSize)
    (bytes.foldl (fun h b => (257 * h + b.toNat + 1) % 256 ^ digestSize) 0))

/-- A runtime to run the model with: this codec, and digests in hexadecimal. -/
def Runtime.msgpack : Runtime :=
  { Runtime.plain unpackValue with
    packb := packValue
    blake2s := fun _ digestSize bytes => checksum digestSize bytes
    sha256 := checksum 32 }

theorem msgpack_packsFlat : PacksFlat .msgpack := by
  intro v hfits _
  exact ⟨v.wire,by simp [Runtime.msgpack,packValue,hfits]⟩

end Anet
