import Mathlib.Algebra.Group.Int.Defs
import Mathlib.Algebra.GroupWithZero.Nat
import Mathlib.Data.List.DropRight
import Mathlib.Data.List.Sort
import Mathlib.Data.Int.Basic

/-! What the modelled functions take from Python and from the packages they
import: the values msgpack decodes to, the exceptions, the string methods used
on identifiers, and a record of the conversions and codecs that are not part of
this repository. -/
namespace Anet

abbrev Bytes := List UInt8

/-- A decoded msgpack object; a float is kept by its bit pattern. -/
inductive Value
  | nil | bool (b : Bool) | int (i : ℤ) | float (bits : UInt64) | str (s : String)
  | bin (b : Bytes) | list (items : List Value) | map (entries : List (Value × Value))

/-- The exceptions the modelled functions raise, with their messages. -/
inductive PyError
  | value (message : String) | permission (message : String) | key (message : String)
  | runtime (message : String) | type (message : String) | integrity
  | overflow (message : String) | lookup (message : String)
  | invalidTag | invalidSignature | os (message : String)
  deriving DecidableEq

abbrev Result := Except PyError

/-- `if c: raise e`. -/
def raiseIf (c : Prop) [Decidable c] (e : PyError) : Result Unit := if c then .error e else .ok ()

/-- The value of an optional, or `raise e`. -/
def fetched {α : Type} (x : Option α) (e : PyError) : Result α := x.elim (.error e) .ok

@[simp] theorem raiseIf_ok {c : Prop} [Decidable c] {e : PyError} {u : Unit} :
    raiseIf c e = .ok u ↔ ¬ c := by
  unfold raiseIf
  split <;> simp_all

@[simp] theorem fetched_ok {α : Type} {x : Option α} {e : PyError} {a : α} :
    fetched x e = .ok a ↔ x = some a := by
  cases x <;> simp [fetched]

/-- A computation that raises nothing has run its first part and then the rest. -/
theorem bind_ok {α β : Type} {x : Result α} {f : α → Result β} {b : β} :
    (x >>= f) = .ok b ↔ ∃ a, x = .ok a ∧ f a = .ok b := by
  cases x with
  | error e => simp [bind,Except.bind]
  | ok a => simp [bind,Except.bind]

theorem map_ok {α β : Type} {x : Result α} {f : α → β} {b : β} :
    x.map f = .ok b ↔ ∃ a, x = .ok a ∧ f a = b := by
  cases x with
  | error e => simp [Except.map]
  | ok a => simp [Except.map]

/-- What a traversal returns comes from its elements. -/
theorem mem_mapM {α β : Type} {f : α → Result β} {l : List α} {l' : List β}
    (h : l.mapM f = .ok l') {b : β} (hb : b ∈ l') : ∃ a ∈ l, f a = .ok b := by
  induction l generalizing l' with
  | nil =>
    rw [List.mapM_nil] at h
    cases h
    cases hb
  | cons a l ih =>
    simp only [List.mapM_cons,bind_ok] at h
    obtain ⟨b',hb',rest,hrest,hval⟩ := h
    cases hval
    rcases List.mem_cons.mp hb with rfl | hb
    · exact ⟨a,List.mem_cons_self ..,hb'⟩
    · obtain ⟨a',ha',hfa'⟩ := ih hrest hb
      exact ⟨a',List.mem_cons_of_mem _ ha',hfa'⟩

theorem toOption_eq_some {α : Type} {x : Result α} {a : α} : x.toOption = some a ↔ x = .ok a := by
  cases x <;> simp [Except.toOption]

/-- Conversions of the interpreter, msgpack and hashlib, as the code calls them;
`iter` and `dict` read a falsy value as empty, a float is its IEEE bits. -/
structure Runtime where
  str : Value → String
  repr : Value → String
  int : Value → Result ℤ
  float : Value → Result UInt64
  bytes : Value → Result Bytes
  list : Value → Result (List Value)
  iter : Value → Result (List Value)
  dict : Value → Result (List (Value × Value))
  packb : Value → Result Bytes
  unpackb : Bytes → Result Value
  blake2s : (person : String) → (digestSize : ℕ) → Bytes → String
  sha256 : Bytes → String

namespace Value

/-- `body.get(name)` on a decoded map. -/
def field (entries : List (Value × Value)) (name : String) : Option Value :=
  (entries.find? fun e => match e.1 with | .str s => s = name | _ => false).map Prod.snd

def fieldOr (entries : List (Value × Value)) (name : String) (default : Value) : Value :=
  (field entries name).getD default

def asMap : Value → Option (List (Value × Value))
  | .map entries => some entries
  | _ => none

def isBin : Value → Bool
  | .bin _ => true
  | _ => false

def isStr (v : Value) (s : String) : Bool :=
  match v with
  | .str s' => s' = s
  | _ => false

theorem isStr_iff {key : Value} {k : String} : key.isStr k ↔ key = .str k := by
  cases key <;> simp [isStr]

theorem field_cons (key old : Value) (es : List (Value × Value)) (k : String) :
    field ((key,old) :: es) k = if key.isStr k then some old else field es k := by
  cases key with
  | str s =>
    by_cases hs : s = k
    · simp [field,isStr,hs]
    · simp [field,isStr,hs]
  | _ => simp [field,isStr]

@[simp] theorem field_nil (k : String) : field [] k = none := rfl

@[simp] theorem field_text (s k : String) (v : Value) (es : List (Value × Value)) :
    field ((.str s,v) :: es) k = if s = k then some v else field es k := by
  simp only [field_cons,isStr,decide_eq_true_eq]

theorem field_isSome {es : List (Value × Value)} {k : String} :
    (field es k).isSome ↔ .str k ∈ es.map Prod.fst := by
  induction es with
  | nil => simp [field]
  | cons e es ih =>
    obtain ⟨key,old⟩ := e
    rw [field_cons,List.map_cons,List.mem_cons]
    by_cases hkey : key.isStr k
    · rw [if_pos hkey]
      simp [isStr_iff.mp hkey]
    · have hne : Value.str k ≠ key := fun h => hkey (isStr_iff.mpr h.symm)
      simp [hkey,hne,ih]

end Value

/-- The characters `str.strip` removes. -/
def isPySpace (c : Char) : Bool :=
  let n := c.toNat
  (9 ≤ n && n ≤ 13) || (28 ≤ n && n ≤ 32) || n == 133 || n == 160 || n == 5760 ||
    (8192 ≤ n && n ≤ 8202) || n == 8232 || n == 8233 || n == 8239 || n == 8287 || n == 12288

def strip (s : String) : String :=
  String.ofList ((s.toList.dropWhile isPySpace).reverse.dropWhile isPySpace).reverse

theorem dropWhile_stop {p : Char → Bool} {c : Char} (hc : p c = false) (xs : List Char) :
    (xs ++ [c]).dropWhile p = xs.dropWhile p ++ [c] := by
  induction xs with
  | nil => simp [hc]
  | cons x xs ih =>
    by_cases hx : p x
    · simpa [hx] using ih
    · simp [hx]

/-- What `strip` leaves starts with no space. -/
theorem dropWhile_strip (p : Char → Bool) (l : List Char) :
    (((l.dropWhile p).reverse.dropWhile p).reverse).dropWhile p =
      ((l.dropWhile p).reverse.dropWhile p).reverse := by
  cases hd : l.dropWhile p with
  | nil => simp
  | cons c cs =>
    have hc : p c = false := by
      have hhead := List.head_dropWhile_not (p := p) (l := l) (by simp [hd])
      simpa [hd] using hhead
    rw [List.reverse_cons,dropWhile_stop hc]
    simp [hc]

theorem strip_strip (s : String) : strip (strip s) = strip s := by
  simp only [strip,String.toList_ofList]
  rw [dropWhile_strip isPySpace s.toList,List.reverse_reverse,List.dropWhile_idempotent]

/-- `str.lower`, exact wherever an ASCII pattern is matched against the result:
the Kelvin sign is the only other character with an ASCII lower case. -/
def lowerChar (c : Char) : Char := if c.toNat = 8490 then 'k' else c.toLower

def lower (s : String) : String := String.ofList (s.toList.map lowerChar)

def isHexDigit (c : Char) : Bool := ('0' ≤ c && c ≤ '9') || ('a' ≤ c && c ≤ 'f')

def isAlpha (c : Char) : Bool := ('A' ≤ c && c ≤ 'Z') || ('a' ≤ c && c ≤ 'z')

def isDigit (c : Char) : Bool := '0' ≤ c && c ≤ '9'

/-- `re.fullmatch("[0-9a-f]{n}", s)`. -/
def isHex (n : ℕ) (s : String) : Bool := s.toList.length = n && s.toList.all isHexDigit

theorem hexDigit_range {c : Char} (h : isHexDigit c) :
    (48 ≤ c.toNat ∧ c.toNat ≤ 57) ∨ (97 ≤ c.toNat ∧ c.toNat ≤ 102) := by
  simp only [isHexDigit,Bool.or_eq_true,Bool.and_eq_true,decide_eq_true_eq,Char.le_def,
    UInt32.le_iff_toNat_le] at h
  exact h

theorem isPySpace_hex {c : Char} (h : isHexDigit c) : isPySpace c = false := by
  have hrange := hexDigit_range h
  simp only [isPySpace,Bool.or_eq_false_iff,Bool.and_eq_false_iff,decide_eq_false_iff_not,
    beq_eq_false_iff_ne]
  omega

theorem lowerChar_hex {c : Char} (h : isHexDigit c) : lowerChar c = c := by
  have hrange := hexDigit_range h
  have hkelvin : c.toNat ≠ 8490 := by omega
  have hupper : ¬ (c.val ≥ 'A'.val ∧ c.val ≤ 'Z'.val) := by
    simp only [ge_iff_le,UInt32.le_iff_toNat_le]
    change ¬ (65 ≤ c.toNat ∧ c.toNat ≤ 90)
    omega
  rw [lowerChar,if_neg hkelvin]
  exact dif_neg hupper

theorem dropWhile_none {p : Char → Bool} {cs : List Char} (h : ∀ c ∈ cs, p c = false) :
    cs.dropWhile p = cs := by
  cases cs with
  | nil => rfl
  | cons c cs => simp [h c (by simp)]

theorem strip_none {s : String} (h : ∀ c ∈ s.toList, isPySpace c = false) : strip s = s := by
  rw [strip,dropWhile_none h,dropWhile_none fun c hc => h c (by simpa using hc)]
  simp

/-- Hexadecimal text is its own normal form. -/
theorem normal_hex {n : ℕ} {s : String} (h : isHex n s) : lower (strip s) = s := by
  simp only [isHex,Bool.and_eq_true,List.all_eq_true] at h
  have hspace : ∀ c ∈ s.toList, isPySpace c = false := fun c hc => isPySpace_hex (h.2 c hc)
  have hstrip : strip s = s := strip_none hspace
  have hlower : s.toList.map lowerChar = s.toList := by
    conv_rhs => rw [← List.map_id s.toList]
    exact List.map_congr_left fun c hc => lowerChar_hex (h.2 c hc)
  rw [hstrip,lower,hlower,String.ofList_toList]

theorem lowerChar_cases (c : Char) : lowerChar c = c ∨
    (97 ≤ (lowerChar c).toNat ∧ (lowerChar c).toNat ≤ 122 ∧
      (c.toNat = 8490 ∨ (65 ≤ c.toNat ∧ c.toNat ≤ 90))) := by
  unfold lowerChar
  split
  · rename_i h
    exact Or.inr ⟨by decide,by decide,Or.inl h⟩
  · unfold Char.toLower
    split
    · rename_i h
      right
      have h1 : 65 ≤ c.toNat := h.1
      have h2 : c.toNat ≤ 90 := h.2
      have hval : (c.val + ('a'.val - 'A'.val)).toNat = c.toNat + 32 := by
        rw [UInt32.toNat_add]
        change (c.toNat + 32) % 2 ^ 32 = _
        omega
      change 97 ≤ (c.val + ('a'.val - 'A'.val)).toNat ∧
        (c.val + ('a'.val - 'A'.val)).toNat ≤ 122 ∧ _
      omega
    · exact Or.inl rfl

theorem isPySpace_lower (c : Char) : isPySpace (lowerChar c) = isPySpace c := by
  rcases lowerChar_cases c with h | ⟨hlow,hhigh,hc⟩
  · rw [h]
  · have hspace (d : Char) (h : (97 ≤ d.toNat ∧ d.toNat ≤ 122) ∨ d.toNat = 8490 ∨
        (65 ≤ d.toNat ∧ d.toNat ≤ 90)) : isPySpace d = false := by
      simp only [isPySpace,Bool.or_eq_false_iff,Bool.and_eq_false_iff,decide_eq_false_iff_not,
        beq_eq_false_iff_ne]
      omega
    rw [hspace c (Or.inr hc),hspace _ (Or.inl ⟨hlow,hhigh⟩)]

theorem lowerChar_lower (c : Char) : lowerChar (lowerChar c) = lowerChar c := by
  rcases lowerChar_cases (lowerChar c) with h | ⟨-,-,hc⟩
  · exact h
  · rcases lowerChar_cases c with h | ⟨hlow,hhigh,-⟩
    · rw [h,h]
    · omega

/-- Text that is trimmed and lowered stays as it is when that is done again. -/
theorem lower_again (s : String) : lower (strip (lower (strip s))) = lower (strip s) := by
  have hmap (l : List Char) : (l.map lowerChar).dropWhile isPySpace =
      (l.dropWhile isPySpace).map lowerChar := by
    rw [List.dropWhile_map]
    congr 2
    exact funext isPySpace_lower
  have hstrip (t : String) : strip (lower t) = lower (strip t) := by
    simp only [strip,lower,String.toList_ofList,hmap,← List.map_reverse]
  rw [hstrip,strip_strip]
  simp only [lower,String.toList_ofList,List.map_map]
  congr 2
  exact funext lowerChar_lower

/-- A pattern of one leading character class and at most `n` further characters. -/
def matchesWord (head rest : Char → Bool) (n : ℕ) (s : String) : Bool :=
  match s.toList with
  | [] => false
  | c :: cs => head c && cs.length ≤ n && cs.all rest

theorem matchesWord_length {head rest : Char → Bool} {n : ℕ} {s : String}
    (h : matchesWord head rest n s) : s.toList.length ≤ n + 1 := by
  unfold matchesWord at h
  split at h
  · cases h
  · simp only [Bool.and_eq_true,decide_eq_true_eq] at h
    simp only [*,List.length_cons]
    omega

def sortedStrings (xs : List String) : List String := xs.insertionSort (· ≤ ·)

theorem sortedStrings_perm (xs : List String) : (sortedStrings xs).Perm xs :=
  List.perm_insertionSort _ _

theorem mem_sortedStrings {xs : List String} {x : String} : x ∈ sortedStrings xs ↔ x ∈ xs :=
  List.mem_insertionSort _

/-- What is sorted does not depend on its order. -/
theorem sortedStrings_congr {xs ys : List String} (h : xs.Perm ys) :
    sortedStrings xs = sortedStrings ys := by
  have hsorted : ∀ l : List String, (l.insertionSort (· ≤ ·)).Pairwise (· ≤ ·) :=
    fun l => List.pairwise_insertionSort _ l
  refine List.Perm.eq_of_pairwise ?_ (hsorted xs) (hsorted ys) ?_
  · intro x y _ _ hxy hyx
    exact String.le_antisymm hxy hyx
  · exact ((sortedStrings_perm xs).trans h).trans (sortedStrings_perm ys).symm

/-- `s[:n]`. -/
def cut (n : ℕ) (s : String) : String := String.ofList (s.toList.take n)

def hexDigitValue (c : Char) : Option ℕ :=
  if '0' ≤ c ∧ c ≤ '9' then some (c.toNat - '0'.toNat)
  else if 'a' ≤ c ∧ c ≤ 'f' then some (c.toNat - 'a'.toNat + 10)
  else if 'A' ≤ c ∧ c ≤ 'F' then some (c.toNat - 'A'.toNat + 10)
  else none

def isAsciiSpace (c : Char) : Bool := c = ' ' || (9 ≤ c.toNat && c.toNat ≤ 13)

/-- `bytes.fromhex`, which skips ASCII whitespace between bytes. -/
def fromHexChars : List Char → Option Bytes
  | [] => some []
  | [c] => if isAsciiSpace c then some [] else none
  | c :: d :: cs =>
    if isAsciiSpace c then fromHexChars (d :: cs)
    else do
      let high ← hexDigitValue c
      let low ← hexDigitValue d
      let rest ← fromHexChars cs
      return UInt8.ofNat (16 * high + low) :: rest

def fromHex (s : String) : Option Bytes := fromHexChars s.toList

def startsWith (s p : String) : Bool := p.toList.isPrefixOf s.toList

end Anet
