import Anet.Python

/-! Unpadded URL-safe base64, and the decoder of the standard library, which skips the
characters that are not in its alphabet. -/
namespace Anet

def urlsafeAlphabet : List Char :=
  "ABCDEFGHIJKLMNOPQRSTUVWXYZabcdefghijklmnopqrstuvwxyz0123456789-_".toList

def sextetChar (n : ℕ) : Char := urlsafeAlphabet.getD n 'A'

/-- The six bits of a character; `urlsafe_b64decode` leaves `+` and `/` readable. -/
def sextet (c : Char) : Option ℕ :=
  if 'A' ≤ c ∧ c ≤ 'Z' then some (c.toNat - 65)
  else if 'a' ≤ c ∧ c ≤ 'z' then some (c.toNat - 71)
  else if '0' ≤ c ∧ c ≤ '9' then some (c.toNat + 4)
  else if c = '+' ∨ c = '-' then some 62
  else if c = '/' ∨ c = '_' then some 63
  else none

def b64Chars : Bytes → List Char
  | [] => []
  | [a] => [sextetChar (a.toNat / 4),sextetChar (a.toNat % 4 * 16)]
  | [a,b] => [sextetChar (a.toNat / 4),sextetChar (a.toNat % 4 * 16 + b.toNat / 16),
      sextetChar (b.toNat % 16 * 4)]
  | a :: b :: c :: rest => sextetChar (a.toNat / 4) ::
      sextetChar (a.toNat % 4 * 16 + b.toNat / 16) ::
      sextetChar (b.toNat % 16 * 4 + c.toNat / 64) :: sextetChar (c.toNat % 64) :: b64Chars rest

/-- `b64e`: the padding is left out. -/
def b64e (raw : Bytes) : String := String.ofList (b64Chars raw)

/-- `binascii.a2b_base64`: `quad` counts the characters of the open group, `left` holds the
bits that are not in a byte yet, `pads` the signs of padding in a row. -/
def decodeSextets : (quad left pads : ℕ) → List Char → Option Bytes
  | quad,_,_,[] => if quad = 0 then some [] else none
  | quad,left,pads,c :: cs =>
    if c = '=' then
      if 2 ≤ quad ∧ 4 ≤ quad + (pads + 1) then some []
      else decodeSextets quad left (if 2 ≤ quad then pads + 1 else pads) cs
    else match sextet c with
      | none => decodeSextets quad left pads cs
      | some n =>
        if quad = 0 then decodeSextets 1 n 0 cs
        else if quad = 1 then
          (decodeSextets 2 (n % 16) 0 cs).map (UInt8.ofNat (4 * left + n / 16) :: ·)
        else if quad = 2 then
          (decodeSextets 3 (n % 4) 0 cs).map (UInt8.ofNat (16 * left + n / 4) :: ·)
        else (decodeSextets 0 0 0 cs).map (UInt8.ofNat (64 * left + n) :: ·)

/-- `b64d`, or `none` where it raises. -/
def b64d (text : String) : Option Bytes :=
  let cs := (strip text).toList
  let padded := cs ++ List.replicate ((4 - cs.length % 4) % 4) '='
  if padded.all fun c => c.toNat < 128 then decodeSextets 0 0 0 padded else none

theorem sextetChar_reads {n : ℕ} (h : n < 64) :
    sextet (sextetChar n) = some n ∧ sextetChar n ≠ '=' ∧ isPySpace (sextetChar n) = false ∧
      (sextetChar n).toNat < 128 := by
  have hall : ∀ m : Fin 64, sextet (sextetChar m) = some m.val ∧ sextetChar m ≠ '=' ∧
      isPySpace (sextetChar m) = false ∧ (sextetChar m).toNat < 128 := by decide +kernel
  exact hall ⟨n,h⟩

section Steps

variable {n quad left pads : ℕ} (h : n < 64) (cs : List Char)
include h

/-- One turn of the decoder on a character of the alphabet. -/
theorem decode_sextet : decodeSextets quad left pads (sextetChar n :: cs) =
    if quad = 0 then decodeSextets 1 n 0 cs
    else if quad = 1 then
      (decodeSextets 2 (n % 16) 0 cs).map (UInt8.ofNat (4 * left + n / 16) :: ·)
    else if quad = 2 then
      (decodeSextets 3 (n % 4) 0 cs).map (UInt8.ofNat (16 * left + n / 4) :: ·)
    else (decodeSextets 0 0 0 cs).map (UInt8.ofNat (64 * left + n) :: ·) := by
  obtain ⟨hs,hne,-,-⟩ := sextetChar_reads h
  rw [decodeSextets,if_neg hne,hs]

theorem decode_first : decodeSextets 0 left pads (sextetChar n :: cs) = decodeSextets 1 n 0 cs := by
  rw [decode_sextet h,if_pos rfl]

theorem decode_second : decodeSextets 1 left pads (sextetChar n :: cs) =
    (decodeSextets 2 (n % 16) 0 cs).map (UInt8.ofNat (4 * left + n / 16) :: ·) := by
  rw [decode_sextet h,if_neg (by decide),if_pos rfl]

theorem decode_third : decodeSextets 2 left pads (sextetChar n :: cs) =
    (decodeSextets 3 (n % 4) 0 cs).map (UInt8.ofNat (16 * left + n / 4) :: ·) := by
  rw [decode_sextet h,if_neg (by decide),if_neg (by decide),if_pos rfl]

theorem decode_fourth : decodeSextets 3 left pads (sextetChar n :: cs) =
    (decodeSextets 0 0 0 cs).map (UInt8.ofNat (64 * left + n) :: ·) := by
  rw [decode_sextet h,if_neg (by decide),if_neg (by decide),if_neg (by decide)]

end Steps

theorem byte_eq {a : UInt8} {n : ℕ} (h : n = a.toNat) : UInt8.ofNat n = a := by
  rw [h]
  exact UInt8.ofNat_toNat

/-- The decoder gives the bytes back when the padding is put behind their characters. -/
theorem decode_b64Chars (raw : Bytes) : decodeSextets 0 0 0
    (b64Chars raw ++ List.replicate ((4 - (b64Chars raw).length % 4) % 4) '=') = some raw := by
  induction raw using b64Chars.induct with
  | case1 => rfl
  | case2 a =>
    have ha := a.toNat_lt
    simp only [b64Chars,List.length_cons,List.length_nil,List.cons_append,List.nil_append]
    rw [decode_first (by omega),decode_second (by omega),byte_eq (a := a) (by omega)]
    rfl
  | case3 a b =>
    have ha := a.toNat_lt
    have hb := b.toNat_lt
    simp only [b64Chars,List.length_cons,List.length_nil,List.cons_append,List.nil_append]
    rw [decode_first (by omega),decode_second (by omega),decode_third (by omega),
      byte_eq (a := a) (by omega),byte_eq (a := b) (by omega)]
    rfl
  | case4 a b c rest ih =>
    have ha := a.toNat_lt
    have hb := b.toNat_lt
    have hc := c.toNat_lt
    have hlength : ((b64Chars rest).length + 1 + 1 + 1 + 1) % 4 = (b64Chars rest).length % 4 := by
      omega
    simp only [b64Chars,List.length_cons,List.cons_append]
    rw [decode_first (by omega),decode_second (by omega),decode_third (by omega),
      decode_fourth (by omega),hlength,ih,byte_eq (a := a) (by omega),byte_eq (a := b) (by omega),
      byte_eq (a := c) (by omega)]
    rfl

/-- Every character is one of the alphabet. -/
theorem b64Chars_mem (raw : Bytes) : ∀ c ∈ b64Chars raw, ∃ n < 64, c = sextetChar n := by
  induction raw using b64Chars.induct with
  | case1 => nofun
  | case2 a =>
    have ha := a.toNat_lt
    intro c hc
    simp only [b64Chars,List.mem_cons,List.not_mem_nil,or_false] at hc
    rcases hc with rfl | rfl
    · exact ⟨_,by omega,rfl⟩
    · exact ⟨_,by omega,rfl⟩
  | case3 a b =>
    have ha := a.toNat_lt
    have hb := b.toNat_lt
    intro c hc
    simp only [b64Chars,List.mem_cons,List.not_mem_nil,or_false] at hc
    rcases hc with rfl | rfl | rfl
    · exact ⟨_,by omega,rfl⟩
    · exact ⟨_,by omega,rfl⟩
    · exact ⟨_,by omega,rfl⟩
  | case4 a b c rest ih =>
    have ha := a.toNat_lt
    have hb := b.toNat_lt
    have hc' := c.toNat_lt
    intro d hd
    simp only [b64Chars,List.mem_cons] at hd
    rcases hd with rfl | rfl | rfl | rfl | hd
    · exact ⟨_,by omega,rfl⟩
    · exact ⟨_,by omega,rfl⟩
    · exact ⟨_,by omega,rfl⟩
    · exact ⟨_,by omega,rfl⟩
    · exact ih d hd

/-- Text without spaces is not changed by `strip`. -/
theorem b64d_b64e (raw : Bytes) : b64d (b64e raw) = some raw := by
  have hspace : ∀ c ∈ (b64e raw).toList, isPySpace c = false := by
    intro c hc
    rw [b64e,String.toList_ofList] at hc
    obtain ⟨n,hn,rfl⟩ := b64Chars_mem raw c hc
    exact (sextetChar_reads hn).2.2.1
  have hascii : ((b64Chars raw) ++ List.replicate ((4 - (b64Chars raw).length % 4) % 4) '=').all
      (fun c => c.toNat < 128) = true := by
    rw [List.all_eq_true]
    intro c hc
    rcases List.mem_append.mp hc with hc | hc
    · obtain ⟨n,hn,rfl⟩ := b64Chars_mem raw c hc
      exact decide_eq_true (sextetChar_reads hn).2.2.2
    · rw [List.eq_of_mem_replicate hc]
      rfl
  have hchars : (strip (b64e raw)).toList = b64Chars raw := by
    rw [strip_none hspace,b64e,String.toList_ofList]
  unfold b64d
  rw [hchars]
  exact (if_pos hascii).trans (decode_b64Chars raw)

end Anet
