import Anet.Base64
import Anet.PeerBook

/-! The checks and the JSON fields that the signed objects of the control plane share. -/
namespace Anet

/-- The functions of the standard library and of the cryptography package the control plane
calls. The text of a string is the string, and fields that can be packed can be packed with a
signature behind them. -/
structure ControlLibrary where
  rt : Runtime
  crypto : Crypto
  urls : UrlLibrary
  sha256 : Bytes → Bytes
  deriveHumanId : Bytes → String
  sha256_length : ∀ b, (sha256 b).length = 32
  str_text : ∀ s, rt.str (.str s) = s
  pack_signed : ∀ (fields : List Value) (raw signature : Bytes), fields.length ≤ 16 →
    signature.length = 64 → rt.canonicalPack (.list fields) = .ok raw →
    ∃ raw', rt.canonicalPack (.list (fields ++ [.bin signature])) = .ok raw'

namespace ControlPlane

def genesisDigest : Bytes := List.replicate 32 0
def maxClockSkewMs : ℤ := 5 * 60 * 1000
def maxDescriptorTtlMs : ℤ := 366 * 24 * 60 * 60 * 1000
def maxReachabilityTtlMs : ℤ := 15 * 60 * 1000
def maxHumanGrantTtlMs : ℤ := 90 * 24 * 60 * 60 * 1000
def maxCapabilities : ℕ := 64
def maxCandidates : ℕ := 16
def maxProtocolVersions : ℕ := 16

/-- An identifier: a mark and 32 characters of base32. -/
def isBase32Id (mark : String) (s : String) : Bool :=
  startsWith s mark && s.toList.length = 35 &&
    (s.toList.drop 3).all fun c => ('a' ≤ c && c ≤ 'z') || ('2' ≤ c && c ≤ '7')

end ControlPlane

/-- `_NODE_ID_RE.fullmatch`. -/
def isControlNodeId (s : String) : Bool := ControlPlane.isBase32Id "an1" s

namespace ControlPlane

/-- `_HUMAN_ID_RE.fullmatch`. -/
def isHumanId (s : String) : Bool := isBase32Id "hu1" s

/-- `_TOKEN_RE.fullmatch`. -/
def isToken (s : String) : Bool :=
  matchesWord (fun c => isAlpha c || isDigit c)
    (fun c => isAlpha c || isDigit c || c ∈ ['.','_','+',':','/','-']) 95 s

/-- The words of a capability behind its first letter. -/
def capabilityTail : (separated : Bool) → List Char → Bool
  | separated,[] => !separated
  | separated,c :: cs =>
    if ('a' ≤ c && c ≤ 'z') || isDigit c then capabilityTail false cs
    else if c ∈ ['.','_','-'] ∧ ¬ separated then capabilityTail true cs
    else false

/-- `_CAPABILITY_RE.fullmatch`. -/
def isCapability (s : String) : Bool :=
  match s.toList with
  | [] => false
  | c :: cs => 'a' ≤ c && c ≤ 'z' && capabilityTail false cs

/-- `_OPAQUE_RE.fullmatch`. -/
def isOpaque (s : String) : Bool :=
  1 ≤ s.toList.length && s.toList.length ≤ 128 &&
    s.toList.all fun c => isAlpha c || isDigit c || c = '_' || c = '-'

/-- `tuple(sorted(set(values)))`. -/
def sortedSet (values : List String) : List String := sortedStrings values.dedup

/-- `_validate_bytes`. -/
def validateBytes (size : ℕ) (name : String) (raw : Bytes) : Result Unit :=
  raiseIf (raw.length ≠ size) (.value s!"{name} must be {size} bytes")

/-- `_validate_node_id`. -/
def validateNodeId (nodeId : String) : Result Unit :=
  raiseIf (¬ isControlNodeId nodeId) (.value "invalid Anet node id")

/-- `_validate_human_id`. -/
def validateHumanId (humanId : String) : Result Unit :=
  raiseIf (¬ isHumanId humanId) (.value "invalid Anet human id")

/-- `_validate_label`. -/
def validateLabel (label : String) : Result Unit :=
  raiseIf (64 < label.toList.length ∨ label.toList.any fun c => c.toNat < 32)
    (.value "invalid node label")

/-- `_validate_capabilities`. -/
def validateCapabilities (allowEmpty : Bool) (values : List String) : Result Unit := do
  raiseIf ((values = [] ∧ ¬ allowEmpty) ∨ maxCapabilities < values.length)
    (.value "capability set has an invalid size")
  raiseIf (values ≠ sortedSet values) (.value "capabilities must be unique and sorted")
  raiseIf (∃ item ∈ values, ¬ isCapability item) (.value "invalid capability token")

/-- `_validate_protocol_versions`. -/
def validateProtocolVersions (values : List String) : Result Unit := do
  raiseIf (values = [] ∨ maxProtocolVersions < values.length)
    (.value "protocol version set must be non-empty and bounded")
  raiseIf (values ≠ sortedSet values) (.value "protocol versions must be unique and sorted")
  raiseIf (∃ item ∈ values, ¬ isToken item) (.value "invalid protocol version")

/-- `_validate_candidates`. -/
def validateCandidates (lib : ControlLibrary) (values : List String) : Result Unit := do
  raiseIf (maxCandidates < values.length) (.value "too many reachability candidates")
  raiseIf (values ≠ sortedSet values)
    (.value "reachability candidates must be unique and sorted")
  values.forM (parseLocator lib.rt lib.urls)

/-- `_validate_revision`. -/
def validateRevision (sequence : ℤ) (previousDigest : Bytes) : Result Unit := do
  raiseIf (sequence < 1) (.value "sequence must be a positive integer")
  validateBytes 32 "previous digest" previousDigest
  raiseIf (sequence = 1 ∧ previousDigest ≠ genesisDigest)
    (.value "genesis revision must use the genesis digest")
  raiseIf (1 < sequence ∧ previousDigest = genesisDigest)
    (.value "non-genesis revision must name its predecessor")

/-- `_validate_window`. -/
def validateWindow (issuedMs expiresMs now maxTtlMs : ℤ) (name : String) : Result Unit := do
  raiseIf (issuedMs ≤ 0 ∨ expiresMs ≤ issuedMs) (.value s!"invalid {name} validity window")
  raiseIf (maxTtlMs < expiresMs - issuedMs) (.value s!"{name} validity window is too long")
  raiseIf (now + maxClockSkewMs < issuedMs)
    (.value s!"{name} was issued too far in the future")
  raiseIf (expiresMs ≤ now) (.value s!"{name} has expired")

/-- `_object_digest`. -/
def objectDigest (lib : ControlLibrary) (fields : List Value) (signature : Bytes) :
    Result Bytes :=
  (lib.rt.canonicalPack (.list (fields ++ [.bin signature]))).map lib.sha256

/-- The signature of an object over its fields. -/
def verifySignature (lib : ControlLibrary) (name : String) (signPublic signature : Bytes)
    (fields : List Value) : Result Unit := do
  validateBytes 64 name signature
  let message ← lib.rt.canonicalPack (.list fields)
  lib.crypto.verify signPublic signature message

/-- `_require_exact_fields`. -/
def requireExactFields (required : List String) (entries : List (Value × Value)) :
    Result Unit := do
  let missing := sortedStrings (required.filter fun name => (Value.field entries name).isNone)
  let missingNames := ", ".intercalate missing
  raiseIf (missing ≠ []) (.value s!"control-plane object is missing fields: {missingNames}")
  let names := entries.filterMap fun e => match e.1 with | .str s => some s | _ => none
  -- the names of unknown fields that are not text cannot be sorted and joined
  raiseIf (names.length ≠ entries.length) (.type "unknown fields that are not text")
  let unknown := sortedStrings (names.filter fun name => name ∉ required)
  let unknownNames := ", ".intercalate unknown
  raiseIf (unknown ≠ []) (.value s!"control-plane object has unknown fields: {unknownNames}")

/-- `_decode_bytes`. -/
def decodeBytes (lib : ControlLibrary) (size : ℕ) (name : String) (text : Value) :
    Result Bytes := do
  let raw ← fetched (b64d (lib.rt.str text)) (.value s!"invalid {name}")
  validateBytes size name raw
  return raw

/-- `_parse_int`. -/
def parseInt (name : String) : Value → Result ℤ
  | .int i => .ok i
  | _ => .error (.value s!"{name} must be an integer")

/-- `value[name]`, after the fields have been checked. -/
def item (entries : List (Value × Value)) (name : String) : Value :=
  Value.fieldOr entries name .nil

/-- A field that has to be a list, as text. -/
def parseTexts (lib : ControlLibrary) (message : String) : Value → Result (List String)
  | .list items => .ok (items.map lib.rt.str)
  | _ => .error (.value message)

def texts (values : List String) : Value := .list (values.map .str)

def digestText (raw : Bytes) : Value := .str (b64e raw)

section Codec

variable {lib : ControlLibrary}

theorem sortedStrings_nil {xs : List String} : sortedStrings xs = [] ↔ xs = [] := by
  rw [sortedStrings,← List.length_eq_zero_iff,List.length_insertionSort,List.length_eq_zero_iff]

/-- The fields of an accepted map are the required ones. -/
theorem requireExactFields_ok {required : List String} {entries : List (Value × Value)} {u : Unit} :
    requireExactFields required entries = .ok u ↔
      (∀ name ∈ required, (Value.field entries name).isSome) ∧
        ∀ e ∈ entries, ∃ name ∈ required, e.1 = .str name := by
  simp only [requireExactFields,bind_ok,raiseIf_ok,not_not,sortedStrings_nil,
    List.filter_eq_nil_iff,List.filterMap_length_eq_length]
  constructor
  · rintro ⟨_,hmissing,_,htext,hunknown⟩
    refine ⟨fun name hname => ?_,fun e he => ?_⟩
    · have hfield := hmissing name hname
      cases hget : Value.field entries name with
      | none => simp [hget] at hfield
      | some v => rfl
    · cases hkey : e.1 with
      | str name =>
        have hknown := hunknown name (List.mem_filterMap.mpr ⟨e,he,by simp [hkey]⟩)
        exact ⟨name,by simpa using hknown,rfl⟩
      | _ =>
        have hsome := htext e he
        simp [hkey] at hsome
  · rintro ⟨hfields,hkeys⟩
    refine ⟨(),fun name hname => ?_,(),fun e he => ?_,fun name hname => ?_⟩
    · have hfield := hfields name hname
      cases hget : Value.field entries name with
      | none => simp [hget] at hfield
      | some v => simp
    · obtain ⟨name,-,hkey⟩ := hkeys e he
      simp [hkey]
    · obtain ⟨e,he,hname⟩ := List.mem_filterMap.mp hname
      obtain ⟨name',hname',hkey⟩ := hkeys e he
      simp only [hkey,Option.some.injEq] at hname
      simpa [← hname] using hname'

/-- A map with just the required keys has no field missing and none unknown. -/
theorem requireExactFields_keys {required : List String} {entries : List (Value × Value)}
    (h : entries.map Prod.fst = required.map .str) :
    requireExactFields required entries = .ok () := by
  refine requireExactFields_ok.mpr ⟨fun name hname => ?_,fun e he => ?_⟩
  · rw [Value.field_isSome,h]
    exact List.mem_map_of_mem hname
  · have hkey := List.mem_map_of_mem (f := Prod.fst) he
    rw [h] at hkey
    obtain ⟨name,hname,heq⟩ := List.mem_map.mp hkey
    exact ⟨name,hname,heq.symm⟩

theorem decodeBytes_text {size : ℕ} {name : String} {raw : Bytes} (h : raw.length = size) :
    decodeBytes lib size name (digestText raw) = .ok raw := by
  simp [decodeBytes,digestText,lib.str_text,b64d_b64e,fetched,validateBytes,raiseIf,h,bind,
    Except.bind,pure,Except.pure]

theorem parseTexts_texts {message : String} {values : List String} :
    parseTexts lib message (texts values) = .ok values := by
  have hmap : (values.map Value.str).map lib.rt.str = values := by
    rw [List.map_map]
    conv_rhs => rw [← List.map_id values]
    exact List.map_congr_left fun s _ => lib.str_text s
  simp only [parseTexts,texts,hmap]

theorem validateBytes_ok {size : ℕ} {name : String} {raw : Bytes} {u : Unit} :
    validateBytes size name raw = .ok u ↔ raw.length = size := by
  simp [validateBytes]

theorem verifySignature_size {name : String} {signPublic signature : Bytes}
    {fields : List Value} {u : Unit}
    (h : verifySignature lib name signPublic signature fields = .ok u) : signature.length = 64 := by
  simp only [verifySignature,bind_ok,validateBytes_ok] at h
  obtain ⟨-,hsize,-⟩ := h
  exact hsize

/-- What carries a valid signature has a digest. -/
theorem objectDigest_signed {name : String} {signPublic signature : Bytes} {fields : List Value}
    {u : Unit} (hfields : fields.length ≤ 16)
    (h : verifySignature lib name signPublic signature fields = .ok u) :
    ∃ digest, objectDigest lib fields signature = .ok digest := by
  simp only [verifySignature,bind_ok,validateBytes_ok] at h
  obtain ⟨-,hsize,raw,hraw,-⟩ := h
  obtain ⟨raw',hraw'⟩ := lib.pack_signed fields raw signature hfields hsize hraw
  exact ⟨lib.sha256 raw',by rw [objectDigest,hraw']; rfl⟩

theorem objectDigest_length {fields : List Value} {signature digest : Bytes}
    (h : objectDigest lib fields signature = .ok digest) : digest.length = 32 := by
  obtain ⟨raw,-,rfl⟩ := map_ok.mp h
  exact lib.sha256_length raw

/-- A window that was open is open again exactly between these two bounds. -/
theorem validateWindow_again {issuedMs expiresMs now now' ttl : ℤ} {name : String} {u v : Unit}
    (h : validateWindow issuedMs expiresMs now ttl name = .ok u) :
    validateWindow issuedMs expiresMs now' ttl name = .ok v ↔
      issuedMs ≤ now' + maxClockSkewMs ∧ now' < expiresMs := by
  simp only [validateWindow,bind_ok,raiseIf_ok,not_lt,not_le] at h ⊢
  obtain ⟨_,hform,_,hlength,-⟩ := h
  constructor
  · rintro ⟨_,-,_,-,_,hissued,hexpires⟩
    exact ⟨hissued,hexpires⟩
  · rintro ⟨hissued,hexpires⟩
    exact ⟨(),hform,(),hlength,(),hissued,hexpires⟩

theorem validateRevision_genesis {sequence : ℤ} {previousDigest : Bytes} {u : Unit}
    (h : validateRevision sequence previousDigest = .ok u) (hs : sequence = 1) :
    previousDigest = genesisDigest := by
  simp only [validateRevision,bind_ok,raiseIf_ok] at h
  obtain ⟨_,-,_,-,_,hgenesis,-⟩ := h
  by_contra hne
  exact hgenesis ⟨hs,hne⟩

theorem validateRevision_ok {sequence : ℤ} {previousDigest : Bytes} {u : Unit}
    (h : validateRevision sequence previousDigest = .ok u) :
    1 ≤ sequence ∧ previousDigest.length = 32 := by
  simp only [validateRevision,bind_ok,raiseIf_ok,validateBytes_ok,not_lt] at h
  obtain ⟨_,hsequence,_,hlength,-⟩ := h
  exact ⟨hsequence,hlength⟩

end Codec

end ControlPlane
end Anet
