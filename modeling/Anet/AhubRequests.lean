import Anet.ControlObjects

/-! The two signed objects of the Ahub's own interface: the envelope of a request, and the
proof of a destination that it has a packet. -/
namespace Anet

open ControlPlane

def ahubRequestSkewMs : ℤ := 5 * 60 * 1000

/-- A request as the HTTP layer hands it over. -/
structure AhubRequest where
  nodeId : String
  method : String
  path : String
  issuedMs : ℤ
  nonce : String
  bodySha256 : Bytes
  signature : Bytes
  version : ℤ
  objectType : String
  deriving DecidableEq

structure DestinationSettlement where
  packetId : String
  packetSha256 : Bytes
  uploaderId : String
  destinationId : String
  settledMs : ℤ
  expiresMs : ℤ
  signature : Bytes
  version : ℤ
  objectType : String
  deriving DecidableEq

namespace AhubRequest

def methods : List String := ["GET","POST","PUT","DELETE"]

/-- The upper case of a character, as far as it can be a part of a method. -/
def upperChar (c : Char) : List Char :=
  if c = 'ſ' then ['S'] else if c = 'ﬅ' ∨ c = 'ﬆ' then ['S','T'] else [c.toUpper]

/-- `_validate_method`. -/
def validateMethod (method : String) : Result String := do
  let value := String.ofList (method.toList.flatMap upperChar)
  raiseIf (value ∉ methods) (.value "unsupported Ahub request method")
  return value

/-- Two neighbours in a text. -/
def hasPair (c : Char) : List Char → Bool
  | a :: b :: rest => (a = c && b = c) || hasPair c (b :: rest)
  | _ => false

/-- `_validate_path`. -/
def validatePath (path : String) : Result Unit := do
  let allowed := matchesWord (· = '/')
    (fun c => isAlpha c || isDigit c || c ∈ "._~!$&'()*+,;=:@%/-".toList) 511 path
  raiseIf (¬ allowed ∨ path.toList.length < 2 ∨ hasPair '/' path.toList ∨ hasPair '.' path.toList)
    (.value "invalid Ahub request path")

/-- `_NONCE_RE.fullmatch`. -/
def isNonce (s : String) : Bool :=
  16 ≤ s.toList.length && s.toList.length ≤ 128 &&
    s.toList.all fun c => isAlpha c || isDigit c || c = '_' || c = '-'

/-- `signing_fields`. -/
def signingFields (r : AhubRequest) : List Value :=
  [.int r.version,.str r.objectType,.str r.nodeId,.str r.method,.str r.path,.int r.issuedMs,
    .str r.nonce,.bin r.bodySha256]

/-- `verify`. -/
def verify (lib : ControlLibrary) (descriptor : NodeDescriptor) (body : Bytes) (now : ℤ)
    (r : AhubRequest) : Result Unit := do
  raiseIf (r.version ≠ 1 ∨ r.objectType ≠ "anet.ahub-request.v1")
    (.value "unsupported Ahub request")
  validateNodeId r.nodeId
  raiseIf (r.nodeId ≠ descriptor.nodeId) (.value "Ahub request descriptor mismatch")
  let method ← validateMethod r.method
  raiseIf (r.method ≠ method) (.value "Ahub request method must be canonical")
  validatePath r.path
  raiseIf (ahubRequestSkewMs < (now - r.issuedMs).natAbs)
    (.value "Ahub request is outside the clock window")
  raiseIf (¬ isNonce r.nonce) (.value "invalid Ahub request nonce")
  raiseIf (r.bodySha256.length ≠ 32) (.value "invalid Ahub request body digest")
  raiseIf (r.bodySha256 ≠ lib.sha256 body) (.value "Ahub request body digest mismatch")
  raiseIf (r.signature.length ≠ 64) (.value "invalid Ahub request signature")
  descriptor.verify lib now
  let message ← lib.rt.canonicalPack (.list r.signingFields)
  lib.crypto.verify descriptor.signPublic r.signature message

/-- A request that verifies is from the node of the descriptor and inside the clock window. -/
theorem verify_parts {lib : ControlLibrary} {descriptor : NodeDescriptor} {body : Bytes} {now : ℤ}
    {r : AhubRequest} {u : Unit} (h : r.verify lib descriptor body now = .ok u) :
    r.nodeId = descriptor.nodeId ∧ (now - r.issuedMs).natAbs ≤ ahubRequestSkewMs ∧
      descriptor.verify lib now = .ok () := by
  simp only [verify,bind_ok,raiseIf_ok,not_not,not_lt] at h
  obtain ⟨_,-,_,-,_,hnode,method,-,_,-,_,-,_,hwindow,_,-,_,-,_,-,_,-,_,hdescriptor,-⟩ := h
  exact ⟨hnode,hwindow,hdescriptor⟩

end AhubRequest

namespace DestinationSettlement

/-- `signing_fields`. -/
def signingFields (p : DestinationSettlement) : List Value :=
  [.int p.version,.str p.objectType,.str p.packetId,.bin p.packetSha256,.str p.uploaderId,
    .str p.destinationId,.int p.settledMs,.int p.expiresMs]

/-- `verify`. -/
def verify (lib : ControlLibrary) (signPublic : Bytes) (now : ℤ) (p : DestinationSettlement) :
    Result Unit := do
  raiseIf (p.version ≠ 1 ∨ p.objectType ≠ "anet.destination-settlement.v1")
    (.value "unsupported destination settlement")
  raiseIf (¬ isHex 32 p.packetId) (.value "invalid settlement packet id")
  raiseIf (p.packetSha256.length ≠ 32) (.value "invalid settlement packet digest")
  validateNodeId p.uploaderId
  validateNodeId p.destinationId
  raiseIf (signPublic.length ≠ 32 ∨ p.signature.length ≠ 64)
    (.value "invalid settlement signing material")
  raiseIf (p.settledMs ≤ 0 ∨ p.expiresMs ≤ p.settledMs ∨
      now + ahubRequestSkewMs < p.settledMs ∨ p.expiresMs ≤ now)
    (.value "invalid destination settlement time window")
  let message ← lib.rt.canonicalPack (.list p.signingFields)
  lib.crypto.verify signPublic p.signature message

/-- `to_dict`. -/
def toDict (p : DestinationSettlement) : Value :=
  .map [(.str "version",.int p.version),(.str "object_type",.str p.objectType),
    (.str "packet_id",.str p.packetId),(.str "packet_sha256",digestText p.packetSha256),
    (.str "uploader_id",.str p.uploaderId),(.str "destination_id",.str p.destinationId),
    (.str "settled_ms",.int p.settledMs),(.str "expires_ms",.int p.expiresMs),
    (.str "signature",digestText p.signature)]

def fieldNames : List String :=
  ["version","object_type","packet_id","packet_sha256","uploader_id","destination_id",
    "settled_ms","expires_ms","signature"]

/-- The keys of a map are the given names. -/
def hasFields (names : List String) (entries : List (Value × Value)) : Bool :=
  names.all (fun name => (Value.field entries name).isSome) &&
    entries.all fun e => match e.1 with | .str name => name ∈ names | _ => false

/-- An integer field of `from_dict`. -/
def integer : Value → Result ℤ
  | .int i => .ok i
  | _ => .error (.value "invalid destination settlement integer")

/-- `from_dict`. -/
def fromDict (lib : ControlLibrary) (value : Value) : Result DestinationSettlement := do
  let entries ← fetched value.asMap (.value "invalid destination settlement fields")
  raiseIf (¬ hasFields fieldNames entries) (.value "invalid destination settlement fields")
  let version ← integer (item entries "version")
  let settledMs ← integer (item entries "settled_ms")
  let expiresMs ← integer (item entries "expires_ms")
  let packetSha256 ← fetched (b64d (lib.rt.str (item entries "packet_sha256")))
    (.value "invalid destination settlement encoding")
  let signature ← fetched (b64d (lib.rt.str (item entries "signature")))
    (.value "invalid destination settlement encoding")
  return ⟨lib.rt.str (item entries "packet_id"),packetSha256,
    lib.rt.str (item entries "uploader_id"),lib.rt.str (item entries "destination_id"),settledMs,
    expiresMs,signature,version,lib.rt.str (item entries "object_type")⟩

theorem fromDict_toDict (lib : ControlLibrary) (p : DestinationSettlement) :
    fromDict lib p.toDict = .ok p := by
  have hfields : hasFields fieldNames (p.toDict.asMap.getD []) := by
    simp [hasFields,fieldNames,toDict,Value.asMap]
  have hvalue : p.toDict = .map (p.toDict.asMap.getD []) := rfl
  rw [hvalue]
  generalize hentries : p.toDict.asMap.getD [] = entries at hfields
  have hitems : item entries "version" = .int p.version ∧
      item entries "settled_ms" = .int p.settledMs ∧ item entries "expires_ms" = .int p.expiresMs ∧
      item entries "packet_sha256" = digestText p.packetSha256 ∧
      item entries "signature" = digestText p.signature ∧
      item entries "packet_id" = .str p.packetId ∧ item entries "uploader_id" = .str p.uploaderId ∧
      item entries "destination_id" = .str p.destinationId ∧
      item entries "object_type" = .str p.objectType := by
    subst hentries
    exact ⟨rfl,rfl,rfl,rfl,rfl,rfl,rfl,rfl,rfl⟩
  obtain ⟨h1,h2,h3,h4,h5,h6,h7,h8,h9⟩ := hitems
  simp only [fromDict,Value.asMap,fetched,Option.elim_some,hfields,h1,h2,h3,h4,h5,h6,h7,h8,h9,
    integer,digestText,lib.str_text,b64d_b64e,not_true,raiseIf,if_false,bind,Except.bind,pure,
    Except.pure]

end DestinationSettlement
end Anet
