import Anet.ControlFields
import Anet.RevisionChain

/-! The signed objects of the control plane: what a node says of itself and of where it can
be reached, and what a human lets a device do. Each carries its place in a chain. -/
namespace Anet

open ControlPlane

structure NodeDescriptor where
  nodeId : String
  signPublic : Bytes
  boxPublic : Bytes
  label : String
  capabilities : List String
  sequence : ℤ
  previousDigest : Bytes
  issuedMs : ℤ
  expiresMs : ℤ
  signature : Bytes
  version : ℤ
  objectType : String
  deriving DecidableEq

structure ReachabilityRecord where
  nodeId : String
  descriptorDigest : Bytes
  sessionId : String
  protocolVersions : List String
  candidates : List String
  relayReservation : String
  capabilityDigest : Bytes
  sequence : ℤ
  previousDigest : Bytes
  issuedMs : ℤ
  expiresMs : ℤ
  signature : Bytes
  version : ℤ
  objectType : String
  deriving DecidableEq

structure HumanDeviceGrant where
  humanId : String
  humanSignPublic : Bytes
  deviceNodeId : String
  descriptorDigest : Bytes
  capabilities : List String
  sequence : ℤ
  previousDigest : Bytes
  issuedMs : ℤ
  expiresMs : ℤ
  signature : Bytes
  version : ℤ
  objectType : String
  deriving DecidableEq

structure HumanDeviceRevocation where
  humanId : String
  humanSignPublic : Bytes
  deviceNodeId : String
  descriptorDigest : Bytes
  sequence : ℤ
  previousDigest : Bytes
  revokedMs : ℤ
  reasonCode : String
  signature : Bytes
  version : ℤ
  objectType : String
  deriving DecidableEq

variable (lib : ControlLibrary)

namespace NodeDescriptor

/-- `signing_fields`. -/
def signingFields (d : NodeDescriptor) : List Value :=
  [.int d.version,.str d.objectType,.str d.nodeId,.bin d.signPublic,.bin d.boxPublic,
    .str d.label,texts d.capabilities,.int d.sequence,.bin d.previousDigest,.int d.issuedMs,
    .int d.expiresMs]

def digest (d : NodeDescriptor) : Result Bytes := objectDigest lib d.signingFields d.signature

/-- `verify`. -/
def verify (now : ℤ) (d : NodeDescriptor) : Result Unit := do
  raiseIf (d.version ≠ 2 ∨ d.objectType ≠ "anet.node-descriptor.v2")
    (.value "unsupported node descriptor")
  validateNodeId d.nodeId
  validateBytes 32 "node signing public key" d.signPublic
  validateBytes 32 "node box public key" d.boxPublic
  raiseIf (d.nodeId ≠ lib.crypto.deriveNodeId d.signPublic d.boxPublic)
    (.value "node descriptor id does not match public keys")
  validateLabel d.label
  validateCapabilities true d.capabilities
  validateRevision d.sequence d.previousDigest
  validateWindow d.issuedMs d.expiresMs now maxDescriptorTtlMs "node descriptor"
  verifySignature lib "node descriptor signature" d.signPublic d.signature d.signingFields

def fieldNames : List String :=
  ["version","object_type","node_id","sign_public","box_public","label","capabilities",
    "sequence","previous_digest","issued_ms","expires_ms","signature"]

/-- `to_dict`. -/
def toDict (d : NodeDescriptor) : Value :=
  .map [(.str "version",.int d.version),(.str "object_type",.str d.objectType),
    (.str "node_id",.str d.nodeId),(.str "sign_public",digestText d.signPublic),
    (.str "box_public",digestText d.boxPublic),(.str "label",.str d.label),
    (.str "capabilities",texts d.capabilities),(.str "sequence",.int d.sequence),
    (.str "previous_digest",digestText d.previousDigest),(.str "issued_ms",.int d.issuedMs),
    (.str "expires_ms",.int d.expiresMs),(.str "signature",digestText d.signature)]

/-- `from_dict`. -/
def fromDict (now : ℤ) (value : Value) : Result NodeDescriptor := do
  let entries ← fetched value.asMap (.value "control-plane object must be a map")
  requireExactFields fieldNames entries
  let capabilities ← parseTexts lib "node descriptor capabilities must be a list"
    (item entries "capabilities")
  let version ← parseInt "node descriptor version" (item entries "version")
  let signPublic ← decodeBytes lib 32 "node signing public key" (item entries "sign_public")
  let boxPublic ← decodeBytes lib 32 "node box public key" (item entries "box_public")
  let sequence ← parseInt "node descriptor sequence" (item entries "sequence")
  let previousDigest ← decodeBytes lib 32 "previous digest" (item entries "previous_digest")
  let issuedMs ← parseInt "node descriptor issued time" (item entries "issued_ms")
  let expiresMs ← parseInt "node descriptor expiry time" (item entries "expires_ms")
  let signature ← decodeBytes lib 64 "node descriptor signature" (item entries "signature")
  let d : NodeDescriptor := ⟨lib.rt.str (item entries "node_id"),signPublic,boxPublic,
    lib.rt.str (item entries "label"),capabilities,sequence,previousDigest,issuedMs,expiresMs,
    signature,version,lib.rt.str (item entries "object_type")⟩
  d.verify lib now
  return d

/-- The clock is inside the window of the descriptor. -/
def Open (now : ℤ) (d : NodeDescriptor) : Prop :=
  d.issuedMs ≤ now + ControlPlane.maxClockSkewMs ∧ now < d.expiresMs

instance (now : ℤ) (d : NodeDescriptor) : Decidable (d.Open now) :=
  inferInstanceAs (Decidable (_ ∧ _))

end NodeDescriptor

namespace ReachabilityRecord

/-- `signing_fields`. -/
def signingFields (r : ReachabilityRecord) : List Value :=
  [.int r.version,.str r.objectType,.str r.nodeId,.bin r.descriptorDigest,.str r.sessionId,
    texts r.protocolVersions,texts r.candidates,.str r.relayReservation,.bin r.capabilityDigest,
    .int r.sequence,.bin r.previousDigest,.int r.issuedMs,.int r.expiresMs]

def digest (r : ReachabilityRecord) : Result Bytes := objectDigest lib r.signingFields r.signature

/-- `verify`. -/
def verify (descriptor : NodeDescriptor) (now : ℤ) (r : ReachabilityRecord) : Result Unit := do
  raiseIf (r.version ≠ 1 ∨ r.objectType ≠ "anet.reachability.v1")
    (.value "unsupported reachability record")
  descriptor.verify lib now
  validateNodeId r.nodeId
  raiseIf (r.nodeId ≠ descriptor.nodeId) (.value "reachability record belongs to another node")
  validateBytes 32 "descriptor digest" r.descriptorDigest
  let digest ← descriptor.digest lib
  raiseIf (r.descriptorDigest ≠ digest) (.value "reachability record uses a stale descriptor")
  raiseIf (¬ isHex 32 r.sessionId) (.value "invalid reachability session id")
  validateProtocolVersions r.protocolVersions
  validateCandidates lib r.candidates
  raiseIf (r.relayReservation ≠ "" ∧ ¬ isOpaque r.relayReservation)
    (.value "invalid relay reservation")
  validateBytes 32 "capability digest" r.capabilityDigest
  validateRevision r.sequence r.previousDigest
  validateWindow r.issuedMs r.expiresMs now maxReachabilityTtlMs "reachability record"
  verifySignature lib "reachability signature" descriptor.signPublic r.signature r.signingFields

def fieldNames : List String :=
  ["version","object_type","node_id","descriptor_digest","session_id","protocol_versions",
    "candidates","relay_reservation","capability_digest","sequence","previous_digest",
    "issued_ms","expires_ms","signature"]

/-- `to_dict`. -/
def toDict (r : ReachabilityRecord) : Value :=
  .map [(.str "version",.int r.version),(.str "object_type",.str r.objectType),
    (.str "node_id",.str r.nodeId),(.str "descriptor_digest",digestText r.descriptorDigest),
    (.str "session_id",.str r.sessionId),(.str "protocol_versions",texts r.protocolVersions),
    (.str "candidates",texts r.candidates),(.str "relay_reservation",.str r.relayReservation),
    (.str "capability_digest",digestText r.capabilityDigest),(.str "sequence",.int r.sequence),
    (.str "previous_digest",digestText r.previousDigest),(.str "issued_ms",.int r.issuedMs),
    (.str "expires_ms",.int r.expiresMs),(.str "signature",digestText r.signature)]

/-- `from_dict`. -/
def fromDict (descriptor : NodeDescriptor) (now : ℤ) (value : Value) :
    Result ReachabilityRecord := do
  let entries ← fetched value.asMap (.value "control-plane object must be a map")
  requireExactFields fieldNames entries
  let protocols ← parseTexts lib "reachability protocols and candidates must be lists"
    (item entries "protocol_versions")
  let candidates ← parseTexts lib "reachability protocols and candidates must be lists"
    (item entries "candidates")
  let version ← parseInt "reachability version" (item entries "version")
  let descriptorDigest ← decodeBytes lib 32 "descriptor digest" (item entries "descriptor_digest")
  let capabilityDigest ← decodeBytes lib 32 "capability digest" (item entries "capability_digest")
  let sequence ← parseInt "reachability sequence" (item entries "sequence")
  let previousDigest ← decodeBytes lib 32 "previous digest" (item entries "previous_digest")
  let issuedMs ← parseInt "reachability issued time" (item entries "issued_ms")
  let expiresMs ← parseInt "reachability expiry time" (item entries "expires_ms")
  let signature ← decodeBytes lib 64 "reachability signature" (item entries "signature")
  let r : ReachabilityRecord := ⟨lib.rt.str (item entries "node_id"),descriptorDigest,
    lib.rt.str (item entries "session_id"),protocols,candidates,
    lib.rt.str (item entries "relay_reservation"),capabilityDigest,sequence,previousDigest,
    issuedMs,expiresMs,signature,version,lib.rt.str (item entries "object_type")⟩
  r.verify lib descriptor now
  return r

end ReachabilityRecord

/-- The checks a grant and a revocation share on the human who signs them. -/
def verifyHuman (descriptor : NodeDescriptor) (humanId : String) (humanSignPublic : Bytes) :
    Result Unit := do
  validateHumanId humanId
  validateBytes 32 "human signing public key" humanSignPublic
  raiseIf (humanId ≠ lib.deriveHumanId humanSignPublic)
    (.value "human id does not match its public key")
  raiseIf (humanSignPublic = descriptor.signPublic)
    (.value "human and device signing identities must be separate")

namespace HumanDeviceGrant

/-- `signing_fields`. -/
def signingFields (g : HumanDeviceGrant) : List Value :=
  [.int g.version,.str g.objectType,.str g.humanId,.bin g.humanSignPublic,.str g.deviceNodeId,
    .bin g.descriptorDigest,texts g.capabilities,.int g.sequence,.bin g.previousDigest,
    .int g.issuedMs,.int g.expiresMs]

def digest (g : HumanDeviceGrant) : Result Bytes := objectDigest lib g.signingFields g.signature

/-- `verify`. -/
def verify (descriptor : NodeDescriptor) (now : ℤ) (g : HumanDeviceGrant) : Result Unit := do
  raiseIf (g.version ≠ 1 ∨ g.objectType ≠ "anet.human-device-grant.v1")
    (.value "unsupported human device grant")
  descriptor.verify lib now
  verifyHuman lib descriptor g.humanId g.humanSignPublic
  validateNodeId g.deviceNodeId
  raiseIf (g.deviceNodeId ≠ descriptor.nodeId) (.value "human grant belongs to another device")
  validateBytes 32 "descriptor digest" g.descriptorDigest
  let digest ← descriptor.digest lib
  raiseIf (g.descriptorDigest ≠ digest) (.value "human grant uses a stale device descriptor")
  validateCapabilities false g.capabilities
  validateRevision g.sequence g.previousDigest
  validateWindow g.issuedMs g.expiresMs now maxHumanGrantTtlMs "human device grant"
  verifySignature lib "human device grant signature" g.humanSignPublic g.signature g.signingFields

def fieldNames : List String :=
  ["version","object_type","human_id","human_sign_public","device_node_id","descriptor_digest",
    "capabilities","sequence","previous_digest","issued_ms","expires_ms","signature"]

/-- `to_dict`. -/
def toDict (g : HumanDeviceGrant) : Value :=
  .map [(.str "version",.int g.version),(.str "object_type",.str g.objectType),
    (.str "human_id",.str g.humanId),(.str "human_sign_public",digestText g.humanSignPublic),
    (.str "device_node_id",.str g.deviceNodeId),
    (.str "descriptor_digest",digestText g.descriptorDigest),
    (.str "capabilities",texts g.capabilities),(.str "sequence",.int g.sequence),
    (.str "previous_digest",digestText g.previousDigest),(.str "issued_ms",.int g.issuedMs),
    (.str "expires_ms",.int g.expiresMs),(.str "signature",digestText g.signature)]

/-- `from_dict`. -/
def fromDict (descriptor : NodeDescriptor) (now : ℤ) (value : Value) :
    Result HumanDeviceGrant := do
  let entries ← fetched value.asMap (.value "control-plane object must be a map")
  requireExactFields fieldNames entries
  let capabilities ← parseTexts lib "human device capabilities must be a list"
    (item entries "capabilities")
  let version ← parseInt "human device grant version" (item entries "version")
  let humanSignPublic ← decodeBytes lib 32 "human signing public key"
    (item entries "human_sign_public")
  let descriptorDigest ← decodeBytes lib 32 "descriptor digest" (item entries "descriptor_digest")
  let sequence ← parseInt "human device grant sequence" (item entries "sequence")
  let previousDigest ← decodeBytes lib 32 "previous digest" (item entries "previous_digest")
  let issuedMs ← parseInt "human device grant issued time" (item entries "issued_ms")
  let expiresMs ← parseInt "human device grant expiry time" (item entries "expires_ms")
  let signature ← decodeBytes lib 64 "human device grant signature" (item entries "signature")
  let g : HumanDeviceGrant := ⟨lib.rt.str (item entries "human_id"),humanSignPublic,
    lib.rt.str (item entries "device_node_id"),descriptorDigest,capabilities,sequence,
    previousDigest,issuedMs,expiresMs,signature,version,lib.rt.str (item entries "object_type")⟩
  g.verify lib descriptor now
  return g

/-- The clock is inside the window of the grant. -/
def Open (now : ℤ) (g : HumanDeviceGrant) : Prop :=
  g.issuedMs ≤ now + ControlPlane.maxClockSkewMs ∧ now < g.expiresMs

instance (now : ℤ) (g : HumanDeviceGrant) : Decidable (g.Open now) :=
  inferInstanceAs (Decidable (_ ∧ _))

/-- The grant names the device of the descriptor and its digest, and the human has a key of
their own. -/
def BoundTo (d : NodeDescriptor) (g : HumanDeviceGrant) : Prop :=
  g.deviceNodeId = d.nodeId ∧ d.digest lib = .ok g.descriptorDigest ∧
    g.humanSignPublic ≠ d.signPublic

end HumanDeviceGrant

namespace HumanDeviceRevocation

/-- `signing_fields`. -/
def signingFields (v : HumanDeviceRevocation) : List Value :=
  [.int v.version,.str v.objectType,.str v.humanId,.bin v.humanSignPublic,.str v.deviceNodeId,
    .bin v.descriptorDigest,.int v.sequence,.bin v.previousDigest,.int v.revokedMs,
    .str v.reasonCode]

def digest (v : HumanDeviceRevocation) : Result Bytes :=
  objectDigest lib v.signingFields v.signature

/-- `verify`. -/
def verify (descriptor : NodeDescriptor) (now : ℤ) (v : HumanDeviceRevocation) :
    Result Unit := do
  raiseIf (v.version ≠ 1 ∨ v.objectType ≠ "anet.human-device-revocation.v1")
    (.value "unsupported human device revocation")
  descriptor.verify lib now
  verifyHuman lib descriptor v.humanId v.humanSignPublic
  raiseIf (v.deviceNodeId ≠ descriptor.nodeId)
    (.value "human revocation belongs to another device")
  validateBytes 32 "descriptor digest" v.descriptorDigest
  let digest ← descriptor.digest lib
  raiseIf (v.descriptorDigest ≠ digest)
    (.value "human revocation uses a stale device descriptor")
  validateRevision v.sequence v.previousDigest
  raiseIf (v.revokedMs ≤ 0 ∨ now + ControlPlane.maxClockSkewMs < v.revokedMs)
    (.value "invalid human device revocation time")
  raiseIf (¬ isToken v.reasonCode) (.value "invalid human device revocation reason")
  verifySignature lib "human device revocation signature" v.humanSignPublic v.signature
    v.signingFields

/-- `to_dict`. -/
def toDict (v : HumanDeviceRevocation) : Value :=
  .map [(.str "version",.int v.version),(.str "object_type",.str v.objectType),
    (.str "human_id",.str v.humanId),(.str "human_sign_public",digestText v.humanSignPublic),
    (.str "device_node_id",.str v.deviceNodeId),
    (.str "descriptor_digest",digestText v.descriptorDigest),(.str "sequence",.int v.sequence),
    (.str "previous_digest",digestText v.previousDigest),(.str "revoked_ms",.int v.revokedMs),
    (.str "reason_code",.str v.reasonCode),(.str "signature",digestText v.signature)]

end HumanDeviceRevocation

/-- What a node signs its own objects with. -/
structure SigningIdentity where
  nodeId : String
  signPublic : Bytes
  boxPublic : Bytes
  label : String
  sign : Bytes → Bytes

/-- `issue_node_descriptor`. -/
def issueNodeDescriptor (identity : SigningIdentity) (capabilities : List String) (sequence : ℤ)
    (previousDigest : Bytes) (issuedMs ttlMs : ℤ) : Result NodeDescriptor := do
  let unsigned : NodeDescriptor := ⟨identity.nodeId,identity.signPublic,identity.boxPublic,
    identity.label,sortedSet capabilities,sequence,previousDigest,issuedMs,issuedMs + ttlMs,[],2,
    "anet.node-descriptor.v2"⟩
  let message ← lib.rt.canonicalPack (.list unsigned.signingFields)
  let descriptor := { unsigned with signature := identity.sign message }
  descriptor.verify lib issuedMs
  return descriptor

/-- `issue_reachability_record`. -/
def issueReachabilityRecord (identity : SigningIdentity) (descriptor : NodeDescriptor)
    (protocolVersions candidates : List String) (relayReservation : String)
    (capabilityDigest : Bytes) (sequence : ℤ) (previousDigest : Bytes) (sessionId : String)
    (issuedMs ttlMs : ℤ) : Result ReachabilityRecord := do
  raiseIf (identity.nodeId ≠ descriptor.nodeId)
    (.value "identity does not own the node descriptor")
  let digest ← descriptor.digest lib
  let unsigned : ReachabilityRecord := ⟨identity.nodeId,digest,sessionId,
    sortedSet protocolVersions,sortedSet candidates,relayReservation,capabilityDigest,sequence,
    previousDigest,issuedMs,issuedMs + ttlMs,[],1,"anet.reachability.v1"⟩
  let message ← lib.rt.canonicalPack (.list unsigned.signingFields)
  let record := { unsigned with signature := identity.sign message }
  record.verify lib descriptor issuedMs
  return record

/-- `issue_human_device_grant`, for a human with these keys. -/
def issueHumanDeviceGrant (humanSignPublic : Bytes) (sign : Bytes → Bytes)
    (descriptor : NodeDescriptor) (capabilities : List String) (sequence : ℤ)
    (previousDigest : Bytes) (issuedMs ttlMs : ℤ) : Result HumanDeviceGrant := do
  let digest ← descriptor.digest lib
  let unsigned : HumanDeviceGrant := ⟨lib.deriveHumanId humanSignPublic,humanSignPublic,
    descriptor.nodeId,digest,sortedSet capabilities,sequence,previousDigest,issuedMs,
    issuedMs + ttlMs,[],1,"anet.human-device-grant.v1"⟩
  let message ← lib.rt.canonicalPack (.list unsigned.signingFields)
  let grant := { unsigned with signature := sign message }
  grant.verify lib descriptor issuedMs
  return grant

section Facts

variable {lib}

/-- What a verified descriptor is, whatever the clock. -/
theorem NodeDescriptor.verify_sizes {d : NodeDescriptor} {now : ℤ} {u : Unit}
    (h : d.verify lib now = .ok u) : isControlNodeId d.nodeId ∧ d.signPublic.length = 32 ∧
      d.boxPublic.length = 32 ∧ 1 ≤ d.sequence ∧ d.previousDigest.length = 32 ∧
      d.signature.length = 64 := by
  simp only [verify,bind_ok,validateNodeId,raiseIf_ok,not_not,validateBytes_ok] at h
  obtain ⟨_,-,_,hid,_,hsign,_,hbox,_,-,_,-,_,-,_,hrevision,_,-,hsignature⟩ := h
  obtain ⟨hsequence,hprevious⟩ := validateRevision_ok hrevision
  exact ⟨hid,hsign,hbox,hsequence,hprevious,verifySignature_size hsignature⟩

/-- A descriptor that was valid is valid again exactly while its window is open. -/
theorem NodeDescriptor.verify_again {d : NodeDescriptor} {now now' : ℤ} {u v : Unit}
    (h : d.verify lib now = .ok u) : d.verify lib now' = .ok v ↔ d.Open now' := by
  simp only [verify,bind_ok] at h ⊢
  obtain ⟨a,ha,b,hb,c,hc,e,he,f,hf,g,hg,i,hi,j,hj,k,hk,hsignature⟩ := h
  constructor
  · rintro ⟨_,-,_,-,_,-,_,-,_,-,_,-,_,-,_,-,_,hwindow,-⟩
    exact (validateWindow_again hk).mp hwindow
  · intro hopen
    exact ⟨a,ha,b,hb,c,hc,e,he,f,hf,g,hg,i,hi,j,hj,k,(validateWindow_again hk).mpr hopen,
      hsignature⟩

theorem NodeDescriptor.fromDict_toDict {d : NodeDescriptor} {now now' : ℤ} {u : Unit}
    (h : d.verify lib now = .ok u) :
    fromDict lib now' d.toDict = (d.verify lib now').map fun _ => d := by
  obtain ⟨-,hsign,hbox,-,hprevious,hsignature⟩ := verify_sizes h
  have hkeys : requireExactFields fieldNames (d.toDict.asMap.getD []) = .ok () :=
    requireExactFields_keys rfl
  have hvalue : d.toDict = .map (d.toDict.asMap.getD []) := rfl
  rw [hvalue]
  generalize hentries : d.toDict.asMap.getD [] = entries at hkeys
  have hitems : item entries "capabilities" = texts d.capabilities ∧
      item entries "version" = .int d.version ∧
      item entries "sign_public" = digestText d.signPublic ∧
      item entries "box_public" = digestText d.boxPublic ∧
      item entries "sequence" = .int d.sequence ∧
      item entries "previous_digest" = digestText d.previousDigest ∧
      item entries "issued_ms" = .int d.issuedMs ∧ item entries "expires_ms" = .int d.expiresMs ∧
      item entries "signature" = digestText d.signature ∧
      item entries "node_id" = .str d.nodeId ∧ item entries "label" = .str d.label ∧
      item entries "object_type" = .str d.objectType := by
    subst hentries
    exact ⟨rfl,rfl,rfl,rfl,rfl,rfl,rfl,rfl,rfl,rfl,rfl,rfl⟩
  obtain ⟨h1,h2,h3,h4,h5,h6,h7,h8,h9,h10,h11,h12⟩ := hitems
  simp only [fromDict,Value.asMap,fetched,Option.elim_some,hkeys,h1,h2,h3,h4,h5,h6,h7,h8,h9,h10,
    h11,h12,parseTexts_texts,parseInt,decodeBytes_text hsign,decodeBytes_text hbox,
    decodeBytes_text hprevious,decodeBytes_text hsignature,lib.str_text,bind,Except.bind]
  cases verify lib now' d <;> rfl

theorem ReachabilityRecord.verify_parts {r : ReachabilityRecord} {d : NodeDescriptor} {now : ℤ}
    {u : Unit} (h : r.verify lib d now = .ok u) : d.verify lib now = .ok () ∧
      r.nodeId = d.nodeId ∧ d.digest lib = .ok r.descriptorDigest ∧
      r.descriptorDigest.length = 32 ∧ r.capabilityDigest.length = 32 ∧ 1 ≤ r.sequence ∧
      r.previousDigest.length = 32 ∧ r.signature.length = 64 := by
  simp only [verify,bind_ok,raiseIf_ok,not_not,validateBytes_ok] at h
  obtain ⟨_,-,_,hd,_,-,_,hid,_,hbound,digest,hdigest,_,hsame,_,-,_,-,_,-,_,-,_,hcapability,_,
    hrevision,_,-,hsignature⟩ := h
  obtain ⟨hsequence,hprevious⟩ := validateRevision_ok hrevision
  rw [hsame] at hbound ⊢
  exact ⟨hd,hid,hdigest,hbound,hcapability,hsequence,hprevious,verifySignature_size hsignature⟩

theorem ReachabilityRecord.fromDict_toDict {r : ReachabilityRecord} {d d' : NodeDescriptor}
    {now now' : ℤ} {u : Unit} (h : r.verify lib d now = .ok u) :
    fromDict lib d' now' r.toDict = (r.verify lib d' now').map fun _ => r := by
  obtain ⟨-,-,-,hbound,hcapability,-,hprevious,hsignature⟩ := verify_parts h
  have hkeys : requireExactFields fieldNames (r.toDict.asMap.getD []) = .ok () :=
    requireExactFields_keys rfl
  have hvalue : r.toDict = .map (r.toDict.asMap.getD []) := rfl
  rw [hvalue]
  generalize hentries : r.toDict.asMap.getD [] = entries at hkeys
  have hitems : item entries "protocol_versions" = texts r.protocolVersions ∧
      item entries "candidates" = texts r.candidates ∧ item entries "version" = .int r.version ∧
      item entries "descriptor_digest" = digestText r.descriptorDigest ∧
      item entries "capability_digest" = digestText r.capabilityDigest ∧
      item entries "sequence" = .int r.sequence ∧
      item entries "previous_digest" = digestText r.previousDigest ∧
      item entries "issued_ms" = .int r.issuedMs ∧ item entries "expires_ms" = .int r.expiresMs ∧
      item entries "signature" = digestText r.signature ∧
      item entries "node_id" = .str r.nodeId ∧ item entries "session_id" = .str r.sessionId ∧
      item entries "relay_reservation" = .str r.relayReservation ∧
      item entries "object_type" = .str r.objectType := by
    subst hentries
    exact ⟨rfl,rfl,rfl,rfl,rfl,rfl,rfl,rfl,rfl,rfl,rfl,rfl,rfl,rfl⟩
  obtain ⟨h1,h2,h3,h4,h5,h6,h7,h8,h9,h10,h11,h12,h13,h14⟩ := hitems
  simp only [fromDict,Value.asMap,fetched,Option.elim_some,hkeys,h1,h2,h3,h4,h5,h6,h7,h8,h9,h10,
    h11,h12,h13,h14,parseTexts_texts,parseInt,decodeBytes_text hbound,
    decodeBytes_text hcapability,decodeBytes_text hprevious,decodeBytes_text hsignature,
    lib.str_text,bind,Except.bind]
  cases verify lib d' now' r <;> rfl

theorem HumanDeviceGrant.verify_parts {g : HumanDeviceGrant} {d : NodeDescriptor} {now : ℤ}
    {u : Unit} (h : g.verify lib d now = .ok u) : d.verify lib now = .ok () ∧
      isHumanId g.humanId ∧ g.humanSignPublic.length = 32 ∧ g.deviceNodeId = d.nodeId ∧
      d.digest lib = .ok g.descriptorDigest ∧ g.descriptorDigest.length = 32 ∧ 1 ≤ g.sequence ∧
      g.previousDigest.length = 32 ∧ g.signature.length = 64 := by
  simp only [verify,bind_ok,verifyHuman,validateHumanId,raiseIf_ok,not_not,validateBytes_ok] at h
  obtain ⟨_,-,_,hd,_,⟨_,hhuman,_,hkey,-⟩,_,-,_,hid,_,hbound,digest,hdigest,_,hsame,_,-,_,
    hrevision,_,-,hsignature⟩ := h
  obtain ⟨hsequence,hprevious⟩ := validateRevision_ok hrevision
  rw [hsame] at hbound ⊢
  exact ⟨hd,hhuman,hkey,hid,hdigest,hbound,hsequence,hprevious,verifySignature_size hsignature⟩

/-- A grant that was valid is valid exactly for a descriptor it is bound to, while its window
and that of the descriptor are open. -/
theorem HumanDeviceGrant.verify_again {g : HumanDeviceGrant} {d d' : NodeDescriptor}
    {now now' now'' : ℤ} {u v w : Unit} (h : g.verify lib d now = .ok u)
    (hd : d'.verify lib now'' = .ok v) :
    g.verify lib d' now' = .ok w ↔ g.BoundTo lib d' ∧ d'.Open now' ∧ g.Open now' := by
  obtain ⟨-,-,-,-,-,hsize,-⟩ := verify_parts h
  simp only [verify,verifyHuman,bind_ok,raiseIf_ok,not_not,validateBytes_ok] at h ⊢
  obtain ⟨a,ha,-,-,c,⟨e,he,f,hf,i,hi,-⟩,j,hj,-,-,-,-,-,-,-,-,k,hk,l,hl,m,hm,hsignature⟩ := h
  constructor
  · rintro ⟨_,-,_,hopen,_,⟨_,-,_,-,_,-,hseparate⟩,_,-,_,hid,_,-,digest,hdigest,_,hsame,_,-,_,-,_,
      hwindow,-⟩
    rw [← hsame] at hdigest
    exact ⟨⟨hid,hdigest,hseparate⟩,(NodeDescriptor.verify_again hd).mp hopen,
      (validateWindow_again hm).mp hwindow⟩
  · rintro ⟨⟨hid,hdigest,hseparate⟩,hopen,hwindow⟩
    exact ⟨a,ha,(),(NodeDescriptor.verify_again hd).mpr hopen,c,⟨e,he,f,hf,i,hi,hseparate⟩,j,hj,(),
      hid,(),hsize,_,hdigest,(),rfl,k,hk,l,hl,m,(validateWindow_again hm).mpr hwindow,hsignature⟩

theorem HumanDeviceGrant.fromDict_toDict {g : HumanDeviceGrant} {d d' : NodeDescriptor}
    {now now' : ℤ} {u : Unit} (h : g.verify lib d now = .ok u) :
    fromDict lib d' now' g.toDict = (g.verify lib d' now').map fun _ => g := by
  obtain ⟨-,-,hkey,-,-,hbound,-,hprevious,hsignature⟩ := verify_parts h
  have hkeys : requireExactFields fieldNames (g.toDict.asMap.getD []) = .ok () :=
    requireExactFields_keys rfl
  have hvalue : g.toDict = .map (g.toDict.asMap.getD []) := rfl
  rw [hvalue]
  generalize hentries : g.toDict.asMap.getD [] = entries at hkeys
  have hitems : item entries "capabilities" = texts g.capabilities ∧
      item entries "version" = .int g.version ∧
      item entries "human_sign_public" = digestText g.humanSignPublic ∧
      item entries "descriptor_digest" = digestText g.descriptorDigest ∧
      item entries "sequence" = .int g.sequence ∧
      item entries "previous_digest" = digestText g.previousDigest ∧
      item entries "issued_ms" = .int g.issuedMs ∧ item entries "expires_ms" = .int g.expiresMs ∧
      item entries "signature" = digestText g.signature ∧
      item entries "human_id" = .str g.humanId ∧
      item entries "device_node_id" = .str g.deviceNodeId ∧
      item entries "object_type" = .str g.objectType := by
    subst hentries
    exact ⟨rfl,rfl,rfl,rfl,rfl,rfl,rfl,rfl,rfl,rfl,rfl,rfl⟩
  obtain ⟨h1,h2,h3,h4,h5,h6,h7,h8,h9,h10,h11,h12⟩ := hitems
  simp only [fromDict,Value.asMap,fetched,Option.elim_some,hkeys,h1,h2,h3,h4,h5,h6,h7,h8,h9,h10,
    h11,h12,parseTexts_texts,parseInt,decodeBytes_text hkey,decodeBytes_text hbound,
    decodeBytes_text hprevious,decodeBytes_text hsignature,lib.str_text,bind,Except.bind]
  cases verify lib d' now' g <;> rfl

theorem HumanDeviceRevocation.verify_parts {v : HumanDeviceRevocation} {d : NodeDescriptor}
    {now : ℤ} {u : Unit} (h : v.verify lib d now = .ok u) : d.verify lib now = .ok () ∧
      v.deviceNodeId = d.nodeId ∧ d.digest lib = .ok v.descriptorDigest ∧
      v.descriptorDigest.length = 32 ∧ 1 ≤ v.sequence ∧ v.previousDigest.length = 32 := by
  simp only [verify,bind_ok,raiseIf_ok,not_not,validateBytes_ok] at h
  obtain ⟨_,-,_,hd,_,-,_,hid,_,hbound,digest,hdigest,_,hsame,_,hrevision,-⟩ := h
  obtain ⟨hsequence,hprevious⟩ := validateRevision_ok hrevision
  rw [hsame] at hbound ⊢
  exact ⟨hd,hid,hdigest,hbound,hsequence,hprevious⟩

end Facts
section Sample

/-- 32 bytes that depend on every byte. -/
def plainDigest (bytes : Bytes) : Bytes :=
  wordBytes 32 (bytes.foldl (fun h b => (257 * h + b.toNat + 1) % 2 ^ 64) 0)

/-- An identifier that depends on the last byte of the keys. -/
def plainId (mark : String) (keys : Bytes) : String :=
  mark ++ String.ofList (List.replicate 32 (Char.ofNat (97 + (keys.getLastD 0).toNat % 26)))

theorem itemsFit_append (xs ys : List Value) : itemsFit (xs ++ ys) = (itemsFit xs && itemsFit ys) := by
  induction xs with
  | nil => rfl
  | cons x xs ih => simp [itemsFit,ih,Bool.and_assoc]

theorem canonicalItems_append (rt : Runtime) (xs ys : List Value) :
    canonicalItems rt (xs ++ ys) = canonicalItems rt xs ++ canonicalItems rt ys := by
  induction xs with
  | nil => rfl
  | cons x xs ih => simp [canonicalItems,ih]

theorem length_canonicalItems (rt : Runtime) (xs : List Value) :
    (canonicalItems rt xs).length = xs.length := by
  induction xs with
  | nil => rfl
  | cons x xs ih => simp [canonicalItems,ih]

theorem msgpack_signed (fields : List Value) (raw signature : Bytes) (hlength : fields.length ≤ 16)
    (hsize : signature.length = 64)
    (h : Runtime.msgpack.canonicalPack (.list fields) = .ok raw) :
    ∃ raw', Runtime.msgpack.canonicalPack (.list (fields ++ [.bin signature])) = .ok raw' := by
  change packValue (.list (canonicalItems .msgpack fields)) = .ok raw at h
  change ∃ raw', packValue (.list (canonicalItems .msgpack (fields ++ [.bin signature]))) = .ok raw'
  unfold packValue at h ⊢
  have hfits : (Value.list (canonicalItems .msgpack fields)).fits := by
    by_contra hno
    rw [if_neg hno] at h
    cases h
  simp only [Value.fits,Bool.and_eq_true] at hfits
  refine ⟨_,if_pos ?_⟩
  simp only [Value.fits,canonicalItems_append,itemsFit_append,Bool.and_eq_true,hfits.2,true_and,
    List.length_append,length_canonicalItems,List.length_singleton,decide_eq_true_eq]
  refine ⟨by omega,?_⟩
  simp [canonicalItems,Value.canonical,itemsFit,Value.fits,hsize]

/-- A library to run the model with: a signature holds the key and a digest of the message. -/
def plainControl : ControlLibrary where
  rt := .msgpack
  crypto := { plainCrypto with
    verify := fun signPublic signature message =>
      if signature = signPublic ++ plainDigest message then .ok () else .error .invalidSignature
    deriveNodeId := fun signPublic boxPublic => plainId "an1" (signPublic ++ boxPublic) }
  urls := plainUrls
  sha256 := plainDigest
  deriveHumanId := plainId "hu1"
  sha256_length := fun _ => length_wordBytes ..
  str_text := fun _ => rfl
  pack_signed := msgpack_signed

def plainKey (seed : UInt8) : Bytes := List.replicate 32 seed

def plainIdentity (seed : UInt8) : SigningIdentity :=
  ⟨plainId "an1" (plainKey seed),plainKey seed,plainKey seed,"node",
    fun message => plainKey seed ++ plainDigest message⟩

/-- The message a signature of the plain library is over. -/
def plainMessage (fields : List Value) : Bytes :=
  ((plainControl.rt.canonicalPack (.list fields)).toOption).getD []

def plainDescriptor (seed : UInt8) (sequence : ℤ) (previousDigest : Bytes)
    (issuedMs expiresMs : ℤ) : NodeDescriptor :=
  let unsigned : NodeDescriptor := ⟨(plainIdentity seed).nodeId,plainKey seed,plainKey seed,"node",
    [],sequence,previousDigest,issuedMs,expiresMs,[],2,"anet.node-descriptor.v2"⟩
  { unsigned with signature := (plainIdentity seed).sign (plainMessage unsigned.signingFields) }

/-- The digest of an object of the plain library. -/
def plainObjectDigest (fields : List Value) (signature : Bytes) : Bytes :=
  plainDigest (plainMessage (fields ++ [.bin signature]))

end Sample
end Anet
