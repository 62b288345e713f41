import Anet.Encoding

/-! Sealed packets: the checks on the outer map that any relay can make, and the
opening of a packet by its destination. -/
namespace Anet

def maxPlaintextBytes : ℕ := 8 * 1024 * 1024
def maxTtlSeconds : ℤ := 30 * 86400
def maxClockSkewMs : ℤ := 15 * 60 * 1000
def innerVersion : ℤ := 1

/-- The primitives of the cryptography package the packet code calls. -/
structure Crypto where
  publicKey : Bytes → Result Bytes
  exchange : (privateKey publicKey : Bytes) → Result Bytes
  hkdf : (salt info shared : Bytes) → Bytes
  decrypt : (key nonce ciphertext aad : Bytes) → Result Bytes
  verify : (signPublic signature message : Bytes) → Result Unit
  deriveNodeId : (signPublic boxPublic : Bytes) → String

structure Identity where
  nodeId : String
  boxPublic : Bytes
  boxPrivate : Bytes

inductive KeyMode | static | opk
  deriving DecidableEq

structure PacketInfo where
  packetId : String
  destinationId : String
  createdMs : ℤ
  expiresMs : ℤ
  maxHops : ℤ
  qos : String
  raw : Bytes
  keyMode : KeyMode
  prekeyId : String
  version : ℤ

structure OpenedMessage where
  packetId : String
  senderId : String
  senderSignPublic : Bytes
  senderBoxPublic : Bytes
  kind : String
  createdMs : ℤ
  body : Value
  causal : List String
  codec : String
  replyTo : String
  qos : String
  keyMode : KeyMode
  prekeyId : String

namespace Packet

abbrev Fields := List (Value × Value)

def emptyBytes : Value := .bin []

/-- `_KIND_RE.match`, whose `$` also stops before a final newline. -/
def isKind (s : String) : Bool :=
  let word := matchesWord (fun c => 'a' ≤ c && c ≤ 'z')
    (fun c => ('a' ≤ c && c ≤ 'z') || isDigit c || c == '_' || c == '.' || c == '-') 63
  word s || (s.toList.getLast? = some '\n' && word (String.ofList s.toList.dropLast))

def keyMode (s : String) : Option KeyMode :=
  if s = "static" then some .static else if s = "opk" then some .opk else none

/-- The key mode and prekey id of an outer map, from version 3 on. -/
def outerKey (rt : Runtime) (version : ℤ) (value : Fields) : Result (KeyMode × String) := do
  let mode := if version ≤ 2 then "static" else rt.str (Value.fieldOr value "km" (.str ""))
  let prekeyId := if version ≤ 2 then "" else rt.str (Value.fieldOr value "kid" (.str ""))
  let mode ← fetched (keyMode mode) (.value "invalid packet key mode")
  raiseIf (mode = .static ∧ prekeyId ≠ "") (.value "static packet cannot name a prekey")
  raiseIf (mode = .opk ∧ ¬ isHex 32 prekeyId) (.value "invalid packet prekey ID")
  return (mode,prekeyId)

/-- The three time checks of `_validate_outer` and its hop limit. -/
def checkLifetime (createdMs expiresMs maxHops now : ℤ) : Result Unit := do
  raiseIf (createdMs ≤ 0 ∨ expiresMs ≤ createdMs) (.value "invalid packet lifetime")
  raiseIf (now + maxClockSkewMs < createdMs)
    (.value "packet creation time is too far in the future")
  raiseIf (now + maxTtlSeconds * 1000 + maxClockSkewMs < expiresMs)
    (.value "packet expiry is too far in the future")
  raiseIf (maxTtlSeconds * 1000 < expiresMs - createdMs)
    (.value "packet lifetime exceeds protocol limit")
  raiseIf (¬ (1 ≤ maxHops ∧ maxHops ≤ 32)) (.value "invalid hop limit")

/-- `_validate_outer`. -/
def validateOuter (rt : Runtime) (now : ℤ) (value : Fields) (raw : Bytes) : Result PacketInfo := do
  let version ← rt.int (Value.fieldOr value "v" (.int 0))
  raiseIf (version ∉ [(1 : ℤ),2,3]) (.value "unsupported packet version")
  let packetId := rt.str (Value.fieldOr value "id" (.str ""))
  raiseIf (packetId.toList.length ≠ 32) (.value "invalid packet id")
  raiseIf ((fromHex packetId).isNone) (.value "invalid packet id")
  let destinationId := rt.str (Value.fieldOr value "dst" (.str ""))
  raiseIf (¬ startsWith destinationId "an1" ∨ destinationId.toList.length < 20)
    (.value "invalid packet destination")
  let createdMs ← rt.int (Value.fieldOr value "ts" (.int 0))
  let expiresMs ← rt.int (Value.fieldOr value "exp" (.int 0))
  let maxHops ← rt.int (Value.fieldOr value "hops" (.int 0))
  checkLifetime createdMs expiresMs maxHops now
  let epk ← rt.bytes (Value.fieldOr value "epk" emptyBytes)
  raiseIf (epk.length ≠ 32) (.value "invalid ephemeral key")
  let nonce ← rt.bytes (Value.fieldOr value "nonce" emptyBytes)
  raiseIf (nonce.length ≠ 12) (.value "invalid packet nonce")
  let qos := if version = 1 then "normal" else rt.str (Value.fieldOr value "qos" (.str ""))
  raiseIf (qos ∉ ["control","interactive","normal","bulk"]) (.value "invalid packet QoS class")
  let key ← outerKey rt version value
  let ciphertext ← rt.bytes (Value.fieldOr value "ct" emptyBytes)
  raiseIf (ciphertext.length < 32 ∨ maxPlaintextBytes + 16 < ciphertext.length)
    (.value "invalid ciphertext size")
  return ⟨packetId,destinationId,createdMs,expiresMs,maxHops,qos,raw,key.1,key.2,version⟩

/-- `inspect_packet`. -/
def inspectPacket (rt : Runtime) (now : ℤ) (raw : Bytes) (allowExpired : Bool) :
    Result PacketInfo := do
  raiseIf (maxWireBytes < raw.length) (.value "packet exceeds wire size limit")
  let value ← rt.unpack raw
  let fields ← fetched value.asMap (.value "packet must be a map")
  let info ← validateOuter rt now fields raw
  raiseIf (¬ allowExpired ∧ info.expiresMs ≤ now) (.value "packet expired")
  return info

/-- `value[name]` in a decoded map. -/
def need (value : Fields) (name : String) : Result Value :=
  (Value.field value name).elim (.error (.key name)) .ok

/-- `_aad_fields`. -/
def aadFields (rt : Runtime) (value : Fields) : Result (List Value) := do
  let version ← (need value "v" >>= rt.int)
  let id ← need value "id"
  let dst ← need value "dst"
  let ts ← (need value "ts" >>= rt.int)
  let exp ← (need value "exp" >>= rt.int)
  let hops ← (need value "hops" >>= rt.int)
  let epk ← (need value "epk" >>= rt.bytes)
  let nonce ← (need value "nonce" >>= rt.bytes)
  let qos ← if 2 ≤ version then (need value "qos").map fun q => [Value.str (rt.str q)] else pure []
  let key ← if 3 ≤ version then do
      let km ← need value "km"
      let kid ← need value "kid"
      pure [Value.str (rt.str km),.str (rt.str kid)]
    else pure []
  return ([.int version,.str (rt.str id),.str (rt.str dst),.int ts,.int exp,.int hops,.bin epk,
    .bin nonce] : List Value) ++ qos ++ key

/-- `_inner_fields`. -/
def innerFields (rt : Runtime) (value : Fields) : Result (List Value) := do
  let version ← (need value "v" >>= rt.int)
  let sid ← need value "sid"
  let spk ← (need value "spk" >>= rt.bytes)
  let bpk ← (need value "bpk" >>= rt.bytes)
  let kind ← need value "kind"
  let ts ← (need value "ts" >>= rt.int)
  let causal ← rt.list (Value.fieldOr value "causal" (.list []))
  return [.int version,.str (rt.str sid),.bin spk,.bin bpk,.str (rt.str kind),.int ts,
    Value.fieldOr value "body" .nil,.list causal,
    .str (rt.str (Value.fieldOr value "codec" (.str "msgpack"))),
    .str (rt.str (Value.fieldOr value "reply" (.str "")))]

def v1Domain : Bytes := utf8 "ainet/sealed-packet/v1" ++ [0]

/-- `_key`. -/
def key (rt : Runtime) (crypto : Crypto) (shared : Bytes) (version : ℤ) (packetId : String)
    (recipientBox ephemeralPublic : Bytes) (mode : KeyMode) (prekeyId : String) :
    Result Bytes := do
  let modeText := match mode with | .static => "static" | .opk => "opk"
  let info ← if version ≤ 2 then pure (v1Domain ++ recipientBox ++ ephemeralPublic)
    else rt.canonicalPack (.list [.str "ainet/sealed-packet/v3",.bin recipientBox,
      .bin ephemeralPublic,.str modeText,.str prekeyId])
  let salt ← fetched (fromHex packetId) (.value "non-hexadecimal number found in fromhex()")
  return crypto.hkdf salt info shared

def derivedPrekeyId (rt : Runtime) (publicKey : Bytes) : String :=
  rt.blake2s "anet-opk" 16 publicKey

/-- The private and public key a packet was sealed to. -/
def recipientKey (rt : Runtime) (crypto : Crypto) (identity : Identity) (info : PacketInfo)
    (prekeyPrivate : Option Bytes) : Result (Bytes × Bytes) :=
  match info.keyMode with
  | .opk => do
    let privateKey ← fetched prekeyPrivate (.value "packet requires a one-time prekey")
    raiseIf (privateKey.length ≠ 32) (.value "prekey private key must be 32 bytes")
    let publicKey ← crypto.publicKey privateKey
    raiseIf (derivedPrekeyId rt publicKey ≠ info.prekeyId)
      (.value "packet prekey does not match private key")
    return (privateKey,publicKey)
  | .static => do
    raiseIf (prekeyPrivate.isSome) (.value "static packet does not use a one-time prekey")
    return (identity.boxPrivate,identity.boxPublic)

def bigEndian (bytes : Bytes) : ℕ := bytes.foldl (fun n b => 256 * n + b.toNat) 0

/-- The inner map of a decrypted packet. -/
def innerMap (rt : Runtime) (plaintext : Bytes) : Result Fields := do
  raiseIf (plaintext.length < 4) (.value "decrypted packet is truncated")
  let size := bigEndian (plaintext.take 4)
  raiseIf (size ≤ 0 ∨ plaintext.length - 4 < size) (.value "invalid inner packet length")
  let value ← rt.unpack ((plaintext.drop 4).take size)
  let inner ← fetched value.asMap (.value "unsupported inner packet")
  let version ← rt.int (Value.fieldOr inner "v" (.int 0))
  raiseIf (version ≠ innerVersion) (.value "unsupported inner packet")
  return inner

/-- The sender's keys and id, checked against each other and the signature. -/
def authenticate (rt : Runtime) (crypto : Crypto) (inner : Fields) :
    Result (String × Bytes × Bytes) := do
  let signPublic ← rt.bytes (Value.fieldOr inner "spk" emptyBytes)
  let boxPublic ← rt.bytes (Value.fieldOr inner "bpk" emptyBytes)
  let senderId := rt.str (Value.fieldOr inner "sid" (.str ""))
  raiseIf (signPublic.length ≠ 32 ∨ boxPublic.length ≠ 32) (.value "invalid sender keys")
  raiseIf (crypto.deriveNodeId signPublic boxPublic ≠ senderId)
    (.value "sender id does not match sender keys")
  let signature ← rt.bytes (Value.fieldOr inner "sig" emptyBytes)
  let signed ← innerFields rt inner
  let message ← rt.canonicalPack (.list signed)
  crypto.verify signPublic signature message
  return (senderId,signPublic,boxPublic)

/-- `open_packet`. -/
def openPacket (rt : Runtime) (crypto : Crypto) (identity : Identity) (now : ℤ) (raw : Bytes)
    (prekeyPrivate : Option Bytes) : Result OpenedMessage := do
  let info ← inspectPacket rt now raw false
  raiseIf (info.destinationId ≠ identity.nodeId) (.value "packet is addressed to another node")
  let value ← rt.unpack raw
  let outer ← fetched value.asMap (.type "packet must be a map")
  let ephemeralPublic ← (need outer "epk" >>= rt.bytes)
  let recipient ← recipientKey rt crypto identity info prekeyPrivate
  let shared ← crypto.exchange recipient.1 ephemeralPublic
  let version ← (need outer "v" >>= rt.int)
  let symmetric ← key rt crypto shared version info.packetId recipient.2 ephemeralPublic
    info.keyMode info.prekeyId
  let nonce ← (need outer "nonce" >>= rt.bytes)
  let ciphertext ← (need outer "ct" >>= rt.bytes)
  let aad ← aadFields rt outer
  let packedAad ← rt.canonicalPack (.list aad)
  let plaintext ← crypto.decrypt symmetric nonce ciphertext packedAad
  let inner ← innerMap rt plaintext
  let sender ← authenticate rt crypto inner
  let kind := rt.str (Value.fieldOr inner "kind" (.str ""))
  raiseIf (¬ isKind kind) (.value "invalid inner message kind")
  let causal ← rt.list (Value.fieldOr inner "causal" (.list []))
  let createdMs ← rt.int (Value.fieldOr inner "ts" (.int 0))
  return ⟨info.packetId,sender.1,sender.2.1,sender.2.2,kind,createdMs,
    Value.fieldOr inner "body" .nil,causal.map rt.str,
    rt.str (Value.fieldOr inner "codec" (.str "msgpack")),
    rt.str (Value.fieldOr inner "reply" (.str "")),info.qos,info.keyMode,info.prekeyId⟩

section Inspection

variable {rt : Runtime} {now now' : ℤ} {value : Fields} {raw : Bytes} {info info' : PacketInfo}
  {allow allow' : Bool}

theorem checkLifetime_ok {createdMs expiresMs maxHops : ℤ} :
    checkLifetime createdMs expiresMs maxHops now = .ok () ↔ 0 < createdMs ∧ createdMs < expiresMs ∧
      createdMs ≤ now + maxClockSkewMs ∧ expiresMs ≤ now + maxTtlSeconds * 1000 + maxClockSkewMs ∧
      expiresMs - createdMs ≤ maxTtlSeconds * 1000 ∧ 1 ≤ maxHops ∧ maxHops ≤ 32 := by
  simp only [checkLifetime,bind_ok,raiseIf_ok,not_or,not_le,not_lt,not_not,exists_and_left,
    exists_const,and_assoc]

/-- What the validation establishes; at another time only the lifetime is looked at again. -/
theorem validateOuter_spec (h : validateOuter rt now value raw = .ok info) :
    info.raw = raw ∧ info.packetId.toList.length = 32 ∧ ¬ (fromHex info.packetId).isNone ∧
      checkLifetime info.createdMs info.expiresMs info.maxHops now = .ok () ∧
      ∀ now', validateOuter rt now' value raw =
        (checkLifetime info.createdMs info.expiresMs info.maxHops now').map fun _ => info := by
  simp only [validateOuter,bind_ok] at h
  obtain ⟨version,hversion,_,hversions,_,hlength,_,hhex,_,hdst,created,hcreated,expires,hexpires,hops,
    hhops,_,hlife,epk,hepk,_,hephemeral,nonce,hnonce,_,hshort,_,hqos,key,hkey,ct,hct,_,hsize,hval⟩ := h
  cases hval
  refine ⟨rfl,not_not.mp (raiseIf_ok.mp hlength),raiseIf_ok.mp hhex,hlife,fun now' => ?_⟩
  simp only [validateOuter,hversion,hversions,hlength,hhex,hdst,hcreated,hexpires,hhops,hepk,
    hephemeral,hnonce,hshort,hqos,hkey,hct,hsize,bind,Except.bind]
  cases checkLifetime created expires hops now' <;> rfl

theorem inspectPacket_ok : inspectPacket rt now raw allow = .ok info ↔ raw.length ≤ maxWireBytes ∧
    ∃ value fields, rt.unpack raw = .ok value ∧ value.asMap = some fields ∧
      validateOuter rt now fields raw = .ok info ∧ ¬ (¬ allow ∧ info.expiresMs ≤ now) := by
  simp only [inspectPacket,bind_ok,raiseIf_ok,fetched_ok,not_lt]
  constructor
  · rintro ⟨_,hsize,value,hvalue,fields,hfields,read,hread,_,hlive,hval⟩
    cases hval
    exact ⟨hsize,value,fields,hvalue,hfields,hread,hlive⟩
  · rintro ⟨hsize,value,fields,hvalue,hfields,hread,hlive⟩
    exact ⟨(),hsize,value,hvalue,fields,hfields,info,hread,(),hlive,rfl⟩

/-- What a relay reads from a packet does not depend on the time it looks. -/
theorem inspectPacket_agree (h : inspectPacket rt now raw allow = .ok info)
    (h' : inspectPacket rt now' raw allow' = .ok info') : info' = info := by
  obtain ⟨-,value,fields,hvalue,hfields,hread,-⟩ := inspectPacket_ok.mp h
  obtain ⟨-,value',fields',hvalue',hfields',hread',-⟩ := inspectPacket_ok.mp h'
  obtain rfl := Except.ok.inj (hvalue.symm.trans hvalue')
  obtain rfl := Option.some.inj (hfields.symm.trans hfields')
  rw [(validateOuter_spec hread).2.2.2.2 now',map_ok] at hread'
  obtain ⟨_,-,hval⟩ := hread'
  exact hval.symm

/-- A packet that passes the inspection passes it at any time of its life. -/
theorem inspectPacket_later (h : inspectPacket rt now raw false = .ok info)
    (hstart : info.createdMs ≤ now' + maxClockSkewMs) (hend : now' < info.expiresMs) :
    inspectPacket rt now' raw false = .ok info := by
  obtain ⟨hsize,value,fields,hvalue,hfields,hread,-⟩ := inspectPacket_ok.mp h
  refine inspectPacket_ok.mpr ⟨hsize,value,fields,hvalue,hfields,?_,by omega⟩
  obtain ⟨-,-,-,hlife,hany⟩ := validateOuter_spec hread
  obtain ⟨hcreated,hexpires,-,-,hspan,hhops⟩ := checkLifetime_ok.mp hlife
  rw [hany,checkLifetime_ok.mpr ⟨hcreated,hexpires,hstart,by omega,hspan,hhops⟩]
  rfl

theorem inspectPacket_raw (h : inspectPacket rt now raw allow = .ok info) : info.raw = raw := by
  obtain ⟨-,_,_,-,-,hread,-⟩ := inspectPacket_ok.mp h
  exact (validateOuter_spec hread).1

theorem inspectPacket_hops (h : inspectPacket rt now raw allow = .ok info) :
    1 ≤ info.maxHops ∧ info.maxHops ≤ 32 := by
  obtain ⟨-,_,_,-,-,hread,-⟩ := inspectPacket_ok.mp h
  exact (checkLifetime_ok.mp (validateOuter_spec hread).2.2.2.1).2.2.2.2.2

end Inspection

end Packet
end Anet
