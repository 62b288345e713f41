import Anet.Base64
import Anet.Packet
import Anet.PeerBook
import Mathlib.Data.Nat.Size

/-! Carrier frames: the rotating channels of a pair of nodes, and the signed, padded
and encrypted frame that one of them leaves in a channel for the other. -/
namespace Anet

def legacyCarrierVersion : ℤ := 1
def carrierVersion : ℤ := 2
def channelEpochMs : ℤ := 7 * 24 * 60 * 60 * 1000
def channelHistoryEpochs : ℕ := 5
def maxFrameAgeMs : ℤ := 31 * 86400 * 1000
def maxDropBytes : ℕ := 12 * 1024 * 1024
def carrierFrameMinBytes : ℕ := 4096
def carrierWireReserveBytes : ℕ := 256

/-- The primitives the carriers take from the cryptography package and hashlib. -/
structure CarrierCrypto where
  exchange : (boxPrivate boxPublic : Bytes) → Result Bytes
  sha256 : Bytes → Bytes
  hkdf : (length : ℕ) → (salt info shared : Bytes) → Bytes
  hmacHex : (key message : Bytes) → String
  encrypt : (key nonce plaintext aad : Bytes) → Bytes
  decrypt : (key nonce ciphertext aad : Bytes) → Result Bytes
  sign : (signPrivate message : Bytes) → Bytes
  verify : (signPublic signature message : Bytes) → Result Unit

structure CarrierIdentity where
  nodeId : String
  signPrivate : Bytes
  boxPrivate : Bytes

structure CarrierChannel where
  version : ℤ
  epoch : ℤ
  token : String
  encryptionKey : Bytes
  namingKey : Bytes
  deriving DecidableEq

/-- The name of the collection: version 1 has an identifying prefix. -/
def CarrierChannel.locator (c : CarrierChannel) : String :=
  if c.version = legacyCarrierVersion then "ch-" ++ c.token else c.token

inductive FrameKind
  | packet | ack
  deriving DecidableEq

def FrameKind.text : FrameKind → String
  | packet => "packet"
  | ack => "ack"

structure CarrierFrame where
  kind : FrameKind
  peerId : String
  packetId : String
  name : String
  raw : Bytes
  depth : ℤ
  deriving DecidableEq

/-- What a frame draws at random. -/
structure FrameRandom where
  salt : Bytes
  nonce : Bytes
  padding : ℕ → Bytes
  salt_length : salt.length = 16
  nonce_length : nonce.length = 12
  padding_length : ∀ n, (padding n).length = n

namespace Carrier

open Packet (Fields need)

/-- `_packet_id`. -/
def packetIdText (value : String) : Result String := do
  raiseIf (value.toList.length ≠ 32) (.value "invalid carrier packet id")
  raiseIf ((fromHex value).isNone) (.value "invalid carrier packet id")
  return value

/-- The bucket of a plaintext: a power of two, or its own size when that is too large. -/
def frameTarget (required : ℕ) : ℕ :=
  let target := max carrierFrameMinBytes (2 ^ Nat.size (required - 1))
  if maxDropBytes - carrierWireReserveBytes < target then required else target

def padFramePlaintext (padding : ℕ → Bytes) (raw : Bytes) : Result Bytes := do
  let required := 4 + raw.length
  let target := frameTarget required
  raiseIf (maxDropBytes - carrierWireReserveBytes < target)
    (.value "directory carrier plaintext is too large")
  return wordBytes 4 raw.length ++ raw ++ padding (target - required)

def unpadFramePlaintext (raw : Bytes) : Result Bytes := do
  raiseIf (raw.length < 4) (.value "invalid padded carrier plaintext")
  let size := wordValue (raw.take 4)
  raiseIf (size < 1 ∨ raw.length - 4 < size) (.value "invalid padded carrier plaintext length")
  return (raw.drop 4).take size

def epochAt (createdMs : ℤ) : Result ℤ :=
  if createdMs < 0 then .error (.value "carrier timestamp cannot be negative")
  else .ok (createdMs / channelEpochMs)

variable (rt : Runtime) (lib : CarrierCrypto)

section Channels

/-- The epoch as a field: there from version 2 on. -/
def epochFields (version epoch : ℤ) : List Value :=
  if carrierVersion ≤ version then [.int epoch] else []

def deriveChannel (self : CarrierIdentity) (peer : PeerCard) (senderId recipientId : String)
    (version epoch : ℤ) : Result CarrierChannel := do
  raiseIf (¬ ((senderId = self.nodeId ∧ recipientId = peer.nodeId) ∨
      (senderId = peer.nodeId ∧ recipientId = self.nodeId)))
    (.value "carrier channel participants do not match keys")
  raiseIf (version ∉ [legacyCarrierVersion,carrierVersion])
    (.value "unsupported carrier channel version")
  let epoch := if version = legacyCarrierVersion then 0 else epoch
  raiseIf (epoch < 0) (.value "invalid carrier channel epoch")
  let shared ← lib.exchange self.boxPrivate peer.boxPublic
  let participants := sortedStrings [self.nodeId,peer.nodeId]
  let context ← rt.canonicalPack (.list (([.str "ainet/directory-carrier",.int version,
    .list (participants.map .str)] : List Value) ++ epochFields version epoch))
  let direction ← rt.canonicalPack (.list (([.str "direction",.str senderId,.str recipientId] :
    List Value) ++ epochFields version epoch))
  let material := lib.hkdf 84 (lib.sha256 context) direction shared
  return ⟨version,epoch,b64e (material.take 20),(material.drop 20).take 32,
    (material.drop 52).take 32⟩

def outboundChannel (self : CarrierIdentity) (peer : PeerCard) (version epoch : ℤ) :
    Result CarrierChannel :=
  deriveChannel rt lib self peer self.nodeId peer.nodeId version epoch

def inboundChannel (self : CarrierIdentity) (peer : PeerCard) (version epoch : ℤ) :
    Result CarrierChannel :=
  deriveChannel rt lib self peer peer.nodeId self.nodeId version epoch

/-- The current epoch, those before it, the one after it, and the channel of version 1. -/
def inboundChannels (self : CarrierIdentity) (peer : PeerCard) (now : ℤ) :
    Result (List CarrierChannel) := do
  let current ← epochAt now
  let epochs := (List.range (channelHistoryEpochs + 1)).map (fun offset : ℕ => current - offset) ++
    [current + 1]
  let channels ← (epochs.filter fun epoch => 0 ≤ epoch).mapM fun epoch =>
    inboundChannel rt lib self peer carrierVersion epoch
  let legacy ← inboundChannel rt lib self peer legacyCarrierVersion 0
  return channels ++ [legacy]

end Channels

/-- `_filename`. -/
def filename (channel : CarrierChannel) (kind packetId : String) : Result String := do
  let message ← rt.canonicalPack (.list [.str kind,.str packetId])
  let digest := lib.hmacHex channel.namingKey message
  return if channel.version = legacyCarrierVersion then cut 40 digest ++ ".drop"
    else cut 48 digest

def aad (channel : CarrierChannel) : Result Bytes :=
  rt.canonicalPack (.list (([.str "ainet/directory-carrier",.int channel.version,
    .str channel.token] : List Value) ++ epochFields channel.version channel.epoch))

/-- The epoch of a frame body, from version 2 on. -/
def bodyEpoch (version : ℤ) (value : Fields) : Result (List Value) :=
  if carrierVersion ≤ version then do
    let epoch ← need value "e" >>= rt.int
    return [.int epoch]
  else .ok []

/-- `_fields`: what the sender signs. -/
def frameFields (value : Fields) : Result (List Value) := do
  let version ← need value "v" >>= rt.int
  let kind ← need value "t"
  let sid ← need value "sid"
  let rid ← need value "rid"
  let epoch ← bodyEpoch rt version value
  let ts ← need value "ts" >>= rt.int
  let salt ← need value "salt" >>= rt.bytes
  let pid ← need value "pid"
  let depth ← rt.int (Value.fieldOr value "depth" (.int 0))
  let raw ← rt.bytes (Value.fieldOr value "raw" (.bin []))
  return ([.int version,.str (rt.str kind),.str (rt.str sid),.str (rt.str rid)] : List Value) ++
    epoch ++ ([.int ts,.bin salt,.str (rt.str pid),.int depth,.bin raw] : List Value)

/-- The body of a frame before it is signed. -/
def unsignedBody (version epoch : ℤ) (kind : FrameKind) (senderId recipientId : String)
    (createdMs : ℤ) (salt : Bytes) (packetId : String) (depth : ℤ) (raw : Bytes) : Fields :=
  ([(.str "v",.int version),(.str "t",.str kind.text),(.str "sid",.str senderId),
    (.str "rid",.str recipientId),(.str "ts",.int createdMs),(.str "salt",.bin salt),
    (.str "pid",.str packetId),(.str "depth",.int depth),(.str "raw",.bin raw)] : Fields) ++
  if carrierVersion ≤ version then [(.str "e",.int epoch)] else []

/-- Padding, from version 2 on. -/
def padded (version : ℤ) (padding : ℕ → Bytes) (plaintext : Bytes) : Result Bytes :=
  if carrierVersion ≤ version then padFramePlaintext padding plaintext else .ok plaintext

def unpadded (version : ℤ) (plaintext : Bytes) : Result Bytes :=
  if carrierVersion ≤ version then unpadFramePlaintext plaintext else .ok plaintext

/-- The epoch a frame of this version is filed under. -/
def frameEpoch (version createdMs : ℤ) : Result ℤ :=
  if carrierVersion ≤ version then epochAt createdMs else .ok 0

def encodeFrame (self : CarrierIdentity) (peer : PeerCard) (kind : FrameKind) (packetId : String)
    (raw : Bytes) (depth createdMs version : ℤ) (random : FrameRandom) :
    Result (CarrierChannel × String × Bytes) := do
  let packetId ← packetIdText packetId
  let epoch ← frameEpoch version createdMs
  let channel ← outboundChannel rt lib self peer version epoch
  let body := unsignedBody version epoch kind self.nodeId peer.nodeId createdMs random.salt
    packetId depth raw
  let signed ← frameFields rt body
  let message ← rt.canonicalPack (.list signed)
  let plaintext ← rt.pack (.map (body ++ [(.str "sig",.bin (lib.sign self.signPrivate message))]))
  let plaintext ← padded version random.padding plaintext
  let bound ← aad rt channel
  let ciphertext := lib.encrypt channel.encryptionKey random.nonce plaintext bound
  let wire ← rt.pack (.map [(.str "v",.int version),(.str "n",.bin random.nonce),
    (.str "ct",.bin ciphertext)])
  raiseIf (maxDropBytes < wire.length) (.value "directory carrier frame is too large")
  let name ← filename rt lib channel kind.text packetId
  return (channel,name,wire)

/-- The version a carrier writes for a peer: 2 when the peer's card has the capability. -/
def frameVersion (capability : String) (peer : PeerCard) : ℤ :=
  if capability ∈ peer.capabilities then carrierVersion else legacyCarrierVersion

/-- The epoch checks of a body of version 2. -/
def checkEpoch (version : ℤ) (channel : CarrierChannel) (body : Fields) : Result Unit :=
  if carrierVersion ≤ version then do
    let epoch ← rt.int (Value.fieldOr body "e" (.int (-1)))
    raiseIf (epoch ≠ channel.epoch) (.value "directory carrier epoch mismatch")
  else .ok ()

def checkTimestampEpoch (version createdMs : ℤ) (channel : CarrierChannel) : Result Unit :=
  if carrierVersion ≤ version then do
    let epoch ← epochAt createdMs
    raiseIf (epoch ≠ channel.epoch)
      (.value "directory carrier timestamp does not match its epoch")
  else .ok ()

def frameKind (kind : String) : Option FrameKind :=
  if kind = "packet" then some .packet else if kind = "ack" then some .ack else none

/-- The frame of an authenticated body. -/
def openBody (peer : PeerCard) (now : ℤ) (body : Fields) (kind : FrameKind)
    (packetId name : String) : Result CarrierFrame :=
  match kind with
  | .ack => do
    let raw ← rt.bytes (Value.fieldOr body "raw" (.bin []))
    let depth ← rt.int (Value.fieldOr body "depth" (.int 0))
    raiseIf (raw ≠ [] ∨ depth ≠ 0) (.value "invalid directory carrier acknowledgement")
    return ⟨.ack,peer.nodeId,packetId,name,[],0⟩
  | .packet => do
    let raw ← rt.bytes (Value.fieldOr body "raw" (.bin []))
    let info ← Packet.inspectPacket rt now raw false
    let depth ← rt.int (Value.fieldOr body "depth" (.int 0))
    raiseIf (info.packetId ≠ packetId ∨ depth < 1 ∨ info.maxHops < depth)
      (.value "invalid carried packet metadata")
    return ⟨.packet,peer.nodeId,packetId,name,raw,depth⟩

/-- `decode_frame` at the time `now`. -/
def decodeFrame (self : CarrierIdentity) (peer : PeerCard) (channel : CarrierChannel)
    (now : ℤ) (name : String) (rawWire : Bytes) : Result CarrierFrame := do
  raiseIf (maxDropBytes < rawWire.length) (.value "directory carrier frame is too large")
  let wire ← rt.unpack rawWire
  let wire ← fetched wire.asMap (.value "unsupported directory carrier frame")
  let version ← rt.int (Value.fieldOr wire "v" (.int 0))
  raiseIf (version ∉ [legacyCarrierVersion,carrierVersion])
    (.value "unsupported directory carrier frame")
  raiseIf (version ≠ channel.version) (.value "directory carrier channel version mismatch")
  let nonce ← rt.bytes (Value.fieldOr wire "n" (.bin []))
  raiseIf (nonce.length ≠ 12) (.value "invalid directory carrier nonce")
  let ciphertext ← rt.bytes (Value.fieldOr wire "ct" (.bin []))
  let bound ← aad rt channel
  let plaintext ← lib.decrypt channel.encryptionKey nonce ciphertext bound
  let plaintext ← unpadded version plaintext
  let body ← rt.unpack plaintext
  let body ← fetched body.asMap (.value "invalid directory carrier body")
  let bodyVersion ← rt.int (Value.fieldOr body "v" (.int 0))
  raiseIf (bodyVersion ≠ version) (.value "invalid directory carrier body")
  checkEpoch rt version channel body
  raiseIf (¬ ((Value.fieldOr body "sid" .nil).isStr peer.nodeId ∧
      (Value.fieldOr body "rid" .nil).isStr self.nodeId))
    (.value "directory carrier frame has wrong participants")
  let createdMs ← rt.int (Value.fieldOr body "ts" (.int 0))
  raiseIf (now + maxClockSkewMs < createdMs ∨ createdMs < now - maxFrameAgeMs)
    (.value "directory carrier frame timestamp is outside the acceptance window")
  checkTimestampEpoch version createdMs channel
  let salt ← rt.bytes (Value.fieldOr body "salt" (.bin []))
  raiseIf (salt.length ≠ 16) (.value "invalid directory carrier frame salt")
  let signature ← rt.bytes (Value.fieldOr body "sig" (.bin []))
  let signed ← frameFields rt body
  let message ← rt.canonicalPack (.list signed)
  lib.verify peer.signPublic signature message
  let kind ← fetched (frameKind (rt.str (Value.fieldOr body "t" (.str ""))))
    (.value "invalid directory carrier frame kind")
  let packetId ← packetIdText (rt.str (Value.fieldOr body "pid" (.str "")))
  let expected ← filename rt lib channel kind.text packetId
  raiseIf (name ≠ expected)
    (.value "directory carrier filename does not match its authenticated body")
  openBody rt peer now body kind packetId name

/-- `publish_packet` up to the write: the frame of a stored packet. -/
def packetFrame (capability : String) (self : CarrierIdentity) (peer : PeerCard) (raw : Bytes)
    (depth now : ℤ) (random : FrameRandom) : Result (CarrierChannel × String × Bytes) := do
  let info ← Packet.inspectPacket rt now raw false
  raiseIf (depth < 1 ∨ info.maxHops < depth) (.value "invalid directory carrier relay depth")
  encodeFrame rt lib self peer .packet info.packetId raw depth now (frameVersion capability peer)
    random

/-- `publish_ack` up to the write. -/
def ackFrame (capability : String) (self : CarrierIdentity) (peer : PeerCard) (packetId : String)
    (now : ℤ) (random : FrameRandom) : Result (CarrierChannel × String × Bytes) :=
  encodeFrame rt lib self peer .ack packetId [] 0 now (frameVersion capability peer) random

end Carrier
end Anet
