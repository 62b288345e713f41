import Anet.WorkRuns
import Anet.PeerPrekeys

/-! Runs of the whole packet store: the calls on messages and their deliveries
together with the calls on packets and on both kinds of one-time keys. Every such
run is a run of the message calls in which the others are steps elsewhere. -/
namespace Anet

open PacketStore Packet

inductive StoreOp
  | work (op : WorkOp)
  | addPacket (raw : Bytes) (depth : ℤ) (origin receivedFrom : String) (now : ℤ)
  | attempt (packetIds : List String) (peerId error pathId : String) (now : ℤ)
  | custody (packetIds : List String) (peerId pathId : String) (now : ℤ)
  | acked (packetIds : List String) (peerId pathId : String) (now : ℤ)
  | receipt (packetId recipientId : String) (now : ℤ)
  | delivered (packetId : String)
  | rejected (packetId peerId reason : String) (now : ℤ)
  | reconcile
  | importBundle (bundle : PeerBundle) (keys : List PeerKey) (now : ℤ)
  | reserve (peerId reservationId : String) (minBundleVersion : ℤ) (drawn : Token) (now : ℤ)
  | bind (peerId keyId reservationId packetId : String) (now : ℤ)
  | burn (peerId keyId reservationId : String) (now : ℤ)
  | retryDispatch (owner : ConsumerId) (claimToken : Token) (error : String) (retry : RetryMs)
      (drawn : Token) (now : ℤ)
  | commitDispatch (owner : ConsumerId) (claimToken : Token) (raw : Bytes)
      (keyId reservationId : String) (now : ℤ)
  | addBatch (keys : List LocalKey) (batch : LocalBatch)
  | scopeLegacy (peerId : String)
  | retireUnscoped (peerIds : List String) (now : ℤ)

/-- The tables the packet and prekey calls write. -/
structure LedgerTables where
  packets : Packets
  localPrekeys : LocalPrekeys
  peerPrekeys : PeerPrekeys

def PacketStore.ledger (s : PacketStore) : LedgerTables :=
  ⟨s.packets,s.localPrekeys,s.peerPrekeys⟩

namespace StoreOp

def exec (rt : Runtime) : StoreOp → PacketStore → PacketStore
  | .work op,s => op.exec rt s
  | .addPacket raw depth origin receivedFrom now,s =>
    (PacketStore.addPacket rt raw depth origin receivedFrom now s).2
  | .attempt packetIds peerId error pathId now,s => markAttempt packetIds peerId error pathId now s
  | .custody packetIds peerId pathId now,s => markCustodied packetIds peerId pathId now s
  | .acked packetIds peerId pathId now,s => markAcked packetIds peerId pathId now s
  | .receipt packetId recipientId now,s => recordReceipt packetId recipientId now s
  | .delivered packetId,s => markLocalDelivered packetId s
  | .rejected packetId peerId reason now,s => markLocalRejected packetId peerId reason now s
  | .reconcile,s => reconcileDelivered s
  | .importBundle bundle keys now,s => (importPeerPrekeyBundle bundle keys now s).2
  | .reserve peerId reservationId minBundleVersion drawn now,s =>
    (reservePeerPrekey peerId reservationId minBundleVersion drawn now s).2
  | .bind peerId keyId reservationId packetId now,s =>
    (bindPeerPrekey peerId keyId reservationId packetId now s).2
  | .burn peerId keyId reservationId now,s => (burnPeerPrekey peerId keyId reservationId now s).2
  | .retryDispatch owner claimToken error retry drawn now,s =>
    (retryA2ADispatch owner claimToken error retry drawn now s).2
  | .commitDispatch owner claimToken raw keyId reservationId now,s =>
    (commitA2ADispatchPacket rt owner claimToken raw keyId reservationId now s).2
  | .addBatch keys batch,s => (addLocalPrekeyBatch keys batch s).2
  | .scopeLegacy peerId,s => (scopeLegacyLocalPrekeys peerId s).2
  | .retireUnscoped peerIds now,s => (retireUnscopedLocalPrekeys peerIds now s).2

/-- The call as the message tables see it. -/
def asWork (rt : Runtime) (s : PacketStore) : StoreOp → WorkOp
  | .work op => op
  | op => .elsewhere (op.exec rt s)

/-- What the message calls require; calls on other tables leave these and the packet
and prekey tables alone. -/
def Allowed (w : WorkWorld) : StoreOp → Prop
  | .work op => op.Allowed w ∧ ∀ s', op = .elsewhere s' → s'.ledger = w.store.ledger
  | _ => True

/-- The packet a call stores, if its id is new. -/
def adds (rt : Runtime) (s : PacketStore) : StoreOp → Option PacketInfo
  | .addPacket raw _ _ _ now =>
    (inspectPacket rt now raw false).toOption.filter fun info =>
      (s.packets.get info.packetId).isNone
  | .commitDispatch _ _ raw _ _ now => (inspectPacket rt now raw false).toOption
  | _ => none

/-- The row of a packet that the call stores. -/
def Added (rt : Runtime) (op : StoreOp) (s : PacketStore) (p : PacketRow) : Prop :=
  ∃ info, op.adds rt s = some info ∧ p.destinationId = info.destinationId

end StoreOp

def WorkWorld.next (rt : Runtime) (w : WorkWorld) (op : StoreOp) : WorkWorld :=
  w.after rt (op.asWork rt w.store)

def StoreStep (rt : Runtime) (w w' : WorkWorld) : Prop :=
  ∃ op : StoreOp, op.Allowed w ∧ w' = w.next rt op

/-- The same packet at a later time: it may have been delivered or cut short. -/
structure PacketRow.Later (p p' : PacketRow) : Prop where
  raw : p'.raw = p.raw
  origin : p'.origin = p.origin
  destination : p'.destinationId = p.destinationId
  expires : p'.expiresMs ≤ p.expiresMs
  delivered : p.delivered → p'.delivered

namespace PacketRow

theorem Later.refl (p : PacketRow) : Later p p := ⟨rfl,rfl,rfl,le_refl _,id⟩

theorem Later.trans {p p' p'' : PacketRow} (h : Later p p') (h' : Later p' p'') : Later p p'' :=
  ⟨h'.raw.trans h.raw,h'.origin.trans h.origin,h'.destination.trans h.destination,
    h'.expires.trans h.expires,fun hp => h'.delivered (h.delivered hp)⟩

end PacketRow

/-- What one call can do to a key this node handed out. -/
inductive LocalPrekey.Change (op : StoreOp) : LocalPrekey → LocalPrekey → Prop
  | same (r : LocalPrekey) : Change op r r
  | scope (r : LocalPrekey) (named peerId : String) (hop : op = .scopeLegacy named)
      (hpeer : prekeyPeerId named = .ok peerId) (hr : r.peerId = "") :
      Change op r { r with peerId := peerId }
  | retire (r : LocalPrekey) (now : ℤ) (hr : r.peerId = "") (hkey : r.privateKey.isSome) :
      Change op r (r.retire now)
  | consume (r : LocalPrekey) (message : OpenedMessage) (trusted visible : Bool) (now : ℤ)
      (hop : op = .work (.commit message trusted visible now)) (hmode : message.keyMode = .opk)
      (hid : r.prekeyId = message.prekeyId) (husable : r.usable)
      (hsender : r.peerId = message.senderId) : Change op r (r.consume now message.packetId)
  | revoke (r : LocalPrekey) (now : ℤ) (hstate : r.state ≠ .revoked) : Change op r (r.revoke now)
  | expire (r : LocalPrekey) (now : ℤ) (husable : r.usable) : Change op r (r.expire now)

/-- A key this node hands out for the first time. -/
def LocalPrekey.Issued (op : StoreOp) (r : LocalPrekey) : Prop :=
  ∃ keys batch arguments key, op = .addBatch keys batch ∧
    localBatchArguments batch keys = .ok arguments ∧ key ∈ arguments.2 ∧
    r = localPrekeyRow arguments.1 key

/-- A peer's key that can still be handed to a sender. -/
def PeerPrekey.unspent (r : PeerPrekey) : Prop := r.state = .available ∨ r.state = .reserved

/-- The key belongs to the same peer and no spent key comes back. -/
structure PeerPrekey.Aged (r r' : PeerPrekey) : Prop where
  peer : r'.peerId = r.peerId
  unspent : r'.unspent → r.unspent

def PeerPrekey.Imported (op : StoreOp) (r : PeerPrekey) : Prop :=
  ∃ bundle keys now arguments, op = .importBundle bundle keys now ∧
    bundleArguments bundle keys now = .ok arguments ∧ r.peerId = arguments.1.peerId

theorem PeerPrekey.Aged.refl (r : PeerPrekey) : Aged r r := ⟨rfl,id⟩

theorem PeerPrekey.Aged.trans {r r' r'' : PeerPrekey} (h : Aged r r') (h' : Aged r' r'') :
    Aged r r'' :=
  ⟨h'.peer.trans h.peer,fun hr => h.unspent (h'.unspent hr)⟩

end Anet
