import Anet.StoreSchema
import Anet.Packet
import Mathlib.Data.List.Sort

/-! The packet side of the store: packets held for forwarding, what each peer
and path has of them, receipts, rejections and the delivered flag. -/
namespace Anet

def qosRank (qos : String) : ℕ :=
  if qos = "control" then 0 else if qos = "interactive" then 1 else if qos = "normal" then 2 else 3

/-- A packet as `pending_for_peer` returns it. -/
structure PendingPacket where
  packetId : String
  raw : Bytes
  depth : ℤ
  maxHops : ℤ
  destinationId : String
  qos : String

def PacketRow.pending (p : PacketRow) : PendingPacket :=
  ⟨p.packetId,p.raw,p.depth,p.maxHops,p.destinationId,p.qos⟩

/-- `LIMIT max(1, min(limit, most))`. -/
def clampLimit (limit most : ℤ) : ℕ := (max 1 (min limit most)).toNat

namespace PacketStore

open Packet

/-- `add_packet`; the result says whether the packet is new. -/
def addPacket (rt : Runtime) (raw : Bytes) (depth : ℤ) (origin receivedFrom : String) (now : ℤ)
    (s : PacketStore) : Result Bool × PacketStore :=
  match inspectPacket rt now raw false with
  | .error e => (.error e,s)
  | .ok info =>
    if depth < 0 ∨ info.maxHops < depth then
      (.error (.value "packet relay depth exceeds hop limit"),s)
    else
      match s.packets.insert ⟨info.packetId,info.destinationId,info.createdMs,info.expiresMs,
          info.maxHops,depth,raw,origin,receivedFrom,now,false,info.qos⟩ with
      | some packets => (.ok true,{ s with packets := packets })
      | none =>
        (.ok false,{ s with
          packets := s.packets.update (fun r => r.packetId = info.packetId)
            (fun r => { r with depth := min r.depth depth }) (fun _ => rfl)
            (noMarks_subset _) })

/-- `SELECT delivered FROM packets`. -/
def packetDelivered (s : PacketStore) (packetId : String) : Bool :=
  ((s.packets.get packetId).map PacketRow.delivered).getD false

/-- `UPDATE packets SET delivered = 1 WHERE packet_id = ? ...`. -/
def deliver (packets : Packets) (p : PacketRow → Prop) [DecidablePred p] : Packets :=
  packets.update p (fun r => { r with delivered := true }) (fun _ => rfl)
    (noMarks_subset _)

/-- `mark_local_delivered`. -/
def markLocalDelivered (packetId : String) (s : PacketStore) : PacketStore :=
  { s with packets := deliver s.packets fun r => r.packetId = packetId }

def upsertDelivery (d : Deliveries) (packetId peerId : String) (state : SyncState) (attempts : ℕ)
    (now : ℤ) (error : String) (f : DeliveryRow → DeliveryRow)
    (hf : ∀ r, (f r).key = r.key) : Deliveries :=
  (d.upsert ⟨packetId,peerId,state,attempts,now,error⟩ f hf).getD d

def upsertPath (d : DeliveryPaths) (packetId peerId pathId : String) (state : PathState)
    (now : ℤ) (error : String) (f : DeliveryPathRow → DeliveryPathRow)
    (hf : ∀ r, (f r).key = r.key) : DeliveryPaths :=
  (d.upsert ⟨packetId,peerId,pathId,state,1,now,error⟩ f hf).getD d

/-- One packet of `mark_attempt`. -/
def attemptOne (peerId error pathId : String) (now : ℤ) (s : PacketStore) (packetId : String) :
    PacketStore :=
  { s with
    deliveries := upsertDelivery s.deliveries packetId peerId .sent 1 now (cut 1000 error)
      (fun r => { r with
        state := if r.state = .acked then .acked else .sent
        attempts := r.attempts + 1, lastAttemptMs := now, lastError := cut 1000 error })
      (fun _ => rfl)
    deliveryPaths := upsertPath s.deliveryPaths packetId peerId pathId .sent now (cut 1000 error)
      (fun r => { r with
        state := if r.state = .acked ∨ r.state = .custodied then r.state else .sent
        attempts := r.attempts + 1, lastAttemptMs := now, lastError := cut 1000 error })
      (fun _ => rfl) }

/-- `mark_attempt`. -/
def markAttempt (packetIds : List String) (peerId error pathId : String) (now : ℤ)
    (s : PacketStore) : PacketStore :=
  packetIds.foldl (attemptOne peerId error pathId now) s

/-- One packet of `mark_custodied`. -/
def custodyOne (peerId pathId : String) (now : ℤ) (s : PacketStore) (packetId : String) :
    PacketStore :=
  { s with
    deliveryPaths := upsertPath s.deliveryPaths packetId peerId pathId .custodied now ""
      (fun r => { r with
        state := if r.state = .acked then .acked else .custodied
        lastAttemptMs := now, lastError := "" })
      (fun _ => rfl) }

/-- `mark_custodied`. -/
def markCustodied (packetIds : List String) (peerId pathId : String) (now : ℤ)
    (s : PacketStore) : PacketStore :=
  packetIds.foldl (custodyOne peerId pathId now) s

/-- One packet of `mark_acked`: only the destination's acknowledgement completes it. -/
def ackOne (peerId pathId : String) (now : ℤ) (s : PacketStore) (packetId : String) :
    PacketStore :=
  { s with
    deliveries := upsertDelivery s.deliveries packetId peerId .acked 1 now ""
      (fun r => { r with state := .acked, lastAttemptMs := now, lastError := "" }) (fun _ => rfl)
    deliveryPaths := upsertPath s.deliveryPaths packetId peerId pathId .acked now ""
      (fun r => { r with state := .acked, lastAttemptMs := now, lastError := "" }) (fun _ => rfl)
    packets := deliver s.packets fun r => r.packetId = packetId ∧ r.destinationId = peerId }

/-- `mark_acked`. -/
def markAcked (packetIds : List String) (peerId pathId : String) (now : ℤ) (s : PacketStore) :
    PacketStore :=
  packetIds.foldl (ackOne peerId pathId now) s

/-- `record_receipt`. -/
def recordReceipt (packetId recipientId : String) (now : ℤ) (s : PacketStore) : PacketStore :=
  { s with
    receipts := (s.receipts.upsert ⟨packetId,recipientId,now⟩
      (fun r => { r with recipientId := recipientId, deliveredMs := now }) (fun _ => rfl)).getD
        s.receipts
    packets := deliver s.packets fun r => r.packetId = packetId }

/-- `mark_local_rejected`. -/
def markLocalRejected (packetId peerId reason : String) (now : ℤ) (s : PacketStore) :
    PacketStore :=
  { s with
    packets := deliver s.packets fun r => r.packetId = packetId
    packetRejections :=
      s.packetRejections.insertOrIgnore ⟨packetId,cut 128 peerId,now,cut 1000 reason⟩ }

/-- `UPDATE packets SET delivered = 1`, each time the database is opened, for packets
whose destination acknowledged them. -/
def reconcileDelivered (s : PacketStore) : PacketStore :=
  { s with
    packets := deliver s.packets fun p => p.delivered = false ∧
      ∃ d ∈ s.deliveries.get (p.packetId,p.destinationId), d.state = .acked }

/-- The conditions of `pending_for_peer`: the packet is alive, within its hops, did not
come from the peer, and neither the peer nor the path has it or was just tried. -/
def offered (s : PacketStore) (peerId : String) (retryAfterMs : ℤ) (pathId : Option String)
    (qosAllow : Option (List String)) (now : ℤ) (p : PacketRow) : Prop :=
  now < p.expiresMs ∧ p.delivered = false ∧ p.depth < p.maxHops ∧ p.receivedFrom ≠ peerId ∧
    (∀ d ∈ s.deliveries.get (p.packetId,peerId),
      d.state ≠ .acked ∧ d.lastAttemptMs ≤ now - max 0 retryAfterMs) ∧
    (∀ path ∈ pathId, ∀ d ∈ s.deliveryPaths.get (p.packetId,peerId,path), d.state = .sent) ∧
    ∀ allowed ∈ qosAllow, p.qos ∈ allowed

instance (s : PacketStore) (peerId : String) (retryAfterMs : ℤ) (pathId : Option String)
    (qosAllow : Option (List String)) (now : ℤ) :
    DecidablePred (s.offered peerId retryAfterMs pathId qosAllow now) :=
  fun _ => inferInstanceAs (Decidable (_ ∧ _))

def offerRank (peerId : String) (p : PacketRow) : ℕ :=
  (if p.destinationId = peerId then 0 else 4) + qosRank p.qos

/-- Packets for the peer itself first, then by class and age. -/
def offerOrder (peerId : String) (a b : PacketRow) : Prop :=
  offerRank peerId a < offerRank peerId b ∨
    (offerRank peerId a = offerRank peerId b ∧ a.createdMs ≤ b.createdMs)

instance (peerId : String) : DecidableRel (offerOrder peerId) :=
  fun _ _ => inferInstanceAs (Decidable (_ ∨ _))

/-- `pending_for_peer`. -/
def pendingForPeer (peerId : String) (limit retryAfterMs : ℤ) (pathId : Option String)
    (qosAllow : Option (List String)) (now : ℤ) (s : PacketStore) :
    Result (List PendingPacket) :=
  if qosAllow = some [] then .ok []
  else if ∃ allowed ∈ qosAllow, ∃ qos ∈ allowed,
      qos ∉ ["control","interactive","normal","bulk"] then .error (.value "invalid QoS filter")
  else .ok ((((s.packets.select (s.offered peerId retryAfterMs pathId qosAllow now)).insertionSort
    (offerOrder peerId)).take (clampLimit limit 1024)).map PacketRow.pending)

/-- The undelivered packets that have not expired, oldest first. -/
def livePackets (s : PacketStore) (now : ℤ) (p : PacketRow → Prop) [DecidablePred p] :
    List PacketRow :=
  (s.packets.select fun r => now < r.expiresMs ∧ r.delivered = false ∧ p r).insertionSort
    fun a b => a.createdMs ≤ b.createdMs

/-- `local_packets`. -/
def localPackets (destinationId : String) (limit now : ℤ) (s : PacketStore) : List Bytes :=
  ((s.livePackets now fun r => r.destinationId = destinationId).take
    (clampLimit limit 10000)).map PacketRow.raw

/-- The rows of `export_packets`. -/
def exportRows (destinationId : String) (limit now : ℤ) (s : PacketStore) : List PacketRow :=
  (s.livePackets now fun r => destinationId ≠ "" → r.destinationId = destinationId).take
    (clampLimit limit 100000)

/-- `export_packets`. -/
def exportPackets (destinationId : String) (limit now : ℤ) (s : PacketStore) : List Bytes :=
  (s.exportRows destinationId limit now).map PacketRow.raw

section Selections

variable {s : PacketStore} {peerId : String} {limit retryAfterMs now : ℤ}
  {pathId : Option String} {qosAllow : Option (List String)}

theorem mem_pendingForPeer {l : List PendingPacket} {x : PendingPacket}
    (h : s.pendingForPeer peerId limit retryAfterMs pathId qosAllow now = .ok l) (hx : x ∈ l) :
    ∃ p, s.packets.get p.packetId = some p ∧ s.offered peerId retryAfterMs pathId qosAllow now p ∧
      x = p.pending := by
  unfold pendingForPeer at h
  split at h
  · cases h
    cases hx
  · split at h
    · cases h
    · cases h
      obtain ⟨p,hp,rfl⟩ := List.mem_map.mp hx
      have hmem := List.mem_of_mem_take hp
      rw [List.mem_insertionSort] at hmem
      obtain ⟨hget,hoffer⟩ := Table.mem_select.mp hmem
      exact ⟨p,hget,hoffer,rfl⟩

theorem mem_livePackets {p : PacketRow → Prop} [DecidablePred p] {r : PacketRow} :
    r ∈ s.livePackets now p ↔ s.packets.get r.packetId = some r ∧ now < r.expiresMs ∧
      r.delivered = false ∧ p r := by
  rw [livePackets,List.mem_insertionSort,Table.mem_select]

end Selections

end PacketStore
end Anet
