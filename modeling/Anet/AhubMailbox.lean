import Anet.Ahub
import Anet.AhubRequests
import Anet.Packet
import Anet.Table

/-! The Ahub's own database: the allowlist, the nonces, the mailbox, the settlements and the
Relay reservations. Every operation is one transaction whose body is given here. -/
namespace Anet

open ControlPlane

def ahubNonceRetentionMs : ℤ := 10 * 60 * 1000
def minClaimLeaseMs : ℤ := 5 * 1000
def maxClaimLeaseMs : ℤ := 5 * 60 * 1000
def maxClaimBatch : ℤ := 100
def minRelayReservationTtlMs : ℤ := 30 * 1000
def minRelayDurationMs : ℤ := 1 * 1000

structure AllowlistRow where
  nodeId : String
  addedMs : ℤ
  enabled : Bool
  disabledMs : Option ℤ

structure NonceRow where
  nodeId : String
  nonce : String
  issuedMs : ℤ
  deriving DecidableEq

structure MailboxRow where
  packetId : String
  destinationId : String
  uploaderId : String
  raw : Bytes
  sizeBytes : ℕ
  createdMs : ℤ
  expiresMs : ℤ
  qos : String
  depth : ℕ
  claimTokenHash : Option Bytes
  claimUntilMs : Option ℤ

structure SettlementRow where
  packetId : String
  destinationId : String
  uploaderId : String
  rawSha256 : Bytes
  settledMs : ℤ
  expiresMs : ℤ
  proofJson : Value
  acknowledgedMs : ℤ

structure ReservationRow where
  reservationId : String
  ownerId : String
  allowedPeerId : String
  createdMs : ℤ
  expiresMs : ℤ
  maxDurationMs : ℕ
  maxBytesEachDirection : ℕ

def NonceRow.key (r : NonceRow) : String × String := (r.nodeId,r.nonce)

def ReservationRow.marks (r : ReservationRow) : List (String × String) :=
  [(r.ownerId,r.allowedPeerId)]

structure CustodyReceipt where
  packetId : String
  destinationId : String
  stored : Bool
  expiresMs : ℤ

structure ClaimedPacket where
  packetId : String
  raw : Bytes
  depth : ℕ
  claimToken : String
  claimUntilMs : ℤ
  uploaderId : String
  expiresMs : ℤ

/-- The counts that `purge` returns. -/
structure PurgeCounts where
  expiredPackets : ℕ
  oldNonces : ℕ
  expiredClaims : ℕ
  expiredSettlements : ℕ
  expiredRelayReservations : ℕ

structure AhubStore where
  allowlist : Table AllowlistRow.nodeId noMarks
  nonces : Table NonceRow.key noMarks
  mailbox : Table MailboxRow.packetId noMarks
  settlements : Table SettlementRow.packetId noMarks
  reservations : Table ReservationRow.reservationId ReservationRow.marks

namespace MailboxRow

/-- The lease is over. -/
def leaseOver (now : ℤ) (r : MailboxRow) : Prop := ∃ deadline ∈ r.claimUntilMs, deadline ≤ now

instance (now : ℤ) : DecidablePred (leaseOver now) := fun r =>
  inferInstanceAs (Decidable (∃ deadline ∈ r.claimUntilMs, deadline ≤ now))

def released (r : MailboxRow) : MailboxRow := { r with claimTokenHash := none, claimUntilMs := none }

def claimed (tokenHash : Bytes) (claimUntil : ℤ) (r : MailboxRow) : MailboxRow :=
  { r with claimTokenHash := some tokenHash, claimUntilMs := some claimUntil }

/-- `ORDER BY created_ms, packet_id`. -/
def before (r r' : MailboxRow) : Prop :=
  r.createdMs < r'.createdMs ∨ (r.createdMs = r'.createdMs ∧ r.packetId ≤ r'.packetId)

instance : DecidableRel before := fun _ _ =>
  inferInstanceAs (Decidable (_ ∨ (_ ∧ _)))

end MailboxRow

namespace SettlementRow

def acknowledged (now : ℤ) (r : SettlementRow) : SettlementRow := { r with acknowledgedMs := now }

/-- `ORDER BY settled_ms, packet_id`. -/
def before (r r' : SettlementRow) : Prop :=
  r.settledMs < r'.settledMs ∨ (r.settledMs = r'.settledMs ∧ r.packetId ≤ r'.packetId)

instance : DecidableRel before := fun _ _ =>
  inferInstanceAs (Decidable (_ ∨ (_ ∧ _)))

end SettlementRow

namespace AhubStore

variable (lib : ControlLibrary) (limits : AhubLimits)

def empty : AhubStore := ⟨.empty,.empty,.empty,.empty,.empty⟩

/-- `allow_node`. -/
def allowNode (nodeId : String) (now : ℤ) (s : AhubStore) : Result (Bool × AhubStore) := do
  validateNodeId nodeId
  if (s.allowlist.get nodeId).any AllowlistRow.enabled then return (false,s)
  else do
    let allowlist ← fetched (s.allowlist.upsert ⟨nodeId,now,true,none⟩
      (fun r => { r with enabled := true, disabledMs := none }) fun _ => rfl) .integrity
    return (true,{ s with allowlist := allowlist })

/-- `disallow_node`. -/
def disallowNode (nodeId : String) (now : ℤ) (s : AhubStore) : Result (Bool × AhubStore) := do
  validateNodeId nodeId
  return (s.allowlist.count (fun r => r.nodeId = nodeId ∧ r.enabled = true) = 1,{ s with
    allowlist := s.allowlist.update (fun r => r.nodeId = nodeId ∧ r.enabled = true)
      (fun r => { r with enabled := false, disabledMs := some now })
      (fun _ => rfl) (noMarks_subset _) })

/-- `is_allowed`. -/
def isAllowed (nodeId : String) (s : AhubStore) : Result Bool := do
  validateNodeId nodeId
  return (s.allowlist.get nodeId).any AllowlistRow.enabled

/-- `_require_allowed`. -/
def requireAllowed (nodeId : String) (s : AhubStore) : Result Unit := do
  let allowed ← s.isAllowed nodeId
  raiseIf (¬ allowed) (.permission "node is not allowed by this Ahub")

/-- The foreign keys on the allowlist. -/
def references (nodeIds : List String) (s : AhubStore) : Result Unit :=
  raiseIf (∃ n ∈ nodeIds, (s.allowlist.get n).isNone) .integrity

/-- `_purge`. -/
def purge (now : ℤ) (s : AhubStore) : AhubStore where
  allowlist := s.allowlist
  nonces := s.nonces.delete fun r => r.issuedMs < now - ahubNonceRetentionMs
  mailbox := (s.mailbox.delete fun r => r.expiresMs ≤ now).update (MailboxRow.leaseOver now)
    MailboxRow.released (fun _ => rfl) (noMarks_subset _)
  settlements := s.settlements.delete fun r => r.expiresMs ≤ now
  reservations := s.reservations.delete fun r => r.expiresMs ≤ now

def purgeCounts (now : ℤ) (s : AhubStore) : PurgeCounts where
  expiredPackets := s.mailbox.count fun r => r.expiresMs ≤ now
  oldNonces := s.nonces.count fun r => r.issuedMs < now - ahubNonceRetentionMs
  expiredClaims := (s.mailbox.delete fun r => r.expiresMs ≤ now).count (MailboxRow.leaseOver now)
  expiredSettlements := s.settlements.count fun r => r.expiresMs ≤ now
  expiredRelayReservations := s.reservations.count fun r => r.expiresMs ≤ now

/-- `_consume_request`. -/
def consumeRequest (request : AhubRequest) (descriptor : NodeDescriptor) (body : Bytes) (now : ℤ)
    (s : AhubStore) : Result AhubStore := do
  request.verify lib descriptor body now
  s.requireAllowed request.nodeId
  let nonces ← fetched (s.nonces.insert ⟨request.nodeId,request.nonce,request.issuedMs⟩)
    (.permission "Ahub request nonce was already used")
  return { s with nonces := nonces }

/-- `_purge` and then `_consume_request`, with which every signed operation begins. -/
def beginSigned (request : AhubRequest) (descriptor : NodeDescriptor) (body : Bytes) (now : ℤ)
    (s : AhubStore) : Result AhubStore :=
  (s.purge now).consumeRequest lib request descriptor body now

/-- `_relay_reservation_from_row`. -/
def reservationFromRow (r : ReservationRow) : Result RelayReservation :=
  if hid : isHex 32 r.reservationId then
    if howner : isControlNodeId r.ownerId then
      if hpeer : isControlNodeId r.allowedPeerId then
        if hdistinct : r.ownerId ≠ r.allowedPeerId then
          if hlimits : (0 < r.createdMs ∧ r.createdMs < r.expiresMs) ∧ 1000 ≤ r.maxDurationMs ∧
              0 < r.maxBytesEachDirection then
            .ok ⟨r.reservationId,r.ownerId,r.allowedPeerId,r.createdMs,r.expiresMs,
              r.maxDurationMs,r.maxBytesEachDirection,hid,howner,hpeer,hdistinct,hlimits.1,
              hlimits.2.1,hlimits.2.2⟩
          else .error (.value "invalid Relay reservation limits")
        else .error (.value "Relay reservation peer must differ from owner")
      else .error (.value "invalid Anet node id")
    else .error (.value "invalid Anet node id")
  else .error (.value "invalid Relay reservation ID")

/-- `reserve_relay`, with the identifier that `token_hex` gives. -/
def reserveRelay (request : AhubRequest) (descriptor : NodeDescriptor) (body : Bytes)
    (allowedPeerId : String) (ttlMs maxDurationMs maxBytesEachDirection : ℤ)
    (reservationId : String) (now : ℤ) (s : AhubStore) : Result (RelayReservation × AhubStore) := do
  validateNodeId allowedPeerId
  raiseIf (¬ (minRelayReservationTtlMs ≤ ttlMs ∧ ttlMs ≤ limits.maxRelayReservationTtlMs))
    (.value "Relay reservation TTL is outside allowed limits")
  raiseIf (¬ (minRelayDurationMs ≤ maxDurationMs ∧ maxDurationMs ≤ limits.maxRelayDurationMs))
    (.value "Relay duration is outside allowed limits")
  raiseIf (¬ (1 ≤ maxBytesEachDirection ∧
      maxBytesEachDirection ≤ limits.maxRelayBytesEachDirection))
    (.value "Relay byte limit is outside allowed limits")
  raiseIf (allowedPeerId = request.nodeId) (.value "Relay reservation cannot target its owner")
  let s ← s.beginSigned lib request descriptor body now
  s.requireAllowed allowedPeerId
  match s.reservations.first fun r => r.ownerId = request.nodeId ∧ r.allowedPeerId = allowedPeerId with
  | none => do
    raiseIf (limits.maxRelayReservationsPerNode ≤
        s.reservations.count fun r => r.ownerId = request.nodeId)
      (.overflow "Relay reservation quota exceeded")
    let row : ReservationRow := ⟨reservationId,request.nodeId,allowedPeerId,now,now + ttlMs,
      maxDurationMs.toNat,maxBytesEachDirection.toNat⟩
    let reservations ← fetched (s.reservations.insert row) .integrity
    let result ← reservationFromRow row
    return (result,{ s with reservations := reservations })
  | some existing => do
    let row : ReservationRow := { existing with
      expiresMs := now + ttlMs, maxDurationMs := maxDurationMs.toNat
      maxBytesEachDirection := maxBytesEachDirection.toNat }
    -- the row is checked by `CHECK(expires_ms > created_ms)`
    raiseIf (row.expiresMs ≤ row.createdMs) .integrity
    let result ← reservationFromRow row
    return (result,{ s with
      reservations := s.reservations.update (fun r => r.reservationId = existing.reservationId)
        (fun r => { r with
          expiresMs := now + ttlMs, maxDurationMs := maxDurationMs.toNat
          maxBytesEachDirection := maxBytesEachDirection.toNat })
        (fun _ => rfl) (fun _ => List.Subset.refl _) })

/-- `authorize_relay`. -/
def authorizeRelay (request : AhubRequest) (descriptor : NodeDescriptor) (body : Bytes)
    (reservationId : String) (now : ℤ) (s : AhubStore) : Result (RelayReservation × AhubStore) := do
  raiseIf (¬ isHex 32 reservationId) (.value "invalid Relay reservation ID")
  let s ← s.beginSigned lib request descriptor body now
  let row ← fetched (s.reservations.get reservationId) (.lookup "Relay reservation not found")
  let result ← reservationFromRow row
  raiseIf (request.nodeId ≠ result.ownerId ∧ request.nodeId ≠ result.allowedPeerId)
    (.permission "node is not authorized for Relay reservation")
  return (result,s)

/-- `find_relay_reservation`. -/
def findRelayReservation (request : AhubRequest) (descriptor : NodeDescriptor) (body : Bytes)
    (ownerId : String) (now : ℤ) (s : AhubStore) : Result (RelayReservation × AhubStore) := do
  validateNodeId ownerId
  let s ← s.beginSigned lib request descriptor body now
  s.requireAllowed ownerId
  let row ← fetched
    (s.reservations.first fun r => r.ownerId = ownerId ∧ r.allowedPeerId = request.nodeId)
    (.lookup "matching Relay reservation not found")
  let result ← reservationFromRow row
  return (result,s)

/-- `authenticate`. -/
def authenticate (request : AhubRequest) (descriptor : NodeDescriptor) (body : Bytes) (now : ℤ)
    (s : AhubStore) : Result (Unit × AhubStore) := do
  let s ← s.beginSigned lib request descriptor body now
  return ((),s)

/-- `SUM(size_bytes)`. -/
def mailboxBytes (p : MailboxRow → Prop) [DecidablePred p] (s : AhubStore) : ℕ :=
  ((s.mailbox.select p).map MailboxRow.sizeBytes).sum

/-- `_check_quota`. -/
def checkQuota (packet : PacketInfo) (uploaderId : String) (s : AhubStore) : Result Unit := do
  raiseIf (limits.maxPacketsPerDestination ≤
        s.mailbox.count (fun r => r.destinationId = packet.destinationId) ∨
      limits.maxBytesPerDestination <
        s.mailboxBytes (fun r => r.destinationId = packet.destinationId) + packet.raw.length)
    (.overflow "destination mailbox quota exceeded")
  raiseIf (limits.maxPacketsPerUploader ≤ s.mailbox.count (fun r => r.uploaderId = uploaderId) ∨
      limits.maxBytesPerUploader <
        s.mailboxBytes (fun r => r.uploaderId = uploaderId) + packet.raw.length)
    (.overflow "uploader mailbox quota exceeded")

/-- `submit`; `inspect_packet` reads the clock by itself. -/
def submit (request : AhubRequest) (descriptor : NodeDescriptor) (raw : Bytes) (seen now : ℤ)
    (s : AhubStore) : Result (CustodyReceipt × AhubStore) := do
  let packet ← Packet.inspectPacket lib.rt seen raw false
  raiseIf (packet.expiresMs ≤ now) (.value "packet expired")
  raiseIf (limits.maxPacketBytes < packet.raw.length)
    (.value "packet exceeds this Ahub's size limit")
  let s ← s.beginSigned lib request descriptor packet.raw now
  s.requireAllowed packet.destinationId
  match s.mailbox.get packet.packetId with
  | some existing => do
    raiseIf (existing.raw ≠ packet.raw) (.value "packet id conflicts with different bytes")
    return (⟨packet.packetId,existing.destinationId,false,existing.expiresMs⟩,s)
  | none =>
    match s.settlements.get packet.packetId with
    | some settled => do
      raiseIf (settled.destinationId ≠ packet.destinationId ∨ settled.uploaderId ≠ request.nodeId ∨
          settled.rawSha256 ≠ lib.sha256 packet.raw)
        (.value "settled packet id conflicts with new upload")
      return (⟨packet.packetId,packet.destinationId,false,settled.expiresMs⟩,s)
    | none => do
      s.checkQuota limits packet request.nodeId
      raiseIf (packet.raw = []) .integrity
      s.references [packet.destinationId,request.nodeId]
      let mailbox ← fetched (s.mailbox.insert ⟨packet.packetId,packet.destinationId,request.nodeId,
        packet.raw,packet.raw.length,packet.createdMs,packet.expiresMs,packet.qos,0,none,none⟩)
        .integrity
      return (⟨packet.packetId,packet.destinationId,true,packet.expiresMs⟩,
        { s with mailbox := mailbox })

/-- The rows `claim` walks through. -/
def claimable (nodeId : String) (uploaderId : Option String) (limit : ℤ) (s : AhubStore) :
    List MailboxRow :=
  ((s.mailbox.select fun r => r.destinationId = nodeId ∧ (∀ u ∈ uploaderId, r.uploaderId = u) ∧
    r.claimTokenHash = none).insertionSort MailboxRow.before).take limit.toNat

/-- The loop of `claim`; `tokens n` is the token of the `n`th packet that is claimed. -/
def claimRows (claimUntil : ℤ) (maxBytes : Option ℤ) (tokens : ℕ → String) :
    List MailboxRow → (claimedBytes n : ℕ) → AhubStore → List ClaimedPacket × AhubStore
  | [],_,_,s => ([],s)
  | row :: rows,claimedBytes,n,s =>
    if ∃ m ∈ maxBytes, m < (claimedBytes + row.sizeBytes : ℕ) then
      claimRows claimUntil maxBytes tokens rows claimedBytes n s
    else
      match (s.mailbox.get row.packetId).filter fun r => r.claimTokenHash = none with
      | none => claimRows claimUntil maxBytes tokens rows claimedBytes n s
      | some packet =>
        let s := { s with
          mailbox := s.mailbox.update
            (fun r => r.packetId = row.packetId ∧ r.claimTokenHash = none)
            (.claimed (lib.sha256 (utf8 (tokens n))) claimUntil) (fun _ => rfl) (noMarks_subset _) }
        let rest := claimRows claimUntil maxBytes tokens rows (claimedBytes + row.sizeBytes) (n + 1) s
        (⟨row.packetId,packet.raw,row.depth,tokens n,claimUntil,row.uploaderId,row.expiresMs⟩ ::
          rest.1,rest.2)

/-- `claim`. -/
def claim (request : AhubRequest) (descriptor : NodeDescriptor) (body : Bytes) (limit leaseMs : ℤ)
    (maxBytes : Option ℤ) (uploaderId : Option String) (tokens : ℕ → String) (now : ℤ)
    (s : AhubStore) : Result (List ClaimedPacket × AhubStore) := do
  raiseIf (¬ (1 ≤ limit ∧ limit ≤ maxClaimBatch)) (.value "invalid mailbox claim limit")
  raiseIf (¬ (minClaimLeaseMs ≤ leaseMs ∧ leaseMs ≤ maxClaimLeaseMs))
    (.value "invalid mailbox claim lease")
  raiseIf (∃ m ∈ maxBytes, m ≤ 0) (.value "invalid mailbox claim byte limit")
  uploaderId.toList.forM validateNodeId
  let s ← s.beginSigned lib request descriptor body now
  return claimRows lib (now + leaseMs) maxBytes tokens (s.claimable request.nodeId uploaderId limit)
    0 0 s

/-- The proof says what the mailbox holds. -/
def matchesClaim (proof : DestinationSettlement) (nodeId : String) (row : MailboxRow) : Prop :=
  proof.packetId = row.packetId ∧ proof.destinationId = nodeId ∧
    proof.uploaderId = row.uploaderId ∧ proof.expiresMs = row.expiresMs ∧
    proof.packetSha256 = lib.sha256 row.raw

instance (proof : DestinationSettlement) (nodeId : String) (row : MailboxRow) :
    Decidable (matchesClaim lib proof nodeId row) :=
  inferInstanceAs (Decidable (_ ∧ _))

/-- `settle`. -/
def settle (request : AhubRequest) (descriptor : NodeDescriptor) (body : Bytes)
    (packetId claimToken : String) (proof : DestinationSettlement) (now : ℤ) (s : AhubStore) :
    Result (Bool × AhubStore) := do
  raiseIf (claimToken.toList.any fun c => 128 ≤ c.toNat)
    (.value "'ascii' codec can't encode character: ordinal not in range(128)")
  let tokenHash := lib.sha256 (utf8 claimToken)
  let s ← s.beginSigned lib request descriptor body now
  match s.mailbox.get packetId with
  | none => return (false,s)
  | some row => do
    raiseIf (row.destinationId ≠ request.nodeId)
      (.permission "only the destination can settle a packet")
    raiseIf (row.claimTokenHash ≠ some tokenHash ∨ ¬ ∃ deadline ∈ row.claimUntilMs, now < deadline)
      (.permission "invalid or expired mailbox claim")
    proof.verify lib descriptor.signPublic now
    raiseIf (¬ matchesClaim lib proof request.nodeId row)
      (.value "destination settlement does not match claim")
    s.references [row.destinationId,row.uploaderId]
    return (true,{ s with
      settlements := s.settlements.insertOrIgnore ⟨packetId,row.destinationId,row.uploaderId,
        lib.sha256 row.raw,proof.settledMs,row.expiresMs,proof.toDict,0⟩
      mailbox := s.mailbox.delete fun r => r.packetId = packetId })

/-- The rows `settlements` lists. -/
def pendingSettlements (nodeId : String) (destinationId : Option String) (limit : ℤ)
    (s : AhubStore) : List SettlementRow :=
  ((s.settlements.select fun r => r.uploaderId = nodeId ∧
    (∀ d ∈ destinationId, r.destinationId = d) ∧ r.acknowledgedMs = 0).insertionSort
      SettlementRow.before).take limit.toNat

/-- `settlements`. -/
def listSettlements (request : AhubRequest) (descriptor : NodeDescriptor) (body : Bytes)
    (limit : ℤ) (destinationId : Option String) (now : ℤ) (s : AhubStore) :
    Result (List DestinationSettlement × AhubStore) := do
  raiseIf (¬ (1 ≤ limit ∧ limit ≤ maxClaimBatch)) (.value "invalid settlement limit")
  destinationId.toList.forM validateNodeId
  let s ← s.beginSigned lib request descriptor body now
  let proofs ← (s.pendingSettlements request.nodeId destinationId limit).mapM fun r =>
    DestinationSettlement.fromDict lib r.proofJson
  return (proofs,s)

/-- `acknowledge_settlement`. -/
def acknowledgeSettlement (request : AhubRequest) (descriptor : NodeDescriptor) (body : Bytes)
    (packetId : String) (now : ℤ) (s : AhubStore) : Result (Bool × AhubStore) := do
  raiseIf (¬ isHex 32 packetId) (.value "invalid settlement acknowledgement packet id")
  let s ← s.beginSigned lib request descriptor body now
  match s.settlements.get packetId with
  | none => return (false,s)
  | some row => do
    raiseIf (row.uploaderId ≠ request.nodeId)
      (.permission "only the uploader can acknowledge a settlement")
    if row.acknowledgedMs = 0 then return (true,{ s with
      settlements := s.settlements.update (fun r => r.packetId = packetId) (.acknowledged now)
        (fun _ => rfl) (noMarks_subset _) })
    else return (false,s)

/-- `mailbox_count`. -/
def mailboxCount (nodeId : String) (now : ℤ) (s : AhubStore) : Result (ℕ × AhubStore) := do
  let s := s.purge now
  validateNodeId nodeId
  return (s.mailbox.count (fun r => r.destinationId = nodeId),s)

end AhubStore
end Anet
