import Anet.AhubMailbox
import Anet.AhubCarrier

/-! The Ahub as a whole: every signed operation with the descriptor of its caller, and the
publications. -/
namespace Anet

open ControlPlane

/-- The operations a signed request can ask for. -/
inductive AhubOperation
  | authenticate
  | submit (seen : ℤ)
  | claim (limit leaseMs : ℤ) (maxBytes : Option ℤ) (uploaderId : Option String)
      (tokens : ℕ → String)
  | settle (packetId claimToken : String) (proof : DestinationSettlement)
  | settlements (limit : ℤ) (destinationId : Option String)
  | acknowledge (packetId : String)
  | reserveRelay (allowedPeerId : String) (ttlMs maxDurationMs maxBytesEachDirection : ℤ)
      (reservationId : String)
  | authorizeRelay (reservationId : String)
  | findRelay (ownerId : String)

inductive AhubReply
  | authenticated
  | receipt (r : CustodyReceipt)
  | claimed (packets : List ClaimedPacket)
  | settled (changed : Bool)
  | proofs (proofs : List DestinationSettlement)
  | acknowledged (changed : Bool)
  | reservation (r : RelayReservation)

/-- The answer tells of no change to the mailbox or the settlements, and shows none of them. -/
def AhubReply.silent : AhubReply → Prop
  | .receipt r => r.stored = false
  | .claimed _ => False
  | .settled changed => changed = false
  | .proofs _ => False
  | .acknowledged changed => changed = false
  | _ => True

/-- `AhubService`. -/
structure AhubService where
  control : ControlPlaneStore
  ahub : AhubStore

variable (lib : ControlLibrary) (limits : AhubLimits)

namespace AhubStore

/-- A result with its answer in another form. -/
def answered {α : Type} (f : α → AhubReply) (r : Result (α × AhubStore)) :
    Result (AhubReply × AhubStore) := r.map fun x => (f x.1,x.2)

def perform (request : AhubRequest) (descriptor : NodeDescriptor) (body : Bytes) (now : ℤ)
    (op : AhubOperation) (s : AhubStore) : Result (AhubReply × AhubStore) :=
  match op with
  | .authenticate => answered (fun _ => .authenticated) (s.authenticate lib request descriptor body now)
  | .submit seen => answered .receipt (s.submit lib limits request descriptor body seen now)
  | .claim limit leaseMs maxBytes uploaderId tokens => answered .claimed
      (s.claim lib request descriptor body limit leaseMs maxBytes uploaderId tokens now)
  | .settle packetId claimToken proof => answered .settled
      (s.settle lib request descriptor body packetId claimToken proof now)
  | .settlements limit destinationId => answered .proofs
      (s.listSettlements lib request descriptor body limit destinationId now)
  | .acknowledge packetId => answered .acknowledged
      (s.acknowledgeSettlement lib request descriptor body packetId now)
  | .reserveRelay allowedPeerId ttlMs maxDurationMs maxBytesEachDirection reservationId =>
    answered .reservation (s.reserveRelay lib limits request descriptor body allowedPeerId ttlMs
      maxDurationMs maxBytesEachDirection reservationId now)
  | .authorizeRelay reservationId => answered .reservation
      (s.authorizeRelay lib request descriptor body reservationId now)
  | .findRelay ownerId => answered .reservation
      (s.findRelayReservation lib request descriptor body ownerId now)

end AhubStore

namespace AhubService

/-- `publish_descriptor`. -/
def publishDescriptor (now : ℤ) (d : NodeDescriptor) (svc : AhubService) :
    Result (Bool × AhubService) := do
  svc.ahub.requireAllowed d.nodeId
  let (changed,control) ← svc.control.acceptDescriptor lib now d
  return (changed,{ svc with control := control })

/-- `publish_reachability`. -/
def publishReachability (now : ℤ) (r : ReachabilityRecord) (svc : AhubService) :
    Result (Bool × AhubService) := do
  svc.ahub.requireAllowed r.nodeId
  let found ← svc.control.currentDescriptor lib r.nodeId now
  let descriptor ← fetched found (.value "reachability requires a current descriptor")
  let (changed,control) ← svc.control.acceptReachability lib now r descriptor
  return (changed,{ svc with control := control })

/-- A signed operation; the control plane and the Ahub's tables read the clock each. -/
def serve (request : AhubRequest) (body : Bytes) (readAt now : ℤ) (op : AhubOperation)
    (svc : AhubService) : Result (AhubReply × AhubService) := do
  let found ← svc.control.currentDescriptor lib request.nodeId readAt
  let descriptor ← fetched found (.permission "Ahub caller has no current descriptor")
  let (reply,ahub) ← svc.ahub.perform lib limits request descriptor body now op
  return (reply,{ svc with ahub := ahub })

/-- What `lookup` reads of its target. -/
def findTarget (target : String) (now : ℤ) (svc : AhubService) :
    Result (NodeDescriptor × Option ReachabilityRecord) := do
  svc.ahub.requireAllowed target
  let found ← svc.control.currentDescriptor lib target now
  let descriptor ← fetched found (.lookup "target has no current descriptor")
  let record ← svc.control.currentReachability lib target now
  return (descriptor,record)

/-- `lookup`: the transaction of `authenticate`, and then the target. -/
def lookup (request : AhubRequest) (body : Bytes) (target : String) (readAt now later : ℤ)
    (svc : AhubService) : Result (NodeDescriptor × Option ReachabilityRecord) × AhubService :=
  match atomic (serve lib limits request body readAt now .authenticate) svc with
  | (.error e,svc) => (.error e,svc)
  | (.ok _,svc) => (svc.findTarget lib target later,svc)

end AhubService

section Facts

variable {lib} {limits}

namespace AhubStore

variable {s s' : AhubStore} {request : AhubRequest} {descriptor : NodeDescriptor} {body : Bytes}
  {now : ℤ}

/-- A signed operation begins when its request verifies, its caller is allowed and the nonce
is new behind the purge. -/
theorem beginSigned_ok : s.beginSigned lib request descriptor body now = .ok s' ↔
    request.verify lib descriptor body now = .ok () ∧
    s.requireAllowed request.nodeId = .ok () ∧
    ∃ nonces, (s.purge now).nonces.insert ⟨request.nodeId,request.nonce,request.issuedMs⟩ =
      some nonces ∧ s' = { s.purge now with nonces := nonces } := by
  simp only [beginSigned,consumeRequest,bind_ok,fetched_ok]
  constructor
  · rintro ⟨_,hverify,_,hallowed,nonces,hinsert,hval⟩
    exact ⟨hverify,hallowed,nonces,hinsert,(Except.ok.inj hval).symm⟩
  · rintro ⟨hverify,hallowed,nonces,hinsert,rfl⟩
    exact ⟨(),hverify,(),hallowed,nonces,hinsert,rfl⟩

/-- What an operation does once it has begun: it lists or reads, or makes one of four changes
to the mailbox and the settlements. -/
inductive Effect (lib : ControlLibrary) (limits : AhubLimits) (request : AhubRequest)
    (descriptor : NodeDescriptor) (body : Bytes) (now : ℤ) (b : AhubStore) :
    AhubOperation → AhubReply → AhubStore → Prop
  | quiet {op : AhubOperation} {reply : AhubReply}
      (reservations : Table ReservationRow.reservationId ReservationRow.marks)
      (hsilent : reply.silent) :
      Effect lib limits request descriptor body now b op reply { b with reservations := reservations }
  | stored {seen : ℤ} {packet : PacketInfo} {mailbox : Table MailboxRow.packetId noMarks}
      (hpacket : Packet.inspectPacket lib.rt seen body false = .ok packet)
      (hlive : now < packet.expiresMs)
      (hmailbox : b.mailbox.get packet.packetId = none)
      (hsettlements : b.settlements.get packet.packetId = none)
      (hquota : b.checkQuota limits packet request.nodeId = .ok ())
      (hinsert : b.mailbox.insert ⟨packet.packetId,packet.destinationId,request.nodeId,packet.raw,
        packet.raw.length,packet.createdMs,packet.expiresMs,packet.qos,0,none,none⟩ = some mailbox) :
      Effect lib limits request descriptor body now b (.submit seen)
        (.receipt ⟨packet.packetId,packet.destinationId,true,packet.expiresMs⟩)
        { b with mailbox := mailbox }
  | claimed {limit leaseMs : ℤ} {maxBytes : Option ℤ} {uploaderId : Option String}
      {tokens : ℕ → String} {r : List ClaimedPacket × AhubStore}
      (hrows : claimRows lib (now + leaseMs) maxBytes tokens
        (b.claimable request.nodeId uploaderId limit) 0 0 b = r) :
      Effect lib limits request descriptor body now b
        (.claim limit leaseMs maxBytes uploaderId tokens) (.claimed r.1) r.2
  | settled {packetId claimToken : String} {proof : DestinationSettlement} {row : MailboxRow}
      (hrow : b.mailbox.get packetId = some row)
      (hdestination : row.destinationId = request.nodeId)
      (htoken : row.claimTokenHash = some (lib.sha256 (utf8 claimToken)))
      (hlive : ∃ deadline ∈ row.claimUntilMs, now < deadline)
      (hverify : proof.verify lib descriptor.signPublic now = .ok ())
      (hmatches : matchesClaim lib proof request.nodeId row) :
      Effect lib limits request descriptor body now b (.settle packetId claimToken proof)
        (.settled true) { b with
          settlements := b.settlements.insertOrIgnore ⟨packetId,row.destinationId,row.uploaderId,
            lib.sha256 row.raw,proof.settledMs,row.expiresMs,proof.toDict,0⟩
          mailbox := b.mailbox.delete fun r => r.packetId = packetId }
  | listed {limit : ℤ} {destinationId : Option String} {ps : List DestinationSettlement}
      (hproofs : ((b.pendingSettlements request.nodeId destinationId limit).mapM fun r =>
        DestinationSettlement.fromDict lib r.proofJson) = .ok ps) :
      Effect lib limits request descriptor body now b (.settlements limit destinationId)
        (.proofs ps) b
  | acknowledged {packetId : String} {row : SettlementRow}
      (hrow : b.settlements.get packetId = some row) (howner : row.uploaderId = request.nodeId) :
      Effect lib limits request descriptor body now b (.acknowledge packetId) (.acknowledged true)
        { b with
          settlements := b.settlements.update (fun r => r.packetId = packetId) (.acknowledged now)
            (fun _ => rfl) (noMarks_subset _) }

/-- An operation that does not raise has begun, and has its effect on what was there then. -/
theorem perform_effect {op : AhubOperation} {reply : AhubReply}
    (h : s.perform lib limits request descriptor body now op = .ok (reply,s')) :
    ∃ b, s.beginSigned lib request descriptor body now = .ok b ∧
      Effect lib limits request descriptor body now b op reply s' := by
  cases op with
  | authenticate =>
    simp only [perform,answered,map_ok,authenticate,bind_ok] at h
    obtain ⟨_,⟨b,hb,hval⟩,hreply⟩ := h
    cases hval
    cases hreply
    exact ⟨b,hb,.quiet b.reservations trivial⟩
  | submit seen =>
    simp only [perform,answered,map_ok,submit,bind_ok,raiseIf_ok,not_le] at h
    obtain ⟨r,⟨packet,hpacket,_,hlive,_,-,b,hb,_,-,h⟩,hreply⟩ := h
    obtain rfl : packet.raw = body := Packet.inspectPacket_raw hpacket
    refine ⟨b,hb,?_⟩
    cases hmailbox : b.mailbox.get packet.packetId with
    | some existing =>
      simp only [hmailbox,bind_ok] at h
      obtain ⟨_,-,hval⟩ := h
      cases hval
      cases hreply
      exact .quiet b.reservations rfl
    | none =>
      cases hsettlements : b.settlements.get packet.packetId with
      | some existing =>
        simp only [hmailbox,hsettlements,bind_ok] at h
        obtain ⟨_,-,hval⟩ := h
        cases hval
        cases hreply
        exact .quiet b.reservations rfl
      | none =>
        simp only [hmailbox,hsettlements,bind_ok,fetched_ok] at h
        obtain ⟨_,hquota,_,-,_,-,mailbox,hinsert,hval⟩ := h
        cases hval
        cases hreply
        exact .stored hpacket hlive hmailbox hsettlements hquota hinsert
  | claim limit leaseMs maxBytes uploaderId tokens =>
    simp only [perform,answered,map_ok,claim,bind_ok] at h
    obtain ⟨r,⟨_,-,_,-,_,-,_,-,b,hb,hval⟩,hreply⟩ := h
    obtain ⟨rfl,rfl⟩ := Prod.mk.inj hreply
    exact ⟨b,hb,.claimed (Except.ok.inj hval)⟩
  | settle packetId claimToken proof =>
    simp only [perform,answered,map_ok,settle,bind_ok] at h
    obtain ⟨r,⟨_,-,b,hb,h⟩,hreply⟩ := h
    refine ⟨b,hb,?_⟩
    cases hrow : b.mailbox.get packetId with
    | none =>
      rw [hrow] at h
      cases h
      cases hreply
      exact .quiet b.reservations rfl
    | some row =>
      simp only [hrow,bind_ok,raiseIf_ok,not_or,not_not] at h
      obtain ⟨_,hdestination,_,⟨htoken,hlive⟩,_,hverify,_,hmatches,_,-,hval⟩ := h
      cases hval
      cases hreply
      exact .settled hrow hdestination htoken hlive hverify hmatches
  | settlements limit destinationId =>
    simp only [perform,answered,map_ok,listSettlements,bind_ok] at h
    obtain ⟨r,⟨_,-,_,-,b,hb,ps,hproofs,hval⟩,hreply⟩ := h
    cases hval
    cases hreply
    exact ⟨b,hb,.listed hproofs⟩
  | acknowledge packetId =>
    simp only [perform,answered,map_ok,acknowledgeSettlement,bind_ok] at h
    obtain ⟨r,⟨_,-,b,hb,h⟩,hreply⟩ := h
    refine ⟨b,hb,?_⟩
    cases hrow : b.settlements.get packetId with
    | none =>
      rw [hrow] at h
      cases h
      cases hreply
      exact .quiet b.reservations rfl
    | some row =>
      simp only [hrow,bind_ok,raiseIf_ok,not_not] at h
      obtain ⟨_,howner,h⟩ := h
      split_ifs at h
      · cases h
        cases hreply
        exact .acknowledged hrow howner
      · cases h
        cases hreply
        exact .quiet b.reservations rfl
  | reserveRelay allowedPeerId ttlMs maxDurationMs maxBytesEachDirection reservationId =>
    simp only [perform,answered,map_ok,reserveRelay,bind_ok] at h
    obtain ⟨r,⟨_,-,_,-,_,-,_,-,_,-,b,hb,_,-,h⟩,hreply⟩ := h
    refine ⟨b,hb,?_⟩
    split at h
    · simp only [bind_ok] at h
      obtain ⟨_,-,reservations,-,result,-,hval⟩ := h
      cases hval
      cases hreply
      exact .quiet reservations trivial
    · simp only [bind_ok] at h
      obtain ⟨_,-,result,-,hval⟩ := h
      cases hval
      cases hreply
      exact .quiet _ trivial
  | authorizeRelay reservationId =>
    simp only [perform,answered,map_ok,authorizeRelay,bind_ok] at h
    obtain ⟨r,⟨_,-,b,hb,row,-,result,-,_,-,hval⟩,hreply⟩ := h
    cases hval
    cases hreply
    exact ⟨b,hb,.quiet b.reservations trivial⟩
  | findRelay ownerId =>
    simp only [perform,answered,map_ok,findRelayReservation,bind_ok] at h
    obtain ⟨r,⟨_,-,b,hb,_,-,row,-,result,-,hval⟩,hreply⟩ := h
    cases hval
    cases hreply
    exact ⟨b,hb,.quiet b.reservations trivial⟩

theorem claimRows_frame (claimUntil : ℤ) (maxBytes : Option ℤ) (tokens : ℕ → String)
    (rows : List MailboxRow) (claimedBytes n : ℕ) (s : AhubStore) :
    (claimRows lib claimUntil maxBytes tokens rows claimedBytes n s).2 =
      { s with
        mailbox := (claimRows lib claimUntil maxBytes tokens rows claimedBytes n s).2.mailbox } := by
  induction rows generalizing claimedBytes n s with
  | nil => rfl
  | cons row rows ih =>
    unfold claimRows
    split_ifs
    · exact ih claimedBytes n s
    · split
      · exact ih claimedBytes n s
      · exact ih _ _ _

/-- No operation changes the nonces or the allowlist once it has begun. -/
theorem Effect.frame {b : AhubStore} {op : AhubOperation} {reply : AhubReply}
    (h : Effect lib limits request descriptor body now b op reply s') :
    s'.nonces = b.nonces ∧ s'.allowlist = b.allowlist := by
  cases h with
  | claimed hrows =>
    rw [← hrows,claimRows_frame]
    exact ⟨rfl,rfl⟩
  | _ => exact ⟨rfl,rfl⟩

end AhubStore
end Facts
end Anet
