import Anet.PrekeyStore

/-! Revocation of a peer and the periodic purge. Revocation is one transaction;
the purge is a sequence of statements that each commit on their own. -/
namespace Anet

structure RevocationReport where
  peerId : String
  expiredPendingPackets : ℕ
  reclassifiedInbox : ℕ
  revokedConsumerDeliveries : ℕ
  retiredLocalPrekeys : ℕ
  retiredPeerPrekeys : ℕ

namespace PacketRow

def pendingFor (peerId : String) (now : ℤ) (r : PacketRow) : Prop :=
  r.destinationId = peerId ∧ r.delivered = false ∧ now < r.expiresMs

instance (peerId : String) (now : ℤ) : DecidablePred (pendingFor peerId now) :=
  fun _ => inferInstanceAs (Decidable (_ ∧ _))

end PacketRow

namespace InboxRow

def trustedFrom (peerId : String) (r : InboxRow) : Prop := r.senderId = peerId ∧ r.trusted

instance (peerId : String) : DecidablePred (trustedFrom peerId) :=
  fun _ => inferInstanceAs (Decidable (_ ∧ _))

def distrust (r : InboxRow) : InboxRow := { r with trusted := false }

/-- A message kept out of listings whose retention is over. -/
def oldTransient (cutoff : ℤ) (r : InboxRow) : Prop := r.visible = false ∧ r.receivedMs ≤ cutoff

instance (cutoff : ℤ) : DecidablePred (oldTransient cutoff) :=
  fun _ => inferInstanceAs (Decidable (_ ∧ _))

end InboxRow

namespace LocalPrekey

def revoke (now : ℤ) (r : LocalPrekey) : LocalPrekey :=
  { r with privateKey := none, state := .revoked, consumedMs := now }

def expire (now : ℤ) (r : LocalPrekey) : LocalPrekey :=
  { r with privateKey := none, state := .expired, consumedMs := now }

end LocalPrekey

namespace PeerPrekey

def revoke (now : ℤ) (r : PeerPrekey) : PeerPrekey :=
  { r with state := .revoked, reservationId := "", usedMs := now }

def expire (now : ℤ) (r : PeerPrekey) : PeerPrekey := { r with state := .expired, usedMs := now }

end PeerPrekey

namespace PacketStore

def expirePending (packets : Packets) (peerId : String) (now : ℤ) : Packets :=
  packets.update (PacketRow.pendingFor peerId now)
    (fun r => { r with expiresMs := min r.expiresMs now }) (fun _ => rfl) (noMarks_subset _)

/-- The delivery's message was sent by the peer and is not settled. -/
def openFrom (inbox : Inbox) (peerId : String) (r : ConsumerDelivery) : Prop :=
  ((inbox.get r.packetId).map InboxRow.senderId) = some peerId ∧ r.state ≠ .acked ∧
    r.state ≠ .revoked

instance (inbox : Inbox) (peerId : String) : DecidablePred (openFrom inbox peerId) :=
  fun _ => inferInstanceAs (Decidable (_ ∧ _))

def revokeDeliveries (d : ConsumerDeliveries) (inbox : Inbox) (peerId : String) :
    ConsumerDeliveries :=
  d.update (openFrom inbox peerId) ConsumerDelivery.revoke (fun _ => rfl)
    ConsumerDelivery.revoke_marks

def distrust (inbox : Inbox) (peerId : String) : Inbox :=
  inbox.update (InboxRow.trustedFrom peerId) InboxRow.distrust (fun _ => rfl)
    (fun _ => List.Subset.refl _)

def revokeLocalPrekeys (t : LocalPrekeys) (peerId : String) (now : ℤ) : LocalPrekeys :=
  t.update (fun r => r.peerId = peerId ∧ r.state ≠ .revoked) (LocalPrekey.revoke now)
    (fun _ => rfl) (noMarks_subset _)

def revokePeerPrekeys (t : PeerPrekeys) (peerId : String) (now : ℤ) : PeerPrekeys :=
  t.update (fun r => r.peerId = peerId ∧ r.state ≠ .revoked) (PeerPrekey.revoke now)
    (fun _ => rfl) (noMarks_subset _)

/-- `revoke_peer`. -/
def revokePeer (peerId : String) (now : ℤ) : PacketStore → Result RevocationReport × PacketStore :=
  transaction fun s => do
    let peerId ← prekeyPeerId peerId
    return (⟨peerId,s.packets.count (PacketRow.pendingFor peerId now),
        s.inbox.count (InboxRow.trustedFrom peerId),
        s.consumerDeliveries.count (openFrom s.inbox peerId),
        s.localPrekeys.count (fun r => r.peerId = peerId ∧ r.state ≠ .revoked),
        s.peerPrekeys.count (fun r => r.peerId = peerId ∧ r.state ≠ .revoked)⟩,
      { s with
        packets := expirePending s.packets peerId now
        inbox := distrust s.inbox peerId
        consumerDeliveries := revokeDeliveries s.consumerDeliveries s.inbox peerId
        localPrekeys := revokeLocalPrekeys s.localPrekeys peerId now
        peerPrekeys := revokePeerPrekeys s.peerPrekeys peerId now })

/-- One statement of the purge with its row count. -/
abbrev Statement := PacketStore → ℕ × PacketStore

def expirePackets (now : ℤ) : Statement := fun s =>
  (s.packets.count fun r => r.expiresMs ≤ now,
    { s with packets := s.packets.delete fun r => r.expiresMs ≤ now })

/-- `packet_id NOT IN (SELECT packet_id FROM packets)`. -/
def orphan (packets : Packets) (packetId : String) : Prop := packets.get packetId = none

instance (packets : Packets) : DecidablePred (orphan packets) := fun packetId =>
  decidable_of_iff ((packets.get packetId).isNone) (by simp [orphan])

def dropDeliveries : Statement := fun s =>
  (s.deliveries.count fun r => orphan s.packets r.packetId,
    { s with deliveries := s.deliveries.delete fun r => orphan s.packets r.packetId })

def dropDeliveryPaths : Statement := fun s =>
  (s.deliveryPaths.count fun r => orphan s.packets r.packetId,
    { s with deliveryPaths := s.deliveryPaths.delete fun r => orphan s.packets r.packetId })

def dropReceipts : Statement := fun s =>
  (s.receipts.count fun r => orphan s.packets r.packetId,
    { s with receipts := s.receipts.delete fun r => orphan s.packets r.packetId })

def dropRejections : Statement := fun s =>
  (s.packetRejections.count fun r => orphan s.packets r.packetId,
    { s with packetRejections := s.packetRejections.delete fun r => orphan s.packets r.packetId })

def dropTransient (cutoff : ℤ) : Statement := fun s =>
  (s.inbox.count (InboxRow.oldTransient cutoff),
    { s with inbox := s.inbox.delete (InboxRow.oldTransient cutoff) })

/-- The delivery's message is gone from the Inbox. -/
def unread (inbox : Inbox) (r : ConsumerDelivery) : Prop := (inbox.get r.packetId).isNone

instance (inbox : Inbox) : DecidablePred (unread inbox) :=
  fun _ => inferInstanceAs (Decidable (_ = _))

def dropConsumerDeliveries : Statement := fun s =>
  (s.consumerDeliveries.count (unread s.inbox),
    { s with consumerDeliveries := s.consumerDeliveries.delete (unread s.inbox) })

def expireLocalPrekeys (cutoff now : ℤ) : Statement := fun s =>
  (s.localPrekeys.count fun r => r.usable ∧ r.expiresMs ≤ cutoff,
    { s with
      localPrekeys := s.localPrekeys.update (fun r => r.usable ∧ r.expiresMs ≤ cutoff)
        (LocalPrekey.expire now) (fun _ => rfl) (noMarks_subset _) })

def expirePeerPrekeys (now : ℤ) : Statement := fun s =>
  (s.peerPrekeys.count fun r => r.state = .available ∧ r.expiresMs ≤ now,
    { s with
      peerPrekeys := s.peerPrekeys.update (fun r => r.state = .available ∧ r.expiresMs ≤ now)
        (PeerPrekey.expire now) (fun _ => rfl) (noMarks_subset _) })

/-- The statements of `purge` in order. -/
def purgeStatements (retentionMs now : ℤ) : List Statement :=
  [expirePackets now,dropDeliveries,dropDeliveryPaths,dropReceipts,dropRejections,
    dropTransient (now - max 60000 retentionMs),dropConsumerDeliveries,
    expireLocalPrekeys (now - maxTtlSeconds * 1000 - maxClockSkewMs) now,expirePeerPrekeys now]

def runStatements : List Statement → PacketStore → List ℕ × PacketStore
  | [],s => ([],s)
  | statement :: rest,s =>
    let done := statement s
    let report := runStatements rest done.2
    (done.1 :: report.1,report.2)

/-- `purge`, with the row counts of its report. -/
def purge (retentionMs now : ℤ) (s : PacketStore) : List ℕ × PacketStore :=
  runStatements (purgeStatements retentionMs now) s

/-- `purge` interrupted after its first `n` statements. -/
def purgePrefix (n : ℕ) (retentionMs now : ℤ) (s : PacketStore) : PacketStore :=
  (runStatements ((purgeStatements retentionMs now).take n) s).2

/-- What every statement keeps, a purge keeps, whole or interrupted. -/
theorem runStatements_keeps {I : PacketStore → Prop} (statements : List Statement)
    (h : ∀ statement ∈ statements, ∀ s, I s → I (statement s).2) (s : PacketStore) (hs : I s) :
    I (runStatements statements s).2 := by
  induction statements generalizing s with
  | nil => exact hs
  | cons statement rest ih =>
    exact ih (fun x hx => h x (List.mem_cons_of_mem _ hx)) _
      (h statement List.mem_cons_self s hs)

/-- What a purge, whole or interrupted, leaves of the messages and their deliveries. -/
structure Purged (s s' : PacketStore) : Prop where
  groups : s'.consumerGroups = s.consumerGroups
  executions : s'.agentTaskExecutions = s.agentTaskExecutions
  cancellations : s'.agentTaskCancellations = s.agentTaskCancellations
  inbox : ∀ packetId, s'.inbox.get packetId = s.inbox.get packetId ∨
    (s'.inbox.get packetId = none ∧ ∃ i, s.inbox.get packetId = some i ∧ i.visible = false)
  deliveries : ∀ k, s'.consumerDeliveries.get k = s.consumerDeliveries.get k ∨
    (s'.consumerDeliveries.get k = none ∧ s'.inbox.get k.2 = none)

theorem purgeStatement_purged {s : PacketStore} {retentionMs now : ℤ} {statement : Statement}
    (hmem : statement ∈ purgeStatements retentionMs now) {s' : PacketStore} (h : Purged s s') :
    Purged s (statement s').2 := by
  simp only [purgeStatements,List.mem_cons,List.not_mem_nil,or_false] at hmem
  rcases hmem with rfl | rfl | rfl | rfl | rfl | rfl | rfl | rfl | rfl
  iterate 5 exact ⟨h.groups,h.executions,h.cancellations,h.inbox,h.deliveries⟩
  · have hget (p : String) : (dropTransient (now - max 60000 retentionMs) s').2.inbox.get p =
        (s'.inbox.get p).filter fun r => ¬ r.oldTransient (now - max 60000 retentionMs) :=
      Table.get_delete ..
    refine ⟨h.groups,h.executions,h.cancellations,?_,?_⟩
    · intro p
      rw [hget]
      cases hp : s'.inbox.get p with
      | none => exact (h.inbox p).imp (fun hs => by rw [← hs,hp]; rfl) fun hs => ⟨rfl,hs.2⟩
      | some i =>
        have hs : s.inbox.get p = some i := by
          rcases h.inbox p with hs | hs
          · rw [← hs,hp]
          · rw [hp] at hs
            cases hs.1
        by_cases hold : i.oldTransient (now - max 60000 retentionMs)
        · exact Or.inr ⟨by simp [hold],i,hs,hold.1⟩
        · exact Or.inl (by simp [hold,hs])
    · intro k
      refine (h.deliveries k).imp_right fun hk => ⟨hk.1,?_⟩
      rw [hget,hk.2]
      rfl
  · have hget (k : String × String) : dropConsumerDeliveries s' |>.2.consumerDeliveries.get k =
        (s'.consumerDeliveries.get k).filter fun r => ¬ unread s'.inbox r :=
      Table.get_delete ..
    refine ⟨h.groups,h.executions,h.cancellations,h.inbox,?_⟩
    intro k
    rw [hget]
    cases hk : s'.consumerDeliveries.get k with
    | none => exact (h.deliveries k).imp (fun hs => by rw [← hs,hk]; rfl) fun hs => ⟨rfl,hs.2⟩
    | some r =>
      have hs : s.consumerDeliveries.get k = some r := by
        rcases h.deliveries k with hs | hs
        · rw [← hs,hk]
        · rw [hk] at hs
          cases hs.1
      by_cases hread : unread s'.inbox r
      · refine Or.inr ⟨by simp [hread],?_⟩
        have hpacket : r.packetId = k.2 := by rw [← Table.get_key hk]; rfl
        rw [unread,hpacket,Option.isNone_iff_eq_none] at hread
        exact hread
      · exact Or.inl (by simp [hread,hs])
  · exact ⟨h.groups,h.executions,h.cancellations,h.inbox,h.deliveries⟩
  · exact ⟨h.groups,h.executions,h.cancellations,h.inbox,h.deliveries⟩

theorem purgePrefix_purged (n : ℕ) (retentionMs now : ℤ) (s : PacketStore) :
    Purged s (purgePrefix n retentionMs now s) :=
  runStatements_keeps _ (fun _ hmem _ => purgeStatement_purged (List.mem_of_mem_take hmem)) s
    ⟨rfl,rfl,rfl,fun _ => Or.inl rfl,fun _ => Or.inl rfl⟩

theorem purge_eq_prefix (retentionMs now : ℤ) (s : PacketStore) :
    (purge retentionMs now s).2 = purgePrefix 9 retentionMs now s := rfl

theorem get_revokeDeliveries (d : ConsumerDeliveries) (inbox : Inbox) (peerId : String)
    (k : String × String) :
    (revokeDeliveries d inbox peerId).get k = (d.get k).map fun r =>
      if openFrom inbox peerId r then r.revoke else r :=
  Table.get_update ..

theorem get_distrust (inbox : Inbox) (peerId packetId : String) :
    (distrust inbox peerId).get packetId = (inbox.get packetId).map fun r =>
      if r.trustedFrom peerId then r.distrust else r :=
  Table.get_update ..

/-- A revocation raises without effect, or revokes in every table at once. -/
theorem revokePeer_cases (peerId : String) (now : ℤ) (s : PacketStore) :
    (revokePeer peerId now s).2 = s ∨ ∃ peerId', (revokePeer peerId now s).2 = { s with
      packets := expirePending s.packets peerId' now
      inbox := distrust s.inbox peerId'
      consumerDeliveries := revokeDeliveries s.consumerDeliveries s.inbox peerId'
      localPrekeys := revokeLocalPrekeys s.localPrekeys peerId' now
      peerPrekeys := revokePeerPrekeys s.peerPrekeys peerId' now } := by
  unfold revokePeer
  rcases transaction_cases _ s with ⟨a,s',hb,ht⟩ | ⟨e,-,ht⟩
  · right
    rw [ht]
    obtain ⟨peerId',-,hval⟩ := bind_ok.mp hb
    cases hval
    exact ⟨peerId',rfl⟩
  · exact Or.inl (by rw [ht])

end PacketStore
end Anet
