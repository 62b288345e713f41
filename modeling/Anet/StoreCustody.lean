import Anet.LocalIntake
import Anet.PacketBundles
import Anet.StoreEffects

/-! The calls of a node on its own store, and what they keep: conditions on packets and messages,
that the node's own packets are delivered only when known to be, and which packets a peer has
acknowledged. -/
namespace Anet

open PacketStore Packet

/-- A condition on messages that does not depend on what became of them. -/
def InboxRow.Stable (Q : InboxRow → Prop) : Prop :=
  ∀ i, Q i → Q i.read ∧ Q i.hide ∧ Q i.distrust

/-- A call of a node on its own store, beside the handling of packets: it queues a packet, and the
bundles it imports are queued too. -/
inductive NodeCall (own : Bytes → Prop)
  | queue (raw : Bytes) (origin : String) (now : ℤ) (hown : own raw)
  | dispatch (owner : ConsumerId) (claimToken : Token) (raw : Bytes) (keyId reservationId : String)
      (now : ℤ) (hown : own raw)
  | attempt (packetIds : List String) (peerId error pathId : String) (now : ℤ)
  | custody (packetIds : List String) (peerId pathId : String) (now : ℤ)
  | revoke (peerId : String) (now : ℤ)
  | purge (statements : ℕ) (retentionMs now : ℤ)
  | reconcile
  | read (packetIds : List String)
  | hide
  | elsewhere (call : Elsewhere)

def NodeCall.exec {own : Bytes → Prop} (rt : Runtime) (c : NodeCall own) (s : PacketStore) :
    PacketStore :=
  match c with
  | .queue raw origin now _ => (addPacket rt raw 0 origin "" now s).2
  | .dispatch owner claimToken raw keyId reservationId now _ =>
    (commitA2ADispatchPacket rt owner claimToken raw keyId reservationId now s).2
  | .attempt packetIds peerId error pathId now => markAttempt packetIds peerId error pathId now s
  | .custody packetIds peerId pathId now => markCustodied packetIds peerId pathId now s
  | .revoke peerId now => (revokePeer peerId now s).2
  | .purge statements retentionMs now => purgePrefix statements retentionMs now s
  | .reconcile => reconcileDelivered s
  | .read packetIds => markRead packetIds s
  | .hide => hideTransientKinds s
  | .elsewhere call => call.run s

namespace PacketStore

/-- What is known of a node's store: of its packets, of its Inbox, of its own packets that are
delivered, and of the packets that a peer has acknowledged. -/
structure StoreSound (P : PacketRow → Prop) (Q : InboxRow → Prop) (known : String → Prop)
    (took : String → String → Prop) (nodeId : String) (s : PacketStore) : Prop where
  rows : s.All P
  inbox : s.AllRead Q
  settled : ∀ k p, s.packets.get k = some p → p.delivered → p.destinationId = nodeId → known k
  acked : ∀ k peerId d, s.deliveries.get (k,peerId) = some d → d.state = .acked →
    peerId ≠ nodeId ∧ took peerId k

section Calls

variable {rt : Runtime} {own : Bytes → Prop} {P P' : PacketRow → Prop} {Q Q' : InboxRow → Prop}
  {known known' : String → Prop} {took took' : String → String → Prop} {nodeId : String}
  {s s' : PacketStore}

theorem StoreSound.mono (h : StoreSound P Q known took nodeId s) (hP : ∀ p, P p → P' p)
    (hQ : ∀ i, Q i → Q' i) (hknown : ∀ k, known k → known' k)
    (htook : ∀ peerId k, took peerId k → took' peerId k) :
    StoreSound P' Q' known' took' nodeId s :=
  ⟨fun k p hp => hP p (h.rows k p hp),fun k i hi => hQ i (h.inbox k i hi),
    fun k p hp hd hnode => hknown k (h.settled k p hp hd hnode),
    fun k peerId d hd hacked => (h.acked k peerId d hd hacked).imp_right (htook peerId k)⟩

theorem StoreSound.empty : StoreSound P Q known took nodeId PacketStore.empty := by
  refine ⟨fun k p hp => ?_,fun k i hi => ?_,fun k p hp => ?_,fun k peerId d hd => ?_⟩
  · cases hp
  · cases hi
  · cases hp
  · cases hd

theorem StoreSound.handled (h : StoreSound P Q known took nodeId s) (hs : Handled P Q s s')
    (hknown : ∀ k, s'.Marked k → known k) : StoreSound P Q known took nodeId s' := by
  refine ⟨hs.rows h.rows,hs.inbox h.inbox,fun k p' hp' hd hnode => ?_,?_⟩
  · rcases hs.settles k p' hp' hd with ⟨p,hp,hd,hdest⟩ | hmarked
    · exact h.settled k p hp hd (hdest.trans hnode)
    · exact hknown k hmarked
  · rw [hs.deliveries]
    exact h.acked

/-- Rows that go, or change only what became of them, and messages likewise. -/
theorem StoreSound.aged (h : StoreSound P Q known took nodeId s)
    (hpackets : ∀ k p', s'.packets.get k = some p' → ∃ p, s.packets.get k = some p ∧ (P p → P p') ∧
      p.destinationId = p'.destinationId ∧ (p'.delivered → p.delivered))
    (hinbox : ∀ k i', s'.inbox.get k = some i' → ∃ i, s.inbox.get k = some i ∧ (Q i → Q i'))
    (hdeliveries : ∀ k d', s'.deliveries.get k = some d' → d'.state = .acked →
      ∃ d, s.deliveries.get k = some d ∧ d.state = .acked) :
    StoreSound P Q known took nodeId s' := by
  refine ⟨fun k p' hp' => ?_,fun k i' hi' => ?_,fun k p' hp' hd hnode => ?_,
    fun k peerId d' hd' hacked => ?_⟩
  · obtain ⟨p,hp,hkeep,-⟩ := hpackets k p' hp'
    exact hkeep (h.rows k p hp)
  · obtain ⟨i,hi,hkeep⟩ := hinbox k i' hi'
    exact hkeep (h.inbox k i hi)
  · obtain ⟨p,hp,-,hdest,hdelivered⟩ := hpackets k p' hp'
    exact h.settled k p hp (hdelivered hd) (hdest.trans hnode)
  · obtain ⟨d,hd,hacked⟩ := hdeliveries _ d' hd' hacked
    exact h.acked k peerId d hd hacked

theorem dispatch_sound (hadmits : ∀ raw, own raw → PacketRow.Admits rt P raw 0) {raw : Bytes}
    (hown : own raw) (owner : ConsumerId) (claimToken : Token) (keyId reservationId : String)
    (now : ℤ) (h : StoreSound P Q known took nodeId s) : StoreSound P Q known took nodeId
      (commitA2ADispatchPacket rt owner claimToken raw keyId reservationId now s).2 := by
  rcases commitA2ADispatchPacket_cases rt owner claimToken raw keyId reservationId now s with
    ⟨-,hs⟩ | ⟨_,info,_,_,_,packets,_,_,-,hinfo,-,-,hins,hs⟩
  · rw [hs]
    exact h
  · rw [hs]
    have hhops := inspectPacket_hops hinfo
    have hnew := (hadmits raw hown now info hinfo le_rfl (by omega)).1 "a2a-gateway" ""
    refine ⟨fun k p hp => ?_,h.inbox,fun k p hp hd hnode => ?_,h.acked⟩
    · change packets.get k = some p at hp
      rw [Table.get_insert hins] at hp
      split at hp
      · cases hp
        exact hnew
      · exact h.rows k p hp
    · change packets.get k = some p at hp
      rw [Table.get_insert hins] at hp
      split at hp
      · cases hp
        cases hd
      · exact h.settled k p hp hd hnode

theorem upsertDelivery_cases {t : Deliveries} {packetId peerId error : String} {state : SyncState}
    {attempts : ℕ} {now : ℤ} {f : DeliveryRow → DeliveryRow} {hf : ∀ r, (f r).key = r.key}
    {k : String × String} {d' : DeliveryRow}
    (h : (upsertDelivery t packetId peerId state attempts now error f hf).get k = some d') :
    t.get k = some d' ∨ k = (packetId,peerId) ∧
      (d' = ⟨packetId,peerId,state,attempts,now,error⟩ ∨ ∃ d, t.get k = some d ∧ d' = f d) := by
  unfold upsertDelivery at h
  obtain ⟨t',ht'⟩ := Table.upsert_noMarks t ⟨packetId,peerId,state,attempts,now,error⟩ f hf
  rw [ht',Option.getD_some,Table.get_upsert ht'] at h
  split at h
  · next hk =>
    refine .inr ⟨hk,?_⟩
    rw [← hk] at h
    cases hold : t.get k with
    | none =>
      rw [hold] at h
      exact .inl (Option.some.inj h).symm
    | some d =>
      rw [hold] at h
      exact .inr ⟨d,rfl,(Option.some.inj h).symm⟩
  · exact .inl h

theorem attemptOne_acked {peerId error pathId : String} {now : ℤ} {packetId : String}
    {k : String × String} {d' : DeliveryRow}
    (h : (attemptOne peerId error pathId now s packetId).deliveries.get k = some d')
    (hacked : d'.state = .acked) : ∃ d, s.deliveries.get k = some d ∧ d.state = .acked := by
  rcases upsertDelivery_cases h with hsame | ⟨-,rfl | ⟨d,hd,rfl⟩⟩
  · exact ⟨d',hsame,hacked⟩
  · cases hacked
  · refine ⟨d,hd,?_⟩
    by_contra hother
    rw [show (if d.state = .acked then SyncState.acked else .sent) = .sent from if_neg hother]
      at hacked
    cases hacked

theorem markAttempt_sound (packetIds : List String) (peerId error pathId : String) (now : ℤ)
    (h : StoreSound P Q known took nodeId s) :
    StoreSound P Q known took nodeId (markAttempt packetIds peerId error pathId now s) := by
  unfold markAttempt
  induction packetIds generalizing s with
  | nil => exact h
  | cons packetId packetIds ih =>
    refine ih (h.aged (fun k p hp => ⟨p,hp,id,rfl,id⟩) (fun k i hi => ⟨i,hi,id⟩) ?_)
    exact fun k d' => attemptOne_acked

/-- An acknowledgement delivers packets of the peer that sent it. -/
theorem ackOne_sound {peerId packetId : String} (hpeer : peerId ≠ nodeId)
    (htook : took peerId packetId) (hP : PacketRow.Stable P) (pathId : String) (now : ℤ)
    (h : StoreSound P Q known took nodeId s) :
    StoreSound P Q known took nodeId (ackOne peerId pathId now s packetId) := by
  refine ⟨fun k p hp => ?_,h.inbox,fun k p hp hd hnode => ?_,fun k peerId' d' hd' hacked => ?_⟩
  · exact deliver_all hP h.rows hp
  · obtain ⟨p₀,hp₀,hdest,hcases⟩ := deliver_cases hp
    rcases hcases hd with hbefore | hnow
    · exact h.settled k p₀ hp₀ hbefore (hdest.trans hnode)
    · exact (hpeer (hnow.2.symm.trans (hdest.trans hnode))).elim
  · rcases upsertDelivery_cases hd' with hsame | ⟨hk,-⟩
    · exact h.acked k peerId' d' hsame hacked
    · obtain ⟨rfl,rfl⟩ := Prod.mk.inj hk
      exact ⟨hpeer,htook⟩

theorem markAcked_sound {packetIds : List String} {peerId : String}
    (hids : ∀ k ∈ packetIds, peerId ≠ nodeId ∧ took peerId k) (hP : PacketRow.Stable P)
    (pathId : String) (now : ℤ) (h : StoreSound P Q known took nodeId s) :
    StoreSound P Q known took nodeId (markAcked packetIds peerId pathId now s) := by
  unfold markAcked
  induction packetIds generalizing s with
  | nil => exact h
  | cons packetId packetIds ih =>
    obtain ⟨hpeer,htook⟩ := hids packetId List.mem_cons_self
    exact ih (fun k hk => hids k (List.mem_cons_of_mem _ hk))
      (ackOne_sound hpeer htook hP pathId now h)

theorem reconcileDelivered_sound (hP : PacketRow.Stable P)
    (h : StoreSound P Q known took nodeId s) :
    StoreSound P Q known took nodeId (reconcileDelivered s) := by
  refine ⟨fun k p hp => ?_,h.inbox,fun k p hp hd hnode => ?_,h.acked⟩
  · exact deliver_all hP h.rows hp
  · obtain ⟨p₀,hp₀,hdest,hcases⟩ := deliver_cases hp
    rcases hcases hd with hbefore | ⟨-,d,hd,hacked⟩
    · exact h.settled k p₀ hp₀ hbefore (hdest.trans hnode)
    · exact ((h.acked _ _ d hd hacked).1 (hdest.trans hnode)).elim

theorem update_inbox {q : InboxRow → Prop} [DecidablePred q] {f : InboxRow → InboxRow} {t : Inbox}
    {hkey : ∀ r, (f r).packetId = r.packetId} {hmarks : ∀ r, (f r).marks ⊆ r.marks}
    (hf : ∀ i, Q i → Q (f i)) {k : String} {i' : InboxRow}
    (hi' : (t.update q f hkey hmarks).get k = some i') : ∃ i, t.get k = some i ∧ (Q i → Q i') := by
  rw [Table.get_update] at hi'
  obtain ⟨i,hi,rfl⟩ := Option.map_eq_some_iff.mp hi'
  refine ⟨i,hi,fun hQ => ?_⟩
  split
  · exact hf i hQ
  · exact hQ

theorem revokePeer_sound (hP : PacketRow.Stable P) (hQ : InboxRow.Stable Q) (peerId : String)
    (now : ℤ) (h : StoreSound P Q known took nodeId s) :
    StoreSound P Q known took nodeId (revokePeer peerId now s).2 := by
  rcases revokePeer_cases peerId now s with hs | ⟨peerId',hs⟩
  · rw [hs]
    exact h
  · rw [hs]
    refine h.aged (fun k p' hp' => ?_) (fun k i' hi' => ?_) fun k d hd hacked => ⟨d,hd,hacked⟩
    · change (expirePending s.packets peerId' now).get k = some p' at hp'
      rw [expirePending,Table.get_update] at hp'
      obtain ⟨p,hp,rfl⟩ := Option.map_eq_some_iff.mp hp'
      refine ⟨p,hp,?_⟩
      split
      · exact ⟨fun hold => (hP p hold).2 _,rfl,id⟩
      · exact ⟨id,rfl,id⟩
    · dsimp only [distrust] at hi'
      exact update_inbox (fun i hi => (hQ i hi).2.2) hi'

theorem purgePrefix_sound (statements : ℕ) (retentionMs now : ℤ)
    (h : StoreSound P Q known took nodeId s) :
    StoreSound P Q known took nodeId (purgePrefix statements retentionMs now s) := by
  refine runStatements_keeps (I := StoreSound P Q known took nodeId) _ ?_ s h
  intro statement hmem s' h
  have hmem := List.mem_of_mem_take hmem
  have hpackets : ∀ k p', s'.packets.get k = some p' → ∃ p, s'.packets.get k = some p ∧
      (P p → P p') ∧ p.destinationId = p'.destinationId ∧ (p'.delivered → p.delivered) :=
    fun k p hp => ⟨p,hp,id,rfl,id⟩
  have hinbox : ∀ k i', s'.inbox.get k = some i' → ∃ i, s'.inbox.get k = some i ∧ (Q i → Q i') :=
    fun k i hi => ⟨i,hi,id⟩
  have hdeliveries : ∀ k d', s'.deliveries.get k = some d' → d'.state = .acked →
      ∃ d, s'.deliveries.get k = some d ∧ d.state = .acked := fun k d hd hacked => ⟨d,hd,hacked⟩
  simp only [purgeStatements,List.mem_cons,List.not_mem_nil,or_false] at hmem
  rcases hmem with rfl | rfl | rfl | rfl | rfl | rfl | rfl | rfl | rfl
  · refine h.aged (fun k p' hp' => hpackets k p' ?_) hinbox hdeliveries
    exact (Option.filter_eq_some_iff.mp ((Table.get_delete ..).symm.trans hp')).1
  · refine h.aged hpackets hinbox fun k d' hd' => hdeliveries k d' ?_
    exact (Option.filter_eq_some_iff.mp ((Table.get_delete ..).symm.trans hd')).1
  iterate 3 exact h.aged hpackets hinbox hdeliveries
  · refine h.aged hpackets (fun k i' hi' => hinbox k i' ?_) hdeliveries
    exact (Option.filter_eq_some_iff.mp ((Table.get_delete ..).symm.trans hi')).1
  iterate 3 exact h.aged hpackets hinbox hdeliveries

theorem nodeCall_sound (hP : PacketRow.Stable P) (hQ : InboxRow.Stable Q)
    (hadmits : ∀ raw, own raw → PacketRow.Admits rt P raw 0) (c : NodeCall own)
    (hknown : ∀ k, (c.exec rt s).Marked k → known k) (h : StoreSound P Q known took nodeId s) :
    StoreSound P Q known took nodeId (c.exec rt s) := by
  cases c with
  | queue raw origin now hown =>
    exact h.handled (addPacket_handled (hadmits raw hown) origin "" now s) hknown
  | dispatch owner claimToken raw keyId reservationId now hown =>
    exact dispatch_sound hadmits hown owner claimToken keyId reservationId now h
  | attempt packetIds peerId error pathId now =>
    exact markAttempt_sound packetIds peerId error pathId now h
  | custody packetIds peerId pathId now =>
    obtain ⟨deliveryPaths,hs⟩ := markCustodied_effect packetIds peerId pathId now s
    rw [NodeCall.exec,hs]
    exact ⟨h.rows,h.inbox,h.settled,h.acked⟩
  | revoke peerId now => exact revokePeer_sound hP hQ peerId now h
  | purge statements retentionMs now => exact purgePrefix_sound statements retentionMs now h
  | reconcile => exact reconcileDelivered_sound hP h
  | read packetIds =>
    refine h.aged (fun k p hp => ⟨p,hp,id,rfl,id⟩) (fun k i' hi' => ?_)
      fun k d hd hacked => ⟨d,hd,hacked⟩
    dsimp only [NodeCall.exec,markRead] at hi'
    exact update_inbox (fun i hi => (hQ i hi).1) hi'
  | hide =>
    refine h.aged (fun k p hp => ⟨p,hp,id,rfl,id⟩) (fun k i' hi' => ?_)
      fun k d hd hacked => ⟨d,hd,hacked⟩
    dsimp only [NodeCall.exec,hideTransientKinds] at hi'
    exact update_inbox (fun i hi => (hQ i hi).2.1) hi'
  | elsewhere call => exact h.handled (elsewhere_handled call s) hknown

end Calls

end PacketStore
end Anet
