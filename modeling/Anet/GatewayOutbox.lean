import Anet.GatewayRuns
import Mathlib.Data.Set.Function

/-! The gateway's outbox along every run: a dispatch that is settled has exactly one
packet, no other dispatch has one, and no lease, retry or late worker changes that. -/
namespace Anet

open PacketStore A2AProtocol

/-- Settled dispatches and stored packets of the gateway name each other. -/
structure OutboxSound (s : PacketStore) : Prop where
  stored : ∀ k d, s.a2aDispatches.get k = some d → d.state = .dispatched →
    s.sentTo d.packetId = some d.destinationPeerId
  single : ∀ k k' d d', s.a2aDispatches.get k = some d → s.a2aDispatches.get k' = some d' →
    d.state = .dispatched → d'.state = .dispatched → d.packetId = d'.packetId → d = d'
  named : ∀ packetId peer, s.sentTo packetId = some peer →
    ∃ k d, s.a2aDispatches.get k = some d ∧ d.state = .dispatched ∧ d.packetId = packetId
  unsent : ∀ k d, s.a2aDispatches.get k = some d → d.state ≠ .dispatched → d.packetId = ""
  task : ∀ k d, s.a2aDispatches.get k = some d →
    ∃ t, s.a2aTasks.get (d.principalId,d.a2aTaskId) = some t ∧
      t.destinationPeerId = d.destinationPeerId

section Steps

variable {rt : Runtime} {s s' : PacketStore}

theorem outbox_empty : OutboxSound .empty where
  stored _ _ hd := by cases hd
  single _ _ _ _ hd := by cases hd
  named _ _ h := by cases h
  unsent _ _ hd := by cases hd
  task _ _ hd := by cases hd

/-- A commit stores a packet under an id no packet had. -/
theorem commitStep_sent {d : A2ADispatch} {packet : PacketRow} {now : ℤ}
    (h : CommitStep d packet now s s') : s.sentTo packet.packetId = none ∧
      ∀ k, s'.sentTo k = if k = packet.packetId then some d.destinationPeerId
        else s.sentTo k := by
  have hnone := (Table.insert_eq_some h.packets).1
  refine ⟨by simp [sentTo,hnone],?_⟩
  intro k
  have hget := Table.get_insert h.packets k
  simp only [sentTo,hget]
  by_cases hk : k = packet.packetId
  · simp [hk,h.origin,h.destination]
  · simp [hk]

theorem commitStep_settled {d : A2ADispatch} {packet : PacketRow} {now : ℤ}
    (h : CommitStep d packet now s s') :
    s'.a2aDispatches.get d.key = some (d.dispatch packet.packetId now) := by
  rw [h.dispatches,if_pos rfl]

/-- A settled row after a step was settled before, or is the one the step settles. -/
theorem settled_cases (h : GatewayChange rt s s') {k : String × String} {d' : A2ADispatch}
    (hd : s'.a2aDispatches.get k = some d') (hsettled : d'.state = .dispatched) :
    s.a2aDispatches.get k = some d' ∨ ∃ d packet now, CommitStep d packet now s s' ∧ k = d.key ∧
      d' = d.dispatch packet.packetId now := by
  rcases gatewayChange_dispatch h hd with ⟨d,hold,hhandles⟩ | ⟨-,hpending,-⟩ | hcommit
  · rw [hhandles.unsettled hsettled]
    exact Or.inl hold
  · rw [hpending] at hsettled
    cases hsettled
  · exact Or.inr hcommit

theorem outbox_stored (hs : OutboxSound s) (h : GatewayChange rt s s') {k : String × String}
    {d' : A2ADispatch} (hd : s'.a2aDispatches.get k = some d')
    (hsettled : d'.state = .dispatched) :
    s'.sentTo d'.packetId = some d'.destinationPeerId := by
  rcases settled_cases h hd hsettled with hold | ⟨d,packet,now,hcommit,-,rfl⟩
  · have hstored := hs.stored k d' hold hsettled
    rcases gatewayChange_sent h with hsent | ⟨d,packet,now,hcommit⟩
    · rw [hsent,hstored]
    · obtain ⟨hnew,hsent⟩ := commitStep_sent hcommit
      rw [hsent,if_neg,hstored]
      intro heq
      rw [heq,hnew] at hstored
      cases hstored
  · rw [(commitStep_sent hcommit).2]
    exact if_pos rfl

/-- The packet of the row a step settles is not the packet of a row settled before. -/
theorem committed_differs (hs : OutboxSound s) {d : A2ADispatch} {packet : PacketRow} {now : ℤ}
    (h : CommitStep d packet now s s') {k : String × String} {d' : A2ADispatch}
    (hd : s.a2aDispatches.get k = some d') (hsettled : d'.state = .dispatched) :
    d'.packetId ≠ packet.packetId := by
  intro heq
  have hstored := hs.stored k d' hd hsettled
  rw [heq,(commitStep_sent h).1] at hstored
  cases hstored

/-- A step commits one dispatch at most. -/
theorem commitStep_unique {d d' : A2ADispatch} {packet packet' : PacketRow} {now now' : ℤ}
    (h : CommitStep d packet now s s') (h' : CommitStep d' packet' now' s s') :
    d.dispatch packet.packetId now = d'.dispatch packet'.packetId now' := by
  have hkey : d.key = d'.key := by
    by_contra hne
    have hsettled := commitStep_settled h
    rw [h'.dispatches,if_neg hne,h.known] at hsettled
    have hstate := congrArg (Option.map A2ADispatch.state) hsettled
    simp [A2ADispatch.dispatch,h.leased] at hstate
  have hsettled := commitStep_settled h
  rw [hkey,commitStep_settled h'] at hsettled
  exact (Option.some.inj hsettled).symm

theorem outbox_single (hs : OutboxSound s) (h : GatewayChange rt s s') {k k' : String × String}
    {d d' : A2ADispatch} (hd : s'.a2aDispatches.get k = some d)
    (hd' : s'.a2aDispatches.get k' = some d') (hsettled : d.state = .dispatched)
    (hsettled' : d'.state = .dispatched) (hsame : d.packetId = d'.packetId) : d = d' := by
  rcases settled_cases h hd hsettled with hold | ⟨x,packet,now,hcommit,-,rfl⟩
  · rcases settled_cases h hd' hsettled' with hold' | ⟨x,packet,now,hcommit,-,rfl⟩
    · exact hs.single k k' d d' hold hold' hsettled hsettled' hsame
    · exact absurd hsame (committed_differs hs hcommit hold hsettled)
  · rcases settled_cases h hd' hsettled' with hold' | ⟨x',packet',now',hcommit',-,rfl⟩
    · exact absurd hsame.symm (committed_differs hs hcommit hold' hsettled')
    · exact commitStep_unique hcommit hcommit'

theorem outbox_named (hs : OutboxSound s) (h : GatewayChange rt s s') {packetId peer : String}
    (hsent : s'.sentTo packetId = some peer) : ∃ k d, s'.a2aDispatches.get k = some d ∧
      d.state = .dispatched ∧ d.packetId = packetId := by
  have hkept (hold : s.sentTo packetId = some peer) : ∃ k d, s'.a2aDispatches.get k = some d ∧
      d.state = .dispatched ∧ d.packetId = packetId := by
    obtain ⟨k,d,hd,hsettled,hname⟩ := hs.named packetId peer hold
    obtain ⟨d',hd',-,hsame⟩ := gatewayChange_kept h hd
    rw [hsame hsettled] at hd'
    exact ⟨k,d,hd',hsettled,hname⟩
  rcases gatewayChange_sent h with hall | ⟨d,packet,now,hcommit⟩
  · exact hkept (by rw [← hall]; exact hsent)
  · rw [(commitStep_sent hcommit).2] at hsent
    split at hsent
    · rename_i hk
      exact ⟨d.key,_,commitStep_settled hcommit,rfl,hk.symm⟩
    · exact hkept hsent

theorem outbox_step (hs : OutboxSound s) (h : GatewayStep rt s s') : OutboxSound s' where
  stored _ _ hd hsettled := outbox_stored hs (gatewayStep_change h) hd hsettled
  single _ _ _ _ hd hd' hsettled hsettled' hsame :=
    outbox_single hs (gatewayStep_change h) hd hd' hsettled hsettled' hsame
  named _ _ hsent := outbox_named hs (gatewayStep_change h) hsent
  unsent k d hd hunsettled := by
    rcases gatewayChange_dispatch (gatewayStep_change h) hd with ⟨d₀,hold,hhandles⟩ |
      ⟨-,-,hempty,-⟩ | ⟨_,_,_,-,-,rfl⟩
    · rw [hhandles.named]
      refine hs.unsent k d₀ hold fun hsettled => hunsettled ?_
      rw [hhandles.settled hsettled]
      exact hsettled
    · exact hempty
    · exact absurd rfl hunsettled
  task k d hd := by
    have hchange := gatewayStep_change h
    have hmove {d₀ : A2ADispatch} (hold : s.a2aDispatches.get k = some d₀)
        (hprincipal : d.principalId = d₀.principalId) (htask : d.a2aTaskId = d₀.a2aTaskId)
        (hdest : d.destinationPeerId = d₀.destinationPeerId) :
        ∃ t, s'.a2aTasks.get (d.principalId,d.a2aTaskId) = some t ∧
          t.destinationPeerId = d.destinationPeerId := by
      obtain ⟨t,ht,hpeer⟩ := hs.task k d₀ hold
      obtain ⟨t',ht',hshape⟩ := gatewayChange_tasks hchange ht
      rw [hprincipal,htask,hdest]
      refine ⟨t',ht',?_⟩
      rw [← hpeer]
      simp only [A2ATask.shape,Prod.mk.injEq] at hshape
      exact hshape.2.1
    rcases gatewayChange_dispatch hchange hd with ⟨d₀,hold,hhandles⟩ | ⟨-,-,-,hnew⟩ |
      ⟨d₀,packet,now,hcommit,rfl,rfl⟩
    · have hintent := hhandles.intent
      simp only [A2ADispatch.intent,Prod.mk.injEq] at hintent
      exact hmove hold hintent.1 hintent.2.2.1 hintent.2.2.2.2.1
    · exact hnew
    · exact hmove hcommit.known rfl rfl rfl

end Steps

section Runs

variable {rt : Runtime} {s s' : PacketStore}

theorem run_outbox (hs : OutboxSound s) (h : Reaches (GatewayStep rt) s s') : OutboxSound s' :=
  Reaches.invariant (I := OutboxSound) (fun _ _ hs hstep => outbox_step hs hstep) hs h

/-- A settled dispatch stays as it is. -/
theorem run_settled {k : String × String} {d : A2ADispatch}
    (hd : s.a2aDispatches.get k = some d) (hsettled : d.state = .dispatched)
    (h : Reaches (GatewayStep rt) s s') : s'.a2aDispatches.get k = some d := by
  refine Reaches.invariant (I := fun s' => s'.a2aDispatches.get k = some d) ?_ hd h
  intro s₁ s₂ hd hstep
  obtain ⟨d',hd',-,hsame⟩ := gatewayChange_kept (gatewayStep_change hstep) hd
  rw [hsame hsettled] at hd'
  exact hd'

/-- A commit that reports a packet has settled a leased dispatch with it. -/
theorem sends_commits {op : GatewayOp} {k : String × String} {packetId : String}
    (h : op.sends rt s = some (k,packetId)) :
    ∃ d packet now, CommitStep d packet now s (op.exec rt s) ∧ k = d.key ∧
      packetId = packet.packetId := by
  unfold GatewayOp.sends at h
  split at h
  · rename_i owner claimToken raw keyId reservationId now
    rcases commitA2ADispatchPacket_change rt owner claimToken raw keyId reservationId now s
      with ⟨⟨e,herr⟩,-⟩ | ⟨d,packet,hok,hstep⟩
    · rw [herr] at h
      cases h
    · rw [hok] at h
      obtain ⟨rfl,rfl⟩ := Prod.mk.injEq .. ▸ Option.some.inj h
      exact ⟨d,packet,now,hstep,rfl,rfl⟩
  · cases h

theorem not_ready {d : A2ADispatch} (h : d.state = .dispatched) (now : ℤ) : ¬ d.ready now := by
  simp [A2ADispatch.ready,h]

/-- A dispatch row has exactly one stored packet if it is dispatched and none otherwise,
for the peer of its task; it is dispatched once and for all; and a commit or a retry that
raises has changed nothing. -/
theorem a2a_outbox_exactly_once (rt : Runtime) {s : PacketStore}
    (h : Reaches (GatewayStep rt) .empty s) :
    Set.BijOn A2ADispatch.packetId
      {d | d ∈ s.a2aDispatches.rows ∧ d.state = .dispatched}
      {packetId | ∃ p ∈ s.packets.rows, p.packetId = packetId ∧ p.origin = gatewayOrigin} ∧
    (∀ d ∈ s.a2aDispatches.rows, d.state ≠ .dispatched → d.packetId = "") ∧
    (∀ d ∈ s.a2aDispatches.rows, d.state = .dispatched →
      ∃ p ∈ s.packets.rows, ∃ t ∈ s.a2aTasks.rows, p.packetId = d.packetId ∧
        t.key = (d.principalId,d.a2aTaskId) ∧ p.destinationId = t.destinationPeerId) ∧
    (∀ d ∈ s.a2aDispatches.rows, d.state = .dispatched →
      ∀ s', Reaches (GatewayStep rt) s s' →
        d ∈ s'.a2aDispatches.rows ∧ ∀ now, ¬ d.ready now) ∧
    (∀ (op : GatewayOp) k packetId, op.Allowed s → op.sends rt s = some (k,packetId) →
      (∃ d, s.a2aDispatches.get k = some d ∧ d.state = .leased) ∧
      ∀ s', Reaches (GatewayStep rt) (op.exec rt s) s' →
        (∃ d, s'.a2aDispatches.get k = some d ∧ d.state = .dispatched ∧ d.packetId = packetId) ∧
        ∀ (op' : GatewayOp) packetId', op'.sends rt s' ≠ some (k,packetId')) ∧
    (∀ owner claimToken raw keyId reservationId now e,
      (commitA2ADispatchPacket rt owner claimToken raw keyId reservationId now s).1 = .error e →
        (commitA2ADispatchPacket rt owner claimToken raw keyId reservationId now s).2 = s) ∧
    ∀ owner claimToken error delay drawn now e,
      (retryA2ADispatch owner claimToken error delay drawn now s).1 = .error e →
        (retryA2ADispatch owner claimToken error delay drawn now s).2 = s := by
  have hs := run_outbox outbox_empty h
  have hsent {packetId : String} : (∃ peer, s.sentTo packetId = some peer) ↔
      ∃ p ∈ s.packets.rows, p.packetId = packetId ∧ p.origin = gatewayOrigin := by
    simp only [sentTo,Option.map_eq_some_iff,Option.filter_eq_some_iff,Table.get_eq_some,
      decide_eq_true_eq]
    constructor
    · rintro ⟨_,p,⟨⟨hp,hid⟩,horigin⟩,-⟩
      exact ⟨p,hp,hid,horigin⟩
    · rintro ⟨p,hp,hid,horigin⟩
      exact ⟨_,p,⟨⟨hp,hid⟩,horigin⟩,rfl⟩
  refine ⟨⟨?_,?_,?_⟩,?_,?_,?_,?_,fun _ _ _ _ _ _ _ => transaction_error,
    fun _ _ _ _ _ _ _ => transaction_error⟩
  · rintro d ⟨hd,hsettled⟩
    exact hsent.mp ⟨_,hs.stored _ d (Table.mem_rows.mp hd) hsettled⟩
  · rintro d ⟨hd,hsettled⟩ d' ⟨hd',hsettled'⟩ hsame
    exact hs.single _ _ d d' (Table.mem_rows.mp hd) (Table.mem_rows.mp hd') hsettled hsettled' hsame
  · intro packetId hp
    obtain ⟨peer,hpeer⟩ := hsent.mpr hp
    obtain ⟨k,d,hd,hsettled,hname⟩ := hs.named packetId peer hpeer
    exact ⟨d,⟨(Table.get_eq_some.mp hd).1,hsettled⟩,hname⟩
  · intro d hd hunsettled
    exact hs.unsent _ d (Table.mem_rows.mp hd) hunsettled
  · intro d hd hsettled
    have hstored := hs.stored _ d (Table.mem_rows.mp hd) hsettled
    obtain ⟨t,ht,hpeer⟩ := hs.task _ d (Table.mem_rows.mp hd)
    obtain ⟨p,hfilter,hdest⟩ := Option.map_eq_some_iff.mp hstored
    obtain ⟨hp,hid⟩ := Table.get_eq_some.mp (Option.filter_eq_some_iff.mp hfilter).1
    obtain ⟨hrow,hkey⟩ := Table.get_eq_some.mp ht
    exact ⟨p,hp,t,hrow,hid,hkey,by rw [hdest,hpeer]⟩
  · intro d hd hsettled s' hrun
    have hlater := run_settled (Table.mem_rows.mp hd) hsettled hrun
    exact ⟨(Table.get_eq_some.mp hlater).1,not_ready hsettled⟩
  · intro op k packetId hop hsends
    obtain ⟨d,packet,now,hcommit,rfl,rfl⟩ := sends_commits hsends
    refine ⟨⟨d,hcommit.known,hcommit.leased⟩,?_⟩
    intro s' hrun
    have hlater := run_settled (commitStep_settled hcommit) rfl hrun
    refine ⟨⟨_,hlater,rfl,rfl⟩,?_⟩
    intro op' packetId' hsends'
    obtain ⟨d',packet',now',hcommit',hkey,-⟩ := sends_commits hsends'
    have hknown := hcommit'.known
    rw [← hkey,hlater] at hknown
    have hstate := hcommit'.leased
    rw [← Option.some.inj hknown] at hstate
    cases hstate

end Runs

section Sample

def sampleOwner : ConsumerId := ⟨"worker",consumerId_worker⟩

def claimOp : GatewayOp :=
  .claim sampleOwner 1 ⟨5000,lease_low,lease_high⟩ 2000 fun _ => sampleToken

def commitOp : GatewayOp := .commit sampleOwner sampleToken samplePacket.wire "" "" 3000

def claimedSample : PacketStore := claimOp.exec Runtime.msgpack registeredSample
def committedSample : PacketStore := commitOp.exec Runtime.msgpack claimedSample

theorem claimedSample_reachable : Reaches (GatewayStep .msgpack) .empty claimedSample :=
  registeredSample_reachable.tail ⟨claimOp,trivial,rfl⟩

theorem a2a_outbox_exactly_once_sample :
    (∃ d, committedSample.a2aDispatches.get (samplePrincipal.val,"message") = some d ∧
      d.state = .dispatched ∧ d.packetId = samplePacketId) ∧
    ∀ (op : GatewayOp) packetId,
      op.sends Runtime.msgpack committedSample ≠ some ((samplePrincipal.val,"message"),packetId) :=
  ((a2a_outbox_exactly_once Runtime.msgpack claimedSample_reachable).2.2.2.2.1 commitOp
    (samplePrincipal.val,"message") samplePacketId trivial (by decide +kernel)).2 committedSample
      .refl

end Sample
end Anet
