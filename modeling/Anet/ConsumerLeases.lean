import Anet.WorkRuns

/-! The leases of consumer groups along every run. A claim token is a fencing
token of the delivery it was drawn for: once the delivery is claimed again,
settled or revoked, no call that presents the old token changes anything. -/
namespace Anet

open PacketStore ConsumerDelivery

/-- What one call can do to the delivery at a key. -/
inductive DeliveryMove (w : WorkWorld) (op : WorkOp) (t : WorkTables) (k : String × String) :
    Option ConsumerDelivery → Option ConsumerDelivery → Prop
  | same (o : Option ConsumerDelivery) : DeliveryMove w op t k o o
  | claim (o : Option ConsumerDelivery) (r : ConsumerDelivery) (now : ℤ)
      (hgroup : op.group = some k.1) (hdue : ∀ r', o = some r' → r'.due now)
      (hstate : r.state = .leased) (htoken : r.claimToken ∉ w.claimTokens) :
      DeliveryMove w op t k o (some r)
  | ack (r : ConsumerDelivery) (now : ℤ) (hgroup : op.group = some k.1)
      (hstate : r.state ≠ .acked) : DeliveryMove w op t k (some r) (some (r.ack now))
  | release (r : ConsumerDelivery) (retryAfterMs : ℤ) (error : String)
      (hgroup : op.group = some k.1) (hstate : r.state = .leased) :
      DeliveryMove w op t k (some r) (some (r.release retryAfterMs error))
  | renew (r : ConsumerDelivery) (leaseUntilMs : ℤ) (hgroup : op.group = some k.1)
      (hstate : r.state = .leased) : DeliveryMove w op t k (some r) (some (r.renew leaseUntilMs))
  | revoke (r : ConsumerDelivery) (hgroup : op.group = none) (hstate : r.state ≠ .acked)
      (hdistrust : ∀ i, t.inbox.get k.2 = some i → ¬ i.trusted) :
      DeliveryMove w op t k (some r) (some r.revoke)
  | drop (r : ConsumerDelivery) (hgroup : op.group = none) (hgone : t.inbox.get k.2 = none) :
      DeliveryMove w op t k (some r) none

section Moves

variable {rt : Runtime} {w : WorkWorld} {op : WorkOp} {t : WorkTables} {groupId owner : String}
  {claimToken : Token} {now : ℤ} {k : String × String}

theorem leasedBy_group {r : ConsumerDelivery} (hr : w.store.consumerDeliveries.get k = some r)
    (hgroup : op.group = some groupId) (h : r.groupId = groupId) : op.group = some k.1 := by
  rw [hgroup,← Table.get_key hr,← h]
  rfl

theorem ackLeased_move (hgroup : op.group = some groupId) :
    DeliveryMove w op t k (w.store.consumerDeliveries.get k)
      ((w.store.consumerDeliveries.ackLeased groupId owner claimToken.val now).get k) := by
  rw [get_ackLeased]
  cases hr : w.store.consumerDeliveries.get k with
  | none => exact .same none
  | some r =>
    by_cases h : r.leasedBy groupId owner claimToken.val
    · simp only [Option.map_some,if_pos h]
      exact .ack r now (leasedBy_group hr hgroup h.1) (by simp [h.2.2.2])
    · simp only [Option.map_some,if_neg h]
      exact .same (some r)

theorem releaseLeased_move {retryAfterMs : ℤ} {error : String} (hgroup : op.group = some groupId) :
    DeliveryMove w op t k (w.store.consumerDeliveries.get k)
      ((w.store.consumerDeliveries.releaseLeased groupId owner claimToken.val retryAfterMs
        error).get k) := by
  rw [get_releaseLeased]
  cases hr : w.store.consumerDeliveries.get k with
  | none => exact .same none
  | some r =>
    by_cases h : r.leasedBy groupId owner claimToken.val
    · simp only [Option.map_some,if_pos h]
      exact .release r retryAfterMs error (leasedBy_group hr hgroup h.1) h.2.2.2
    · simp only [Option.map_some,if_neg h]
      exact .same (some r)

/-- A cancellation settles its own claim and at most one other delivery of the group. -/
theorem fence_move {cancel : CancelIntent} (hgroup : op.group = some groupId) :
    DeliveryMove w op t k (w.store.consumerDeliveries.get k)
      (((w.store.fenceExecution cancel groupId now).deliveries.ackLeased groupId owner
        claimToken.val now).get k) := by
  unfold fenceExecution
  split
  · exact ackLeased_move hgroup
  rename_i e he
  split
  · exact ackLeased_move hgroup
  split
  · exact ackLeased_move hgroup
  dsimp only
  rw [get_ackLeased,get_ackPacket]
  cases hr : w.store.consumerDeliveries.get k with
  | none => exact .same none
  | some r =>
    by_cases h : r.groupId = groupId ∧ r.packetId = e.requestPacketId ∧ r.state ≠ .acked
    · have hacked : ¬ (r.ack now).leasedBy groupId owner claimToken.val := by simp [leasedBy,ConsumerDelivery.ack]
      simp only [Option.map_some,if_pos h,if_neg hacked]
      exact .ack r now (leasedBy_group hr hgroup h.1) h.2.2
    · simp only [Option.map_some,if_neg h]
      by_cases hl : r.leasedBy groupId owner claimToken.val
      · rw [if_pos hl]
        exact .ack r now (leasedBy_group hr hgroup hl.1) (by simp [hl.2.2.2])
      · rw [if_neg hl]
        exact .same (some r)

/-- No message of a revoked peer is trusted afterwards. -/
theorem distrusted {inbox : Inbox} {peerId packetId : String} {i : InboxRow}
    (hsender : (inbox.get packetId).map InboxRow.senderId = some peerId)
    (hi : (distrust inbox peerId).get packetId = some i) : ¬ i.trusted := by
  rw [get_distrust] at hi
  obtain ⟨j,hj,hji⟩ := Option.map_eq_some_iff.mp hi
  rw [hj] at hsender
  subst hji
  split
  · simp [InboxRow.distrust]
  · rename_i htrusted
    exact fun h => htrusted ⟨Option.some.inj hsender,h⟩

theorem claim_move {groupId owner : ConsumerId} {limit : ℤ} {lease : LeaseMs} {draws : ℕ → Token}
    {group : ConsumerGroup} {claims : List ClaimedMessage} {d : ConsumerDeliveries}
    (hgroup : op.group = some groupId.val) (hid : group.groupId = groupId.val)
    (hfresh : ∀ i < (w.store.nextClaims group now limit).length, (draws i).val ∉ w.claimTokens)
    (hrows : claimRows rt groupId.val owner.val (now + lease.val) w.store.consumerDeliveries
      (w.store.nextClaims group now limit) draws w.store.consumerDeliveries = .ok (claims,d)) :
    DeliveryMove w op t k (w.store.consumerDeliveries.get k) (d.get k) := by
  obtain ⟨hother,hset⟩ := claimRows_get (nextClaims_nodup group limit) hrows
  by_cases hk : ∀ row ∈ w.store.nextClaims group now limit, k ≠ (groupId.val,row.packetId)
  · rw [hother k hk]
    exact .same _
  · push Not at hk
    obtain ⟨row,hrow,rfl⟩ := hk
    obtain ⟨i,hi,hget⟩ := List.mem_iff_getElem.mp hrow
    have hdue := (mem_nextClaims hrow).2.2
    rw [hset i row (by rw [List.getElem?_eq_getElem hi,hget])]
    refine .claim _ _ now hgroup (fun r hr => hdue r (by rwa [hid])) ?_ ?_
    · cases w.store.consumerDeliveries.get (groupId.val,row.packetId) <;> rfl
    · have := hfresh i hi
      cases w.store.consumerDeliveries.get (groupId.val,row.packetId) <;> exact this

/-- Every call moves every delivery in one of these ways, if at all. -/
theorem deliveries_move (hallowed : op.Allowed w) (h : WorkChange rt w op t)
    (k : String × String) :
    DeliveryMove w op t k (w.store.consumerDeliveries.get k) (t.deliveries.get k) := by
  cases h with
  | idle => exact .same _
  | insert => exact .same _
  | mark => exact .same _
  | openGroup => exact .same _
  | claim groupId owner limit lease now draws group claims d hop hgroup hid hrows =>
    subst hop
    exact claim_move rfl hid (hallowed group hgroup) hrows
  | acknowledge groupId owner claimToken now d hop hget =>
    subst hop
    change DeliveryMove _ _ _ _ _ (d.get k)
    rw [hget k]
    cases hr : w.store.consumerDeliveries.get k with
    | none => exact .same none
    | some r =>
      dsimp only [Option.map_some]
      split
      · rename_i hopen
        exact .ack r now (leasedBy_group hr rfl hopen.1.1) (by simp [hopen.1.2.2.2])
      · exact .same (some r)
  | reject groupId owner claimToken retry error now d hop hget =>
    subst hop
    change DeliveryMove _ _ _ _ _ (d.get k)
    rw [hget k]
    cases hr : w.store.consumerDeliveries.get k with
    | none => exact .same none
    | some r =>
      dsimp only [Option.map_some]
      split
      · rename_i hopen
        exact .release r _ _ (leasedBy_group hr rfl hopen.1.1) hopen.1.2.2.2
      · exact .same (some r)
  | renew groupId owner claimToken lease now d hop hget =>
    subst hop
    change DeliveryMove _ _ _ _ _ (d.get k)
    rw [hget k]
    cases hr : w.store.consumerDeliveries.get k with
    | none => exact .same none
    | some r =>
      dsimp only [Option.map_some]
      split
      · rename_i hleased
        exact .renew r _ (leasedBy_group hr rfl hleased.1) hleased.2.2.2
      · exact .same (some r)
  | begin groupId owner claimToken _ _ _ _ now task o s' hop hadmitted heffect =>
    subst hop
    cases heffect with
    | preCanceled => exact ackLeased_move rfl
    | start => exact .same _
    | duplicate => exact ackLeased_move rfl
    | resume => exact .same _
    | finish => exact ackLeased_move rfl
    | takeOver => exact .same _
  | settle groupId owner claimToken _ _ _ _ _ now kind _ _ row s' hop hargs hsettle =>
    subst hop
    obtain ⟨e,r,-,-,-,-,-,-,⟨-,rfl⟩ | ⟨-,rfl⟩⟩ := settleExecution_cases hsettle
    · exact releaseLeased_move rfl
    · exact ackLeased_move rfl
  | cancel groupId owner claimToken _ now cancel o s' hop hadmitted hrecord =>
    subst hop
    obtain ⟨c,-,-,rfl⟩ := recordCancellation_cases hrecord
    exact fence_move rfl
  | activate groupId owner claimToken _ now r i body live hop hclaim hbody hlive =>
    subst hop
    exact ackLeased_move rfl
  | revoke _ peerId _ hop =>
    subst hop
    change DeliveryMove _ _ _ _ _ ((revokeDeliveries _ _ _).get k)
    rw [get_revokeDeliveries]
    cases hr : w.store.consumerDeliveries.get k with
    | none => exact .same none
    | some r =>
      dsimp only [Option.map_some]
      split
      · rename_i hopen
        refine .revoke r rfl hopen.2.1 fun i hi => ?_
        have hpacket : r.packetId = k.2 := congrArg Prod.snd (Table.get_key hr)
        have hsender := hopen.1
        rw [hpacket] at hsender
        exact distrusted hsender hi
      · exact .same (some r)
  | purge _ _ _ s' hop hpurge =>
    subst hop
    rcases hpurge.deliveries k with hsame | ⟨hgone,hinbox⟩
    · change DeliveryMove _ _ _ _ _ (s'.consumerDeliveries.get k)
      rw [hsame]
      exact .same _
    · change DeliveryMove _ _ _ _ _ (s'.consumerDeliveries.get k)
      rw [hgone]
      cases hr : w.store.consumerDeliveries.get k with
      | none => exact .same none
      | some r => exact .drop r rfl hinbox

/-- Inserts aside, an acknowledged or revoked delivery stays so while its message
is in the Inbox. -/
theorem settled_move {r : ConsumerDelivery} {o' : Option ConsumerDelivery}
    (hmove : DeliveryMove w op t k (some r) o') (hsettled : r.state = .acked ∨ r.state = .revoked)
    (hinbox : t.inbox.get k.2 ≠ none) :
    ∃ r', o' = some r' ∧ (r'.state = .acked ∨ r'.state = .revoked) := by
  have hclosed : r.state ≠ .leased ∧ r.state ≠ .retry := by
    rcases hsettled with h | h <;> simp [h]
  cases hmove with
  | same => exact ⟨r,rfl,hsettled⟩
  | claim _ _ now _ hdue =>
    rcases hdue r rfl with h | h
    · exact absurd h.1 hclosed.1
    · exact absurd h.1 hclosed.2
  | ack => exact ⟨_,rfl,Or.inl rfl⟩
  | release _ _ _ _ hstate => exact absurd hstate hclosed.1
  | renew _ _ _ hstate => exact absurd hstate hclosed.1
  | revoke => exact ⟨_,rfl,Or.inr rfl⟩
  | drop _ _ hgone => exact absurd hgone hinbox

/-- A call that works on one group leaves the deliveries of the others. -/
theorem foreign_move {o o' : Option ConsumerDelivery} (hmove : DeliveryMove w op t k o o')
    {groupId : String} (hgroup : op.group = some groupId) (hk : k.1 ≠ groupId) : o' = o := by
  have hforeign : op.group ≠ some k.1 := by
    rw [hgroup]
    exact fun h => hk (Option.some.inj h).symm
  cases hmove with
  | same => rfl
  | claim _ _ _ h => exact absurd h hforeign
  | ack _ _ h => exact absurd h hforeign
  | release _ _ _ h => exact absurd h hforeign
  | renew _ _ h => exact absurd h hforeign
  | revoke _ h => rw [hgroup] at h; cases h
  | drop _ h => rw [hgroup] at h; cases h

/-- A delivery shows the token it had, or a new one, or none. -/
theorem token_move {o o' : Option ConsumerDelivery} (hmove : DeliveryMove w op t k o o')
    {r' : ConsumerDelivery} (hr' : o' = some r') (htoken : r'.claimToken ≠ "") :
    (∃ r, o = some r ∧ r.claimToken = r'.claimToken) ∨ r'.claimToken ∉ w.claimTokens := by
  cases hmove with
  | same => exact Or.inl ⟨r',hr',rfl⟩
  | claim _ r _ _ _ _ hnew =>
    cases hr'
    exact Or.inr hnew
  | ack =>
    cases hr'
    exact absurd rfl htoken
  | release =>
    cases hr'
    exact absurd rfl htoken
  | renew r =>
    cases hr'
    exact Or.inl ⟨r,rfl,rfl⟩
  | revoke =>
    cases hr'
    exact absurd rfl htoken
  | drop => cases hr'

end Moves

section Runs

variable {rt : Runtime} {w w' : WorkWorld}

theorem step_move (h : WorkStep rt w w') : ∃ op : WorkOp, op.Allowed w ∧
    w' = w.after rt op ∧ ∀ k, DeliveryMove w op w'.store.work k (w.store.consumerDeliveries.get k)
      (w'.store.consumerDeliveries.get k) := by
  obtain ⟨op,hop,rfl⟩ := h
  exact ⟨op,hop,rfl,deliveries_move hop (exec_work _ hop)⟩

/-- The claim tokens in force, as a fence over the deliveries. -/
def claimFence (w : WorkWorld) : Fence (String × String) String :=
  tableFence ConsumerDelivery.claimToken w.store.consumerDeliveries w.claimTokens

theorem claimToken_mark (r : ConsumerDelivery) (h : r.claimToken ≠ "") : r.claimToken ∈ r.marks :=
  mem_textMark.mpr ⟨rfl,h⟩

theorem claimFence_step (h : WorkStep rt w w') : (claimFence w).Step (claimFence w') := by
  obtain ⟨op,-,rfl,hmove⟩ := step_move h
  exact tableFence_step id claimToken_mark fun k r' hr' htoken =>
    token_move (hmove k) hr' htoken

theorem claimFence_run (h : Reaches (WorkStep rt) w w') :
    Reaches Fence.Step (claimFence w) (claimFence w') :=
  Reaches.simulate (I := fun _ => True) (fun _ _ _ _ => trivial)
    (fun _ _ _ hstep => .single (claimFence_step hstep)) trivial h

theorem claimFence_sound (h : Reaches (WorkStep rt) .initial w) : (claimFence w).Sound :=
  Fence.Sound.run tableFence_empty_sound (claimFence_run h)

/-- Steps that leave a message in the Inbox. -/
def StepKeeping (rt : Runtime) (packetId : String) (w w' : WorkWorld) : Prop :=
  WorkStep rt w w' ∧ (w'.store.inbox.get packetId).isSome

theorem settled_run {k : String × String} {r : ConsumerDelivery}
    (hr : w.store.consumerDeliveries.get k = some r)
    (hsettled : r.state = .acked ∨ r.state = .revoked)
    (h : Reaches (StepKeeping rt k.2) w w') : ∃ r', w'.store.consumerDeliveries.get k = some r' ∧
      (r'.state = .acked ∨ r'.state = .revoked) := by
  refine Reaches.invariant (I := fun v : WorkWorld => ∃ r',
    v.store.consumerDeliveries.get k = some r' ∧ (r'.state = .acked ∨ r'.state = .revoked))
    ?_ ⟨r,hr,hsettled⟩ h
  rintro v v' ⟨r',hr',hsettled'⟩ ⟨hstep,hinbox⟩
  obtain ⟨op,-,rfl,hmove⟩ := step_move hstep
  have hk := hmove k
  rw [hr'] at hk
  refine settled_move hk hsettled' fun hnone => ?_
  change (v.after rt op).store.inbox.get k.2 = none at hnone
  rw [hnone] at hinbox
  cases hinbox

/-- A call whose token no delivery is leased under is refused and changes nothing. -/
theorem presented_refused (rt : Runtime) {op : WorkOp} {s : PacketStore} {groupId owner : ConsumerId}
    {claimToken : Token} (hop : op.presents = some (groupId,owner,claimToken))
    (hnone : ∀ k r, s.consumerDeliveries.get k = some r →
      ¬ r.leasedBy groupId.val owner.val claimToken.val) :
    ∃ e, op.outcome rt s = (.error e,s) := by
  have hlive (now : ℤ) : s.liveClaim groupId.val owner.val claimToken.val now = none := by
    cases hl : s.liveClaim groupId.val owner.val claimToken.val now with
    | none => rfl
    | some p =>
      obtain ⟨hr,hleased,-,-⟩ := liveClaim_some hl
      exact absurd hleased (hnone _ _ hr)
  cases op with
  | acknowledge groupId' owner' claimToken' now =>
    cases hop
    rcases acknowledgeClaim_cases groupId owner claimToken now s with
      ⟨e,ht,-⟩ | ⟨d,-,-,k,r,hr,hopen⟩
    · exact ⟨e,by rw [WorkOp.outcome,ht]; rfl⟩
    · exact absurd hopen.1 (hnone k r hr)
  | reject groupId' owner' claimToken' retry error now =>
    cases hop
    rcases rejectClaim_cases groupId owner claimToken retry error now s with
      ⟨e,ht,-⟩ | ⟨d,-,-,k,r,hr,hopen⟩
    · exact ⟨e,by rw [WorkOp.outcome,ht]; rfl⟩
    · exact absurd hopen.1 (hnone k r hr)
  | renew groupId' owner' claimToken' lease now =>
    cases hop
    rcases renewClaim_cases groupId owner claimToken lease now s with
      ⟨e,ht,-⟩ | ⟨d,-,-,k,r,hr,hleased⟩
    · exact ⟨e,by rw [WorkOp.outcome,ht]; rfl⟩
    · exact absurd hleased (hnone k r hr)
  | begin groupId' owner' claimToken' allowedSenders allowedCapabilities drawn executionToken now =>
    cases hop
    rcases beginAgentTask_cases rt groupId owner claimToken allowedSenders allowedCapabilities drawn
      executionToken now s with ⟨e,ht⟩ | ⟨task,o,s',hadmitted,-,-⟩
    · exact ⟨e,by rw [WorkOp.outcome,ht]; rfl⟩
    · obtain ⟨r,i,_,_,_,hclaim,-⟩ := admitTask_ok hadmitted
      rw [hlive] at hclaim
      cases hclaim
  | settle groupId' owner' claimToken' executionToken state output error retry now =>
    cases hop
    rcases settleAgentTask_cases rt groupId owner claimToken executionToken state output error retry
      now s with ⟨e,ht⟩ | ⟨kind,message,encoded,row,s',-,hsettle,-⟩
    · exact ⟨e,by rw [WorkOp.outcome,ht]; rfl⟩
    · obtain ⟨_,r,-,-,hr,hleased,-⟩ := settleExecution_cases hsettle
      exact absurd hleased (hnone _ r hr)
  | cancel groupId' owner' claimToken' allowedSenders now =>
    cases hop
    rcases applyAgentTaskCancellation_cases rt groupId owner claimToken allowedSenders now s with
      ⟨e,ht⟩ | ⟨cancel,o,s',hadmitted,-,-⟩
    · exact ⟨e,by rw [WorkOp.outcome,ht]; rfl⟩
    · obtain ⟨r,i,_,_,_,hclaim,-⟩ := admitCancellation_ok hadmitted
      rw [hlive] at hclaim
      cases hclaim
  | activate groupId' owner' claimToken' prepared now =>
    cases hop
    rcases transaction_cases (commitActivation rt groupId owner claimToken prepared now) s with
      ⟨a,s',hb,-⟩ | ⟨e,-,ht⟩
    · obtain ⟨r,i,_,_,_,hclaim,-⟩ := commitActivation_cases hb
      rw [hlive] at hclaim
      cases hclaim
    · exact ⟨e,by rw [WorkOp.outcome,ht]; rfl⟩
  | _ => cases hop

/-- A claim hands out rows that are due, and no row that is settled. -/
theorem claim_due {groupId owner : ConsumerId} {limit : ℤ} {lease : LeaseMs} {now : ℤ}
    {draws : ℕ → Token} {s : PacketStore} {claims : List ClaimedMessage}
    (h : (claimConsumerMessages rt groupId owner limit lease now draws s).1 = .ok claims)
    {c : ClaimedMessage} (hc : c ∈ claims) {r : ConsumerDelivery}
    (hr : s.consumerDeliveries.get (groupId.val,c.item.packetId) = some r) : r.due now := by
  rcases claimConsumerMessages_cases rt groupId owner limit lease now draws s with
    ⟨e,ht⟩ | ⟨group,claims',d,-,hid,hrows,ht⟩
  · rw [ht] at h
    cases h
  · rw [ht] at h
    cases h
    obtain ⟨i,hi,hget⟩ := List.mem_iff_getElem.mp hc
    obtain ⟨-,-,-,row,hrow,hpacket⟩ := (claimRows_items hrows).2 i c
      (by rw [List.getElem?_eq_getElem hi,hget])
    have hdue := (mem_nextClaims (List.mem_of_getElem? hrow)).2.2
    exact hdue r (by rwa [hid,← hpacket])

/-- The packet is leased to the owner in the group, under this token. -/
def holdsClaim (s : PacketStore) (groupId owner claimToken packetId : String) : Prop :=
  ∃ r, s.consumerDeliveries.get (groupId,packetId) = some r ∧ r.leasedBy groupId owner claimToken

theorem holdsClaim_of_row {s : PacketStore} {groupId owner claimToken : String}
    {k : String × String} {r : ConsumerDelivery} (hr : s.consumerDeliveries.get k = some r)
    (h : r.leasedBy groupId owner claimToken) :
    holdsClaim s groupId owner claimToken r.packetId := by
  refine ⟨r,?_,h⟩
  rw [← hr,← Table.get_key hr,← h.1]
  rfl

/-- A call that presents a token and returns found one packet leased under it. -/
theorem presented_held {op : WorkOp} {s : PacketStore} {groupId owner : ConsumerId}
    {claimToken : Token} (hop : op.presents = some (groupId,owner,claimToken))
    (hok : (op.outcome rt s).1 = .ok ()) :
    ∃! packetId, holdsClaim s groupId.val owner.val claimToken.val packetId := by
  by_cases hsome : ∃ k r, s.consumerDeliveries.get k = some r ∧
      r.leasedBy groupId.val owner.val claimToken.val
  · obtain ⟨k,r,hr,hleased⟩ := hsome
    refine ⟨r.packetId,holdsClaim_of_row hr hleased,?_⟩
    rintro packetId ⟨r',hr',hleased'⟩
    have hrow := leasedBy_unique hr' hr hleased' hleased
    rw [← hrow]
    exact (congrArg Prod.snd (Table.get_key hr')).symm
  · push Not at hsome
    obtain ⟨e,he⟩ := presented_refused rt hop hsome
    rw [he] at hok
    cases hok

/-- In every run a packet is leased to a group under one token, a token that was
replaced is refused from then on, a settled delivery is not handed out again, a
claim respects leases and retry times, and groups do not touch one another. -/
theorem consumer_claims_hold (rt : Runtime) {w : WorkWorld}
    (h : Reaches (WorkStep rt) WorkWorld.initial w) :
    ((∀ (op : WorkOp) (groupId owner : ConsumerId) (claimToken : Token),
        op.presents = some (groupId,owner,claimToken) → (op.outcome rt w.store).1 = .ok () →
          ∃! packetId, holdsClaim w.store groupId.val owner.val claimToken.val packetId) ∧
      (∀ groupId packetId owner owner' claimToken claimToken',
        holdsClaim w.store groupId owner claimToken packetId →
          holdsClaim w.store groupId owner' claimToken' packetId →
            owner = owner' ∧ claimToken = claimToken') ∧
      ∀ w₁ w₂, Reaches (WorkStep rt) w w₁ → Reaches (WorkStep rt) w₁ w₂ →
        ∀ groupId packetId r (claimToken : Token),
          w.store.consumerDeliveries.get (groupId,packetId) = some r →
          r.claimToken = claimToken.val →
          (∀ r', w₁.store.consumerDeliveries.get (groupId,packetId) = some r' →
            r'.claimToken ≠ claimToken.val) →
          ∀ (op : WorkOp) (groupId' owner : ConsumerId),
            op.presents = some (groupId',owner,claimToken) →
              ∃ e, op.outcome rt w₂.store = (.error e,w₂.store)) ∧
    (∀ w' groupId packetId r, w.store.consumerDeliveries.get (groupId,packetId) = some r →
      r.state = .acked ∨ r.state = .revoked → Reaches (StepKeeping rt packetId) w w' →
        ∀ (group owner : ConsumerId) limit lease now draws claims, group.val = groupId →
          (claimConsumerMessages rt group owner limit lease now draws w'.store).1 = .ok claims →
            ∀ c ∈ claims, c.item.packetId ≠ packetId) ∧
    (∀ (groupId owner : ConsumerId) limit lease now draws claims,
      (claimConsumerMessages rt groupId owner limit lease now draws w.store).1 = .ok claims →
        ∀ c ∈ claims, ∀ r, w.store.consumerDeliveries.get (groupId.val,c.item.packetId) = some r →
          (r.state = .leased → r.leaseUntilMs ≤ now) ∧
            (r.state = .retry → r.retryAfterMs ≤ now)) ∧
    ∀ (op : WorkOp) groupId, op.Allowed w → op.group = some groupId → ∀ k, k.1 ≠ groupId →
      (op.exec rt w.store).consumerDeliveries.get k = w.store.consumerDeliveries.get k := by
  refine ⟨⟨fun op groupId owner claimToken => presented_held,?_,?_⟩,?_,?_,?_⟩
  · rintro groupId packetId owner owner' claimToken claimToken' ⟨r,hr,hl⟩ ⟨r',hr',hl'⟩
    obtain rfl := Option.some.inj (hr.symm.trans hr')
    exact ⟨hl.2.1.symm.trans hl'.2.1,hl.2.2.1.symm.trans hl'.2.2.1⟩
  · intro w₁ w₂ h₁ h₂ groupId packetId r claimToken hr htoken hlost op groupId' owner hop
    apply presented_refused _ hop
    intro k r' hr' hleased
    have hstale := Fence.stale (claimFence_sound h) (claimFence_run h₁) (claimFence_run h₂)
      (k := (groupId,packetId)) (t := claimToken.val)
      (heldToken_eq_some.mpr ⟨r,hr,htoken,claimToken.ne_empty⟩) (fun hheld => by
        obtain ⟨r₁,hr₁,htoken₁,-⟩ := heldToken_eq_some.mp hheld
        exact hlost r₁ hr₁ htoken₁) k
    exact hstale (heldToken_eq_some.mpr ⟨r',hr',hleased.2.2.1,claimToken.ne_empty⟩)
  · rintro w' groupId packetId r hr hsettled hrun group owner limit lease now draws claims rfl
      hclaims c hc rfl
    obtain ⟨r',hr',hsettled'⟩ := settled_run hr hsettled hrun
    rcases claim_due hclaims hc hr' with hdue | hdue <;> rcases hsettled' with h' | h' <;>
      simp [h'] at hdue
  · intro groupId owner limit lease now draws claims hclaims c hc r hr
    rcases claim_due hclaims hc hr with ⟨hstate,hdue⟩ | ⟨hstate,hdue⟩
    · exact ⟨fun _ => hdue,fun hretry => by simp [hstate] at hretry⟩
    · exact ⟨fun hleased => by simp [hstate] at hleased,fun _ => hdue⟩
  · intro op groupId hallowed hgroup k hk
    exact foreign_move (deliveries_move hallowed (exec_work _ hallowed) k) hgroup hk

end Runs

section Sample

def noteSender : String := "an1sendersendersender"

def noteMessage : OpenedMessage :=
  ⟨"p",noteSender,[],[],"note",1000,.nil,[],"msgpack","","normal",.static,""⟩

def noteRuntime : Runtime := Runtime.plain fun _ => .ok .nil

def notesGroup : ConsumerId := ⟨"notes",by decide⟩
def firstWorker : ConsumerId := ⟨"one",by decide⟩
def secondWorker : ConsumerId := ⟨"two",by decide⟩
def firstToken : Token := .digit 'a' hexDigit_a
def secondToken : Token := .digit 'b' hexDigit_b

def claimNote (owner : ConsumerId) (claimToken : Token) (now : ℤ) : WorkOp :=
  .claim notesGroup owner 1 ⟨5000,lease_low,lease_high⟩ now fun _ => claimToken

theorem claimNote_allowed {w : WorkWorld} {claimToken : Token} (owner : ConsumerId) (now : ℤ)
    (h : claimToken.val ∉ w.claimTokens) : (claimNote owner claimToken now).Allowed w :=
  fun _ _ _ _ => h

def openedNotes : WorkWorld :=
  (WorkWorld.initial.after noteRuntime (.addInbox noteMessage true true 1000)).after noteRuntime
    (.openGroup notesGroup "earliest" "" "" true false 1000)

/-- One message, claimed by the first worker. -/
def claimedNote : WorkWorld :=
  openedNotes.after noteRuntime (claimNote firstWorker firstToken 2000)

/-- The lease ran out and the second worker claimed it. -/
def reclaimedNote : WorkWorld :=
  claimedNote.after noteRuntime (claimNote secondWorker secondToken 9000)

theorem openedNotes_unseen (x : String) : x ∉ openedNotes.claimTokens := by
  refine claimToken_unseen rfl (claimToken_unseen rfl (fun h => by cases h) ?_) ?_ <;>
    exact fun r hr => by cases hr

theorem claimedNote_reachable : Reaches (WorkStep noteRuntime) .initial claimedNote := by
  refine .tail (.tail (.single ⟨_,?_,rfl⟩) ⟨_,?_,rfl⟩)
    (workStep_after _ (claimNote_allowed _ _ (openedNotes_unseen _)))
  · trivial
  · trivial

theorem reclaimedNote_step : WorkStep noteRuntime claimedNote reclaimedNote :=
  workStep_after _ (claimNote_allowed _ _ (claimToken_unseen rfl (openedNotes_unseen _) (by decide)))

theorem consumer_claims_hold_sample :
    ∃ e, WorkOp.outcome noteRuntime (.acknowledge notesGroup firstWorker firstToken 9500)
      reclaimedNote.store = (.error e,reclaimedNote.store) := by
  refine (consumer_claims_hold noteRuntime claimedNote_reachable).1.2.2 reclaimedNote reclaimedNote
    (.single reclaimedNote_step) .refl "notes" "p"
    (fresh "notes" "p" "one" firstToken.val 7000) firstToken rfl rfl ?_ _ notesGroup firstWorker rfl
  intro r hr
  have hrow : reclaimedNote.store.consumerDeliveries.get ("notes","p") =
      some (claim "two" secondToken.val 14000 (fresh "notes" "p" "one" firstToken.val 7000)) := rfl
  obtain rfl := Option.some.inj (hrow.symm.trans hr)
  decide

end Sample
end Anet
