import Anet.TaskStore
import Anet.ApprovalStore
import Anet.Maintenance
import Anet.TokenFence

/-! Runs of the operations on messages, their deliveries to consumer groups and
the agent tasks behind them, by any number of workers. A step is one call; calls
on other tables are steps that leave these alone. -/
namespace Anet

open PacketStore

/-- The tables the operations of this component share. -/
structure WorkTables where
  inbox : Inbox
  groups : ConsumerGroups
  deliveries : ConsumerDeliveries
  executions : Executions
  cancellations : Cancellations

def PacketStore.work (s : PacketStore) : WorkTables :=
  ⟨s.inbox,s.consumerGroups,s.consumerDeliveries,s.agentTaskExecutions,s.agentTaskCancellations⟩

/-- The database with the claim and execution tokens that have stood in it. -/
structure WorkWorld where
  store : PacketStore
  claimTokens : Set String
  executionTokens : Set String

inductive WorkOp
  | addInbox (message : OpenedMessage) (trusted visible : Bool) (now : ℤ)
  | commit (message : OpenedMessage) (trusted visible : Bool) (now : ℤ)
  | markRead (packetIds : List String)
  | reopen
  | openGroup (groupId : ConsumerId) (start kindPrefix senderId : String)
      (trustedOnly includeTransient : Bool) (now : ℤ)
  | claim (groupId owner : ConsumerId) (limit : ℤ) (lease : LeaseMs) (now : ℤ)
      (draws : ℕ → Token)
  | acknowledge (groupId owner : ConsumerId) (claimToken : Token) (now : ℤ)
  | reject (groupId owner : ConsumerId) (claimToken : Token) (retry : RetryMs) (error : String)
      (now : ℤ)
  | renew (groupId owner : ConsumerId) (claimToken : Token) (lease : LeaseMs) (now : ℤ)
  | begin (groupId owner : ConsumerId) (claimToken : Token)
      (allowedSenders allowedCapabilities : List String) (drawn executionToken : Token) (now : ℤ)
  | settle (groupId owner : ConsumerId) (claimToken executionToken : Token) (state : String)
      (output : Value) (error : String) (retry : RetryMs) (now : ℤ)
  | cancel (groupId owner : ConsumerId) (claimToken : Token) (allowedSenders : List String)
      (now : ℤ)
  | activate (groupId owner : ConsumerId) (claimToken : Token) (prepared : PreparedActivation)
      (now : ℤ)
  | revoke (peerId : String) (now : ℤ)
  | purge (statements : ℕ) (retentionMs now : ℤ)
  | elsewhere (s' : PacketStore)

namespace WorkOp

/-- The result of a call without its value. -/
def done {α : Type} (r : Result α × PacketStore) : Result Unit × PacketStore :=
  (r.1.map fun _ => (),r.2)

@[simp] theorem done_store {α : Type} (r : Result α × PacketStore) : (done r).2 = r.2 := rfl

/-- Whether a call returns or raises, and the database after it. -/
def outcome (rt : Runtime) : WorkOp → PacketStore → Result Unit × PacketStore
  | .addInbox message trusted visible now,s =>
    done (PacketStore.addInbox rt message trusted visible now s)
  | .commit message trusted visible now,s =>
    done (commitLocalMessage rt message trusted visible now s)
  | .markRead packetIds,s => (.ok (),PacketStore.markRead packetIds s)
  | .reopen,s => (.ok (),hideTransientKinds s)
  | .openGroup groupId start kindPrefix senderId trustedOnly includeTransient now,s =>
    done (openConsumerGroup groupId start kindPrefix senderId trustedOnly includeTransient now s)
  | .claim groupId owner limit lease now draws,s =>
    done (claimConsumerMessages rt groupId owner limit lease now draws s)
  | .acknowledge groupId owner claimToken now,s => done (acknowledgeClaim groupId owner claimToken now s)
  | .reject groupId owner claimToken retry error now,s =>
    done (rejectClaim groupId owner claimToken retry error now s)
  | .renew groupId owner claimToken lease now,s => done (renewClaim groupId owner claimToken lease now s)
  | .begin groupId owner claimToken allowedSenders allowedCapabilities drawn executionToken now,s =>
    done (beginAgentTask rt groupId owner claimToken allowedSenders allowedCapabilities drawn
      executionToken now s)
  | .settle groupId owner claimToken executionToken state output error retry now,s =>
    done (settleAgentTask rt groupId owner claimToken executionToken state output error retry now s)
  | .cancel groupId owner claimToken allowedSenders now,s =>
    done (applyAgentTaskCancellation rt groupId owner claimToken allowedSenders now s)
  | .activate groupId owner claimToken prepared now,s =>
    done (transaction (commitActivation rt groupId owner claimToken prepared now) s)
  | .revoke peerId now,s => done (revokePeer peerId now s)
  | .purge statements retentionMs now,s => (.ok (),purgePrefix statements retentionMs now s)
  | .elsewhere s',_ => (.ok (),s')

def exec (rt : Runtime) (op : WorkOp) (s : PacketStore) : PacketStore := (op.outcome rt s).2

/-- The group a call works on. -/
def group : WorkOp → Option String
  | .claim groupId _ _ _ _ _ => some groupId.val
  | .acknowledge groupId _ _ _ => some groupId.val
  | .reject groupId _ _ _ _ _ => some groupId.val
  | .renew groupId _ _ _ _ => some groupId.val
  | .begin groupId _ _ _ _ _ _ _ => some groupId.val
  | .settle groupId _ _ _ _ _ _ _ _ => some groupId.val
  | .cancel groupId _ _ _ _ => some groupId.val
  | .activate groupId _ _ _ _ => some groupId.val
  | _ => none

/-- The group, the owner and the claim token a call presents. -/
def presents : WorkOp → Option (ConsumerId × ConsumerId × Token)
  | .acknowledge groupId owner claimToken _ => some (groupId,owner,claimToken)
  | .reject groupId owner claimToken _ _ _ => some (groupId,owner,claimToken)
  | .renew groupId owner claimToken _ _ => some (groupId,owner,claimToken)
  | .begin groupId owner claimToken _ _ _ _ _ => some (groupId,owner,claimToken)
  | .settle groupId owner claimToken _ _ _ _ _ _ => some (groupId,owner,claimToken)
  | .cancel groupId owner claimToken _ _ => some (groupId,owner,claimToken)
  | .activate groupId owner claimToken _ _ => some (groupId,owner,claimToken)
  | _ => none

def begins : WorkOp → Bool
  | .begin .. => true
  | _ => false

/-- Drawn tokens never stood in the database before, and calls on other tables
leave the tables of this component alone. -/
def Allowed (w : WorkWorld) : WorkOp → Prop
  | .claim groupId _ limit _ now draws => ∀ group, w.store.consumerGroups.get groupId.val = some group →
      ∀ i < (w.store.nextClaims group now limit).length, (draws i).val ∉ w.claimTokens
  | .begin _ _ _ _ _ _ executionToken _ => executionToken.val ∉ w.executionTokens
  | .elsewhere s' => s'.work = w.store.work
  | _ => True

end WorkOp

def WorkWorld.initial : WorkWorld := ⟨PacketStore.empty,∅,∅⟩

def WorkWorld.after (rt : Runtime) (w : WorkWorld) (op : WorkOp) : WorkWorld where
  store := op.exec rt w.store
  claimTokens := w.claimTokens ∪
    seenTokens ConsumerDelivery.claimToken (op.exec rt w.store).consumerDeliveries
  executionTokens := w.executionTokens ∪
    seenTokens AgentTaskExecution.executionToken (op.exec rt w.store).agentTaskExecutions

section Unseen

variable {rt : Runtime} {w w' : WorkWorld} {op : WorkOp} {x : String}

theorem claimToken_unseen (hafter : w' = w.after rt op) (hw : x ∉ w.claimTokens)
    (h : ∀ r ∈ w'.store.consumerDeliveries.rows, r.claimToken ≠ x) : x ∉ w'.claimTokens := by
  subst hafter
  rintro (hold | hseen)
  · exact hw hold
  · obtain ⟨-,r,hr,htoken⟩ := mem_seenTokens.mp hseen
    exact h r hr htoken

theorem executionToken_unseen (hafter : w' = w.after rt op) (hw : x ∉ w.executionTokens)
    (h : ∀ r ∈ w'.store.agentTaskExecutions.rows, r.executionToken ≠ x) :
    x ∉ w'.executionTokens := by
  subst hafter
  rintro (hold | hseen)
  · exact hw hold
  · obtain ⟨-,r,hr,htoken⟩ := mem_seenTokens.mp hseen
    exact h r hr htoken

end Unseen

def WorkStep (rt : Runtime) (w w' : WorkWorld) : Prop :=
  ∃ op : WorkOp, op.Allowed w ∧ w' = w.after rt op

theorem workStep_after {rt : Runtime} {w : WorkWorld} (op : WorkOp) (hop : op.Allowed w) :
    WorkStep rt w (w.after rt op) :=
  ⟨op,hop,rfl⟩

/-- The same message with fewer rights: what is left to change in an Inbox row. -/
structure InboxRow.Remarked (i i' : InboxRow) : Prop where
  same : i' = { i with trusted := i'.trusted, isRead := i'.isRead, visible := i'.visible }
  trusted : i'.trusted → i.trusted
  visible : i'.visible = i.visible ∨ i.kind = "receipt" ∨ i.kind = "network.probe"

/-- What one call can do to the tables. -/
inductive WorkChange (rt : Runtime) (w : WorkWorld) (op : WorkOp) : WorkTables → Prop
  | idle : WorkChange rt w op w.store.work
  | insert (message : OpenedMessage) (body causal : Bytes) (trusted visible : Bool) (now : ℤ)
      (inbox : Inbox)
      (hop : op = .addInbox message trusted visible now ∨ op = .commit message trusted visible now)
      (hbody : rt.pack message.body = .ok body)
      (hins : w.store.inbox.insert (w.store.inboxRow message body causal trusted visible now) =
        some inbox) :
      WorkChange rt w op { w.store.work with inbox := inbox }
  | mark (inbox : Inbox)
      (hmark : ∀ p, inbox.get p = none ∧ w.store.inbox.get p = none ∨ ∃ i i',
        w.store.inbox.get p = some i ∧ inbox.get p = some i' ∧ i.Remarked i') :
      WorkChange rt w op { w.store.work with inbox := inbox }
  | openGroup (group : ConsumerGroup) (groups : ConsumerGroups)
      (hins : w.store.consumerGroups.insert group = some groups) :
      WorkChange rt w op { w.store.work with groups := groups }
  | claim (groupId owner : ConsumerId) (limit : ℤ) (lease : LeaseMs) (now : ℤ) (draws : ℕ → Token)
      (group : ConsumerGroup) (claims : List ClaimedMessage) (d : ConsumerDeliveries)
      (hop : op = .claim groupId owner limit lease now draws)
      (hgroup : w.store.consumerGroups.get groupId.val = some group)
      (hid : group.groupId = groupId.val)
      (hrows : claimRows rt groupId.val owner.val (now + lease.val) w.store.consumerDeliveries
        (w.store.nextClaims group now limit) draws w.store.consumerDeliveries = .ok (claims,d)) :
      WorkChange rt w op { w.store.work with deliveries := d }
  | acknowledge (groupId owner : ConsumerId) (claimToken : Token) (now : ℤ)
      (d : ConsumerDeliveries) (hop : op = .acknowledge groupId owner claimToken now)
      (hget : rewrites w.store.consumerDeliveries d
        (openClaim w.store.agentTaskExecutions groupId.val owner.val claimToken.val)
        (ConsumerDelivery.ack now)) :
      WorkChange rt w op { w.store.work with deliveries := d }
  | reject (groupId owner : ConsumerId) (claimToken : Token) (retry : RetryMs) (error : String)
      (now : ℤ) (d : ConsumerDeliveries)
      (hop : op = .reject groupId owner claimToken retry error now)
      (hget : rewrites w.store.consumerDeliveries d
        (openClaim w.store.agentTaskExecutions groupId.val owner.val claimToken.val)
        (ConsumerDelivery.release (now + retry.val) (cut 1000 error))) :
      WorkChange rt w op { w.store.work with deliveries := d }
  | renew (groupId owner : ConsumerId) (claimToken : Token) (lease : LeaseMs) (now : ℤ)
      (d : ConsumerDeliveries) (hop : op = .renew groupId owner claimToken lease now)
      (hget : rewrites w.store.consumerDeliveries d
        (ConsumerDelivery.leasedBy groupId.val owner.val claimToken.val)
        (ConsumerDelivery.renew (now + lease.val))) :
      WorkChange rt w op { w.store.work with deliveries := d }
  | begin (groupId owner : ConsumerId) (claimToken : Token)
      (allowedSenders allowedCapabilities : List String) (drawn executionToken : Token) (now : ℤ)
      (task : TaskIntent) (o : BeginOutcome) (s' : PacketStore)
      (hop : op = .begin groupId owner claimToken allowedSenders allowedCapabilities drawn
        executionToken now)
      (hadmitted : w.store.admitTask rt groupId owner claimToken allowedSenders allowedCapabilities
        drawn now = .ok task)
      (heffect : BeginEffect task groupId.val owner.val claimToken.val executionToken.val now
        w.store o s') :
      WorkChange rt w op s'.work
  | settle (groupId owner : ConsumerId) (claimToken executionToken : Token) (state : String)
      (output : Value) (error : String) (retry : RetryMs) (now : ℤ) (kind : TaskState)
      (message : String) (encoded : Bytes) (row : Option AgentTaskExecution) (s' : PacketStore)
      (hop : op = .settle groupId owner claimToken executionToken state output error retry now)
      (hargs : settlementArguments rt state output error = .ok (kind,message,encoded))
      (hsettle : w.store.settleExecution groupId.val owner.val claimToken.val executionToken.val
        kind message encoded retry.val now = .ok (row,s')) :
      WorkChange rt w op s'.work
  | cancel (groupId owner : ConsumerId) (claimToken : Token) (allowedSenders : List String)
      (now : ℤ) (cancel : CancelIntent) (o : Option AgentTaskCancellation × Bool)
      (s' : PacketStore) (hop : op = .cancel groupId owner claimToken allowedSenders now)
      (hadmitted : w.store.admitCancellation rt groupId owner claimToken allowedSenders now =
        .ok cancel)
      (hrecord : w.store.recordCancellation cancel groupId.val owner.val claimToken.val now =
        .ok (o,s')) :
      WorkChange rt w op s'.work
  | activate (groupId owner : ConsumerId) (claimToken : Token) (prepared : PreparedActivation)
      (now : ℤ) (r : ConsumerDelivery) (i : InboxRow) (body : Value)
      (live : CompanionProtocol.ApprovalDecisionBody)
      (hop : op = .activate groupId owner claimToken prepared now)
      (hclaim : w.store.liveClaim groupId.val owner.val claimToken.val now = some (r,i))
      (hbody : rt.unpack i.body = .ok body)
      (hlive : CompanionProtocol.validateApprovalDecision rt body = .ok live) :
      WorkChange rt w op { w.store.work with
        deliveries := w.store.consumerDeliveries.ackLeased groupId.val owner.val claimToken.val
          now }
  | revoke (named peerId : String) (now : ℤ) (hop : op = .revoke named now) :
      WorkChange rt w op { w.store.work with
        inbox := distrust w.store.inbox peerId
        deliveries := revokeDeliveries w.store.consumerDeliveries w.store.inbox peerId }
  | purge (statements : ℕ) (retentionMs now : ℤ) (s' : PacketStore)
      (hop : op = .purge statements retentionMs now) (hpurge : Purged w.store s') :
      WorkChange rt w op s'.work

section Changes

variable {rt : Runtime} {w : WorkWorld} {op : WorkOp}

theorem remarked_of_update (t : Inbox) (p : InboxRow → Prop) [DecidablePred p]
    (f : InboxRow → InboxRow) (hkey : ∀ r, (f r).packetId = r.packetId)
    (hmarks : ∀ r, (f r).marks ⊆ r.marks) (hf : ∀ i, p i → i.Remarked (f i)) (k : String) :
    (t.update p f hkey hmarks).get k = none ∧ t.get k = none ∨ ∃ i i',
      t.get k = some i ∧ (t.update p f hkey hmarks).get k = some i' ∧ i.Remarked i' := by
  rw [Table.get_update]
  cases t.get k with
  | none => exact Or.inl ⟨rfl,rfl⟩
  | some i =>
    refine Or.inr ⟨i,_,rfl,rfl,?_⟩
    dsimp only
    split
    · rename_i hp
      exact hf i hp
    · exact ⟨rfl,id,Or.inl rfl⟩

theorem openConsumerGroup_cases (groupId : ConsumerId) (start kindPrefix senderId : String)
    (trustedOnly includeTransient : Bool) (now : ℤ) (s : PacketStore) :
    (openConsumerGroup groupId start kindPrefix senderId trustedOnly includeTransient now s).2 = s ∨
    ∃ group groups, s.consumerGroups.insert group = some groups ∧
      (openConsumerGroup groupId start kindPrefix senderId trustedOnly includeTransient now s).2 =
        { s with consumerGroups := groups } := by
  unfold openConsumerGroup
  dsimp only
  split
  · exact Or.inl rfl
  split
  · exact Or.inl rfl
  split
  · split <;> exact Or.inl rfl
  split
  · rename_i groups hins
    exact Or.inr ⟨_,groups,hins,rfl⟩
  · exact Or.inl rfl

theorem exec_work (rt : Runtime) (h : op.Allowed w) : WorkChange rt w op (op.exec rt w.store).work := by
  cases op with
  | addInbox message trusted visible now =>
    rw [WorkOp.exec,WorkOp.outcome,WorkOp.done_store]
    rcases addInbox_cases rt message trusted visible now w.store with
      hsame | ⟨body,causal,inbox,hbody,-,hins,hs'⟩
    · rw [hsame]
      exact .idle
    · rw [hs']
      exact .insert message body causal trusted visible now inbox (Or.inl rfl) hbody hins
  | commit message trusted visible now =>
    rw [WorkOp.exec,WorkOp.outcome,WorkOp.done_store,commitLocalMessage]
    rcases transaction_cases (commitMessage rt message trusted visible now) w.store with
      ⟨created,s',hb,ht⟩ | ⟨e,-,ht⟩
    · rw [ht]
      rcases commitMessage_cases hb with
        ⟨-,-,rfl⟩ | ⟨body,causal,inbox,_,-,-,-,hbody,-,hins,-,rfl⟩
      · exact .idle
      · exact .insert message body causal trusted visible now inbox (Or.inr rfl) hbody hins
    · rw [ht]
      exact .idle
  | markRead packetIds =>
    exact .mark _ (remarked_of_update w.store.inbox _ InboxRow.read (fun _ => rfl)
      (fun _ => List.Subset.refl _) fun i _ => ⟨rfl,id,Or.inl rfl⟩)
  | reopen =>
    exact .mark _ (remarked_of_update w.store.inbox _ InboxRow.hide (fun _ => rfl)
      (fun _ => List.Subset.refl _) fun i hi => ⟨rfl,id,Or.inr hi⟩)
  | openGroup groupId start kindPrefix senderId trustedOnly includeTransient now =>
    rw [WorkOp.exec,WorkOp.outcome,WorkOp.done_store]
    rcases openConsumerGroup_cases groupId start kindPrefix senderId trustedOnly includeTransient
      now w.store with hsame | ⟨group,groups,hins,hs'⟩
    · rw [hsame]
      exact .idle
    · rw [hs']
      exact .openGroup group groups hins
  | claim groupId owner limit lease now draws =>
    rw [WorkOp.exec,WorkOp.outcome,WorkOp.done_store]
    rcases claimConsumerMessages_cases rt groupId owner limit lease now draws w.store with
      ⟨e,ht⟩ | ⟨group,claims,d,hgroup,hid,hrows,ht⟩
    · rw [ht]
      exact .idle
    · rw [ht]
      exact .claim groupId owner limit lease now draws group claims d rfl hgroup hid hrows
  | acknowledge groupId owner claimToken now =>
    rw [WorkOp.exec,WorkOp.outcome,WorkOp.done_store]
    rcases acknowledgeClaim_cases groupId owner claimToken now w.store with
      ⟨e,ht,-⟩ | ⟨d,ht,hget,-⟩
    · rw [ht]
      exact .idle
    · rw [ht]
      exact .acknowledge groupId owner claimToken now d rfl hget
  | reject groupId owner claimToken retry error now =>
    rw [WorkOp.exec,WorkOp.outcome,WorkOp.done_store]
    rcases rejectClaim_cases groupId owner claimToken retry error now w.store with
      ⟨e,ht,-⟩ | ⟨d,ht,hget,-⟩
    · rw [ht]
      exact .idle
    · rw [ht]
      exact .reject groupId owner claimToken retry error now d rfl hget
  | renew groupId owner claimToken lease now =>
    rw [WorkOp.exec,WorkOp.outcome,WorkOp.done_store]
    rcases renewClaim_cases groupId owner claimToken lease now w.store with
      ⟨e,ht,-⟩ | ⟨d,ht,hget,-⟩
    · rw [ht]
      exact .idle
    · rw [ht]
      exact .renew groupId owner claimToken lease now d rfl hget
  | begin groupId owner claimToken allowedSenders allowedCapabilities drawn executionToken now =>
    rw [WorkOp.exec,WorkOp.outcome,WorkOp.done_store]
    rcases beginAgentTask_cases rt groupId owner claimToken allowedSenders allowedCapabilities drawn
      executionToken now w.store with ⟨e,ht⟩ | ⟨task,o,s',hadmitted,heffect,ht⟩
    · rw [ht]
      exact .idle
    · rw [ht]
      exact .begin groupId owner claimToken allowedSenders allowedCapabilities drawn executionToken
        now task o s' rfl hadmitted heffect
  | settle groupId owner claimToken executionToken state output error retry now =>
    rw [WorkOp.exec,WorkOp.outcome,WorkOp.done_store]
    rcases settleAgentTask_cases rt groupId owner claimToken executionToken state output error retry
      now w.store with ⟨e,ht⟩ | ⟨kind,message,encoded,row,s',hargs,hsettle,ht⟩
    · rw [ht]
      exact .idle
    · rw [ht]
      exact .settle groupId owner claimToken executionToken state output error retry now kind
        message encoded row s' rfl hargs hsettle
  | cancel groupId owner claimToken allowedSenders now =>
    rw [WorkOp.exec,WorkOp.outcome,WorkOp.done_store]
    rcases applyAgentTaskCancellation_cases rt groupId owner claimToken allowedSenders now w.store
      with ⟨e,ht⟩ | ⟨cancel,o,s',hadmitted,hrecord,ht⟩
    · rw [ht]
      exact .idle
    · rw [ht]
      exact .cancel groupId owner claimToken allowedSenders now cancel o s' rfl hadmitted hrecord
  | activate groupId owner claimToken prepared now =>
    rw [WorkOp.exec,WorkOp.outcome,WorkOp.done_store]
    rcases transaction_cases (commitActivation rt groupId owner claimToken prepared now) w.store
      with ⟨a,s',hb,ht⟩ | ⟨e,-,ht⟩
    · rw [ht]
      obtain ⟨r,i,body,live,_,hclaim,hbody,hlive,rfl,-⟩ := commitActivation_cases hb
      exact .activate groupId owner claimToken prepared now r i body live rfl hclaim hbody hlive
    · rw [ht]
      exact .idle
  | revoke peerId now =>
    rw [WorkOp.exec,WorkOp.outcome,WorkOp.done_store]
    rcases revokePeer_cases peerId now w.store with hsame | ⟨peerId',hs'⟩
    · rw [hsame]
      exact .idle
    · rw [hs']
      exact .revoke peerId peerId' now rfl
  | purge statements retentionMs now =>
    exact .purge statements retentionMs now _ rfl
      (purgePrefix_purged statements retentionMs now w.store)
  | elsewhere s' =>
    rw [WorkOp.exec,WorkOp.outcome,h]
    exact .idle

/-- What one call can do to the Inbox row of a packet. -/
inductive InboxMove (rt : Runtime) (w : WorkWorld) (op : WorkOp) :
    Option InboxRow → Option InboxRow → Prop
  | same (o : Option InboxRow) : InboxMove rt w op o o
  | insert (message : OpenedMessage) (body causal : Bytes) (trusted visible : Bool) (now : ℤ)
      (hop : op = .addInbox message trusted visible now ∨ op = .commit message trusted visible now)
      (hbody : rt.pack message.body = .ok body) :
      InboxMove rt w op none (some (w.store.inboxRow message body causal trusted visible now))
  | mark (i i' : InboxRow) (h : i.Remarked i') : InboxMove rt w op (some i) (some i')
  | drop (i : InboxRow) (hvisible : i.visible = false) : InboxMove rt w op (some i) none

theorem distrust_remarked (i : InboxRow) : i.Remarked i.distrust where
  same := rfl
  trusted h := Bool.noConfusion h
  visible := Or.inl rfl

theorem inbox_move {t : WorkTables} (h : WorkChange rt w op t) (packetId : String) :
    InboxMove rt w op (w.store.inbox.get packetId) (t.inbox.get packetId) := by
  cases h with
  | insert message body causal trusted visible now inbox hop hbody hins =>
    have hget := Table.get_insert hins packetId
    dsimp only
    rw [hget]
    split
    · rename_i hpacket
      have hnone := (Table.insert_eq_some hins).1
      rw [← hpacket] at hnone
      rw [hnone]
      exact .insert message body causal trusted visible now hop hbody
    · exact .same _
  | mark inbox hmark =>
    dsimp only
    rcases hmark packetId with ⟨h₁,h₂⟩ | ⟨i,i',h₁,h₂,hmark⟩
    · rw [h₁,h₂]
      exact .same none
    · rw [h₁,h₂]
      exact .mark i i' hmark
  | begin _ _ _ _ _ _ _ _ task o s' hop hadmitted heffect =>
    cases heffect <;> exact .same _
  | settle _ _ _ _ _ _ _ _ _ _ _ _ row s' hop hargs hsettle =>
    obtain ⟨e,r,-,-,-,-,-,-,⟨-,rfl⟩ | ⟨-,rfl⟩⟩ := settleExecution_cases hsettle <;> exact .same _
  | cancel _ _ _ _ _ cancel o s' hop hadmitted hrecord =>
    obtain ⟨c,-,-,rfl⟩ := recordCancellation_cases hrecord
    exact .same _
  | revoke _ peerId =>
    dsimp only
    rw [get_distrust]
    cases w.store.inbox.get packetId with
    | none => exact .same none
    | some i =>
      dsimp only [Option.map_some]
      split
      · exact .mark i _ (distrust_remarked i)
      · exact .same (some i)
  | purge _ _ _ s' hop hpurge =>
    change InboxMove rt w op _ (s'.inbox.get packetId)
    rcases hpurge.inbox packetId with hsame | ⟨hgone,i,hi,hvisible⟩
    · rw [hsame]
      exact .same _
    · rw [hgone,hi]
      exact .drop i hvisible
  | _ => exact .same _

/-- A group keeps the row it was opened with. -/
theorem groups_kept {t : WorkTables} (h : WorkChange rt w op t) {groupId : String}
    {group : ConsumerGroup} (hgroup : w.store.consumerGroups.get groupId = some group) :
    t.groups.get groupId = some group := by
  cases h with
  | openGroup opened groups hins =>
    have hget := Table.get_insert hins groupId
    dsimp only
    rw [hget,if_neg]
    · exact hgroup
    · rintro rfl
      have hnone := (Table.insert_eq_some hins).1
      rw [hgroup] at hnone
      cases hnone
  | begin _ _ _ _ _ _ _ _ task o s' hop hadmitted heffect =>
    cases heffect <;> exact hgroup
  | settle _ _ _ _ _ _ _ _ _ _ _ _ row s' hop hargs hsettle =>
    obtain ⟨e,r,-,-,-,-,-,-,⟨-,rfl⟩ | ⟨-,rfl⟩⟩ := settleExecution_cases hsettle <;> exact hgroup
  | cancel _ _ _ _ _ cancel o s' hop hadmitted hrecord =>
    obtain ⟨c,-,-,rfl⟩ := recordCancellation_cases hrecord
    exact hgroup
  | purge _ _ _ s' hop hpurge =>
    change s'.consumerGroups.get groupId = some group
    rw [hpurge.groups]
    exact hgroup
  | _ => exact hgroup

end Changes
end Anet
