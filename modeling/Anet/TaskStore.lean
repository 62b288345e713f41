import Anet.ConsumerStore
import Anet.AgentProtocol

/-! Agent task executions: the logical task behind a claimed request is acquired,
settled and canceled in the transaction that also settles the claim. -/
namespace Anet

namespace AgentTaskExecution

/-- `WHERE group_id = ? AND owner = ? AND claim_token = ? AND execution_token = ? ...`. -/
def heldBy (groupId owner claimToken executionToken : String) (r : AgentTaskExecution) : Prop :=
  r.key.groupId = groupId ∧ r.owner = owner ∧ r.claimToken = claimToken ∧
    r.executionToken = executionToken ∧ r.state.running

instance (groupId owner claimToken executionToken : String) :
    DecidablePred (heldBy groupId owner claimToken executionToken) :=
  fun _ => inferInstanceAs (Decidable (_ ∧ _))

def begun (key : TaskKey) (packetId requestHash owner claimToken executionToken : String)
    (now : ℤ) : AgentTaskExecution :=
  ⟨key,packetId,requestHash,.working,owner,claimToken,executionToken,1,now,now,0,none,""⟩

/-- The row of a task whose cancellation came before its request. -/
def preCanceled (key : TaskKey) (packetId requestHash : String) (now : ℤ) (reason : String) :
    AgentTaskExecution :=
  ⟨key,packetId,requestHash,.canceled,"","","",0,0,now,now,none,reason⟩

def takeOver (packetId owner claimToken executionToken : String) (now : ℤ)
    (r : AgentTaskExecution) : AgentTaskExecution :=
  { r with
    requestPacketId := packetId, state := .working, owner := owner, claimToken := claimToken,
    executionToken := executionToken, attempts := r.attempts + 1, updatedMs := now,
    completedMs := 0, output := none, error := "" }

def cancel (now : ℤ) (reason : String) (r : AgentTaskExecution) : AgentTaskExecution :=
  { r with
    state := .canceled, owner := "", claimToken := "", executionToken := "", updatedMs := now,
    completedMs := now, output := none, error := reason }

def requestStop (now : ℤ) (reason : String) (r : AgentTaskExecution) : AgentTaskExecution :=
  { r with state := .canceling, updatedMs := now, error := reason }

def settleRetry (now : ℤ) (error : String) (r : AgentTaskExecution) : AgentTaskExecution :=
  { r with
    state := .retry, owner := "", claimToken := "", executionToken := "", updatedMs := now,
    error := error }

def settle (state : TaskState) (now : ℤ) (output : Bytes) (error : String)
    (r : AgentTaskExecution) : AgentTaskExecution :=
  { r with
    state := state, owner := "", claimToken := "", executionToken := "", updatedMs := now,
    completedMs := now, output := some output, error := error }

end AgentTaskExecution

namespace AgentTaskCancellation

def asked (key : TaskKey) (packetId cancelHash reason : String) (now : ℤ) :
    AgentTaskCancellation :=
  ⟨key,packetId,cancelHash,reason,.requested,none,now,now,0⟩

def apply (now : ℤ) (r : AgentTaskCancellation) : AgentTaskCancellation :=
  { r with state := .applied, terminalState := some .canceled, updatedMs := now, appliedMs := now }

def record (state : CancelState) (terminalState : Option TaskState) (now : ℤ)
    (r : AgentTaskCancellation) : AgentTaskCancellation :=
  { r with
    state := state, terminalState := terminalState, updatedMs := now,
    appliedMs := if state = .applied then now else r.appliedMs }

end AgentTaskCancellation

structure TaskItem where
  key : TaskKey
  requestPacketId : String
  state : TaskState
  attempts : ℕ
  startedMs : ℤ
  updatedMs : ℤ
  completedMs : ℤ
  output : Value
  error : String

/-- `_agent_task_item` of a fetched row. -/
def agentTaskItem (rt : Runtime) : Option AgentTaskExecution → Result TaskItem
  | none => .error (.type "'NoneType' object is not subscriptable")
  | some r => do
    let output ← (r.output.map rt.unpack).getD (.ok .nil)
    return ⟨r.key,r.requestPacketId,r.state,r.attempts,r.startedMs,r.updatedMs,r.completedMs,
      output,r.error⟩

/-- What `begin_agent_task` decides, with the row it reports. -/
structure BeginOutcome where
  row : Option AgentTaskExecution
  execute : Bool
  duplicate : Bool
  claimAcked : Bool
  executionToken : String
  cancelRequested : Bool

structure TaskGrant where
  task : TaskItem
  execute : Bool
  duplicate : Bool
  claimAcked : Bool
  executionToken : String
  cancelRequested : Bool

def BeginOutcome.item (rt : Runtime) (o : BeginOutcome) : Result TaskGrant := do
  let task ← agentTaskItem rt o.row
  return ⟨task,o.execute,o.duplicate,o.claimAcked,o.executionToken,o.cancelRequested⟩

structure SettledTask where
  task : TaskItem
  claimState : DeliveryState
  retryAfterMs : Option ℤ

structure CancellationItem where
  key : TaskKey
  reason : String
  state : CancelState
  terminalState : Option TaskState
  requestedMs : ℤ
  updatedMs : ℤ
  appliedMs : ℤ
  claimAcked : Bool
  cooperativeStopRequired : Bool

def agentTaskCancellationItem (claimAcked cooperative : Bool) :
    Option AgentTaskCancellation → Result CancellationItem
  | none => .error (.type "'NoneType' object is not subscriptable")
  | some r => .ok ⟨r.key,r.reason,r.state,r.terminalState,r.requestedMs,r.updatedMs,r.appliedMs,
      claimAcked,cooperative⟩

def senderPolicy (allowed : List String) : List String := (allowed.map strip).filter (· ≠ "")

/-- The checked content of the claimed message. -/
structure TaskIntent where
  packetId : String
  key : TaskKey
  bodyHash : String

structure CancelIntent where
  packetId : String
  key : TaskKey
  bodyHash : String
  reason : String
  deriving DecidableEq

namespace Executions

open AgentTaskExecution

def cancelKey (t : Executions) (key : TaskKey) (now : ℤ) (reason : String) : Executions :=
  t.update (fun r => r.key = key) (cancel now reason) (fun _ => rfl) (fun _ => by simp [marks,cancel])

def stopKey (t : Executions) (key : TaskKey) (now : ℤ) (reason : String) : Executions :=
  t.update (fun r => r.key = key) (requestStop now reason) (fun _ => rfl)
    (fun _ => by simp [marks,requestStop])

def retryKey (t : Executions) (key : TaskKey) (now : ℤ) (error : String) : Executions :=
  t.update (fun r => r.key = key) (settleRetry now error) (fun _ => rfl)
    (fun _ => by simp [marks,settleRetry])

def settleKey (t : Executions) (key : TaskKey) (state : TaskState) (now : ℤ) (output : Bytes)
    (error : String) : Executions :=
  t.update (fun r => r.key = key) (settle state now output error) (fun _ => rfl)
    (fun _ => by simp [marks,settle])

end Executions

namespace Cancellations

open AgentTaskCancellation

def applyKey (c : Cancellations) (key : TaskKey) (now : ℤ) : Cancellations :=
  c.update (fun r => r.key = key) (apply now) (fun _ => rfl) (noMarks_subset _)

/-- The update a settlement makes: only a pending request is applied. -/
def applyRequested (c : Cancellations) (key : TaskKey) (now : ℤ) : Cancellations :=
  c.update (fun r => r.key = key ∧ r.state = .requested) (apply now) (fun _ => rfl)
    (noMarks_subset _)

def recordKey (c : Cancellations) (key : TaskKey) (state : CancelState)
    (terminalState : Option TaskState) (now : ℤ) : Cancellations :=
  c.update (fun r => r.key = key) (record state terminalState now) (fun _ => rfl)
    (noMarks_subset _)

end Cancellations

namespace ConsumerDeliveries

/-- The request packet of a canceled task is settled whatever its claim. -/
def ackPacket (d : ConsumerDeliveries) (groupId packetId : String) (now : ℤ) :
    ConsumerDeliveries :=
  d.update (fun r => r.groupId = groupId ∧ r.packetId = packetId ∧ r.state ≠ .acked)
    (ConsumerDelivery.ack now) (ConsumerDelivery.ack_key now) (ConsumerDelivery.ack_marks now)

end ConsumerDeliveries

namespace PacketStore

open AgentProtocol AgentTaskExecution AgentTaskCancellation ConsumerDelivery

def staleTask : PyError := .value "claim is stale, expired, unknown, or owned by another worker"

/-- What `begin_agent_task` reads and checks before it looks at the task. -/
def admitTask (rt : Runtime) (groupId owner : ConsumerId) (claimToken : Token)
    (allowedSenders allowedCapabilities : List String) (drawn : Token) (now : ℤ)
    (s : PacketStore) : Result TaskIntent := do
  let policy ← normalizeCapabilityPolicy rt allowedCapabilities
  let claim ← fetched (s.liveClaim groupId.val owner.val claimToken.val now) staleTask
  let row := claim.2
  raiseIf (¬ row.trusted) (.permission "typed Agent task execution requires a trusted sender")
  raiseIf (row.kind ≠ requestKind) (.value "claim does not contain an Agent task request")
  let body ← rt.unpack row.body
  let normalized ← validateTaskRequest rt drawn.val body
  raiseIf ("*" ∉ senderPolicy allowedSenders ∧ row.senderId ∉ senderPolicy allowedSenders)
    (.permission "task sender is outside the local execution policy")
  let missing ← missingTaskCapabilities rt normalized.requiredCapabilities policy
  raiseIf (missing ≠ [])
    (.permission ("task requires capabilities outside the local execution policy: " ++
      ",".intercalate missing))
  let packed ← rt.canonicalPack normalized.toValue
  return ⟨row.packetId,⟨groupId.val,row.senderId,normalized.taskId⟩,
    rt.blake2s "anettsk1" 32 packed⟩

/-- The cancellation `begin_agent_task` heeds. -/
def pendingCancellation (s : PacketStore) (key : TaskKey) : Option AgentTaskCancellation :=
  (s.agentTaskCancellations.get key).filter fun c => c.state = .requested ∨ c.state = .applied

/-- Does the worker of the execution still hold its claim under a live lease? -/
def taskLeaseLive (s : PacketStore) (groupId : String) (e : AgentTaskExecution) (now : ℤ) : Prop :=
  ∃ r ∈ s.consumerDeliveries.rows, r.leasedBy groupId e.owner e.claimToken ∧ now < r.leaseUntilMs

instance (s : PacketStore) (groupId : String) (e : AgentTaskExecution) (now : ℤ) :
    Decidable (s.taskLeaseLive groupId e now) :=
  inferInstanceAs (Decidable (∃ r ∈ s.consumerDeliveries.rows, _))

/-- The three updates that end an existing task as canceled inside `begin_agent_task`. -/
def finishCancellation (s : PacketStore) (task : TaskIntent) (groupId owner claimToken : String)
    (now : ℤ) (reason : String) : BeginOutcome × PacketStore :=
  let executions := s.agentTaskExecutions.cancelKey task.key now reason
  (⟨executions.get task.key,false,true,true,"",true⟩,
    { s with
      agentTaskExecutions := executions
      agentTaskCancellations := s.agentTaskCancellations.applyKey task.key now
      consumerDeliveries := s.consumerDeliveries.ackLeased groupId owner claimToken now })

/-- The transaction of `begin_agent_task` once the request is admitted. -/
def acquireTask (task : TaskIntent) (groupId owner claimToken executionToken : String) (now : ℤ)
    (s : PacketStore) : Result (BeginOutcome × PacketStore) :=
  let acked := { s with
    consumerDeliveries := s.consumerDeliveries.ackLeased groupId owner claimToken now }
  let cancellation := s.pendingCancellation task.key
  match s.agentTaskExecutions.get task.key with
  | none =>
    match cancellation with
    | some c => do
      let executions ← integrity (s.agentTaskExecutions.insert
        (preCanceled task.key task.packetId task.bodyHash now c.reason))
      return (⟨executions.get task.key,false,false,true,"",true⟩,
        { acked with
          agentTaskExecutions := executions
          agentTaskCancellations := s.agentTaskCancellations.applyKey task.key now })
    | none => do
      let executions ← integrity (s.agentTaskExecutions.insert
        (begun task.key task.packetId task.bodyHash owner claimToken executionToken now))
      return (⟨executions.get task.key,true,false,false,executionToken,false⟩,
        { s with agentTaskExecutions := executions })
  | some e =>
    if e.requestHash ≠ task.bodyHash then
      .error (.value "task_id was reused with a different request body")
    else if e.state.terminal then
      .ok (⟨some e,false,true,true,"",false⟩,acked)
    else if e.state = .canceling then
      if e.owner = owner ∧ e.claimToken = claimToken then
        .ok (⟨some e,false,false,false,e.executionToken,true⟩,s)
      else if s.taskLeaseLive groupId e now then
        .ok (⟨some e,false,true,true,"",true⟩,acked)
      else
        let reason := match cancellation with
          | some c => c.reason
          | none => if e.error = "" then "task cancellation requested" else e.error
        .ok (s.finishCancellation task groupId owner claimToken now reason)
    else if e.state = .retry ∧ cancellation.isSome then
      let reason := (cancellation.map AgentTaskCancellation.reason).getD ""
      .ok (s.finishCancellation task groupId owner claimToken now reason)
    else if e.state = .working ∧ e.owner = owner ∧ e.claimToken = claimToken then
      .ok (⟨some e,true,false,false,e.executionToken,false⟩,s)
    else if e.state = .working ∧ s.taskLeaseLive groupId e now then
      .ok (⟨some e,false,true,true,"",false⟩,acked)
    else do
      let executions ← integrity (s.agentTaskExecutions.assign task.key
        (takeOver task.packetId owner claimToken executionToken now) (fun _ => rfl))
      return (⟨executions.get task.key,true,true,false,executionToken,false⟩,
        { s with agentTaskExecutions := executions })

/-- `begin_agent_task`; `drawn` and `executionToken` are the task id and the
token this call draws if it draws one. -/
def beginAgentTask (rt : Runtime) (groupId owner : ConsumerId) (claimToken : Token)
    (allowedSenders allowedCapabilities : List String) (drawn executionToken : Token) (now : ℤ)
    (s : PacketStore) : Result TaskGrant × PacketStore :=
  afterCommit (BeginOutcome.item rt) (transaction (fun s => do
    let task ← s.admitTask rt groupId owner claimToken allowedSenders allowedCapabilities drawn now
    s.acquireTask task groupId.val owner.val claimToken.val executionToken.val now) s)

/-- The state a settlement asks for. -/
def settlementState (state : String) : Result TaskState :=
  match lower (strip state) with
  | "completed" => .ok .completed
  | "failed" => .ok .failed
  | "canceled" => .ok .canceled
  | "rejected" => .ok .rejected
  | "retry" => .ok .retry
  | _ => .error (.value
      "task settlement state must be completed, failed, canceled, rejected, or retry")

/-- The checks `settle_agent_task` makes on its arguments: the state, the error
and the packed output. -/
def settlementArguments (rt : Runtime) (state : String) (output : Value) (error : String) :
    Result (TaskState × String × Bytes) := do
  let state ← settlementState state
  let error := strip error
  raiseIf (state = .completed ∧ error ≠ "") (.value "a completed task cannot contain an error")
  raiseIf (state.terminal ∧ state ≠ .completed ∧ error = "")
    (.value "an unsuccessful task settlement requires an error")
  raiseIf (8192 < error.toList.length) (.value "task settlement error is too long")
  let encoded ← rt.pack output
  raiseIf (maxWireBytes < encoded.length) (.value "task settlement output is too large")
  return (state,error,encoded)

/-- The transaction of `settle_agent_task`. -/
def settleExecution (groupId owner claimToken executionToken : String) (state : TaskState)
    (error : String) (output : Bytes) (retryMs now : ℤ) (s : PacketStore) :
    Result (Option AgentTaskExecution × PacketStore) := do
  let stale := PyError.value "task execution is stale, unknown, or owned by another worker"
  let e ← fetched (s.agentTaskExecutions.first (heldBy groupId owner claimToken executionToken))
    stale
  let _ ← fetched (s.consumerDeliveries.first (leasedBy groupId owner claimToken)) stale
  raiseIf (e.state = .canceling ∧ state ≠ .canceled)
    (.value "task cancellation is pending; only canceled settlement is allowed")
  let key : TaskKey := ⟨groupId,e.key.senderId,e.key.taskId⟩
  if state = .retry then
    let executions := s.agentTaskExecutions.retryKey key now (cut 8192 error)
    return (executions.get key,
      { s with
        agentTaskExecutions := executions
        consumerDeliveries := s.consumerDeliveries.releaseLeased groupId owner claimToken
          (now + retryMs) (cut 1000 error) })
  else
    let executions := s.agentTaskExecutions.settleKey key state now output (cut 8192 error)
    return (executions.get key,
      { s with
        agentTaskExecutions := executions
        consumerDeliveries := s.consumerDeliveries.ackLeased groupId owner claimToken now
        agentTaskCancellations :=
          if state = .canceled then s.agentTaskCancellations.applyRequested key now
          else s.agentTaskCancellations })

/-- What `settle_agent_task` reports about the row it settled. -/
def settledTask (rt : Runtime) (state : TaskState) (retryAfterMs : ℤ)
    (row : Option AgentTaskExecution) : Result SettledTask := do
  let task ← agentTaskItem rt row
  return ⟨task,if state = .retry then .retry else .acked,
    if state = .retry then some retryAfterMs else none⟩

/-- `settle_agent_task`. -/
def settleAgentTask (rt : Runtime) (groupId owner : ConsumerId) (claimToken executionToken : Token)
    (state : String) (output : Value) (error : String) (retry : RetryMs) (now : ℤ)
    (s : PacketStore) : Result SettledTask × PacketStore :=
  match settlementArguments rt state output error with
  | .error e => (.error e,s)
  | .ok (state,error,encoded) =>
    afterCommit (settledTask rt state (now + retry.val))
      (transaction (settleExecution groupId.val owner.val claimToken.val executionToken.val state
        error encoded retry.val now) s)

/-- What `apply_agent_task_cancellation` reads and checks before it looks at the task. -/
def admitCancellation (rt : Runtime) (groupId owner : ConsumerId) (claimToken : Token)
    (allowedSenders : List String) (now : ℤ) (s : PacketStore) : Result CancelIntent := do
  let claim ← fetched (s.liveClaim groupId.val owner.val claimToken.val now) staleTask
  let row := claim.2
  raiseIf (¬ row.trusted) (.permission "typed Agent task cancellation requires a trusted sender")
  raiseIf (row.kind ≠ cancelKind) (.value "claim does not contain an Agent task cancellation")
  let body ← rt.unpack row.body
  let normalized ← validateTaskCancel rt body
  raiseIf ("*" ∉ senderPolicy allowedSenders ∧ row.senderId ∉ senderPolicy allowedSenders)
    (.permission "task cancellation sender is outside the local execution policy")
  let packed ← rt.canonicalPack normalized.toValue
  return ⟨row.packetId,⟨groupId.val,row.senderId,normalized.taskId⟩,
    rt.blake2s "anetcxl1" 32 packed,normalized.reason⟩

/-- What a cancellation does to the execution it finds: the states to record,
whether a worker must stop, and the two updated tables. -/
structure CancelFence where
  state : CancelState
  terminalState : Option TaskState
  cooperative : Bool
  executions : Executions
  deliveries : ConsumerDeliveries

def fenceExecution (cancel : CancelIntent) (groupId : String) (now : ℤ) (s : PacketStore) :
    CancelFence :=
  match s.agentTaskExecutions.get cancel.key with
  | none => ⟨.requested,none,false,s.agentTaskExecutions,s.consumerDeliveries⟩
  | some e =>
    if e.state.terminal then
      ⟨if e.state = .canceled then .applied else .tooLate,some e.state,false,
        s.agentTaskExecutions,s.consumerDeliveries⟩
    else if e.state.running then
      ⟨.requested,none,true,s.agentTaskExecutions.stopKey cancel.key now cancel.reason,
        s.consumerDeliveries⟩
    else
      ⟨.applied,some .canceled,false,s.agentTaskExecutions.cancelKey cancel.key now cancel.reason,
        s.consumerDeliveries.ackPacket groupId e.requestPacketId now⟩

/-- The cancellation row: new, or there already with the same body. -/
def askCancellation (cancel : CancelIntent) (now : ℤ) (s : PacketStore) : Result Cancellations :=
  match s.agentTaskCancellations.get cancel.key with
  | some row =>
    if row.cancelHash ≠ cancel.bodyHash then
      .error (.value "task cancellation was repeated with a different body")
    else .ok s.agentTaskCancellations
  | none => integrity (s.agentTaskCancellations.insert
      (asked cancel.key cancel.packetId cancel.bodyHash cancel.reason now))

/-- The transaction of `apply_agent_task_cancellation` once the message is admitted. -/
def recordCancellation (cancel : CancelIntent) (groupId owner claimToken : String) (now : ℤ)
    (s : PacketStore) : Result ((Option AgentTaskCancellation × Bool) × PacketStore) := do
  let cancellations ← s.askCancellation cancel now
  let fence := s.fenceExecution cancel groupId now
  let cancellations :=
    Cancellations.recordKey cancellations cancel.key fence.state fence.terminalState now
  raiseIf (fence.deliveries.count (leasedBy groupId owner claimToken) ≠ 1)
    (.runtime "failed to acknowledge task cancellation")
  return ((cancellations.get cancel.key,fence.cooperative),
    { s with
      agentTaskExecutions := fence.executions
      agentTaskCancellations := cancellations
      consumerDeliveries := fence.deliveries.ackLeased groupId owner claimToken now })

/-- `apply_agent_task_cancellation`. -/
def applyAgentTaskCancellation (rt : Runtime) (groupId owner : ConsumerId) (claimToken : Token)
    (allowedSenders : List String) (now : ℤ) (s : PacketStore) :
    Result CancellationItem × PacketStore :=
  afterCommit (fun r => agentTaskCancellationItem true r.2 r.1) (transaction (fun s => do
    let cancel ← s.admitCancellation rt groupId owner claimToken allowedSenders now
    s.recordCancellation cancel groupId.val owner.val claimToken.val now) s)

section Specs

variable {rt : Runtime} {s s' : PacketStore} {now : ℤ}

section Lookups

variable (t : Executions) (c : Cancellations) (key k : TaskKey)

theorem get_cancelKey (reason : String) : (t.cancelKey key now reason).get k =
    if k = key then (t.get key).map (cancel now reason) else t.get k :=
  Table.get_update_key ..

theorem get_stopKey (reason : String) : (t.stopKey key now reason).get k =
    if k = key then (t.get key).map (requestStop now reason) else t.get k :=
  Table.get_update_key ..

theorem get_retryKey (error : String) : (t.retryKey key now error).get k =
    if k = key then (t.get key).map (settleRetry now error) else t.get k :=
  Table.get_update_key ..

theorem get_settleKey (state : TaskState) (output : Bytes) (error : String) :
    (t.settleKey key state now output error).get k =
      if k = key then (t.get key).map (settle state now output error) else t.get k :=
  Table.get_update_key ..

theorem get_applyKey : (c.applyKey key now).get k =
    if k = key then (c.get key).map (apply now) else c.get k :=
  Table.get_update_key ..

theorem get_recordKey (state : CancelState) (terminalState : Option TaskState) :
    (c.recordKey key state terminalState now).get k =
      if k = key then (c.get key).map (record state terminalState now) else c.get k :=
  Table.get_update_key ..

theorem get_applyRequested : (c.applyRequested key now).get k = if k = key then
    (c.get key).map fun r => if r.state = .requested then r.apply now else r else c.get k := by
  refine (Table.get_update ..).trans ?_
  split
  · rename_i hk
    subst hk
    cases hr : c.get k with
    | none => rfl
    | some r => simp [Table.get_key hr]
  · rename_i hk
    cases hr : c.get k with
    | none => rfl
    | some r => simp [Table.get_key hr,hk]

end Lookups

theorem get_ackPacket (d : ConsumerDeliveries) (groupId packetId : String) (k : String × String) :
    (d.ackPacket groupId packetId now).get k = (d.get k).map fun r =>
      if r.groupId = groupId ∧ r.packetId = packetId ∧ r.state ≠ .acked then r.ack now else r :=
  Table.get_update ..

/-- An admitted request is the trusted message of a live claim of the caller. -/
theorem admitTask_ok {groupId owner : ConsumerId} {claimToken : Token}
    {allowedSenders allowedCapabilities : List String} {drawn : Token} {task : TaskIntent}
    (h : s.admitTask rt groupId owner claimToken allowedSenders allowedCapabilities drawn now =
      .ok task) :
    ∃ r i body request packed, s.liveClaim groupId.val owner.val claimToken.val now = some (r,i) ∧
      i.trusted ∧ i.kind = requestKind ∧ rt.unpack i.body = .ok body ∧
      validateTaskRequest rt drawn.val body = .ok request ∧
      rt.canonicalPack request.toValue = .ok packed ∧
      task = ⟨i.packetId,⟨groupId.val,i.senderId,request.taskId⟩,
        rt.blake2s "anettsk1" 32 packed⟩ := by
  unfold admitTask at h
  simp only [bind_ok,fetched_ok,raiseIf_ok,not_not] at h
  obtain ⟨_,-,⟨r,i⟩,hclaim,-,htrusted,-,hkind,body,hbody,request,hrequest,-,-,_,-,-,-,packed,hpacked,
    hval⟩ := h
  cases hval
  exact ⟨r,i,body,request,packed,hclaim,htrusted,hkind,hbody,hrequest,hpacked,rfl⟩

/-- What the transaction of an admitted request does. -/
inductive BeginEffect (task : TaskIntent) (groupId owner claimToken executionToken : String)
    (now : ℤ) (s : PacketStore) : BeginOutcome → PacketStore → Prop
  | preCanceled (c : AgentTaskCancellation) (executions : Executions)
      (hnone : s.agentTaskExecutions.get task.key = none)
      (hcancel : s.pendingCancellation task.key = some c)
      (hins : s.agentTaskExecutions.insert
        (preCanceled task.key task.packetId task.bodyHash now c.reason) = some executions) :
      BeginEffect task groupId owner claimToken executionToken now s
        ⟨executions.get task.key,false,false,true,"",true⟩
        { s with
          agentTaskExecutions := executions
          agentTaskCancellations := s.agentTaskCancellations.applyKey task.key now
          consumerDeliveries := s.consumerDeliveries.ackLeased groupId owner claimToken now }
  | start (executions : Executions) (hnone : s.agentTaskExecutions.get task.key = none)
      (hcancel : s.pendingCancellation task.key = none)
      (hins : s.agentTaskExecutions.insert
        (begun task.key task.packetId task.bodyHash owner claimToken executionToken now) =
          some executions) :
      BeginEffect task groupId owner claimToken executionToken now s
        ⟨executions.get task.key,true,false,false,executionToken,false⟩
        { s with agentTaskExecutions := executions }
  | duplicate (e : AgentTaskExecution) (cancelRequested : Bool)
      (he : s.agentTaskExecutions.get task.key = some e) (hhash : e.requestHash = task.bodyHash)
      (hbusy : e.state.terminal ∨ (e.state.running ∧ ¬ (e.owner = owner ∧
        e.claimToken = claimToken) ∧ s.taskLeaseLive groupId e now)) :
      BeginEffect task groupId owner claimToken executionToken now s
        ⟨some e,false,true,true,"",cancelRequested⟩
        { s with
          consumerDeliveries := s.consumerDeliveries.ackLeased groupId owner claimToken now }
  | resume (e : AgentTaskExecution) (he : s.agentTaskExecutions.get task.key = some e)
      (hhash : e.requestHash = task.bodyHash) (hrunning : e.state.running)
      (hown : e.owner = owner ∧ e.claimToken = claimToken) :
      BeginEffect task groupId owner claimToken executionToken now s
        ⟨some e,e.state = .working,false,false,e.executionToken,e.state = .canceling⟩ s
  | finish (e : AgentTaskExecution) (reason : String)
      (he : s.agentTaskExecutions.get task.key = some e) (hhash : e.requestHash = task.bodyHash)
      (hopen : (e.state = .canceling ∧ ¬ (e.owner = owner ∧ e.claimToken = claimToken) ∧
        ¬ s.taskLeaseLive groupId e now) ∨
        (e.state = .retry ∧ (s.pendingCancellation task.key).isSome)) :
      BeginEffect task groupId owner claimToken executionToken now s
        ⟨(s.agentTaskExecutions.cancelKey task.key now reason).get task.key,false,true,true,"",true⟩
        { s with
          agentTaskExecutions := s.agentTaskExecutions.cancelKey task.key now reason
          agentTaskCancellations := s.agentTaskCancellations.applyKey task.key now
          consumerDeliveries := s.consumerDeliveries.ackLeased groupId owner claimToken now }
  | takeOver (e : AgentTaskExecution) (executions : Executions)
      (he : s.agentTaskExecutions.get task.key = some e) (hhash : e.requestHash = task.bodyHash)
      (hopen : (e.state = .retry ∧ s.pendingCancellation task.key = none) ∨
        (e.state = .working ∧ ¬ (e.owner = owner ∧ e.claimToken = claimToken) ∧
          ¬ s.taskLeaseLive groupId e now))
      (hassign : s.agentTaskExecutions.assign task.key
        (AgentTaskExecution.takeOver task.packetId owner claimToken executionToken now)
          (fun _ => rfl) = some executions) :
      BeginEffect task groupId owner claimToken executionToken now s
        ⟨executions.get task.key,true,true,false,executionToken,false⟩
        { s with agentTaskExecutions := executions }

theorem acquireTask_cases {task : TaskIntent} {groupId owner claimToken executionToken : String}
    {o : BeginOutcome}
    (h : s.acquireTask task groupId owner claimToken executionToken now = .ok (o,s')) :
    BeginEffect task groupId owner claimToken executionToken now s o s' := by
  unfold acquireTask at h
  dsimp only at h
  split at h
  · rename_i hnone
    split at h
    · rename_i c hcancel
      obtain ⟨executions,hins,hval⟩ := bind_ok.mp h
      cases hval
      exact .preCanceled c executions hnone hcancel (integrity_ok.mp hins)
    · rename_i hcancel
      obtain ⟨executions,hins,hval⟩ := bind_ok.mp h
      cases hval
      exact .start executions hnone hcancel (integrity_ok.mp hins)
  rename_i e he
  split at h
  · cases h
  rename_i hhash
  rw [not_not] at hhash
  split at h
  · rename_i hterminal
    cases h
    exact .duplicate e false he hhash (Or.inl hterminal)
  rename_i hterminal
  split at h
  · rename_i hcanceling
    have hrunning : e.state.running = true := by simp [hcanceling,TaskState.running]
    split at h
    · rename_i hown
      cases h
      rw [show (⟨some e,false,false,false,e.executionToken,true⟩ : BeginOutcome) =
        ⟨some e,e.state = .working,false,false,e.executionToken,e.state = .canceling⟩ by
          simp [hcanceling]]
      exact .resume e he hhash hrunning hown
    rename_i hown
    split at h
    · rename_i hlive
      cases h
      exact .duplicate e true he hhash (Or.inr ⟨hrunning,hown,hlive⟩)
    · rename_i hlive
      cases h
      exact .finish e _ he hhash (Or.inl ⟨hcanceling,hown,hlive⟩)
  rename_i hcanceling
  split at h
  · rename_i hretry
    cases h
    exact .finish e _ he hhash (Or.inr hretry)
  rename_i hretry
  split at h
  · rename_i hown
    cases h
    have hrunning : e.state.running = true := by simp [hown.1,TaskState.running]
    rw [show (⟨some e,true,false,false,e.executionToken,false⟩ : BeginOutcome) =
      ⟨some e,e.state = .working,false,false,e.executionToken,e.state = .canceling⟩ by
        simp [hown.1]]
    exact .resume e he hhash hrunning hown.2
  rename_i hown
  split at h
  · rename_i hlive
    cases h
    have hrunning : e.state.running = true := by simp [hlive.1,TaskState.running]
    exact .duplicate e false he hhash
      (Or.inr ⟨hrunning,fun hmine => hown ⟨hlive.1,hmine⟩,hlive.2⟩)
  rename_i hlive
  obtain ⟨executions,hassign,hval⟩ := bind_ok.mp h
  cases hval
  refine .takeOver e executions he hhash ?_ (integrity_ok.mp hassign)
  cases hstate : e.state with
  | working =>
    exact Or.inr ⟨rfl,fun hmine => hown ⟨hstate,hmine⟩,fun hl => hlive ⟨hstate,hl⟩⟩
  | retry =>
    refine Or.inl ⟨rfl,?_⟩
    cases hc : s.pendingCancellation task.key with
    | none => rfl
    | some c => exact absurd ⟨hstate,by simp [hc]⟩ hretry
  | canceling => exact absurd hstate hcanceling
  | _ => simp [hstate,TaskState.terminal] at hterminal

/-- A begin leaves the database as it was, or has one of the effects above. -/
theorem beginAgentTask_cases (rt : Runtime) (groupId owner : ConsumerId) (claimToken : Token)
    (allowedSenders allowedCapabilities : List String) (drawn executionToken : Token) (now : ℤ)
    (s : PacketStore) :
    (∃ e, beginAgentTask rt groupId owner claimToken allowedSenders allowedCapabilities drawn
      executionToken now s = (.error e,s)) ∨
    ∃ task o s', s.admitTask rt groupId owner claimToken allowedSenders allowedCapabilities drawn
        now = .ok task ∧
      BeginEffect task groupId.val owner.val claimToken.val executionToken.val now s o s' ∧
      beginAgentTask rt groupId owner claimToken allowedSenders allowedCapabilities drawn
        executionToken now s = (o.item rt,s') := by
  unfold beginAgentTask afterCommit
  rcases transaction_cases (fun s => do
    let task ← s.admitTask rt groupId owner claimToken allowedSenders allowedCapabilities drawn now
    s.acquireTask task groupId.val owner.val claimToken.val executionToken.val now) s
    with ⟨o,s',hb,ht⟩ | ⟨e,-,ht⟩
  · obtain ⟨task,htask,hacquire⟩ := bind_ok.mp hb
    exact Or.inr ⟨task,o,s',htask,acquireTask_cases hacquire,by rw [ht]; rfl⟩
  · exact Or.inl ⟨e,by rw [ht]; rfl⟩

/-- An item names the key of the row it was made from. -/
theorem agentTaskItem_key {row : Option AgentTaskExecution} {task : TaskItem}
    (h : agentTaskItem rt row = .ok task) : ∃ e, row = some e ∧ task.key = e.key ∧
      task.state = e.state := by
  cases row with
  | none => cases h
  | some e =>
    obtain ⟨output,-,hval⟩ := bind_ok.mp h
    cases hval
    exact ⟨e,rfl,rfl,rfl⟩

theorem settledTask_key {row : Option AgentTaskExecution} {state : TaskState} {retryAfterMs : ℤ}
    {settled : SettledTask} (h : settledTask rt state retryAfterMs row = .ok settled) :
    ∃ e, row = some e ∧ settled.task.key = e.key ∧ settled.task.state = e.state := by
  obtain ⟨task,htask,hval⟩ := bind_ok.mp h
  cases hval
  exact agentTaskItem_key htask

theorem BeginOutcome.item_key {o : BeginOutcome} {grant : TaskGrant} (h : o.item rt = .ok grant) :
    ∃ e, o.row = some e ∧ grant.task.key = e.key ∧ grant.execute = o.execute ∧
      grant.executionToken = o.executionToken := by
  obtain ⟨task,htask,hval⟩ := bind_ok.mp h
  cases hval
  obtain ⟨e,he,hkey,-⟩ := agentTaskItem_key htask
  exact ⟨e,he,hkey,rfl,rfl⟩

/-- A settlement found the execution and its claim under the caller's tokens. -/
theorem settleExecution_cases {groupId owner : String} {claimToken executionToken : Token}
    {state : TaskState} {error : String} {output : Bytes} {retryMs : ℤ}
    {row : Option AgentTaskExecution}
    (h : s.settleExecution groupId owner claimToken.val executionToken.val state error output retryMs
      now = .ok (row,s')) :
    ∃ e r, s.agentTaskExecutions.get e.key = some e ∧
      e.heldBy groupId owner claimToken.val executionToken.val ∧
      s.consumerDeliveries.get (groupId,r.packetId) = some r ∧
      r.leasedBy groupId owner claimToken.val ∧ (e.state = .canceling → state = .canceled) ∧
      row = s'.agentTaskExecutions.get e.key ∧
      ((state = .retry ∧ s' = { s with
          agentTaskExecutions := s.agentTaskExecutions.retryKey e.key now (cut 8192 error)
          consumerDeliveries := s.consumerDeliveries.releaseLeased groupId owner claimToken.val
            (now + retryMs) (cut 1000 error) }) ∨
        (state ≠ .retry ∧ s' = { s with
          agentTaskExecutions := s.agentTaskExecutions.settleKey e.key state now output
            (cut 8192 error)
          consumerDeliveries := s.consumerDeliveries.ackLeased groupId owner claimToken.val now
          agentTaskCancellations :=
            if state = .canceled then s.agentTaskCancellations.applyRequested e.key now
            else s.agentTaskCancellations })) := by
  unfold settleExecution at h
  simp only [bind_ok,fetched_ok,raiseIf_ok] at h
  obtain ⟨e,he,r,hr,-,hcancel,h⟩ := h
  obtain ⟨heget,hheld⟩ := Table.first_some he
  obtain ⟨hrget,hleased⟩ := Table.first_some hr
  have hkey : (⟨groupId,e.key.senderId,e.key.taskId⟩ : TaskKey) = e.key := by
    rw [← hheld.1]
  have hrkey : r.key = (groupId,r.packetId) := by
    rw [ConsumerDelivery.key,hleased.1]
  rw [hrkey] at hrget
  rw [hkey] at h
  have hsettle : e.state = .canceling → state = .canceled :=
    fun hc => by_contra fun hn => hcancel ⟨hc,hn⟩
  split at h
  · rename_i hstate
    cases h
    exact ⟨e,r,heget,hheld,hrget,hleased,hsettle,rfl,Or.inl ⟨hstate,rfl⟩⟩
  · rename_i hstate
    cases h
    exact ⟨e,r,heget,hheld,hrget,hleased,hsettle,rfl,Or.inr ⟨hstate,rfl⟩⟩

theorem settlementState_cases {text : String} {state : TaskState}
    (h : settlementState text = .ok state) : state.terminal ∨ state = .retry := by
  unfold settlementState at h
  split at h <;> cases h <;> simp [TaskState.terminal]

theorem settlementArguments_state {text : String} {output : Value} {error : String}
    {state : TaskState} {message : String} {encoded : Bytes}
    (h : settlementArguments rt text output error = .ok (state,message,encoded)) :
    state.terminal ∨ state = .retry := by
  unfold settlementArguments at h
  simp only [bind_ok] at h
  obtain ⟨_,hstate,-,-,-,-,-,-,_,-,-,-,hval⟩ := h
  cases hval
  exact settlementState_cases hstate

/-- A settlement leaves the database as it was, or settles one execution. -/
theorem settleAgentTask_cases (rt : Runtime) (groupId owner : ConsumerId)
    (claimToken executionToken : Token) (state : String) (output : Value) (error : String)
    (retry : RetryMs) (now : ℤ) (s : PacketStore) :
    (∃ e, settleAgentTask rt groupId owner claimToken executionToken state output error retry now s =
      (.error e,s)) ∨
    ∃ kind message encoded row s',
      settlementArguments rt state output error = .ok (kind,message,encoded) ∧
      s.settleExecution groupId.val owner.val claimToken.val executionToken.val kind message encoded
        retry.val now = .ok (row,s') ∧
      settleAgentTask rt groupId owner claimToken executionToken state output error retry now s =
        (settledTask rt kind (now + retry.val) row,s') := by
  unfold settleAgentTask
  split
  · exact Or.inl ⟨_,rfl⟩
  · rename_i kind message encoded hargs
    rw [afterCommit]
    rcases transaction_cases (settleExecution groupId.val owner.val claimToken.val
      executionToken.val kind message encoded retry.val now) s with ⟨row,s',hb,ht⟩ | ⟨e,-,ht⟩
    · exact Or.inr ⟨kind,message,encoded,row,s',hargs,hb,by rw [ht]; rfl⟩
    · exact Or.inl ⟨e,by rw [ht]; rfl⟩

/-- An admitted cancellation is the trusted message of a live claim of the caller. -/
theorem admitCancellation_ok {groupId owner : ConsumerId} {claimToken : Token}
    {allowedSenders : List String} {cancel : CancelIntent}
    (h : s.admitCancellation rt groupId owner claimToken allowedSenders now = .ok cancel) :
    ∃ r i body normalized packed,
      s.liveClaim groupId.val owner.val claimToken.val now = some (r,i) ∧ i.trusted ∧
      i.kind = cancelKind ∧ rt.unpack i.body = .ok body ∧
      validateTaskCancel rt body = .ok normalized ∧
      rt.canonicalPack normalized.toValue = .ok packed ∧
      cancel = ⟨i.packetId,⟨groupId.val,i.senderId,normalized.taskId⟩,
        rt.blake2s "anetcxl1" 32 packed,normalized.reason⟩ := by
  unfold admitCancellation at h
  simp only [bind_ok,fetched_ok,raiseIf_ok,not_not] at h
  obtain ⟨⟨r,i⟩,hclaim,-,htrusted,-,hkind,body,hbody,normalized,hnorm,-,-,packed,hpacked,hval⟩ := h
  cases hval
  exact ⟨r,i,body,normalized,packed,hclaim,htrusted,hkind,hbody,hnorm,hpacked,rfl⟩

/-- The cancellation row a first or repeated application works on. -/
def askedTable (cancel : CancelIntent) (now : ℤ) (s : PacketStore) (c : Cancellations) : Prop :=
  (s.agentTaskCancellations.get cancel.key = none ∧ s.agentTaskCancellations.insert
      (asked cancel.key cancel.packetId cancel.bodyHash cancel.reason now) = some c) ∨
    ∃ row, s.agentTaskCancellations.get cancel.key = some row ∧ row.cancelHash = cancel.bodyHash ∧
      c = s.agentTaskCancellations

theorem recordCancellation_cases {cancel : CancelIntent} {groupId owner : String}
    {claimToken : Token} {o : Option AgentTaskCancellation × Bool}
    (h : s.recordCancellation cancel groupId owner claimToken.val now = .ok (o,s')) :
    ∃ c, s.askedTable cancel now c ∧ o.1 = s'.agentTaskCancellations.get cancel.key ∧ s' = { s with
      agentTaskExecutions := (s.fenceExecution cancel groupId now).executions
      agentTaskCancellations := Cancellations.recordKey c cancel.key
        (s.fenceExecution cancel groupId now).state
        (s.fenceExecution cancel groupId now).terminalState now
      consumerDeliveries := (s.fenceExecution cancel groupId now).deliveries.ackLeased groupId owner
        claimToken.val now } := by
  unfold recordCancellation at h
  simp only [bind_ok,raiseIf_ok] at h
  obtain ⟨c,hc,-,-,hval⟩ := h
  cases hval
  refine ⟨c,?_,rfl,rfl⟩
  unfold askCancellation at hc
  split at hc
  · rename_i row hrow
    split at hc
    · cases hc
    · rename_i hhash
      cases hc
      exact Or.inr ⟨row,hrow,not_not.mp hhash,rfl⟩
  · rename_i hnone
    exact Or.inl ⟨hnone,integrity_ok.mp hc⟩

/-- A cancellation leaves the database as it was, or is recorded with its claim. -/
theorem applyAgentTaskCancellation_cases (rt : Runtime) (groupId owner : ConsumerId)
    (claimToken : Token) (allowedSenders : List String) (now : ℤ) (s : PacketStore) :
    (∃ e, applyAgentTaskCancellation rt groupId owner claimToken allowedSenders now s =
      (.error e,s)) ∨
    ∃ cancel o s', s.admitCancellation rt groupId owner claimToken allowedSenders now = .ok cancel ∧
      s.recordCancellation cancel groupId.val owner.val claimToken.val now = .ok (o,s') ∧
      applyAgentTaskCancellation rt groupId owner claimToken allowedSenders now s =
        (agentTaskCancellationItem true o.2 o.1,s') := by
  unfold applyAgentTaskCancellation afterCommit
  rcases transaction_cases (fun s => do
    let cancel ← s.admitCancellation rt groupId owner claimToken allowedSenders now
    s.recordCancellation cancel groupId.val owner.val claimToken.val now) s
    with ⟨o,s',hb,ht⟩ | ⟨e,-,ht⟩
  · obtain ⟨cancel,hcancel,hrecord⟩ := bind_ok.mp hb
    exact Or.inr ⟨cancel,o,s',hcancel,hrecord,by rw [ht]; rfl⟩
  · exact Or.inl ⟨e,by rw [ht]; rfl⟩

end Specs

end PacketStore
end Anet
