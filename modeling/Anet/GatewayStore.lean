import Anet.A2AProtocol
import Anet.PrekeyStore

/-! The gateway's tables. A principal is bound to one node; its messages are registered
with the task they belong to and a dispatch for the agent; the events of a task are
appended under consecutive numbers and advance the state of the task. -/
namespace Anet

open AgentProtocol A2AProtocol

def isNodeId (s : String) : Bool :=
  startsWith s "an1" && 20 ≤ s.toList.length && s.toList.length ≤ 128

structure A2ANodeId where
  val : String
  valid : isNodeId val

/-- `_a2a_node_id`. -/
def a2aNodeId (label value : String) : Result A2ANodeId :=
  let value := strip value
  if h : isNodeId value then .ok ⟨value,h⟩ else .error (.value s!"invalid {label}")

/-- At most 1024 characters and no control character. -/
def isPlainText (s : String) : Bool :=
  s.toList.length ≤ 1024 && s.toList.all fun c => 32 ≤ c.toNat

structure ExternalId where
  val : String
  nonempty : val ≠ ""
  plain : isPlainText val
  trimmed : strip val = val

/-- `_a2a_external_id`. -/
def a2aExternalId (label value : String) : Result ExternalId :=
  if h : strip value ≠ "" ∧ isPlainText (strip value) then
    .ok ⟨strip value,h.1,h.2,strip_strip value⟩
  else .error (.value s!"invalid {label}")

/-- The arguments of `register_a2a_message`. -/
structure A2ARegistration where
  principalId : ConsumerId
  authenticatedSenderId : A2ANodeId
  a2aTaskId : ExternalId
  contextId : ExternalId
  messageId : ExternalId
  destinationPeerId : A2ANodeId
  skillId : ConsumerId
  tenant : String
  protocolVersion : String
  requestBody : Value

/-- What a registration stores, once its arguments are checked against each other. -/
structure A2AIntent where
  principalId : String
  authenticatedSenderId : String
  a2aTaskId : String
  contextId : String
  messageId : String
  destinationPeerId : String
  skillId : String
  tenant : String
  protocolVersion : String
  anetTaskId : String
  requestHash : String
  encodedRequest : Bytes

/-- `expected_context`, which the context of the request has to repeat. -/
def expectedContext (r : A2ARegistration) (tenant protocolVersion : String) :
    List (String × String) :=
  [("protocolVersion",protocolVersion),("messageId",r.messageId.val),
    ("contextId",r.contextId.val),("taskId",r.a2aTaskId.val),("skillId",r.skillId.val),
    ("tenant",tenant)]

/-- The part of `register_a2a_message` before its transaction. -/
def registrationIntent (rt : Runtime) (drawnTask : String) (r : A2ARegistration) :
    Result A2AIntent := do
  let tenant := strip r.tenant
  raiseIf (¬ isPlainText tenant) (.value "invalid A2A tenant")
  let protocolVersion := strip r.protocolVersion
  raiseIf (protocolVersion ≠ a2aProtocolVersion)
    (.value "unsupported A2A gateway protocol version")
  let normalized ← validateTaskRequest rt drawnTask r.requestBody
  let context ← fetched ((Value.fieldOr normalized.context "a2a" .nil).asMap)
    (.value "Anet task request lacks A2A gateway context")
  raiseIf ((expectedContext r tenant protocolVersion).any fun e =>
      ¬ (Value.fieldOr context e.1 .nil).isStr e.2)
    (.value "Anet task request does not match A2A gateway mapping")
  let hashed ← rt.canonicalPack normalized.toValue
  let encoded ← rt.pack normalized.toValue
  return ⟨r.principalId.val,r.authenticatedSenderId.val,r.a2aTaskId.val,r.contextId.val,
    r.messageId.val,r.destinationPeerId.val,r.skillId.val,tenant,protocolVersion,
    normalized.taskId,rt.blake2s "aneta2a1" 32 hashed,encoded⟩

namespace A2AIntent

def messageRow (r : A2AIntent) (now : ℤ) : A2AMessage :=
  ⟨r.principalId,r.messageId,r.a2aTaskId,r.anetTaskId,r.requestHash,some r.encodedRequest,now⟩

def taskRow (r : A2AIntent) (now : ℤ) : A2ATask :=
  ⟨r.principalId,r.a2aTaskId,r.contextId,r.destinationPeerId,r.skillId,r.tenant,
    r.protocolVersion,.submitted,r.anetTaskId,0,0,0,.none,0,now,now⟩

def dispatchRow (r : A2AIntent) (destinationPeerId : String) (drawn : Token) (now : ℤ) :
    A2ADispatch :=
  ⟨r.principalId,r.messageId,r.a2aTaskId,r.anetTaskId,destinationPeerId,.request,
    r.encodedRequest,.pending,"","",drawn.val,0,0,0,"","",now,now,0⟩

end A2AIntent

/-- `_a2a_task_item`: the row joined with the sender of its principal. -/
structure A2ATaskItem where
  task : A2ATask
  senderNodeId : String

structure RegisterResult where
  item : A2ATaskItem
  message : A2AMessage
  dispatch : A2ADispatch
  duplicate : Bool

structure CancelResult where
  item : A2ATaskItem
  cancelDispatches : List A2ADispatch
  duplicate : Bool

structure PrincipalResult where
  principal : A2APrincipal
  duplicate : Bool

namespace A2ATask

def follow (anetTaskId : String) (now : ℤ) (r : A2ATask) : A2ATask :=
  { r with latestAnetTaskId := anetTaskId, messageCount := r.messageCount + 1, updatedMs := now }

def requestCancel (now : ℤ) (r : A2ATask) : A2ATask :=
  { r with cancelState := .requested, cancelRequestedMs := now, updatedMs := now }

/-- The `cancel_state` of a task whose events have led to `state`. -/
def settledCancel (cancelState : CancelPhase) (state : ReportState) : CancelPhase :=
  if cancelState = .none then .none
  else if state = .canceled then .confirmed
  else if state.terminal then .tooLate
  else cancelState

def advance (state : ReportState) (lastSequence : ℕ) (cancelState : CancelPhase) (now : ℤ)
    (r : A2ATask) : A2ATask :=
  { r with
    state := state, lastSequence := lastSequence, lastEventMs := now, cancelState := cancelState,
    updatedMs := now }

end A2ATask

/-- `reason` of every cancellation the gateway sends. -/
def cancelReason : String := "A2A task cancellation requested"

/-- `cancel_id`. -/
def cancelId (rt : Runtime) (principalId a2aTaskId target : String) : Result String := do
  let packed ← rt.canonicalPack (.list [.str principalId,.str a2aTaskId,.str target])
  return rt.blake2s "a2acxl1" 16 packed

def cancelMessageId (cancelId : String) : String := "cancel-" ++ cancelId

/-- The dispatch that cancels one internal task. -/
def cancelDispatch (rt : Runtime) (task : A2ATask) (target : String) (drawn : Token) (now : ℤ) :
    Result A2ADispatch := do
  let id ← cancelId rt task.principalId task.a2aTaskId target
  let body ← taskCancel target cancelReason
  let encoded ← rt.pack body.toValue
  return ⟨task.principalId,cancelMessageId id,task.a2aTaskId,id,task.destinationPeerId,.cancel,
    encoded,.pending,"","",drawn.val,0,0,0,"","",now,now,0⟩

/-- A validated event with its encoding and its content hash. -/
structure EventRecord where
  event : StreamEvent
  encoded : Bytes
  eventHash : String

/-- The first loop of `append_a2a_task_events`, with the bytes encoded so far. -/
def eventRecords (rt : Runtime) (a2aTaskId contextId source : String) :
    ℕ → List Value → Result (List EventRecord)
  | _,[] => .ok []
  | total,event :: events => do
    let normalized ← validateStreamEvent rt event a2aTaskId contextId
    let encoded ← rt.pack normalized.value
    raiseIf (maxWireBytes < total + encoded.length) (.value "A2A event batch is too large")
    let hashed ← rt.canonicalPack (.list [.str source,normalized.value])
    let rest ← eventRecords rt a2aTaskId contextId source (total + encoded.length) events
    return ⟨normalized,encoded,rt.blake2s "a2aevt1" 32 hashed⟩ :: rest

/-- The loop variables of `append_a2a_task_events`. -/
structure AppendLoop where
  events : A2AEvents
  state : ReportState
  sequence : ℕ
  appended : ℕ
  duplicates : ℕ

structure AppendResult where
  state : ReportState
  lastSequence : ℕ
  appended : ℕ
  duplicates : ℕ
  deriving DecidableEq

/-- The state after an event the log does not hold yet. -/
def nextState (state : ReportState) (event : StreamEvent) : Result ReportState :=
  match event.state with
  | some next =>
    if permits state next then .ok next
    else
      let before := stateText state
      let after := stateText next
      .error (.value s!"invalid A2A task transition: {before} -> {after}")
  | none =>
    if state.terminal then .error (.value "terminal A2A task cannot accept a new artifact")
    else .ok state

def A2AEvent.ofTask (principalId a2aTaskId : String) (e : A2AEvent) : Prop :=
  e.principalId = principalId ∧ e.a2aTaskId = a2aTaskId

instance (principalId a2aTaskId : String) : DecidablePred (A2AEvent.ofTask principalId a2aTaskId) :=
  fun _ => inferInstanceAs (Decidable (_ ∧ _))

/-- The events of a task in the order of their numbers. -/
def eventsOf (t : A2AEvents) (principalId a2aTaskId : String) : List A2AEvent :=
  (t.select (A2AEvent.ofTask principalId a2aTaskId)).insertionSort
    fun a b => a.sequence ≤ b.sequence

structure EventItem where
  sequence : ℕ
  sourceAnetTaskId : String
  event : Value
  createdMs : ℤ

structure EventPage where
  state : ReportState
  afterSequence : ℕ
  nextSequence : ℕ
  lastSequence : ℕ
  caughtUp : Bool
  events : List EventItem

/-- `_a2a_event_item`. -/
def eventItem (rt : Runtime) (row : A2AEvent) : Result EventItem := do
  let event ← rt.unpack row.event
  return ⟨row.sequence,row.sourceAnetTaskId,event,row.createdMs⟩

def eventItems (rt : Runtime) : List A2AEvent → Result (List EventItem)
  | [] => .ok []
  | row :: rows => do
    let item ← eventItem rt row
    let items ← eventItems rt rows
    return item :: items

namespace PacketStore

/-- `bind_a2a_principal`. -/
def bindA2APrincipal (principalId : ConsumerId) (senderNodeId : A2ANodeId)
    (allowedSenderNodes : List A2ANodeId) (now : ℤ) :
    PacketStore → Result PrincipalResult × PacketStore :=
  transaction fun s => do
    raiseIf (senderNodeId.val ∉ allowedSenderNodes.map A2ANodeId.val)
      (.permission "A2A principal sender is outside the local binding policy")
    match s.a2aPrincipals.get principalId.val with
    | none =>
      let row : A2APrincipal := ⟨principalId.val,senderNodeId.val,now,now⟩
      let principals ← integrity (s.a2aPrincipals.insert row)
      return (⟨row,false⟩,{ s with a2aPrincipals := principals })
    | some existing =>
      raiseIf (existing.senderNodeId ≠ senderNodeId.val)
        (.permission "A2A principal is already bound to another Node ID")
      return (⟨{ existing with updatedMs := now },true⟩,{ s with
        a2aPrincipals := s.a2aPrincipals.update (fun r => r.principalId = principalId.val)
          (fun r => { r with updatedMs := now }) (fun _ => rfl) (noMarks_subset _) })

/-- A message that is already there: its mapping and its body have to be the same. -/
def repeatRegistration (intent : A2AIntent) (message : A2AMessage) (sender : String)
    (drawn : Token) (now : ℤ) (s : PacketStore) :
    Result ((A2ATaskItem × A2AMessage × Option A2ADispatch × Bool) × PacketStore) := do
  raiseIf (message.a2aTaskId ≠ intent.a2aTaskId ∨ message.anetTaskId ≠ intent.anetTaskId ∨
      message.requestHash ≠ intent.requestHash)
    (.value "A2A messageId was reused with a different mapping or body")
  let task ← fetched (s.a2aTasks.get (intent.principalId,intent.a2aTaskId))
    (.type "'NoneType' object is not subscriptable")
  let messages := s.a2aMessages.update
    (fun r => r.key = (intent.principalId,intent.messageId) ∧ r.requestBody = none)
    (fun r => { r with requestBody := some intent.encodedRequest }) (fun _ => rfl)
    (fun _ => List.Subset.refl _)
  let dispatches := s.a2aDispatches.insertOrIgnore
    (intent.dispatchRow task.destinationPeerId drawn now)
  return ((⟨task,sender⟩,message,dispatches.get (intent.principalId,intent.messageId),true),
    { s with a2aMessages := messages, a2aDispatches := dispatches })

/-- The tasks with the one a new message belongs to: a new task, or one that still
accepts a follow-up of the same shape. -/
def openTask (intent : A2AIntent) (now : ℤ) (s : PacketStore) : Result A2ATasks :=
  match s.a2aTasks.get (intent.principalId,intent.a2aTaskId) with
  | none => do
    raiseIf (intent.a2aTaskId ≠ intent.anetTaskId)
      (.value "new A2A task ID must match its first Anet task ID")
    integrity (s.a2aTasks.insert (intent.taskRow now))
  | some task => do
    raiseIf task.state.terminal (.value "terminal A2A task cannot accept a follow-up message")
    raiseIf (task.cancelState ≠ .none)
      (.value "A2A task with a cancellation request cannot accept a follow-up")
    raiseIf (task.contextId ≠ intent.contextId ∨
        task.destinationPeerId ≠ intent.destinationPeerId ∨ task.skillId ≠ intent.skillId ∨
        task.tenant ≠ intent.tenant ∨ task.protocolVersion ≠ intent.protocolVersion)
      (.value "A2A follow-up changed task context, peer, skill, or version")
    return s.a2aTasks

def firstRegistration (intent : A2AIntent) (sender : String) (drawn : Token) (now : ℤ)
    (s : PacketStore) :
    Result ((A2ATaskItem × A2AMessage × Option A2ADispatch × Bool) × PacketStore) := do
  let tasks ← s.openTask intent now
  raiseIf ((s.a2aMessages.first fun r =>
      r.principalId = intent.principalId ∧ r.anetTaskId = intent.anetTaskId).isSome)
    (.value "Anet task ID is already bound to another A2A message")
  let messages ← integrity (s.a2aMessages.insert (intent.messageRow now))
  let dispatch := intent.dispatchRow intent.destinationPeerId drawn now
  let dispatches ← integrity (s.a2aDispatches.insert dispatch)
  let tasks := tasks.update (fun r => r.key = (intent.principalId,intent.a2aTaskId))
    (A2ATask.follow intent.anetTaskId now) (fun _ => rfl) (noMarks_subset _)
  let task ← fetched (tasks.get (intent.principalId,intent.a2aTaskId))
    (.type "'NoneType' object is not subscriptable")
  return ((⟨task,sender⟩,intent.messageRow now,some dispatch,false),
    { s with a2aTasks := tasks, a2aMessages := messages, a2aDispatches := dispatches })

/-- The transaction of `register_a2a_message`. -/
def registerIntent (intent : A2AIntent) (drawn : Token) (now : ℤ) (s : PacketStore) :
    Result ((A2ATaskItem × A2AMessage × Option A2ADispatch × Bool) × PacketStore) := do
  let principal ← fetched (s.a2aPrincipals.get intent.principalId)
    (.permission "A2A principal has no authenticated Node ID binding")
  raiseIf (principal.senderNodeId ≠ intent.authenticatedSenderId)
    (.permission "authenticated A2A sender does not match principal binding")
  match s.a2aMessages.get (intent.principalId,intent.messageId) with
  | some message => s.repeatRegistration intent message principal.senderNodeId drawn now
  | none => s.firstRegistration intent principal.senderNodeId drawn now

/-- The item `register_a2a_message` returns. -/
def registerResult (r : A2ATaskItem × A2AMessage × Option A2ADispatch × Bool) :
    Result RegisterResult := do
  let dispatch ← fetched r.2.2.1 (.type "'NoneType' object is not subscriptable")
  return ⟨r.1,r.2.1,dispatch,r.2.2.2⟩

/-- `register_a2a_message`. -/
def registerA2AMessage (rt : Runtime) (registration : A2ARegistration) (drawnTask : String)
    (drawn : Token) (now : ℤ) (s : PacketStore) : Result RegisterResult × PacketStore :=
  afterCommit registerResult (transaction (fun s => do
    let intent ← registrationIntent rt drawnTask registration
    s.registerIntent intent drawn now) s)

/-- The cancel dispatches of a task, oldest first. -/
def cancelDispatches (s : PacketStore) (principalId a2aTaskId : String) : List A2ADispatch :=
  (s.a2aDispatches.select fun r => r.principalId = principalId ∧ r.a2aTaskId = a2aTaskId ∧
    r.kind = .cancel).insertionSort fun a b => a.createdMs ≤ b.createdMs

/-- The messages of a task, oldest first. -/
def taskMessages (s : PacketStore) (principalId a2aTaskId : String) : List A2AMessage :=
  (s.a2aMessages.select fun r => r.principalId = principalId ∧ r.a2aTaskId = a2aTaskId
    ).insertionSort fun a b => a.createdMs ≤ b.createdMs

/-- The loop of `request_a2a_task_cancellation`. -/
def insertCancels (rt : Runtime) (task : A2ATask) (now : ℤ) :
    List A2AMessage → (ℕ → Token) → Dispatches → Result Dispatches
  | [],_,t => .ok t
  | target :: targets,draws,t => do
    let dispatch ← cancelDispatch rt task target.anetTaskId (draws 0) now
    let t ← integrity (t.insert dispatch)
    insertCancels rt task now targets (fun i => draws (i + 1)) t

/-- The task a cancel request names, with the sender of its principal. -/
def cancelTarget (rt : Runtime) (principalId : String) (request : Value) (s : PacketStore) :
    Result A2ATaskItem := do
  let rawId := match request with
    | .map entries => strip (rt.str (Value.fieldOr entries "id" (.str "")))
    | _ => ""
  let id ← a2aExternalId "A2A task ID" rawId
  let task ← fetched (s.a2aTasks.get (principalId,id.val)) (.value "unknown A2A task")
  let principal ← fetched (s.a2aPrincipals.get principalId) (.value "unknown A2A task")
  return ⟨task,principal.senderNodeId⟩

/-- The transaction of `request_a2a_task_cancellation`. -/
def requestCancellation (rt : Runtime) (principalId : String) (request : Value)
    (senderId : String) (draws : ℕ → Token) (now : ℤ) (s : PacketStore) :
    Result (CancelResult × PacketStore) := do
  let item ← s.cancelTarget rt principalId request
  let _ ← normalizeCancelTaskRequest rt request senderId item.task item.senderNodeId
  raiseIf (item.senderNodeId ≠ senderId)
    (.permission "authenticated A2A sender does not own the task")
  if item.task.cancelState ≠ .none then
    return (⟨item,s.cancelDispatches principalId item.task.a2aTaskId,true⟩,s)
  else
    let targets := s.taskMessages principalId item.task.a2aTaskId
    raiseIf (targets = []) (.runtime "A2A task has no internal task mapping")
    let dispatches ← insertCancels rt item.task now targets draws s.a2aDispatches
    let s' := { s with
      a2aDispatches := dispatches
      a2aTasks := s.a2aTasks.update (fun r => r.key = (principalId,item.task.a2aTaskId))
        (A2ATask.requestCancel now) (fun _ => rfl) (noMarks_subset _) }
    let task ← fetched (s'.a2aTasks.get (principalId,item.task.a2aTaskId))
      (.type "'NoneType' object is not subscriptable")
    return (⟨⟨task,item.senderNodeId⟩,s'.cancelDispatches principalId item.task.a2aTaskId,false⟩,s')

/-- `request_a2a_task_cancellation`. -/
def requestA2ATaskCancellation (rt : Runtime) (principalId : ConsumerId) (request : Value)
    (authenticatedSenderId : A2ANodeId) (draws : ℕ → Token) (now : ℤ) :
    PacketStore → Result CancelResult × PacketStore :=
  transaction (requestCancellation rt principalId.val request authenticatedSenderId.val draws now)

/-- One turn of the second loop of `append_a2a_task_events`: an event the log holds is
skipped, any other is checked against the source and the state and inserted. -/
def appendRecord (task : A2ATask) (source : String) (now : ℤ) (log : AppendLoop)
    (record : EventRecord) : Result AppendLoop :=
  if (log.events.first fun e => e.ofTask task.principalId task.a2aTaskId ∧
      e.eventHash = record.eventHash).isSome then
    .ok { log with duplicates := log.duplicates + 1 }
  else do
    raiseIf (task.latestAnetTaskId ≠ source)
      (.value "source Anet task is stale after a newer A2A message")
    let state ← nextState log.state record.event
    let events ← integrity (log.events.insert ⟨task.principalId,task.a2aTaskId,log.sequence + 1,
      source,record.eventHash,record.encoded,now⟩)
    return ⟨events,state,log.sequence + 1,log.appended + 1,log.duplicates⟩

def appendRecords (task : A2ATask) (source : String) (now : ℤ) :
    AppendLoop → List EventRecord → Result AppendLoop
  | log,[] => .ok log
  | log,record :: records => do
    let log ← appendRecord task source now log record
    appendRecords task source now log records

/-- The task of a principal, for the sender the principal is bound to. -/
def ownedTask (principalId a2aTaskId senderId : String) (s : PacketStore) : Result A2ATask := do
  let task ← fetched (s.a2aTasks.get (principalId,a2aTaskId)) (.value "unknown A2A task")
  let principal ← fetched (s.a2aPrincipals.get principalId) (.value "unknown A2A task")
  raiseIf (principal.senderNodeId ≠ senderId)
    (.permission "authenticated A2A sender does not own the task")
  return task

/-- The transaction of `append_a2a_task_events`. -/
def appendEvents (rt : Runtime) (principalId senderId a2aTaskId source : String)
    (events : List Value) (now : ℤ) (s : PacketStore) : Result (AppendResult × PacketStore) := do
  raiseIf (events = [] ∨ 64 < events.length)
    (.value "A2A event append requires a bounded non-empty batch")
  let task ← s.ownedTask principalId a2aTaskId senderId
  raiseIf ((s.a2aMessages.first fun r => r.principalId = principalId ∧
      r.a2aTaskId = a2aTaskId ∧ r.anetTaskId = source).isNone)
    (.value "source Anet task is not bound to the A2A task")
  let records ← eventRecords rt a2aTaskId task.contextId source 0 events
  let log ← appendRecords task source now ⟨s.a2aEvents,task.state,task.lastSequence,0,0⟩ records
  let result : AppendResult := ⟨log.state,log.sequence,log.appended,log.duplicates⟩
  if log.appended = 0 then return (result,{ s with a2aEvents := log.events })
  else
    return (result,{ s with
      a2aEvents := log.events
      a2aTasks := s.a2aTasks.update (fun r => r.key = (principalId,a2aTaskId))
        (A2ATask.advance log.state log.sequence
          (A2ATask.settledCancel task.cancelState log.state) now) (fun _ => rfl)
        (noMarks_subset _) })

/-- `append_a2a_task_events`. -/
def appendA2ATaskEvents (rt : Runtime) (principalId : ConsumerId)
    (authenticatedSenderId : A2ANodeId) (a2aTaskId sourceAnetTaskId : ExternalId)
    (events : List Value) (now : ℤ) : PacketStore → Result AppendResult × PacketStore :=
  transaction (appendEvents rt principalId.val authenticatedSenderId.val a2aTaskId.val
    sourceAnetTaskId.val events now)

/-- `read_a2a_task_events`. -/
def readA2ATaskEvents (rt : Runtime) (principalId : ConsumerId) (a2aTaskId : ExternalId)
    (authenticatedSenderId : A2ANodeId) (afterSequence limit : ℤ) (s : PacketStore) :
    Result EventPage := do
  raiseIf (afterSequence < 0) (.value "A2A event cursor cannot be negative")
  raiseIf (¬ (1 ≤ limit ∧ limit ≤ 1000))
    (.value "A2A event page limit must be between 1 and 1000")
  let task ← s.ownedTask principalId.val a2aTaskId.val authenticatedSenderId.val
  let rows := ((eventsOf s.a2aEvents principalId.val a2aTaskId.val).filter fun e =>
    afterSequence < e.sequence).take limit.toNat
  let items ← eventItems rt rows
  let next := (items.getLast?.map EventItem.sequence).getD afterSequence.toNat
  return ⟨task.state,afterSequence.toNat,next,task.lastSequence,task.lastSequence ≤ next,items⟩

end PacketStore
end Anet
