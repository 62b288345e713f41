import Anet.Table
import Anet.Encoding

/-! The tables of the packet store. Text columns are strings with the schema's
empty default, flags are booleans and every enumeration of states is a type of
its own. The unique indexes of a table are its marks. -/
namespace Anet

/-- `packets`. -/
structure PacketRow where
  packetId : String
  destinationId : String
  createdMs : ℤ
  expiresMs : ℤ
  maxHops : ℤ
  depth : ℤ
  raw : Bytes
  origin : String
  receivedFrom : String
  insertedMs : ℤ
  delivered : Bool
  qos : String

inductive SyncState | sent | acked
  deriving DecidableEq

/-- `deliveries`: what a peer has of a packet. -/
structure DeliveryRow where
  packetId : String
  peerId : String
  state : SyncState
  attempts : ℕ
  lastAttemptMs : ℤ
  lastError : String

def DeliveryRow.key (r : DeliveryRow) : String × String := (r.packetId,r.peerId)

inductive PathState | sent | custodied | acked
  deriving DecidableEq

/-- `delivery_paths`. -/
structure DeliveryPathRow where
  packetId : String
  peerId : String
  pathId : String
  state : PathState
  attempts : ℕ
  lastAttemptMs : ℤ
  lastError : String

def DeliveryPathRow.key (r : DeliveryPathRow) : String × String × String :=
  (r.packetId,r.peerId,r.pathId)

/-- `inbox`, with the rowid SQLite keeps beside the primary key. -/
structure InboxRow where
  rowid : ℕ
  packetId : String
  senderId : String
  kind : String
  createdMs : ℤ
  receivedMs : ℤ
  codec : String
  body : Bytes
  causal : Bytes
  replyTo : String
  trusted : Bool
  isRead : Bool
  qos : String
  visible : Bool

def InboxRow.marks (r : InboxRow) : List ℕ := [r.rowid]

structure ConsumerGroup where
  groupId : String
  createdMs : ℤ
  startAfterRowid : ℕ
  kindPrefix : String
  senderId : String
  trustedOnly : Bool
  includeTransient : Bool
  deriving DecidableEq

inductive DeliveryState | leased | retry | acked | revoked
  deriving DecidableEq

/-- `consumer_deliveries`. -/
structure ConsumerDelivery where
  groupId : String
  packetId : String
  state : DeliveryState
  owner : String
  claimToken : String
  leaseUntilMs : ℤ
  retryAfterMs : ℤ
  attempts : ℕ
  ackedMs : ℤ
  lastError : String
  deriving DecidableEq

/-- A partial unique index `WHERE column != ''`. -/
def textMark (column : String) : List String := if column = "" then [] else [column]

def ConsumerDelivery.key (r : ConsumerDelivery) : String × String := (r.groupId,r.packetId)
def ConsumerDelivery.marks (r : ConsumerDelivery) : List String := textMark r.claimToken

inductive TaskState | working | retry | canceling | completed | failed | canceled | rejected
  deriving DecidableEq

/-- `TERMINAL_TASK_STATES`. -/
def TaskState.terminal : TaskState → Bool
  | .completed | .failed | .canceled | .rejected => true
  | .working | .retry | .canceling => false

/-- The states in which a worker holds the execution. -/
def TaskState.running (state : TaskState) : Bool := state = .working || state = .canceling

structure TaskKey where
  groupId : String
  senderId : String
  taskId : String
  deriving DecidableEq

/-- `agent_task_executions`. -/
structure AgentTaskExecution where
  key : TaskKey
  requestPacketId : String
  requestHash : String
  state : TaskState
  owner : String
  claimToken : String
  executionToken : String
  attempts : ℕ
  startedMs : ℤ
  updatedMs : ℤ
  completedMs : ℤ
  output : Option Bytes
  error : String
  deriving DecidableEq

def AgentTaskExecution.marks (r : AgentTaskExecution) : List String := textMark r.executionToken

inductive CancelState | requested | applied | tooLate
  deriving DecidableEq

/-- `agent_task_cancellations`. -/
structure AgentTaskCancellation where
  key : TaskKey
  cancelPacketId : String
  cancelHash : String
  reason : String
  state : CancelState
  terminalState : Option TaskState
  requestedMs : ℤ
  updatedMs : ℤ
  appliedMs : ℤ
  deriving DecidableEq

/-- `companion_approval_requests`. -/
structure ApprovalRequest where
  requestId : String
  humanId : String
  deviceNodeId : String
  nonce : String
  requestHash : String
  requestBody : Bytes
  createdMs : ℤ
  expiresMs : ℤ
  registeredMs : ℤ
  deriving DecidableEq

def ApprovalRequest.marks (r : ApprovalRequest) : List (String × String × String) :=
  [(r.humanId,r.deviceNodeId,r.nonce)]

inductive AuthorizationState | active | rejected
  deriving DecidableEq

/-- `companion_approval_authorizations`. -/
structure ApprovalAuthorization where
  requestId : String
  decisionId : String
  decisionPacketId : String
  decisionHash : String
  senderNodeId : String
  humanId : String
  deviceNodeId : String
  nonce : String
  decision : String
  state : AuthorizationState
  maxUses : ℕ
  grantExpiresMs : ℤ
  activatedMs : ℤ
  deriving DecidableEq

def ApprovalAuthorization.marks (r : ApprovalAuthorization) :
    List (String ⊕ (String × String × String)) :=
  [.inl r.decisionId,.inr (r.humanId,r.deviceNodeId,r.nonce)]

inductive EffectState | working | retry | executed | rejected
  deriving DecidableEq

/-- `companion_approval_effects`. -/
structure ApprovalEffect where
  requestId : String
  effectId : String
  idempotencyKey : String
  state : EffectState
  owner : String
  executionToken : String
  leaseUntilMs : ℤ
  retryAfterMs : ℤ
  attempts : ℕ
  startedMs : ℤ
  updatedMs : ℤ
  completedMs : ℤ
  result : Option Bytes
  error : String
  deriving DecidableEq

def ApprovalEffect.key (r : ApprovalEffect) : String × String := (r.requestId,r.effectId)
def ApprovalEffect.marks (r : ApprovalEffect) : List (String ⊕ String) :=
  .inl r.idempotencyKey :: (textMark r.executionToken).map .inr

inductive DispatchState | pending | leased | retry | dispatched
  deriving DecidableEq

/-- `kind`: the two messages the gateway sends to an agent. -/
inductive DispatchKind | request | cancel
  deriving DecidableEq

/-- `a2a_gateway_dispatches`. -/
structure A2ADispatch where
  principalId : String
  messageId : String
  a2aTaskId : String
  anetTaskId : String
  destinationPeerId : String
  kind : DispatchKind
  body : Bytes
  state : DispatchState
  owner : String
  claimToken : String
  encryptionReservationId : String
  leaseUntilMs : ℤ
  retryAfterMs : ℤ
  attempts : ℕ
  packetId : String
  lastError : String
  createdMs : ℤ
  updatedMs : ℤ
  dispatchedMs : ℤ

def A2ADispatch.key (r : A2ADispatch) : String × String := (r.principalId,r.messageId)
def A2ADispatch.marks (r : A2ADispatch) : List ((String × String) ⊕ String) :=
  .inl (r.principalId,r.anetTaskId) :: (textMark r.claimToken).map .inr

/-- `a2a_gateway_principals`. -/
structure A2APrincipal where
  principalId : String
  senderNodeId : String
  createdMs : ℤ
  updatedMs : ℤ

/-- `TASK_STATES`. -/
inductive ReportState
  | submitted | working | inputRequired | authRequired | completed | failed | canceled | rejected
  deriving DecidableEq

/-- `TERMINAL_TASK_STATES`. -/
def ReportState.terminal : ReportState → Bool
  | .completed | .failed | .canceled | .rejected => true
  | .submitted | .working | .inputRequired | .authRequired => false

/-- `cancel_state`; `none` is the empty column. -/
inductive CancelPhase | none | requested | dispatched | confirmed | tooLate
  deriving DecidableEq

/-- `a2a_gateway_tasks`. -/
structure A2ATask where
  principalId : String
  a2aTaskId : String
  contextId : String
  destinationPeerId : String
  skillId : String
  tenant : String
  protocolVersion : String
  state : ReportState
  latestAnetTaskId : String
  messageCount : ℕ
  lastSequence : ℕ
  lastEventMs : ℤ
  cancelState : CancelPhase
  cancelRequestedMs : ℤ
  createdMs : ℤ
  updatedMs : ℤ

def A2ATask.key (r : A2ATask) : String × String := (r.principalId,r.a2aTaskId)

/-- `a2a_gateway_messages`; the body of an older database can be missing. -/
structure A2AMessage where
  principalId : String
  messageId : String
  a2aTaskId : String
  anetTaskId : String
  requestHash : String
  requestBody : Option Bytes
  createdMs : ℤ

def A2AMessage.key (r : A2AMessage) : String × String := (r.principalId,r.messageId)
def A2AMessage.marks (r : A2AMessage) : List (String × String) := [(r.principalId,r.anetTaskId)]

/-- `a2a_gateway_events`. -/
structure A2AEvent where
  principalId : String
  a2aTaskId : String
  sequence : ℕ
  sourceAnetTaskId : String
  eventHash : String
  event : Bytes
  createdMs : ℤ

def A2AEvent.key (r : A2AEvent) : String × String × ℕ := (r.principalId,r.a2aTaskId,r.sequence)
def A2AEvent.marks (r : A2AEvent) : List (String × String × String) :=
  [(r.principalId,r.a2aTaskId,r.eventHash)]

inductive LocalPrekeyState | available | consumed | revoked | retiredUnscoped | expired
  deriving DecidableEq

/-- `local_prekeys`. -/
structure LocalPrekey where
  prekeyId : String
  peerId : String
  bundleVersion : ℤ
  publicKey : Bytes
  privateKey : Option Bytes
  generation : ℤ
  createdMs : ℤ
  expiresMs : ℤ
  state : LocalPrekeyState
  consumedMs : ℤ
  packetId : String
  deriving DecidableEq

/-- `peer_prekey_bundles`. -/
structure PeerPrekeyBundle where
  peerId : String
  generation : ℤ
  bundleVersion : ℤ
  intendedPeerId : String
  bundleHash : String
  createdMs : ℤ
  expiresMs : ℤ
  importedMs : ℤ

def PeerPrekeyBundle.key (r : PeerPrekeyBundle) : String × ℤ := (r.peerId,r.generation)

inductive PeerPrekeyState | available | reserved | used | burned | revoked | expired
  deriving DecidableEq

/-- `peer_prekeys`. -/
structure PeerPrekey where
  peerId : String
  prekeyId : String
  bundleVersion : ℤ
  publicKey : Bytes
  generation : ℤ
  expiresMs : ℤ
  state : PeerPrekeyState
  reservationId : String
  packetId : String
  usedMs : ℤ
  deriving DecidableEq

def PeerPrekey.key (r : PeerPrekey) : String × String := (r.peerId,r.prekeyId)

/-- `receipts`. -/
structure ReceiptRow where
  packetId : String
  recipientId : String
  deliveredMs : ℤ
  deriving DecidableEq

/-- `packet_rejections`. -/
structure PacketRejection where
  packetId : String
  peerId : String
  rejectedMs : ℤ
  reason : String

/-- The integer entries of `store_metadata`. -/
structure StoreMetadata where
  key : String
  integerValue : ℤ

abbrev Packets := Table PacketRow.packetId noMarks
abbrev Deliveries := Table DeliveryRow.key noMarks
abbrev DeliveryPaths := Table DeliveryPathRow.key noMarks
abbrev Inbox := Table InboxRow.packetId InboxRow.marks
abbrev ConsumerGroups := Table ConsumerGroup.groupId noMarks
abbrev ConsumerDeliveries := Table ConsumerDelivery.key ConsumerDelivery.marks
abbrev Executions := Table AgentTaskExecution.key AgentTaskExecution.marks
abbrev Cancellations := Table AgentTaskCancellation.key noMarks
abbrev ApprovalRequests := Table ApprovalRequest.requestId ApprovalRequest.marks
abbrev Authorizations := Table ApprovalAuthorization.requestId ApprovalAuthorization.marks
abbrev ApprovalEffects := Table ApprovalEffect.key ApprovalEffect.marks
abbrev Dispatches := Table A2ADispatch.key A2ADispatch.marks
abbrev A2APrincipals := Table A2APrincipal.principalId noMarks
abbrev A2ATasks := Table A2ATask.key noMarks
abbrev A2AMessages := Table A2AMessage.key A2AMessage.marks
abbrev A2AEvents := Table A2AEvent.key A2AEvent.marks
abbrev LocalPrekeys := Table LocalPrekey.prekeyId noMarks
abbrev PeerPrekeyBundles := Table PeerPrekeyBundle.key noMarks
abbrev PeerPrekeys := Table PeerPrekey.key noMarks
abbrev Receipts := Table ReceiptRow.packetId noMarks
abbrev PacketRejections := Table PacketRejection.packetId noMarks
abbrev Metadata := Table StoreMetadata.key noMarks

/-- The committed contents of the database. -/
structure PacketStore where
  packets : Packets
  deliveries : Deliveries
  deliveryPaths : DeliveryPaths
  inbox : Inbox
  consumerGroups : ConsumerGroups
  consumerDeliveries : ConsumerDeliveries
  agentTaskExecutions : Executions
  agentTaskCancellations : Cancellations
  approvalRequests : ApprovalRequests
  approvalAuthorizations : Authorizations
  approvalEffects : ApprovalEffects
  a2aPrincipals : A2APrincipals
  a2aTasks : A2ATasks
  a2aMessages : A2AMessages
  a2aEvents : A2AEvents
  a2aDispatches : Dispatches
  localPrekeys : LocalPrekeys
  peerPrekeyBundles : PeerPrekeyBundles
  peerPrekeys : PeerPrekeys
  receipts : Receipts
  packetRejections : PacketRejections
  storeMetadata : Metadata

namespace PacketStore

variable {α : Type*}

/-- A new database. -/
def empty : PacketStore :=
  ⟨.empty,.empty,.empty,.empty,.empty,.empty,.empty,.empty,.empty,.empty,.empty,.empty,.empty,
    .empty,.empty,.empty,.empty,.empty,.empty,.empty,.empty,.empty⟩

/-- `BEGIN IMMEDIATE`, the body, and `COMMIT` or `ROLLBACK`. -/
def transaction (body : PacketStore → Result (α × PacketStore)) (s : PacketStore) :
    Result α × PacketStore :=
  match body s with
  | .ok (a,s') => (.ok a,s')
  | .error e => (.error e,s)

theorem transaction_cases (body : PacketStore → Result (α × PacketStore)) (s : PacketStore) :
    (∃ a s', body s = .ok (a,s') ∧ transaction body s = (.ok a,s')) ∨
      ∃ e, body s = .error e ∧ transaction body s = (.error e,s) := by
  unfold transaction
  cases h : body s with
  | error e => exact Or.inr ⟨e,rfl,rfl⟩
  | ok r => exact Or.inl ⟨r.1,r.2,rfl,rfl⟩

/-- A transaction that raises leaves the database as it was. -/
theorem transaction_error {body : PacketStore → Result (α × PacketStore)} {s : PacketStore}
    {e : PyError} (h : (transaction body s).1 = .error e) : (transaction body s).2 = s := by
  rcases transaction_cases body s with ⟨a,s',-,ht⟩ | ⟨e',-,ht⟩
  · rw [ht] at h
    cases h
  · rw [ht]

theorem transaction_ok {body : PacketStore → Result (α × PacketStore)} {s : PacketStore} {a : α}
    (h : (transaction body s).1 = .ok a) : body s = .ok (a,(transaction body s).2) := by
  rcases transaction_cases body s with ⟨b,s',hb,ht⟩ | ⟨e,-,ht⟩
  · rw [ht] at h ⊢
    obtain rfl := Except.ok.inj h
    exact hb
  · rw [ht] at h
    cases h

end PacketStore

/-- The part of a call that builds its result after the commit. -/
def afterCommit {α β : Type} (f : α → Result β) (r : Result α × PacketStore) :
    Result β × PacketStore :=
  (r.1 >>= f,r.2)

/-- An `INSERT` or `UPDATE` a unique index may refuse. -/
def integrity {α : Type*} (t : Option α) : Result α := t.elim (.error .integrity) .ok

theorem integrity_ok {α : Type*} {t : Option α} {a : α} : integrity t = .ok a ↔ t = some a := by
  cases t <;> simp [integrity]

end Anet
