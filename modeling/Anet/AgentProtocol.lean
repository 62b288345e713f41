import Anet.StoreSchema

/-! Agent task messages: normalization of the four kinds, and the capability policy a
worker begins a task under. -/
namespace Anet
namespace AgentProtocol

def agentProtocol : String := "anet.agent.task"
def agentProtocolVersion : ℤ := 1
def maxObjectiveChars : ℕ := 16384
def maxMessageChars : ℕ := 8192
def maxCapabilities : ℕ := 64

def requestKind : String := "agent.task.request"
def cancelKind : String := "agent.task.cancel"

/-- `_TASK_ID_RE` after `strip().lower()`. -/
def taskId (value : String) : Result String :=
  let normalized := lower (strip value)
  if isHex 32 normalized then .ok normalized
  else .error (.value "task_id must be 32 lowercase hexadecimal characters")

theorem taskId_hex {value id : String} (h : taskId value = .ok id) : isHex 32 id := by
  simp only [taskId] at h
  generalize lower (strip value) = normalized at h
  split at h
  · rename_i hhex
    rw [← Except.ok.inj h]
    exact hhex
  · cases h

/-- A task id that was normalized once stays as it is. -/
theorem taskId_again {value id : String} (h : taskId value = .ok id) : taskId id = .ok id := by
  have hhex := taskId_hex h
  simp only [taskId,normal_hex hhex,hhex,if_true]

/-- `_CAPABILITY_RE`. -/
def isCapability : String → Bool :=
  matchesWord (fun c => 'a' ≤ c && c ≤ 'z')
    (fun c => ('a' ≤ c && c ≤ 'z') || isDigit c || c == '_' || c == '.' || c == '-') 127

def collectCapabilities (rt : Runtime) : List String → List Value → Result (List String)
  | normalized, [] => .ok normalized
  | normalized, value :: values =>
    let capability := lower (strip (rt.str value))
    if isCapability capability then
      collectCapabilities rt
        (if capability ∈ normalized then normalized else normalized ++ [capability]) values
    else
      let shown := rt.repr value
      .error (.value s!"invalid task capability: {shown}")

def capabilities (rt : Runtime) (values : List Value) : Result (List String) := do
  let normalized ← collectCapabilities rt [] values
  raiseIf (normalized.length > maxCapabilities) (.value "too many task capabilities")
  return sortedStrings normalized

/-- One entry of a policy: `*`, `namespace.*` or a capability. -/
def policyPattern (rt : Runtime) (value : String) : Result String :=
  let pattern := lower (strip value)
  let shown := rt.repr (.str value)
  if pattern = "*" then .ok pattern
  else if pattern.toList.drop (pattern.toList.length - 2) = ['.','*'] then
    let namespace_ := cut (pattern.toList.length - 2) pattern
    if isCapability namespace_ then .ok (namespace_ ++ ".*")
    else .error (.value s!"invalid task capability policy: {shown}")
  else if isCapability pattern then .ok pattern
  else .error (.value s!"invalid task capability policy: {shown}")

def normalizeCapabilityPolicy (rt : Runtime) (values : List String) : Result (List String) := do
  let normalized ← values.mapM (policyPattern rt)
  return sortedStrings normalized.dedup

/-- Does a normalized policy name the capability or a namespace it lies in? -/
def granted (policy : List String) (capability : String) : Bool :=
  capability ∈ policy ||
    policy.any fun pattern =>
      pattern.toList.drop (pattern.toList.length - 2) = ['.','*'] &&
        startsWith capability (cut (pattern.toList.length - 2) pattern ++ ".")

def missingTaskCapabilities (rt : Runtime) (required allowed : List String) :
    Result (List String) := do
  let requiredCapabilities ← capabilities rt (required.map .str)
  let policy ← normalizeCapabilityPolicy rt allowed
  if "*" ∈ policy then return []
  return requiredCapabilities.filter fun capability => ¬ granted policy capability

structure TaskRequest where
  taskId : String
  objective : String
  input : Value
  requiredCapabilities : List String
  context : List (Value × Value)

structure TaskCancel where
  taskId : String
  reason : String

/-- The fields `_base` puts first. -/
def baseEntries (taskId : String) : List (Value × Value) :=
  [(.str "protocol",.str agentProtocol),(.str "version",.int agentProtocolVersion),
    (.str "task_id",.str taskId)]

def TaskRequest.toValue (r : TaskRequest) : Value :=
  .map (baseEntries r.taskId ++
    ([(.str "objective",.str r.objective),(.str "input",r.input),
      (.str "required_capabilities",.list (r.requiredCapabilities.map .str)),
      (.str "context",.map r.context)] : List (Value × Value)))

def TaskCancel.toValue (c : TaskCancel) : Value :=
  .map (baseEntries c.taskId ++ ([(.str "reason",.str c.reason)] : List (Value × Value)))

/-- `task_cancel`. -/
def taskCancel (id reason : String) : Result TaskCancel := do
  let reason := strip reason
  raiseIf (reason = "") (.value "task cancellation reason is required")
  raiseIf (reason.toList.length > maxMessageChars) (.value "task cancellation reason is too long")
  let id ← taskId id
  return ⟨id,reason⟩

/-- The checks `validate_task_message` makes for every kind. -/
def taskMessageBase (rt : Runtime) (body : Value) : Result (List (Value × Value)) := do
  let entries ← fetched body.asMap (.value "agent task body must be a map")
  raiseIf (¬ (Value.fieldOr entries "protocol" .nil).isStr agentProtocol)
    (.value "unsupported agent task protocol")
  let version ← rt.int (Value.fieldOr entries "version" (.int 0))
  raiseIf (version ≠ agentProtocolVersion) (.value "unsupported agent task protocol version")
  return entries

/-- `validate_task_message("agent.task.request", body)`. A request without a
task id gets `drawn`, the value `new_task_id` returns in this call. -/
def validateTaskRequest (rt : Runtime) (drawn : String) (body : Value) : Result TaskRequest := do
  let entries ← taskMessageBase rt body
  let objective := strip (rt.str (Value.fieldOr entries "objective" (.str "")))
  raiseIf (objective = "") (.value "task objective is required")
  raiseIf (objective.toList.length > maxObjectiveChars) (.value "task objective is too long")
  let given := rt.str (Value.fieldOr entries "task_id" (.str ""))
  let id ← taskId (if given = "" then drawn else given)
  let listed ← rt.iter (Value.fieldOr entries "required_capabilities" .nil)
  let required ← capabilities rt listed
  let context ← rt.dict (Value.fieldOr entries "context" .nil)
  return ⟨id,objective,Value.fieldOr entries "input" .nil,required,context⟩

/-- `validate_task_message("agent.task.cancel", body)`. -/
def validateTaskCancel (rt : Runtime) (body : Value) : Result TaskCancel := do
  let entries ← taskMessageBase rt body
  let reason := strip (rt.str (Value.fieldOr entries "reason" (.str "")))
  raiseIf (reason = "") (.value "task cancellation reason is required")
  raiseIf (reason.toList.length > maxMessageChars) (.value "task cancellation reason is too long")
  let id ← taskId (rt.str (Value.fieldOr entries "task_id" (.str "")))
  return ⟨id,reason⟩

/-- `TASK_STATES` as they are written. -/
def stateText : ReportState → String
  | .submitted => "submitted"
  | .working => "working"
  | .inputRequired => "input-required"
  | .authRequired => "auth-required"
  | .completed => "completed"
  | .failed => "failed"
  | .canceled => "canceled"
  | .rejected => "rejected"

def reportStates : List ReportState :=
  [.submitted,.working,.inputRequired,.authRequired,.completed,.failed,.canceled,.rejected]

/-- `str(state).strip().lower()`, when it is one of `TASK_STATES`. -/
def reportState (value : String) : Option ReportState :=
  reportStates.find? fun state => stateText state = lower (strip value)

structure TaskStatus where
  taskId : String
  state : ReportState
  message : String
  progress : Option UInt64

structure TaskResult where
  taskId : String
  state : ReportState
  output : Value
  error : String

/-- `0.0 <= x <= 1.0` on the bits of a double. -/
def inUnitInterval (bits : UInt64) : Bool := bits ≤ 0x3ff0000000000000 || bits = 0x8000000000000000

def taskProgress (rt : Runtime) : Value → Result (Option UInt64)
  | .nil => .ok none
  | value => do
    let progress ← rt.float value
    raiseIf (¬ inUnitInterval progress) (.value "task progress must be between 0 and 1")
    return some progress

/-- `validate_task_message("agent.task.status", body)`. -/
def validateTaskStatus (rt : Runtime) (body : Value) : Result TaskStatus := do
  let entries ← taskMessageBase rt body
  let state ← fetched (reportState (rt.str (Value.fieldOr entries "state" (.str ""))))
    (.value "invalid task state")
  raiseIf state.terminal (.value "terminal task states must use agent.task.result")
  let message := strip (rt.str (Value.fieldOr entries "message" (.str "")))
  raiseIf (message.toList.length > maxMessageChars) (.value "task status message is too long")
  let progress ← taskProgress rt (Value.fieldOr entries "progress" .nil)
  let id ← taskId (rt.str (Value.fieldOr entries "task_id" (.str "")))
  return ⟨id,state,message,progress⟩

/-- `validate_task_message("agent.task.result", body)`. -/
def validateTaskResult (rt : Runtime) (body : Value) : Result TaskResult := do
  let entries ← taskMessageBase rt body
  let state ← fetched ((reportState (rt.str (Value.fieldOr entries "state" (.str "")))).filter
    ReportState.terminal) (.value "task result state must be terminal")
  let error := strip (rt.str (Value.fieldOr entries "error" (.str "")))
  raiseIf (error.toList.length > maxMessageChars) (.value "task result error is too long")
  raiseIf (state = .completed ∧ error ≠ "") (.value "a completed task cannot contain an error")
  raiseIf (state ≠ .completed ∧ error = "")
    (.value "an unsuccessful task result requires an error")
  let id ← taskId (rt.str (Value.fieldOr entries "task_id" (.str "")))
  return ⟨id,state,Value.fieldOr entries "output" .nil,error⟩

end AgentProtocol
end Anet
