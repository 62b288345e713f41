import Anet.AgentProtocol
import Anet.Json

/-! The A2A side of the gateway: task states and their transitions, the stream events
a task report turns into, the checks on stored events and on cancel requests. -/
namespace Anet
namespace A2AProtocol

open AgentProtocol

def a2aProtocolVersion : String := "1.0"
def maxIdChars : ℕ := 1024
def maxParts : ℕ := 64

def statusKind : String := "agent.task.status"
def resultKind : String := "agent.task.result"

/-- `_A2A_STATE_TRANSITIONS`. -/
def permits : ReportState → ReportState → Bool
  | .submitted,_ => true
  | .working,next => next ≠ .submitted
  | .inputRequired,next | .authRequired,next => next ≠ .submitted && next ≠ .completed
  | .completed,_ | .failed,_ | .canceled,_ | .rejected,_ => false

/-- `A2A_STATE_BY_ANET`. -/
def a2aState : ReportState → String
  | .submitted => "TASK_STATE_SUBMITTED"
  | .working => "TASK_STATE_WORKING"
  | .inputRequired => "TASK_STATE_INPUT_REQUIRED"
  | .authRequired => "TASK_STATE_AUTH_REQUIRED"
  | .completed => "TASK_STATE_COMPLETED"
  | .failed => "TASK_STATE_FAILED"
  | .canceled => "TASK_STATE_CANCELED"
  | .rejected => "TASK_STATE_REJECTED"

/-- The state of a status update, looked up in `ANET_STATE_BY_A2A`. -/
def anetState : Value → Result ReportState
  | .str s => fetched (reportStates.find? fun state => a2aState state = s)
      (.value "invalid A2A task state")
  | .list _ => .error (.type "unhashable type: 'list'")
  | .map _ => .error (.type "unhashable type: 'dict'")
  | _ => .error (.value "invalid A2A task state")

/-- `_required_string`. -/
def requiredString (name : String) (limit : ℕ) : Value → Result String
  | .str s =>
    let text := strip s
    if text = "" then .error (.value s!"{name} is required")
    else if limit < text.toList.length then .error (.value s!"{name} is too long")
    else .ok text
  | _ => .error (.value s!"{name} is required")

/-- `set(value) - allowed`. -/
def unknownFields (entries : List (Value × Value)) (allowed : List String) : List Value :=
  (entries.map Prod.fst).filter fun k => ¬ allowed.any fun name => k.isStr name

/-- `sorted(unknown)!r`, text first. -/
def shownFields (rt : Runtime) (unknown : List Value) : String :=
  rt.repr (.list (((sortedStrings (unknown.filterMap fun k =>
    match k with | .str s => some s | _ => none)).map .str) ++ unknown.filter fun k =>
      match k with | .str _ => false | _ => true))

def partFields : List String := ["text","raw","url","data","metadata","filename","mediaType"]
def partContentFields : List String := ["text","raw","url","data"]

def base64Alphabet : List Char :=
  "ABCDEFGHIJKLMNOPQRSTUVWXYZabcdefghijklmnopqrstuvwxyz0123456789+/".toList

def base64Char (n : ℕ) : Char := base64Alphabet.getD n 'A'

/-- `base64.b64encode`. -/
def base64Chars : Bytes → List Char
  | [] => []
  | [a] => [base64Char (a.toNat / 4),base64Char (a.toNat % 4 * 16),'=','=']
  | [a,b] => [base64Char (a.toNat / 4),base64Char (a.toNat % 4 * 16 + b.toNat / 16),
      base64Char (b.toNat % 16 * 4),'=']
  | a :: b :: c :: rest => base64Char (a.toNat / 4) ::
      base64Char (a.toNat % 4 * 16 + b.toNat / 16) ::
      base64Char (b.toNat % 16 * 4 + c.toNat / 64) :: base64Char (c.toNat % 64) ::
      base64Chars rest

/-- `base64.b64decode(s, validate=True)` does not raise. -/
def isBase64 (cs : List Char) : Bool :=
  let padding := cs.dropWhile fun c => c ∈ base64Alphabet
  cs.length % 4 = 0 && (padding = [] || padding = ['='] || padding = ['=','='])

/-- The content of a part under one of its content fields. -/
def partContent (rt : Runtime) (field : String) (content : Value) : Result Value :=
  match content with
  | .str s =>
    if field = "data" then jsonClone rt "A2A data Part" content
    else if field = "raw" ∧ ¬ isBase64 s.toList then
      .error (.value "A2A raw Part must be valid base64")
    else if field = "url" ∧ strip s = "" then .error (.value "A2A URL Part cannot be empty")
    else .ok content
  | _ =>
    if field = "data" then jsonClone rt "A2A data Part" content
    else .error (.value s!"A2A Part {field} must be a string")

/-- A text field a part may carry beside its content. -/
def partLabel (entries : List (Value × Value)) (field : String) : Result (List (Value × Value)) :=
  match Value.field entries field with
  | none => .ok []
  | some value => do
    let text ← requiredString s!"A2A Part {field}" maxIdChars value
    return [(.str field,.str text)]

def partMetadata (rt : Runtime) (entries : List (Value × Value)) :
    Result (List (Value × Value)) :=
  match Value.field entries "metadata" with
  | none => .ok []
  | some value => do
    let metadata ← jsonMap rt "A2A Part metadata" value
    return [(.str "metadata",metadata)]

/-- `_normalize_part`. -/
def normalizePart (rt : Runtime) (value : Value) : Result Value := do
  let entries ← fetched value.asMap (.value "A2A message parts must be objects")
  let unknown := unknownFields entries partFields
  let shown := shownFields rt unknown
  raiseIf (unknown ≠ []) (.value s!"unsupported A2A Part fields: {shown}")
  let contents := partContentFields.filter fun name => (Value.field entries name).isSome
  let field ← fetched (if contents.length = 1 then contents.head? else none)
    (.value "A2A Part must contain exactly one content member")
  let content ← partContent rt field (Value.fieldOr entries field .nil)
  let metadata ← partMetadata rt entries
  let filename ← partLabel entries "filename"
  let mediaType ← partLabel entries "mediaType"
  return .map ((.str field,content) :: metadata ++ filename ++ mediaType)

def normalizeParts (rt : Runtime) : List Value → Result (List Value)
  | [] => .ok []
  | part :: parts => do
    let part ← normalizePart rt part
    let parts ← normalizeParts rt parts
    return part :: parts

/-- `value["parts"]`, bounded and checked part by part. -/
def checkParts (rt : Runtime) (message : String) (value : Value) : Result Unit :=
  match value with
  | .list parts => do
    raiseIf (parts = [] ∨ maxParts < parts.length) (.value message)
    let _ ← normalizeParts rt parts
    return ()
  | _ => .error (.value message)

/-- A task status or result after `validate_task_message`. -/
inductive TaskReport
  | status (s : TaskStatus)
  | result (r : TaskResult)

namespace TaskReport

def taskId : TaskReport → String
  | .status s => s.taskId
  | .result r => r.taskId

def state : TaskReport → ReportState
  | .status s => s.state
  | .result r => r.state

/-- The text that goes into the status message. -/
def text : TaskReport → String
  | .status s => strip s.message
  | .result r => strip r.error

def output : TaskReport → Value
  | .status _ => .nil
  | .result r => r.output

def progress : TaskReport → Option UInt64
  | .status s => s.progress
  | .result _ => none

end TaskReport

def taskReport (rt : Runtime) (kind : String) (body : Value) : Result TaskReport :=
  if kind = statusKind then (validateTaskStatus rt body).map .status
  else if kind = resultKind then (validateTaskResult rt body).map .result
  else .error (.value "only Anet task status and result events map to A2A streams")

/-- `_agent_status_message`. -/
def agentStatusMessage (rt : Runtime) (sourceTaskId a2aTaskId contextId state text : String) :
    Value :=
  .map [(.str "messageId",.str (rt.blake2s "a2a-msg1" 16
      (utf8 (sourceTaskId ++ "\x00" ++ state ++ "\x00" ++ text)))),
    (.str "contextId",.str contextId),(.str "taskId",.str a2aTaskId),
    (.str "role",.str "ROLE_AGENT"),
    (.str "parts",.list [.map [(.str "text",.str text),(.str "mediaType",.str "text/plain")]])]

/-- `_output_part`. -/
def outputPart (rt : Runtime) : Value → Result Value
  | .str s => .ok (.map [(.str "text",.str s),(.str "mediaType",.str "text/plain")])
  | .bin b => .ok (.map [(.str "raw",.str (String.ofList (base64Chars b))),
      (.str "mediaType",.str "application/octet-stream")])
  | output => do
    let data ← jsonClone rt "Anet task output" output
    return .map [(.str "data",data),(.str "mediaType",.str "application/json")]

def artifactEvent (a2aTaskId contextId : String) (part : Value) : Value :=
  .map [(.str "artifactUpdate",.map [(.str "taskId",.str a2aTaskId),
    (.str "contextId",.str contextId),
    (.str "artifact",.map [(.str "artifactId",.str "result"),
      (.str "name",.str "Anet task result"),(.str "parts",.list [part])]),
    (.str "append",.bool false),(.str "lastChunk",.bool true)])]

def statusEntries (rt : Runtime) (a2aTaskId contextId : String) (report : TaskReport) :
    List (Value × Value) :=
  (.str "state",.str (a2aState report.state)) ::
    if report.text = "" then []
    else [(.str "message",agentStatusMessage rt report.taskId a2aTaskId contextId
      (stateText report.state) report.text)]

def progressEntries : Option UInt64 → List (Value × Value)
  | none => []
  | some progress => [(.str "metadata",.map [(.str "anetProgress",.float progress)])]

def statusEvent (rt : Runtime) (a2aTaskId contextId : String) (report : TaskReport) : Value :=
  .map [(.str "statusUpdate",.map (([(.str "taskId",.str a2aTaskId),
    (.str "contextId",.str contextId),
    (.str "status",.map (statusEntries rt a2aTaskId contextId report))] : List (Value × Value)) ++
      progressEntries report.progress))]

/-- The artifact of a result that has an output. -/
def artifactEvents (rt : Runtime) (a2aTaskId contextId : String) (report : TaskReport) :
    Result (List Value) :=
  match report.output with
  | .nil => .ok []
  | output => do
    let part ← outputPart rt output
    return [artifactEvent a2aTaskId contextId part]

/-- The task id of the events: the caller's, or the report's own. -/
def streamTaskId (a2aTaskId : String) (report : TaskReport) : Result String :=
  if a2aTaskId = "" then .ok report.taskId
  else requiredString "A2A taskId" maxIdChars (.str a2aTaskId)

/-- `task_event_to_a2a_stream_events`. -/
def taskEventToStreamEvents (rt : Runtime) (kind : String) (body : Value)
    (contextId a2aTaskId : String) : Result (List Value) := do
  raiseIf (kind ≠ statusKind ∧ kind ≠ resultKind)
    (.value "only Anet task status and result events map to A2A streams")
  let contextId ← requiredString "A2A contextId" maxIdChars (.str contextId)
  let report ← taskReport rt kind body
  let a2aTaskId ← streamTaskId a2aTaskId report
  let artifacts ← artifactEvents rt a2aTaskId contextId report
  return artifacts ++ [statusEvent rt a2aTaskId contextId report]

/-- The optional message of a status. -/
def checkStatusMessage (rt : Runtime) (taskId contextId : String) : Value → Result Unit
  | .nil => .ok ()
  | .map message => do
    raiseIf (¬ (Value.fieldOr message "role" .nil).isStr "ROLE_AGENT" ∨
        ¬ (Value.fieldOr message "taskId" .nil).isStr taskId ∨
        ¬ (Value.fieldOr message "contextId" .nil).isStr contextId)
      (.value "A2A status message is not bound to the task")
    let _ ← requiredString "A2A status messageId" maxIdChars (Value.fieldOr message "messageId" .nil)
    checkParts rt "A2A status message requires parts" (Value.fieldOr message "parts" .nil)
  | _ => .error (.value "A2A status message must be an object")

def checkMetadata (rt : Runtime) (name : String) (update : List (Value × Value)) : Result Unit :=
  match Value.field update "metadata" with
  | none => .ok ()
  | some metadata => do
    let _ ← jsonMap rt name metadata
    return ()

def checkStatusUpdate (rt : Runtime) (taskId contextId : String) (update : List (Value × Value)) :
    Result ReportState := do
  raiseIf (unknownFields update ["taskId","contextId","status","metadata"] ≠ [])
    (.value "unsupported A2A status update fields")
  let status ← fetched ((Value.fieldOr update "status" .nil).asMap.filter fun status =>
    unknownFields status ["state","message","timestamp"] = []) (.value "invalid A2A task status")
  let state ← anetState (Value.fieldOr status "state" .nil)
  checkStatusMessage rt taskId contextId (Value.fieldOr status "message" .nil)
  checkMetadata rt "A2A status update metadata" update
  return state

def checkFlag (update : List (Value × Value)) (field : String) : Result Unit :=
  match Value.field update field with
  | none | some (.bool _) => .ok ()
  | some _ => .error (.value s!"A2A artifact update {field} must be boolean")

def checkArtifactUpdate (rt : Runtime) (update : List (Value × Value)) : Result Unit := do
  raiseIf (unknownFields update ["taskId","contextId","artifact","append","lastChunk","metadata"]
    ≠ []) (.value "unsupported A2A artifact update fields")
  let artifact ← fetched ((Value.fieldOr update "artifact" .nil).asMap.filter fun artifact =>
    unknownFields artifact ["artifactId","name","description","parts","metadata","extensions"] = [])
    (.value "invalid A2A artifact")
  let _ ← requiredString "A2A artifactId" maxIdChars (Value.fieldOr artifact "artifactId" .nil)
  checkParts rt "A2A artifact requires parts" (Value.fieldOr artifact "parts" .nil)
  checkFlag update "append"
  checkFlag update "lastChunk"
  checkMetadata rt "A2A artifact update metadata" update

/-- A stored stream event: its JSON value and, for a status update, the state it reports. -/
structure StreamEvent where
  value : Value
  state : Option ReportState

/-- The only member of a decoded object. -/
def wrapper : Value → Option (String × Value)
  | .map [(.str name,update)] => some (name,update)
  | _ => none

/-- `validate_a2a_stream_event`. -/
def validateStreamEvent (rt : Runtime) (value : Value) (taskId contextId : String) :
    Result StreamEvent := do
  let taskId ← requiredString "A2A taskId" maxIdChars (.str taskId)
  let contextId ← requiredString "A2A contextId" maxIdChars (.str contextId)
  let normalized ← jsonClone rt "A2A stream event" value
  let wrapped ← fetched (wrapper normalized)
    (.value "A2A stream event requires exactly one wrapper member")
  raiseIf (wrapped.1 ≠ "statusUpdate" ∧ wrapped.1 ≠ "artifactUpdate")
    (.value "unsupported A2A stream event wrapper")
  let update ← fetched wrapped.2.asMap (.value "A2A stream event update must be an object")
  raiseIf (¬ (Value.fieldOr update "taskId" .nil).isStr taskId ∨
      ¬ (Value.fieldOr update "contextId" .nil).isStr contextId)
    (.value "A2A stream event task or context does not match mapping")
  if wrapped.1 = "statusUpdate" then
    (checkStatusUpdate rt taskId contextId update).map fun state => ⟨normalized,some state⟩
  else (checkArtifactUpdate rt update).map fun _ => ⟨normalized,none⟩

/-- The state a stored event reports, when it is a status update. -/
def eventState (value : Value) : Option ReportState :=
  match wrapper value with
  | some ("statusUpdate",.map update) =>
    match Value.fieldOr update "status" .nil with
    | .map status => (anetState (Value.fieldOr status "state" .nil)).toOption
    | _ => none
  | _ => none

/-- What a validated event holds: the clone of the value and the state it reports. -/
theorem validateStreamEvent_ok {rt : Runtime} {value : Value} {taskId contextId : String}
    {event : StreamEvent} (h : validateStreamEvent rt value taskId contextId = .ok event) :
    value.json rt = some event.value ∧ eventState event.value = event.state := by
  simp only [validateStreamEvent,bind_ok,fetched_ok,raiseIf_ok] at h
  obtain ⟨task,-,context,-,normalized,hclone,wrapped,hwrapped,_,-,update,hupdate,_,-,h⟩ := h
  have hjson := (jsonClone_ok.mp hclone).1
  have hmap : wrapped.2 = .map update := by
    cases hw : wrapped.2 <;> simp_all [Value.asMap]
  have hshape : wrapper normalized = some (wrapped.1,.map update) := by rw [← hmap]; exact hwrapped
  split at h
  · rename_i hstatus
    obtain ⟨state,hcheck,rfl⟩ := map_ok.mp h
    refine ⟨hjson,?_⟩
    simp only [checkStatusUpdate,bind_ok,fetched_ok,raiseIf_ok] at hcheck
    obtain ⟨_,-,status,hfield,found,hstate,_,-,_,-,hval⟩ := hcheck
    cases hval
    have hstatusMap := (Option.filter_eq_some_iff.mp hfield).1
    simp only [eventState,hshape,hstatus]
    cases hv : Value.fieldOr update "status" .nil with
    | map entries =>
      rw [hv] at hstatusMap
      obtain rfl := Option.some.inj hstatusMap
      exact toOption_eq_some.mpr hstate
    | _ => simp [hv,Value.asMap] at hstatusMap
  · rename_i hother
    obtain ⟨_,-,rfl⟩ := map_ok.mp h
    refine ⟨hjson,?_⟩
    simp only [eventState,hshape]
    split
    · rename_i heq
      simp only [Option.some.injEq,Prod.mk.injEq] at heq
      exact absurd heq.1 hother
    · rfl

structure CancelRequest where
  tenant : String
  id : String
  metadata : Value

/-- `normalize_cancel_task_request` against a stored task of the principal's node. -/
def normalizeCancelTaskRequest (rt : Runtime) (request : Value) (senderId : String)
    (task : A2ATask) (taskSender : String) : Result CancelRequest := do
  let entries ← fetched request.asMap (.value "A2A CancelTaskRequest must be an object")
  let unknown := unknownFields entries ["tenant","id","metadata"]
  let shown := shownFields rt unknown
  raiseIf (unknown ≠ []) (.value s!"unsupported A2A CancelTaskRequest fields: {shown}")
  let normalized ← jsonClone rt "A2A CancelTaskRequest" request
  let normalized ← fetched normalized.asMap (.type "A2A CancelTaskRequest")
  let tenant := rt.str (Value.fieldOr normalized "tenant" (.str ""))
  raiseIf (tenant ≠ task.tenant)
    (.permission "A2A tenant does not match the selected interface")
  let id ← requiredString "A2A task ID" maxIdChars (Value.fieldOr normalized "id" .nil)
  raiseIf (id ≠ task.a2aTaskId)
    (.value "A2A cancellation task ID does not match persisted mapping")
  raiseIf (taskSender ≠ senderId)
    (.permission "A2A cancellation sender does not match persisted task mapping")
  raiseIf (task.protocolVersion ≠ a2aProtocolVersion)
    (.value "persisted A2A task uses another protocol version")
  raiseIf (task.state.terminal ∧ ¬ (task.state = .canceled ∧ task.cancelState = .confirmed))
    (.value "terminal A2A task is not cancelable")
  let metadata ← jsonMap rt "A2A CancelTaskRequest.metadata"
    (Value.fieldOr normalized "metadata" .nil)
  return ⟨tenant,id,metadata⟩

end A2AProtocol
end Anet
