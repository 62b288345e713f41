import Anet.ControlPages
import Anet.GatewayStore

/-! The way of an A2A message into the gateway: `inbound_message_to_task` turns it into a task
request, whose id is derived from the sender and the message. -/
namespace Anet

open AgentProtocol RemoteControl

namespace A2AProtocol

def requestFields : List String := ["tenant","message","configuration","metadata"]

def messageFields : List String :=
  ["messageId","contextId","taskId","role","parts","metadata","extensions","referenceTaskIds"]

/-- `_MAX_OBJECTIVE_CHARS` of the A2A side. -/
def maxInboundObjective : ℕ := 16000

/-- The fields of `A2ASkillBinding` that a message needs. -/
structure A2ASkillBinding where
  id : String
  requiredCapabilities : List String

structure A2AInboundTask where
  taskId : String
  a2aTaskId : String
  contextId : String
  messageId : String
  skillId : String
  message : Value
  body : Value

/-- `_safe_id`. -/
def safeId (value name : String) : Result String := do
  let text ← requiredString name 128 (.str value)
  raiseIf (¬ matchesWord (fun c => 'a' ≤ c && c ≤ 'z')
      (fun c => ('a' ≤ c && c ≤ 'z') || isDigit c || c == '_' || c == '.' || c == '-') 127 (lower text))
    (.value s!"{name} must use lowercase capability-style syntax")
  return lower text

/-- What the id of a message is derived from. -/
def idText (sender external : String) : Bytes := utf8 (sender ++ "\x00" ++ external)

/-- `_derived_id`. -/
def derivedId (rt : Runtime) (person sender external : String) : Result String := do
  let sender ← requiredString "authenticated sender ID" 512 (.str sender)
  let external ← requiredString "A2A messageId" maxIdChars (.str external)
  return rt.blake2s person 16 (idText sender external)

/-- `_string_list`. -/
def stringList (name : String) : Value → Result (List String)
  | .nil => .ok []
  | .list items => do
    raiseIf (64 < items.length) (.value s!"{name} must be a bounded list")
    items.mapM (requiredString s!"{name} item" maxIdChars)
  | _ => .error (.value s!"{name} must be a bounded list")

/-- A message after `_normalize_message`: its id, its parts and the other fields. -/
structure InboundMessage where
  messageId : String
  parts : List Value
  rest : List (Value × Value)

def InboundMessage.entries (m : InboundMessage) : List (Value × Value) :=
  ([(.str "messageId",.str m.messageId),(.str "role",.str "ROLE_USER"),
    (.str "parts",.list m.parts)] : List (Value × Value)) ++ m.rest

/-- The context id of a message, if it has one. -/
def messageContext (entries : List (Value × Value)) : Result (List (Value × Value)) :=
  if truthy (Value.fieldOr entries "contextId" .nil) then do
    let id ← requiredString "A2A contextId" maxIdChars (Value.fieldOr entries "contextId" .nil)
    return [(.str "contextId",.str id)]
  else .ok []

def messageMetadata (rt : Runtime) (entries : List (Value × Value)) : Result (List (Value × Value)) :=
  match Value.field entries "metadata" with
  | none => .ok []
  | some value => do
    let metadata ← jsonMap rt "A2A Message metadata" value
    return [(.str "metadata",metadata)]

/-- `extensions` and `referenceTaskIds`. -/
def messageList (entries : List (Value × Value)) (field : String) : Result (List (Value × Value)) :=
  match Value.field entries field with
  | none => .ok []
  | some value => do
    let items ← stringList s!"A2A Message {field}" value
    return [(.str field,.list (items.map .str))]

/-- The parts of a message, bounded and normalized one by one. -/
def messageParts (rt : Runtime) : Value → Result (List Value)
  | .list parts => do
    raiseIf (parts = [] ∨ maxParts < parts.length)
      (.value "A2A Message requires a bounded non-empty parts list")
    normalizeParts rt parts
  | _ => .error (.value "A2A Message requires a bounded non-empty parts list")

/-- `_normalize_message`. -/
def normalizeMessage (rt : Runtime) (value : Value) : Result InboundMessage := do
  let entries ← fetched value.asMap
    (.value "A2A SendMessageRequest.message must be an object")
  let unknown := unknownFields entries messageFields
  let shown := shownFields rt unknown
  raiseIf (unknown ≠ []) (.value s!"unsupported A2A Message fields: {shown}")
  let messageId ← requiredString "A2A messageId" maxIdChars (Value.fieldOr entries "messageId" .nil)
  raiseIf (¬ (Value.fieldOr entries "role" .nil).isStr "ROLE_USER")
    (.value "A2A inbound Message role must be ROLE_USER")
  raiseIf (truthy (Value.fieldOr entries "taskId" .nil))
    (.value "A2A follow-up taskId requires a persisted gateway task mapping")
  let parts ← messageParts rt (Value.fieldOr entries "parts" .nil)
  let context ← messageContext entries
  let metadata ← messageMetadata rt entries
  let extensions ← messageList entries "extensions"
  let references ← messageList entries "referenceTaskIds"
  return ⟨messageId,parts,context ++ metadata ++ extensions ++ references⟩

/-- The text of a part, when it has one. -/
def partText : Value → Option String
  | .map entries =>
    match Value.field entries "text" with
    | some (.str s) => if strip s = "" then none else some (strip s)
    | _ => none
  | _ => none

/-- `_objective`. -/
def inboundObjective (m : InboundMessage) : String :=
  let text := "\n".intercalate (m.parts.filterMap partText)
  if text = "" then s!"Handle A2A message {m.messageId}"
  else if text.toList.length ≤ maxInboundObjective then text
  else cut (maxInboundObjective - 1) text ++ "…"

/-- `task_request`. -/
def taskRequest (rt : Runtime) (drawn objective : String) (input : Value)
    (requiredCapabilities : List String) (given : String) (context : List (Value × Value)) :
    Result TaskRequest := do
  let objective := strip objective
  raiseIf (objective = "") (.value "task objective is required")
  raiseIf (objective.toList.length > maxObjectiveChars) (.value "task objective is too long")
  let id ← AgentProtocol.taskId (if given = "" then drawn else given)
  let required ← capabilities rt (requiredCapabilities.map .str)
  return ⟨id,objective,input,required,context⟩

/-- `message[name] = value`. -/
def setField (entries : List (Value × Value)) (name : String) (value : Value) :
    List (Value × Value) :=
  if (Value.field entries name).isSome then
    entries.map fun e => if e.1.isStr name then (e.1,value) else e
  else entries ++ [(.str name,value)]

/-- The task and the context that a message belongs to, and the message with them. -/
def inboundTarget (rt : Runtime) (sender taskId skillId tenant rawTaskId : String) (m : InboundMessage) :
    Option A2ATaskItem → Result (String × String × List (Value × Value))
  | none => do
    let derived ← derivedId rt "a2a-ctx1" sender m.messageId
    let contextId := match Value.field m.rest "contextId" with
      | some (.str id) => id
      | _ => "anet-" ++ derived
    return (taskId,contextId,m.entries)
  | some item => do
    let a2aTaskId ← requiredString "persisted A2A task ID" maxIdChars (.str item.task.a2aTaskId)
    let contextId ← requiredString "persisted A2A context ID" maxIdChars (.str item.task.contextId)
    raiseIf (rawTaskId ≠ a2aTaskId)
      (.value "A2A follow-up taskId does not match persisted mapping")
    raiseIf (item.senderNodeId ≠ sender)
      (.permission "A2A follow-up sender does not match persisted task mapping")
    raiseIf (item.task.skillId ≠ skillId)
      (.permission "A2A follow-up skill does not match persisted task mapping")
    raiseIf (item.task.tenant ≠ tenant)
      (.permission "A2A follow-up tenant does not match persisted task mapping")
    raiseIf (item.task.protocolVersion ≠ a2aProtocolVersion)
      (.value "persisted A2A task uses another protocol version")
    raiseIf ((Value.field m.rest "contextId").any fun v => ¬ v.isStr contextId)
      (.value "A2A follow-up contextId does not match persisted task mapping")
    return (a2aTaskId,contextId,
      setField (setField m.entries "taskId" (.str a2aTaskId)) "contextId" (.str contextId))

/-- The `taskId` of a raw message. -/
def rawTaskId (rt : Runtime) : Value → String
  | .map entries => strip (rt.str (Value.fieldOr entries "taskId" (.str "")))
  | _ => ""

/-- A raw message without its `taskId`. -/
def withoutTaskId : Value → Value
  | .map entries => .map (entries.filter fun e => ¬ e.1.isStr "taskId")
  | value => value

/-- `inbound_message_to_task`. -/
def inboundMessageToTask (rt : Runtime) (drawn : String) (request : Value) (sender : String)
    (skill : A2ASkillBinding) (expectedTenant : String) (existing : Option A2ATaskItem) :
    Result A2AInboundTask := do
  let entries ← fetched request.asMap (.value "A2A SendMessageRequest must be an object")
  let unknown := unknownFields entries requestFields
  let shown := shownFields rt unknown
  raiseIf (unknown ≠ []) (.value s!"unsupported A2A SendMessageRequest fields: {shown}")
  let clone ← jsonClone rt "A2A SendMessageRequest" request
  let normalized ← fetched clone.asMap (.type "A2A SendMessageRequest")
  let tenant := rt.str (Value.fieldOr normalized "tenant" (.str ""))
  raiseIf (tenant ≠ expectedTenant)
    (.permission "A2A tenant does not match the selected interface")
  let raw := Value.fieldOr normalized "message" .nil
  raiseIf (rawTaskId rt raw ≠ "" ∧ existing.isNone)
    (.value "A2A follow-up taskId requires a persisted gateway task mapping")
  raiseIf (existing.isSome ∧ rawTaskId rt raw = "")
    (.value "persisted A2A task mapping requires a follow-up taskId")
  let message ← normalizeMessage rt (if rawTaskId rt raw = "" then raw else withoutTaskId raw)
  let taskId ← derivedId rt "a2a-task" sender message.messageId
  let skillId ← safeId skill.id "A2A skill id"
  let target ← inboundTarget rt sender taskId skillId tenant (rawTaskId rt raw) message existing
  let configuration ← jsonMap rt "A2A SendMessageRequest.configuration"
    (Value.fieldOr normalized "configuration" .nil)
  let metadata ← jsonMap rt "A2A SendMessageRequest.metadata"
    (Value.fieldOr normalized "metadata" .nil)
  let body ← taskRequest rt drawn (inboundObjective message)
    (.map [(.str "a2aMessage",.map target.2.2),(.str "configuration",configuration),
      (.str "metadata",metadata)]) skill.requiredCapabilities taskId
    [(.str "a2a",.map [(.str "protocolVersion",.str a2aProtocolVersion),
      (.str "messageId",.str message.messageId),(.str "contextId",.str target.2.1),
      (.str "taskId",.str target.1),(.str "skillId",.str skillId),(.str "tenant",.str tenant)])]
  return ⟨taskId,target.1,target.2.1,message.messageId,skillId,.map target.2.2,body.toValue⟩

end A2AProtocol
end Anet
