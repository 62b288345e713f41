import Anet.Encoding

/-! Companion approvals: normalization of approval requests and decisions, and
the binding of a decision to its request. -/
namespace Anet
namespace CompanionProtocol

def companionProtocol : String := "anet.companion"
def companionProtocolVersion : ℤ := 1
def approvalRequestKind : String := "companion.approval.request"
def approvalDecisionKind : String := "companion.approval.decision"
def maxApprovalRequestTtlMs : ℤ := 15 * 60 * 1000
def maxApprovalGrantTtlMs : ℤ := 60 * 60 * 1000

abbrev Fields := List (Value × Value)

/-- `value[name]` once the field is known to be there. -/
def item (fields : Fields) (name : String) : Value := Value.fieldOr fields name .nil

/-- `{**value, name: new, ...}` for names the map has. -/
def override (fields : Fields) (news : List (String × Value)) : Fields :=
  fields.map fun e =>
    match news.find? fun n => e.1.isStr n.1 with
    | some n => (e.1,n.2)
    | none => e

/-- `_exact`. -/
def exact (required : List String) (name : String) (value : Value) : Result Fields := do
  let fields ← fetched value.asMap (.value s!"{name} must be a map")
  let missing := required.filter fun r => (Value.field fields r).isNone
  let unknown := fields.filter fun e => ¬ required.any fun r => e.1.isStr r
  raiseIf (missing ≠ [])
    (.value (s!"{name} is missing fields: " ++ ", ".intercalate (sortedStrings missing)))
  let names := unknown.filterMap fun e => match e.1 with | .str s => some s | _ => none
  raiseIf (names.length ≠ unknown.length) (.type "'<' not supported between instances")
  raiseIf (names ≠ [])
    (.value (s!"{name} has unknown fields: " ++ ", ".intercalate (sortedStrings names)))
  return fields

def normalized (rt : Runtime) (value : Value) : String := lower (strip (rt.str value))

def identifier (rt : Runtime) (name : String) (value : Value) : Result String :=
  if isHex 32 (normalized rt value) then .ok (normalized rt value)
  else .error (.value s!"{name} must be 32 lowercase hexadecimal characters")

def digest (rt : Runtime) (name : String) (value : Value) : Result String :=
  if isHex 64 (normalized rt value) then .ok (normalized rt value)
  else .error (.value s!"{name} must be 64 lowercase hexadecimal characters")

/-- A three letter prefix and at least 17 base32 characters. -/
def isScopedId (start s : String) : Bool :=
  startsWith s start && 17 ≤ (s.toList.drop 3).length &&
    (s.toList.drop 3).all fun c => ('a' ≤ c && c ≤ 'z') || ('2' ≤ c && c ≤ '7')

def nodeId (rt : Runtime) (value : Value) : Result String :=
  if isScopedId "an1" (normalized rt value) then .ok (normalized rt value)
  else .error (.value "invalid device_node_id")

def humanId (rt : Runtime) (value : Value) : Result String :=
  if isScopedId "hu1" (normalized rt value) then .ok (normalized rt value)
  else .error (.value "invalid human_id")

/-- `_TOKEN_RE`. -/
def capabilityToken (rt : Runtime) (name : String) (value : Value) : Result String :=
  if matchesWord (fun c => 'a' ≤ c && c ≤ 'z')
      (fun c => ('a' ≤ c && c ≤ 'z') || isDigit c || c == '_' || c == '.' || c == '-') 127
      (normalized rt value) then .ok (normalized rt value)
  else .error (.value s!"invalid {name}")

def text (rt : Runtime) (name : String) (required : Bool) (limit : ℕ) (value : Value) :
    Result String := do
  raiseIf value.isBin (.value s!"{name} must be text")
  let normalized := strip (rt.str value)
  raiseIf (required ∧ normalized = "") (.value s!"{name} is required")
  raiseIf (limit < normalized.toList.length) (.value s!"{name} is too long")
  return normalized

def integer (name : String) (minimum : ℤ) : Value → Result ℤ
  | .int i => if minimum ≤ i then .ok i else .error (.value s!"invalid {name}")
  | _ => .error (.value s!"invalid {name}")

def timestamp (name : String) (value : Value) : Result ℤ := integer name 1 value

def lifetime (createdMs expiresMs : Value) (maxTtlMs : ℤ) : Result (ℤ × ℤ) := do
  let created ← timestamp "created_ms" createdMs
  let expires ← timestamp "expires_ms" expiresMs
  raiseIf (expires ≤ created ∨ maxTtlMs < expires - created) (.value "invalid object lifetime")
  return (created,expires)

/-- `value == 1` in Python. -/
def equalsVersion : Value → Bool
  | .int i => i = companionProtocolVersion
  | .bool b => b
  | .float bits => bits = 0x3FF0000000000000
  | _ => false

structure BaseFields where
  fields : Fields
  objectId : Value
  createdMs : ℤ
  expiresMs : ℤ

/-- `_validate_base`. The object id is checked and kept as it was sent. -/
def validateBaseWithin (rt : Runtime) (objectType objectIdName : String) (additional : List String)
    (maxTtlMs : ℤ) (body : Value) : Result BaseFields := do
  let entries ← fetched body.asMap (.value s!"{objectType} must be a map")
  raiseIf (¬ (Value.fieldOr entries "protocol" .nil).isStr companionProtocol)
    (.value "unsupported Companion protocol")
  raiseIf (¬ equalsVersion (Value.fieldOr entries "version" .nil))
    (.value "unsupported Companion protocol version")
  raiseIf (¬ (Value.fieldOr entries "object_type" .nil).isStr objectType)
    (.value "Companion kind/object_type mismatch")
  let fields ← exact (["protocol","version","object_type",objectIdName,"created_ms","expires_ms"] ++
    additional) objectType body
  let _ ← identifier rt objectIdName (item fields objectIdName)
  let times ← lifetime (item fields "created_ms") (item fields "expires_ms") maxTtlMs
  return ⟨fields,item fields objectIdName,times.1,times.2⟩

/-- `_validate_base` of the approval objects, which have a shorter life. -/
def validateBase (rt : Runtime) (objectType objectIdName : String) (additional : List String)
    (body : Value) : Result BaseFields :=
  validateBaseWithin rt objectType objectIdName additional maxApprovalRequestTtlMs body

structure ApprovalAction where
  capability : String
  resource : String
  parametersDigest : String
  summary : String
  deriving DecidableEq

def ApprovalAction.toValue (a : ApprovalAction) : Value :=
  .map [(.str "capability",.str a.capability),(.str "resource",.str a.resource),
    (.str "parameters_digest",.str a.parametersDigest),(.str "summary",.str a.summary)]

/-- `_RESOURCE_RE`. -/
def isResource : String → Bool :=
  matchesWord (fun c => isAlpha c || isDigit c)
    (fun c => isAlpha c || isDigit c || c ∈ [':','/','_','.','@','-']) 511

def approvalAction (rt : Runtime) (value : Value) : Result ApprovalAction := do
  let fields ← exact ["capability","resource","parameters_digest","summary"] "approval action" value
  let resource := strip (rt.str (item fields "resource"))
  raiseIf (¬ isResource resource) (.value "invalid approval resource")
  let capability ← capabilityToken rt "approval capability" (item fields "capability")
  let parametersDigest ← digest rt "parameters_digest" (item fields "parameters_digest")
  let summary ← text rt "approval action summary" true 512 (item fields "summary")
  return ⟨capability,resource,parametersDigest,summary⟩

structure ApprovalScope where
  mode : String
  maxUses : ℕ
  grantExpiresMs : ℤ
  deriving DecidableEq

def ApprovalScope.toValue (a : ApprovalScope) : Value :=
  .map [(.str "mode",.str a.mode),(.str "max_uses",.int a.maxUses),
    (.str "grant_expires_ms",.int a.grantExpiresMs)]

def approvalScope (rt : Runtime) (createdMs : ℤ) (value : Value) : Result ApprovalScope := do
  let fields ← exact ["mode","max_uses","grant_expires_ms"] "approval scope" value
  let mode := normalized rt (item fields "mode")
  raiseIf (¬ (mode = "once" ∨ mode = "bounded"))
    (.value "approval scope mode must be once or bounded")
  let maxUses ← integer "approval max_uses" 1 (item fields "max_uses")
  let grantExpires ← timestamp "grant_expires_ms" (item fields "grant_expires_ms")
  raiseIf (grantExpires ≤ createdMs ∨ maxApprovalGrantTtlMs < grantExpires - createdMs)
    (.value "invalid approval grant lifetime")
  raiseIf (mode = "once" ∧ maxUses ≠ 1) (.value "once approval must have max_uses=1")
  raiseIf (mode = "bounded" ∧ 100 < maxUses) (.value "bounded approval max_uses exceeds limit")
  return ⟨mode,maxUses.toNat,grantExpires⟩

/-- A normalized request; `fields` is the map that is hashed and stored. -/
structure ApprovalRequestBody where
  requestId : String
  humanId : String
  deviceNodeId : String
  action : ApprovalAction
  scope : ApprovalScope
  risk : String
  nonce : String
  createdMs : ℤ
  expiresMs : ℤ
  fields : Fields

/-- A normalized decision; `fields` is the map that is hashed. -/
structure ApprovalDecisionBody where
  decisionId : String
  requestId : String
  humanId : String
  deviceNodeId : String
  decision : String
  reason : String
  nonce : String
  action : ApprovalAction
  scope : ApprovalScope
  createdMs : ℤ
  expiresMs : ℤ
  fields : Fields

/-- An object id as SQLite stores it. -/
def columnText (rt : Runtime) : Value → String
  | .str s => s
  | v => rt.str v

/-- `_validate_approval_request`. -/
def validateApprovalRequest (rt : Runtime) (body : Value) : Result ApprovalRequestBody := do
  let base ← validateBase rt "approval_request" "request_id"
    ["human_id","device_node_id","action","scope","risk","nonce"] body
  let human ← humanId rt (item base.fields "human_id")
  let device ← nodeId rt (item base.fields "device_node_id")
  let action ← approvalAction rt (item base.fields "action")
  let scope ← approvalScope rt base.createdMs (item base.fields "scope")
  let risk ← text rt "approval risk" true 1024 (item base.fields "risk")
  let nonce ← identifier rt "approval nonce" (item base.fields "nonce")
  return ⟨columnText rt base.objectId,human,device,action,scope,risk,nonce,base.createdMs,
    base.expiresMs,override base.fields [("human_id",.str human),("device_node_id",.str device),
      ("action",action.toValue),("scope",scope.toValue),("risk",.str risk),("nonce",.str nonce)]⟩

/-- `_validate_approval_decision`. -/
def validateApprovalDecision (rt : Runtime) (body : Value) : Result ApprovalDecisionBody := do
  let base ← validateBase rt "approval_decision" "decision_id"
    ["request_id","human_id","device_node_id","decision","reason","nonce","action","scope"] body
  let decision := normalized rt (item base.fields "decision")
  raiseIf (¬ (decision = "approved" ∨ decision = "rejected")) (.value "invalid approval decision")
  let requestId ← identifier rt "request_id" (item base.fields "request_id")
  let human ← humanId rt (item base.fields "human_id")
  let device ← nodeId rt (item base.fields "device_node_id")
  let reason ← text rt "approval decision reason" false 1024 (item base.fields "reason")
  let nonce ← identifier rt "approval nonce" (item base.fields "nonce")
  let action ← approvalAction rt (item base.fields "action")
  let scope ← approvalScope rt base.createdMs (item base.fields "scope")
  return ⟨columnText rt base.objectId,requestId,human,device,decision,reason,nonce,action,scope,
    base.createdMs,base.expiresMs,override base.fields [("request_id",.str requestId),
      ("human_id",.str human),("device_node_id",.str device),("decision",.str decision),
      ("reason",.str reason),("nonce",.str nonce),("action",action.toValue),
      ("scope",scope.toValue)]⟩

def mismatch (field : String) : PyError :=
  .value s!"approval decision does not match request {field}"

/-- `validate_approval_decision_binding` of two objects, which normalizes both; the request id of
the request is compared as it was sent. -/
def validateApprovalDecisionBinding (rt : Runtime) (request decision : Value) :
    Result ApprovalDecisionBody := do
  let request ← validateApprovalRequest rt request
  let decision ← validateApprovalDecision rt decision
  raiseIf (¬ (item request.fields "request_id").isStr decision.requestId) (mismatch "request_id")
  raiseIf (decision.humanId ≠ request.humanId) (mismatch "human_id")
  raiseIf (decision.deviceNodeId ≠ request.deviceNodeId) (mismatch "device_node_id")
  raiseIf (decision.nonce ≠ request.nonce) (mismatch "nonce")
  raiseIf (decision.action ≠ request.action) (mismatch "action")
  raiseIf (decision.scope ≠ request.scope) (mismatch "scope")
  raiseIf (decision.createdMs < request.createdMs)
    (.value "approval decision predates its request")
  raiseIf (request.expiresMs ≤ decision.createdMs)
    (.value "approval decision was created after request expiry")
  return decision

end CompanionProtocol
end Anet
