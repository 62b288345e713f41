import Anet.CompanionProtocol
import Anet.Json

/-! Companion messages as the phone validates them: the six kinds, their fields
and limits, and the binding of a message to the nodes at its ends. JSON elements
are values whose map keys are texts; a number is an integer when its literal fits
a signed 64-bit word and a double otherwise. -/
namespace Anet

/-- The exceptions of the phone's ledger, with their messages. -/
inductive MobileError
  | companionValidation (message : String) | illegalArgument (message : String)
  | illegalState (message : String) | security (message : String)
  | serialization | constraint | badTag
  deriving DecidableEq

abbrev MobileResult := Except MobileError

namespace MobileProtocol

def observationBatch : String := "companion.observation.batch"
def episode : String := "companion.episode"
def intervention : String := "companion.intervention"
def userResponse : String := "companion.user-response"
def approvalRequest : String := "companion.approval.request"
def approvalDecision : String := "companion.approval.decision"

def dayMs : ℤ := 24 * 60 * 60 * 1000
def maxBodyTtlMs : ℤ := 7 * dayMs
def maxApprovalRequestTtlMs : ℤ := 15 * 60 * 1000
def maxApprovalGrantTtlMs : ℤ := 60 * 60 * 1000
def maxClockSkewMs : ℤ := 5 * 60 * 1000

def observationTypes : List String :=
  ["device.battery","device.network","human.presence","human.self-report",
    "device.app-category-window"]

/-- The basis and the scope an episode type asks for. -/
def episodeContracts : List (String × String × String) :=
  [("device.battery-window","device-essential","device.battery"),
    ("device.connectivity-window","device-essential","device.network"),
    ("human.presence-window","user-opt-in","human.presence"),
    ("human.self-report","user-initiated","human.self-report"),
    ("device.app-category-window","user-opt-in","device.app-category-window")]

def forbiddenKeys : List String :=
  ["audio","audio_bytes","image","image_bytes","video","video_bytes","raw","raw_events",
    "precise_location","latitude","longitude","chat_body","message_body","health_detail",
    "diagnosis","emotion","mood","fatigue","human_state","state_hypothesis"]

abbrev Fields := List (Value × Value)

def fail {α : Type} (message : String) : MobileResult α := .error (.companionValidation message)

def requireValue (c : Prop) [Decidable c] (message : String) : MobileResult Unit :=
  if c then .ok () else fail message

/-- `Char.isWhitespace`. -/
def isKotlinSpace (c : Char) : Bool := isPySpace c && c.toNat != 133

def trim (s : String) : String :=
  String.ofList ((s.toList.dropWhile isKotlinSpace).reverse.dropWhile isKotlinSpace).reverse

def trimLower (s : String) : String := lower (trim s)

/-- `String.length`, in UTF-16 units. -/
def utf16Length (s : String) : ℕ := (s.toList.map fun c => if c.toNat < 65536 then 1 else 2).sum

def isLong (i : ℤ) : Bool := -2 ^ 63 ≤ i && i < 2 ^ 63

/-- The key of a JSON map. -/
def keyText : Value → String
  | .str s => s
  | _ => ""

def exact (element : Value) (required : List String) (name : String) : MobileResult Fields := do
  let value ← match element with
    | .map entries => .ok entries
    | _ => fail s!"{name} must be a map"
  let missing := required.filter fun r => (Value.field value r).isNone
  let unknown := (value.map fun e => keyText e.1).filter fun k => k ∉ required
  requireValue (missing = [])
    (s!"{name} is missing fields: " ++ ", ".intercalate (sortedStrings missing))
  requireValue (unknown = [])
    (s!"{name} has unknown fields: " ++ ", ".intercalate (sortedStrings unknown))
  return value

def required (value : Fields) (name : String) : MobileResult Value :=
  match Value.field value name with
  | some v => .ok v
  | none => fail s!"missing {name}"

def string (value : Fields) (name : String) : MobileResult String :=
  match Value.field value name with
  | some (.str s) => .ok s
  | _ => fail s!"invalid {name}"

def strictLong (element : Option Value) (name : String) : MobileResult ℤ :=
  match element with
  | some (.int i) => if isLong i then .ok i else fail s!"invalid {name}"
  | _ => fail s!"invalid {name}"

def long (value : Fields) (name : String) : MobileResult ℤ := strictLong (Value.field value name) name

def positiveLong (element : Option Value) (name : String) : MobileResult ℤ := do
  let value ← strictLong element name
  requireValue (1 ≤ value) s!"invalid {name}"
  return value

def nonNegativeLong (element : Option Value) (name : String) : MobileResult ℤ := do
  let value ← strictLong element name
  requireValue (0 ≤ value) s!"invalid {name}"
  return value

def boolean (value : Fields) (name : String) : MobileResult Bool :=
  match Value.field value name with
  | some (.bool b) => .ok b
  | _ => fail s!"invalid {name}"

def entriesOf (entries : Fields) : List (String × Value) :=
  entries.map fun e => (keyText e.1,e.2)

def obj (value : Fields) (name : String) : MobileResult (List (String × Value)) :=
  match Value.field value name with
  | some (.map entries) => .ok (entriesOf entries)
  | _ => fail s!"{name} must be a map"

def array (value : Fields) (name : String) : MobileResult (List Value) :=
  match Value.field value name with
  | some (.list items) => .ok items
  | _ => fail s!"{name} must be a list"

def strings (value : Fields) (name : String) : MobileResult (List String) := do
  (← array value name).mapM fun v => match v with
    | .str s => .ok s
    | _ => fail s!"invalid {name}"

def identifier (value name : String) : MobileResult String :=
  if isHex 32 (trimLower value) then .ok (trimLower value)
  else fail s!"{name} must be 32 lowercase hexadecimal characters"

def digest (value name : String) : MobileResult String :=
  if isHex 64 (trimLower value) then .ok (trimLower value)
  else fail s!"{name} must be 64 lowercase hexadecimal characters"

def nodeId (value name : String) : MobileResult String :=
  if CompanionProtocol.isScopedId "an1" (trimLower value) then .ok (trimLower value)
  else fail s!"invalid {name}"

def humanId (value : String) : MobileResult String :=
  if CompanionProtocol.isScopedId "hu1" (trimLower value) then .ok (trimLower value)
  else fail "invalid human_id"

def isLowerAlpha (c : Char) : Bool := 'a' ≤ c && c ≤ 'z'

def token (value name : String) : MobileResult String :=
  if matchesWord isLowerAlpha
      (fun c => isLowerAlpha c || isDigit c || c = '_' || c = '.' || c = '-') 127 (trimLower value)
  then .ok (trimLower value)
  else fail s!"invalid {name}"

def dataLevel (value : String) : MobileResult String := do
  requireValue (trimLower value ∈ ["operational","personal-low"])
    "P0 Companion only permits operational or personal-low data"
  return trimLower value

def text (element : Option Value) (name : String) (required : Bool) (limit : ℕ) :
    MobileResult String := do
  let content ← match element with
    | some (.str s) => .ok s
    | _ => fail s!"{name} must be text"
  requireValue (required = true → trim content ≠ "") s!"{name} is required"
  requireValue (utf16Length (trim content) ≤ limit) s!"{name} is too long"
  return trim content

def requireUnique (values : List String) (message : String) : MobileResult Unit :=
  requireValue values.Nodup message

def object (entries : List (String × Value)) : Value := .map (textEntries entries)

def stringsArray (values : List String) : Value := .list (values.map .str)

/-- `toSortedMap`. -/
def sortedEntries (entries : List (String × Value)) : List (String × Value) :=
  (dictOf entries).insertionSort fun a b => a.1 ≤ b.1

mutual

/-- Refuses the forbidden keys at any depth. -/
def rejectForbidden (path : String) : Value → MobileResult Unit
  | .map entries => rejectForbiddenEntries path entries
  | .list items => rejectForbiddenItems path 0 items
  | _ => .ok ()

def rejectForbiddenEntries (path : String) : List (Value × Value) → MobileResult Unit
  | [] => .ok ()
  | (k,v) :: es => do
    let normalized := trimLower (keyText k)
    requireValue (normalized ∉ forbiddenKeys) s!"forbidden Companion field: {path}.{normalized}"
    rejectForbidden s!"{path}.{normalized}" v
    rejectForbiddenEntries path es

def rejectForbiddenItems (path : String) (index : ℕ) : List Value → MobileResult Unit
  | [] => .ok ()
  | v :: vs => do
    rejectForbidden s!"{path}[{index}]" v
    rejectForbiddenItems path (index + 1) vs

end

mutual

/-- `canonical`: keys in order, at every depth. -/
def canonical : Value → Value
  | .map entries => .map ((canonicalEntries entries).insertionSort fun a b =>
      keyText a.1 ≤ keyText b.1)
  | .list items => .list (canonicalItems items)
  | v => v

def canonicalEntries : List (Value × Value) → List (Value × Value)
  | [] => []
  | (k,v) :: es => (k,canonical v) :: canonicalEntries es

def canonicalItems : List Value → List Value
  | [] => []
  | v :: vs => canonical v :: canonicalItems vs

end

/-- `JsonPrimitive(metric)` with the number library's `toDouble`. -/
def scalarMetric (toDouble : ℤ → UInt64) : Value → MobileResult Value
  | .nil => .ok .nil
  | .str s => do
    let normalized ← text (some (.str s)) "episode metric" false 512
    return .str normalized
  | .bool b => .ok (.bool b)
  | .int i => do
    if isLong i then return .int i
    requireValue (isFinite (toDouble i)) "episode metric numbers must be finite"
    return .float (toDouble i)
  | .float bits => do
    requireValue (isFinite bits) "episode metric numbers must be finite"
    return .float bits
  | _ => fail "episode metrics must contain only bounded scalar values"

mutual

def metricValue (toDouble : ℤ → UInt64) : Value → MobileResult Value
  | .list items => do
    requireValue (items.length ≤ 32) "episode metric list is too long"
    let values ← metricValues toDouble items
    return .list values
  | v => scalarMetric toDouble v

def metricValues (toDouble : ℤ → UInt64) : List Value → MobileResult (List Value)
  | [] => .ok []
  | v :: vs => do
    let value ← metricValue toDouble v
    let values ← metricValues toDouble vs
    return value :: values

end

/-- `base`: the fields every kind has. -/
def base (objectType : String) (body : Value) (objectIdName : String) (additional : List String)
    (maxTtlMs : ℤ) : MobileResult Fields := do
  let value ← exact body
    (["protocol","version","object_type",objectIdName,"created_ms","expires_ms"] ++ additional)
    objectType
  requireValue ((← string value "protocol") = "anet.companion") "unsupported Companion protocol"
  requireValue ((← long value "version") = 1) "unsupported Companion protocol version"
  requireValue ((← string value "object_type") = objectType) "Companion kind/object_type mismatch"
  let _ ← identifier (← string value objectIdName) objectIdName
  let created ← positiveLong (Value.field value "created_ms") "created_ms"
  let expires ← positiveLong (Value.field value "expires_ms") "expires_ms"
  requireValue (created < expires ∧ expires - created ≤ maxTtlMs) "invalid object lifetime"
  return value

def consentGrant (basis rawGrant : String) : MobileResult String :=
  if basis = "user-opt-in" then identifier rawGrant "consent grant_id"
  else if rawGrant = "" then .ok ""
  else fail "only user-opt-in consent may carry grant_id"

/-- A consent block: basis, grant and scopes. -/
def consent (element : Value) : MobileResult Fields := do
  let item ← exact element ["basis","grant_id","scope"] "consent"
  let basis := trimLower (← string item "basis")
  requireValue (basis ∈ ["device-essential","user-opt-in","user-initiated"])
    "invalid consent basis"
  let rawGrant := trimLower (← string item "grant_id")
  let grantId ← consentGrant basis rawGrant
  let tokens ← (← strings item "scope").mapM fun s => token s "consent scope"
  let scope := sortedStrings tokens.dedup
  requireValue (scope ≠ []) "consent scope must be a non-empty list"
  requireValue (scope.length ≤ 32) "too many consent scopes"
  return textEntries [("basis",.str basis),("grant_id",.str grantId),("scope",stringsArray scope)]

def observationValue (type : String) (element : Value) : MobileResult Value := do
  if type = "device.battery" then
    let item ← exact element ["percent","charging"] "battery observation"
    let percent ← nonNegativeLong (Value.field item "percent") "battery percent"
    requireValue (percent ≤ 100) "invalid battery observation"
    return object [("percent",.int percent),("charging",.bool (← boolean item "charging"))]
  else if type = "device.network" then
    let item ← exact element ["transport","metered"] "network observation"
    let transport := trimLower (← string item "transport")
    requireValue (transport ∈ ["offline","wifi","cellular","ethernet","other"])
      "invalid network transport"
    return object [("transport",.str transport),("metered",.bool (← boolean item "metered"))]
  else if type = "human.presence" then
    let item ← exact element ["state"] "presence observation"
    let state := trimLower (← string item "state")
    requireValue (state ∈ ["present","away","unknown"]) "invalid presence state"
    return object [("state",.str state)]
  else if type = "human.self-report" then
    let item ← exact element ["text","format"] "self-report observation"
    requireValue ((← string item "format") = "plain") "self-report format must be plain"
    let report ← text (Value.field item "text") "self-report text" true 2048
    return object [("text",.str report),("format",.str "plain")]
  else
    let item ← exact element ["category_durations_ms","switch_count"] "app category window"
    let durations ← obj item "category_durations_ms"
    requireValue (durations ≠ []) "app category durations must be a non-empty map"
    requireValue (durations.length ≤ 32) "too many app categories"
    let normalized ← durations.mapM fun e => do
      let category ← token e.1 "app category"
      let duration ← nonNegativeLong (some e.2) "app category duration"
      return (category,Value.int duration)
    let switches ← nonNegativeLong (Value.field item "switch_count") "app switch count"
    return object [("category_durations_ms",object (sortedEntries normalized)),
      ("switch_count",.int switches)]

/-- The identifier, the time and the type of an observation, and the normalized map. -/
structure Observation where
  observationId : String
  observedMs : ℤ
  type : String
  body : Value

def observation (element : Value) : MobileResult Observation := do
  let item ← exact element ["observation_id","observed_ms","type","value"] "observation"
  let type := trimLower (← string item "type")
  requireValue (type ∈ observationTypes) "unsupported P0 observation type"
  let observationId ← identifier (← string item "observation_id") "observation_id"
  let observedMs ← positiveLong (Value.field item "observed_ms") "observed_ms"
  let value ← observationValue type (← required item "value")
  let normalized := object [("observation_id",.str observationId),("observed_ms",.int observedMs),
    ("type",.str type),("value",value)]
  rejectForbidden "value" normalized
  return ⟨observationId,observedMs,type,normalized⟩

def observationBasis (type : String) : String :=
  if type = "human.self-report" then "user-initiated"
  else if type ∈ ["human.presence","device.app-category-window"] then "user-opt-in"
  else "device-essential"

def validateObservationBatch (body : Value) : MobileResult Fields := do
  let value ← base "observation_batch" body "batch_id"
    ["source_node_id","window_start_ms","window_end_ms","data_level","consent","observations"]
    maxBodyTtlMs
  let windowStart ← positiveLong (Value.field value "window_start_ms") "window_start_ms"
  let windowEnd ← positiveLong (Value.field value "window_end_ms") "window_end_ms"
  requireValue (windowStart ≤ windowEnd ∧ windowEnd ≤ (← long value "created_ms"))
    "invalid observation window"
  let raw ← array value "observations"
  requireValue (raw ≠ []) "observations must be a non-empty list"
  requireValue (raw.length ≤ 256) "too many observations"
  let observations ← raw.mapM observation
  requireUnique (observations.map Observation.observationId) "duplicate observation_id"
  requireValue (∀ o ∈ observations, windowStart ≤ o.observedMs ∧ o.observedMs ≤ windowEnd)
    "observation is outside its declared window"
  let agreed ← consent (← required value "consent")
  let basis ← string agreed "basis"
  let scope ← strings agreed "scope"
  for o in observations do
    requireValue (basis = observationBasis o.type)
      s!"{o.type} requires {observationBasis o.type} consent basis"
    requireValue (o.type ∈ scope) "consent scope does not cover observation type"
  let source ← nodeId (← string value "source_node_id") "source_node_id"
  let level ← dataLevel (← string value "data_level")
  return CompanionProtocol.override value [("source_node_id",.str source),
    ("window_start_ms",.int windowStart),("window_end_ms",.int windowEnd),
    ("data_level",.str level),("consent",.map agreed),
    ("observations",.list (observations.map Observation.body))]

def validateEpisode (toDouble : ℤ → UInt64) (body : Value) : MobileResult Fields := do
  let value ← base "episode" body "episode_id"
    ["source_node_id","source_batch_ids","episode_type","window_start_ms","window_end_ms",
      "data_level","consent","transform_version","metrics"] maxBodyTtlMs
  let sourceIds ← (← strings value "source_batch_ids").mapM fun s => identifier s "source batch ID"
  requireValue (sourceIds ≠ [] ∧ sourceIds.length ≤ 64) "invalid source_batch_ids"
  requireUnique sourceIds "invalid source_batch_ids"
  let episodeType := trimLower (← string value "episode_type")
  let contract ← match episodeContracts.lookup episodeType with
    | some c => .ok c
    | none => fail "unsupported P0 episode type"
  let windowStart ← positiveLong (Value.field value "window_start_ms") "window_start_ms"
  let windowEnd ← positiveLong (Value.field value "window_end_ms") "window_end_ms"
  requireValue (windowStart ≤ windowEnd ∧ windowEnd ≤ (← long value "created_ms"))
    "invalid episode window"
  let rawMetrics ← obj value "metrics"
  requireValue (rawMetrics.length ≤ 64) "invalid episode metrics"
  let metrics ← rawMetrics.mapM fun e => do
    let name ← token e.1 "episode metric name"
    let metric ← metricValue toDouble e.2
    return (name,metric)
  let normalizedMetrics := object (sortedEntries metrics)
  rejectForbidden "metrics" normalizedMetrics
  let agreed ← consent (← required value "consent")
  requireValue ((← string agreed "basis") = contract.1)
    s!"{episodeType} requires {contract.1} consent basis"
  requireValue (contract.2 ∈ (← strings agreed "scope"))
    "consent scope does not cover episode type"
  let source ← nodeId (← string value "source_node_id") "source_node_id"
  let level ← dataLevel (← string value "data_level")
  let version ← token (← string value "transform_version") "transform_version"
  return CompanionProtocol.override value [("source_node_id",.str source),
    ("source_batch_ids",stringsArray sourceIds),("episode_type",.str episodeType),
    ("window_start_ms",.int windowStart),("window_end_ms",.int windowEnd),
    ("data_level",.str level),("consent",.map agreed),("transform_version",.str version),
    ("metrics",normalizedMetrics)]

/-- One response option: its action and the normalized map. -/
def responseOption (element : Value) : MobileResult (String × Value) := do
  let item ← exact element ["action_id","label"] "response option"
  let actionId ← token (← string item "action_id") "action_id"
  let label ← text (Value.field item "label") "response option label" true 128
  return (actionId,object [("action_id",.str actionId),("label",.str label)])

def validateIntervention (body : Value) : MobileResult Fields := do
  let value ← base "intervention" body "intervention_id"
    ["human_id","target_device_id","category","priority","title","message","dedupe_key",
      "response_options","related_episode_ids"] maxBodyTtlMs
  let category := trimLower (← string value "category")
  requireValue (category ∈ ["notification","reminder","choice","report"])
    "invalid intervention category"
  let priority := trimLower (← string value "priority")
  requireValue (priority ∈ ["low","normal","high","urgent"]) "invalid intervention priority"
  let rawOptions ← array value "response_options"
  requireValue (rawOptions.length ≤ 16) "too many response options"
  let options ← rawOptions.mapM responseOption
  requireUnique (options.map Prod.fst) "duplicate response action_id"
  let related ← (← strings value "related_episode_ids").mapM fun s =>
    identifier s "related episode ID"
  requireValue (related.length ≤ 64) "invalid related_episode_ids"
  requireUnique related "duplicate related episode ID"
  let human ← humanId (← string value "human_id")
  let device ← nodeId (← string value "target_device_id") "device_node_id"
  let title ← text (Value.field value "title") "intervention title" true 256
  let message ← text (Value.field value "message") "intervention message" true 4096
  let dedupeKey ← identifier (← string value "dedupe_key") "dedupe_key"
  return CompanionProtocol.override value [("human_id",.str human),
    ("target_device_id",.str device),("category",.str category),("priority",.str priority),
    ("title",.str title),("message",.str message),("dedupe_key",.str dedupeKey),
    ("response_options",.list (options.map Prod.snd)),
    ("related_episode_ids",stringsArray related)]

def responseAction (rawAction : String) : MobileResult String :=
  if rawAction = "" then .ok "" else token rawAction "action_id"

def validateUserResponse (body : Value) : MobileResult Fields := do
  let value ← base "user_response" body "response_id"
    ["intervention_id","human_id","device_node_id","disposition","action_id","text"] maxBodyTtlMs
  let disposition := trimLower (← string value "disposition")
  requireValue (disposition ∈ ["presented","ignored","snoozed","accepted","rejected","answered"])
    "invalid user response disposition"
  let rawAction := trimLower (← string value "action_id")
  let actionId ← responseAction rawAction
  let normalizedText ← text (Value.field value "text") "user response text" false 2048
  requireValue (disposition ≠ "answered" ∨ actionId ≠ "" ∨ normalizedText ≠ "")
    "answered response requires action_id or text"
  let interventionId ← identifier (← string value "intervention_id") "intervention_id"
  let human ← humanId (← string value "human_id")
  let device ← nodeId (← string value "device_node_id") "device_node_id"
  return CompanionProtocol.override value [("intervention_id",.str interventionId),
    ("human_id",.str human),("device_node_id",.str device),("disposition",.str disposition),
    ("action_id",.str actionId),("text",.str normalizedText)]

def isResourceStart (c : Char) : Bool := isAlpha c || isDigit c

def approvalAction (element : Value) : MobileResult Value := do
  let item ← exact element ["capability","resource","parameters_digest","summary"]
    "approval action"
  let resource := trim (← string item "resource")
  requireValue (matchesWord isResourceStart
    (fun c => isResourceStart c || c ∈ [':','/','_','.','@','-']) 511 resource)
    "invalid approval resource"
  let capability ← token (← string item "capability") "approval capability"
  let parameters ← digest (← string item "parameters_digest") "parameters_digest"
  let summary ← text (Value.field item "summary") "approval action summary" true 512
  return object [("capability",.str capability),("resource",.str resource),
    ("parameters_digest",.str parameters),("summary",.str summary)]

def approvalScope (element : Value) (createdMs : ℤ) : MobileResult Value := do
  let item ← exact element ["mode","max_uses","grant_expires_ms"] "approval scope"
  let mode := trimLower (← string item "mode")
  requireValue (mode ∈ ["once","bounded"]) "approval scope mode must be once or bounded"
  let maxUses ← positiveLong (Value.field item "max_uses") "approval max_uses"
  let grantExpires ← positiveLong (Value.field item "grant_expires_ms") "grant_expires_ms"
  requireValue (createdMs < grantExpires ∧ grantExpires - createdMs ≤ maxApprovalGrantTtlMs)
    "invalid approval grant lifetime"
  requireValue (mode ≠ "once" ∨ maxUses = 1) "once approval must have max_uses=1"
  requireValue (mode ≠ "bounded" ∨ maxUses ≤ 100) "bounded approval max_uses exceeds limit"
  return object [("mode",.str mode),("max_uses",.int maxUses),
    ("grant_expires_ms",.int grantExpires)]

def validateApprovalRequest (body : Value) : MobileResult Fields := do
  let value ← base "approval_request" body "request_id"
    ["human_id","device_node_id","action","scope","risk","nonce"] maxApprovalRequestTtlMs
  let human ← humanId (← string value "human_id")
  let device ← nodeId (← string value "device_node_id") "device_node_id"
  let action ← approvalAction (← required value "action")
  let scope ← approvalScope (← required value "scope") (← long value "created_ms")
  let risk ← text (Value.field value "risk") "approval risk" true 1024
  let nonce ← identifier (← string value "nonce") "approval nonce"
  return CompanionProtocol.override value [("human_id",.str human),("device_node_id",.str device),
    ("action",action),("scope",scope),("risk",.str risk),("nonce",.str nonce)]

def validateApprovalDecision (body : Value) : MobileResult Fields := do
  let value ← base "approval_decision" body "decision_id"
    ["request_id","human_id","device_node_id","decision","reason","nonce","action","scope"]
    maxApprovalRequestTtlMs
  let decision := trimLower (← string value "decision")
  requireValue (decision ∈ ["approved","rejected"]) "invalid approval decision"
  let requestId ← identifier (← string value "request_id") "request_id"
  let human ← humanId (← string value "human_id")
  let device ← nodeId (← string value "device_node_id") "device_node_id"
  let reason ← text (Value.field value "reason") "approval decision reason" false 1024
  let nonce ← identifier (← string value "nonce") "approval nonce"
  let action ← approvalAction (← required value "action")
  let scope ← approvalScope (← required value "scope") (← long value "created_ms")
  return CompanionProtocol.override value [("request_id",.str requestId),("human_id",.str human),
    ("device_node_id",.str device),("decision",.str decision),("reason",.str reason),
    ("nonce",.str nonce),("action",action),("scope",scope)]

def validate (toDouble : ℤ → UInt64) (kind : String) (body : Value) : MobileResult Fields :=
  if trimLower kind = observationBatch then validateObservationBatch body
  else if trimLower kind = episode then validateEpisode toDouble body
  else if trimLower kind = intervention then validateIntervention body
  else if trimLower kind = userResponse then validateUserResponse body
  else if trimLower kind = approvalRequest then validateApprovalRequest body
  else if trimLower kind = approvalDecision then validateApprovalDecision body
  else fail "unsupported Companion kind"

/-- The field that must name the sender, and the field that must name the destination. -/
def sourceField (kind : String) : Option String :=
  if kind ∈ [observationBatch,episode] then some "source_node_id"
  else if kind ∈ [userResponse,approvalDecision] then some "device_node_id"
  else none

def targetField (kind : String) : Option String :=
  if kind = intervention then some "target_device_id"
  else if kind = approvalRequest then some "device_node_id"
  else none

def requireNode (kind : String) (field : Option String) (normalized : Fields)
    (node side : String) : MobileResult Unit :=
  match field with
  | some name => do
    requireValue ((← string normalized name) = node) s!"{kind} {name} does not match Packet {side}"
  | none => .ok ()

def validateEndpointBinding (toDouble : ℤ → UInt64) (kind : String) (body : Value)
    (senderNodeId destinationNodeId : String) (nowMs : ℤ) : MobileResult Fields := do
  let normalizedKind := trimLower kind
  let normalized ← validate toDouble normalizedKind body
  let sender ← nodeId senderNodeId "Packet sender_node_id"
  let destination ← nodeId destinationNodeId "Packet destination_node_id"
  requireValue (0 < nowMs) "invalid current time"
  requireValue ((← long normalized "created_ms") ≤ nowMs + maxClockSkewMs)
    "Companion object creation time is too far in the future"
  requireValue (nowMs < (← long normalized "expires_ms")) "Companion object expired"
  requireNode normalizedKind (sourceField normalizedKind) normalized sender "sender"
  requireNode normalizedKind (targetField normalizedKind) normalized destination "destination"
  return normalized

end MobileProtocol
end Anet
