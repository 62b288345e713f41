import Anet.ApprovalAnswers
import Anet.ControlRoundTrip
import Anet.PacketSeal

/-! The companion messages that are no approvals: observation batches, episodes, interventions and the
answers to them. Every kind is the common base with the fields of the kind in their normal form. -/
namespace Anet.CompanionProtocol

def observationBatchKind : String := "companion.observation.batch"
def episodeKind : String := "companion.episode"
def interventionKind : String := "companion.intervention"
def userResponseKind : String := "companion.user-response"

def maxBatchObservations : ℕ := 256
def maxSourceBatches : ℕ := 64
def maxMetrics : ℕ := 64
def maxOptions : ℕ := 16
def maxTextChars : ℕ := 4096
def maxSelfReportChars : ℕ := 2048

def observationTypes : List String :=
  ["device.battery","device.network","human.presence","human.self-report",
    "device.app-category-window"]

/-- `_EPISODE_TYPES`, each with the basis and the scope its consent has to have. -/
def episodeContracts : List (String × String × String) :=
  [("device.battery-window","device-essential","device.battery"),
    ("device.connectivity-window","device-essential","device.network"),
    ("human.presence-window","user-opt-in","human.presence"),
    ("human.self-report","user-initiated","human.self-report"),
    ("device.app-category-window","user-opt-in","device.app-category-window")]

def forbiddenKeys : List String :=
  ["audio","audio_bytes","image","image_bytes","video","video_bytes","raw","raw_events",
    "precise_location","latitude","longitude","chat_body","message_body","health_detail",
    "diagnosis","emotion","mood","fatigue","human_state","state_hypothesis"]

/-- The items of a list. -/
def itemsOf : Value → Option (List Value)
  | .list items => some items
  | _ => none

def isBool : Value → Bool
  | .bool _ => true
  | _ => false

/-- A text in its normal form that has to be one of the choices. -/
def choice (rt : Runtime) (choices : List String) (message : String) (value : Value) :
    Result String :=
  if normalized rt value ∈ choices then .ok (normalized rt value) else .error (.value message)

def dataLevel (rt : Runtime) (value : Value) : Result String :=
  choice rt ["operational","personal-low"]
    "P0 Companion only permits operational or personal-low data" value

/-- `_node_id(value, name="source_node_id")`. -/
def sourceNodeId (rt : Runtime) (value : Value) : Result String :=
  if isScopedId "an1" (normalized rt value) then .ok (normalized rt value)
  else .error (.value "invalid source_node_id")

structure Consent where
  basis : String
  grantId : String
  scope : List String
  deriving DecidableEq

def Consent.toValue (c : Consent) : Value :=
  .map [(.str "basis",.str c.basis),(.str "grant_id",.str c.grantId),
    (.str "scope",.list (c.scope.map .str))]

/-- The grant of a consent, which only `user-opt-in` has. -/
def consentGrant (rt : Runtime) (basis : String) (value : Value) : Result String :=
  if basis = "user-opt-in" then identifier rt "consent grant_id" (.str (normalized rt value))
  else if normalized rt value = "" then .ok ""
  else .error (.value "only user-opt-in consent may carry grant_id")

def consentOf (rt : Runtime) (value : Value) : Result Consent := do
  let fields ← exact ["basis","grant_id","scope"] "consent" value
  let basis ← choice rt ["device-essential","user-opt-in","user-initiated"] "invalid consent basis"
    (item fields "basis")
  let grantId ← consentGrant rt basis (item fields "grant_id")
  let entries ← fetched (itemsOf (item fields "scope"))
    (.value "consent scope must be a non-empty list")
  raiseIf entries.isEmpty (.value "consent scope must be a non-empty list")
  let tokens ← entries.mapM (capabilityToken rt "consent scope")
  raiseIf (32 < tokens.dedup.length) (.value "too many consent scopes")
  return ⟨basis,grantId,sortedStrings tokens.dedup⟩

mutual

/-- `_reject_forbidden`. -/
def rejectForbidden (rt : Runtime) (path : String) : Value → Result Unit
  | .map entries => rejectForbiddenEntries rt path entries
  | .list items => rejectForbiddenItems rt path 0 items
  | .bin _ => .error (.value "Companion objects cannot contain binary sensor payloads")
  | _ => .ok ()

def rejectForbiddenEntries (rt : Runtime) (path : String) : List (Value × Value) → Result Unit
  | [] => .ok ()
  | (key,child) :: entries => do
    let name := normalized rt key
    raiseIf (name ∈ forbiddenKeys) (.value s!"forbidden Companion field: {path}.{name}")
    rejectForbidden rt s!"{path}.{name}" child
    rejectForbiddenEntries rt path entries

def rejectForbiddenItems (rt : Runtime) (path : String) (index : ℕ) : List Value → Result Unit
  | [] => .ok ()
  | child :: items => do
    rejectForbidden rt s!"{path}[{index}]" child
    rejectForbiddenItems rt path (index + 1) items

end

/-- `dict(sorted(...))` of a dictionary. -/
def sortedDict (entries : List (String × Value)) : List (String × Value) :=
  (dictOf entries).insertionSort fun a b => a.1 ≤ b.1

/-- One category of an app window with its duration. -/
def categoryDuration (rt : Runtime) (e : Value × Value) : Result (String × Value) := do
  let category ← capabilityToken rt "app category" e.1
  let duration ← integer "app category duration" 0 e.2
  return (category,.int duration)

/-- `_observation_value` of the battery, the network, a presence, a self-report or an app window. -/
def batteryValue (value : Value) : Result Value := do
  let fields ← exact ["percent","charging"] "battery observation" value
  let percent ← integer "battery percent" 0 (item fields "percent")
  raiseIf (100 < percent ∨ ¬ isBool (item fields "charging")) (.value "invalid battery observation")
  return .map [(.str "percent",.int percent),(.str "charging",item fields "charging")]

def networkValue (rt : Runtime) (value : Value) : Result Value := do
  let fields ← exact ["transport","metered"] "network observation" value
  let transport ← choice rt ["offline","wifi","cellular","ethernet","other"]
    "invalid network transport" (item fields "transport")
  raiseIf (¬ isBool (item fields "metered")) (.value "invalid network metered flag")
  return .map [(.str "transport",.str transport),(.str "metered",item fields "metered")]

def presenceValue (rt : Runtime) (value : Value) : Result Value := do
  let fields ← exact ["state"] "presence observation" value
  let state ← choice rt ["present","away","unknown"] "invalid presence state" (item fields "state")
  return .map [(.str "state",.str state)]

def selfReportValue (rt : Runtime) (value : Value) : Result Value := do
  let fields ← exact ["text","format"] "self-report observation" value
  raiseIf (¬ (item fields "format").isStr "plain") (.value "self-report format must be plain")
  let report ← text rt "self-report text" true maxSelfReportChars (item fields "text")
  return .map [(.str "text",.str report),(.str "format",.str "plain")]

def appWindowValue (rt : Runtime) (value : Value) : Result Value := do
  let fields ← exact ["category_durations_ms","switch_count"] "app category window" value
  let entries ← fetched (item fields "category_durations_ms").asMap
    (.value "app category durations must be a non-empty map")
  raiseIf entries.isEmpty (.value "app category durations must be a non-empty map")
  raiseIf (32 < entries.length) (.value "too many app categories")
  let durations ← entries.mapM (categoryDuration rt)
  let switches ← integer "app switch count" 0 (item fields "switch_count")
  return .map [(.str "category_durations_ms",.map (textEntries (sortedDict durations))),
    (.str "switch_count",.int switches)]

def observationValue (rt : Runtime) (type : String) (value : Value) : Result Value :=
  if type = "device.battery" then batteryValue value
  else if type = "device.network" then networkValue rt value
  else if type = "human.presence" then presenceValue rt value
  else if type = "human.self-report" then selfReportValue rt value
  else appWindowValue rt value

structure Observation where
  observationId : String
  observedMs : ℤ
  type : String
  value : Value

def Observation.toValue (o : Observation) : Value :=
  .map [(.str "observation_id",.str o.observationId),(.str "observed_ms",.int o.observedMs),
    (.str "type",.str o.type),(.str "value",o.value)]

/-- `_observation`. -/
def observation (rt : Runtime) (value : Value) : Result Observation := do
  let fields ← exact ["observation_id","observed_ms","type","value"] "observation" value
  let type ← choice rt observationTypes "unsupported P0 observation type" (item fields "type")
  let id ← identifier rt "observation_id" (item fields "observation_id")
  let observed ← timestamp "observed_ms" (item fields "observed_ms")
  let observedValue ← observationValue rt type (item fields "value")
  rejectForbidden rt "value" (Observation.toValue ⟨id,observed,type,observedValue⟩)
  return ⟨id,observed,type,observedValue⟩

/-- The basis that a type of observation needs. -/
def requiredBasis (type : String) : String :=
  if type = "human.self-report" then "user-initiated"
  else if type = "human.presence" ∨ type = "device.app-category-window" then "user-opt-in"
  else "device-essential"

/-- The consent of a batch covers every type in it. -/
def coverTypes (consent : Consent) : List String → Result Unit
  | [] => .ok ()
  | type :: types => do
    raiseIf (consent.basis ≠ requiredBasis type)
      (.value s!"{type} requires {requiredBasis type} consent basis")
    raiseIf (type ∉ consent.scope) (.value "consent scope does not cover observation type")
    coverTypes consent types

/-- A kind of message: its object type, the name of its id, its longest life, and its own fields with
the function that reads them and gives them back in their normal form. -/
structure MessageKind where
  objectType : String
  idName : String
  maxTtlMs : ℤ
  additional : List String
  news : Runtime → (String → Value) → ℤ → Result (List (String × Value))

/-- The body that a validator returns: the base as it was sent, the fields of the kind normalized. -/
def project (k : MessageKind) (rt : Runtime) (body : Value) : Result Fields := do
  let base ← validateBaseWithin rt k.objectType k.idName k.additional k.maxTtlMs body
  let news ← k.news rt (item base.fields) base.createdMs
  return override base.fields news

/-- The window of a batch or an episode. -/
def windowOf (message : String) (get : String → Value) (createdMs : ℤ) : Result (ℤ × ℤ) := do
  let windowStart ← timestamp "window_start_ms" (get "window_start_ms")
  let windowEnd ← timestamp "window_end_ms" (get "window_end_ms")
  raiseIf (windowEnd < windowStart ∨ createdMs < windowEnd) (.value message)
  return (windowStart,windowEnd)

def batchNews (rt : Runtime) (get : String → Value) (createdMs : ℤ) :
    Result (List (String × Value)) := do
  let window ← windowOf "invalid observation window" get createdMs
  let listed ← fetched (itemsOf (get "observations")) (.value "observations must be a non-empty list")
  raiseIf listed.isEmpty (.value "observations must be a non-empty list")
  raiseIf (maxBatchObservations < listed.length) (.value "too many observations")
  let observations ← listed.mapM (observation rt)
  raiseIf (¬ (observations.map Observation.observationId).Nodup) (.value "duplicate observation_id")
  raiseIf (∃ o ∈ observations, o.observedMs < window.1 ∨ window.2 < o.observedMs)
    (.value "observation is outside its declared window")
  let consent ← consentOf rt (get "consent")
  coverTypes consent (observations.map Observation.type)
  let node ← sourceNodeId rt (get "source_node_id")
  let level ← dataLevel rt (get "data_level")
  return [("source_node_id",.str node),("window_start_ms",.int window.1),
    ("window_end_ms",.int window.2),("data_level",.str level),("consent",consent.toValue),
    ("observations",.list (observations.map Observation.toValue))]

def batchMessage : MessageKind where
  objectType := "observation_batch"
  idName := "batch_id"
  maxTtlMs := maxBodyTtlMs
  additional := ["source_node_id","window_start_ms","window_end_ms","data_level","consent",
    "observations"]
  news := batchNews

/-- `_validate_observation_batch`. -/
def validateObservationBatch (rt : Runtime) (body : Value) : Result Fields :=
  project batchMessage rt body

mutual

/-- `_metric_value`. -/
def metricValue (rt : Runtime) : Value → Result Value
  | .bin _ => .error (.value "Companion objects cannot contain binary sensor payloads")
  | .float bits => do
    raiseIf (¬ isFinite bits) (.value "episode metric numbers must be finite")
    return .float bits
  | .nil => .ok .nil
  | .bool b => .ok (.bool b)
  | .int i => .ok (.int i)
  | .str s => do
    let normal ← text rt "episode metric" false 512 (.str s)
    return .str normal
  | .list items => do
    raiseIf (32 < items.length) (.value "episode metric list is too long")
    let values ← metricValues rt items
    return .list values
  | .map _ => .error (.value "episode metrics must contain only bounded scalar values")

def metricValues (rt : Runtime) : List Value → Result (List Value)
  | [] => .ok []
  | v :: vs => do
    let value ← metricValue rt v
    let values ← metricValues rt vs
    return value :: values

end

/-- One metric with its name. -/
def metricEntry (rt : Runtime) (e : Value × Value) : Result (String × Value) := do
  let name ← capabilityToken rt "episode metric name" e.1
  let value ← metricValue rt e.2
  return (name,value)

/-- The ids of a list in their normal form. -/
def idList (rt : Runtime) (name : String) (ids : List Value) : Result (List String) :=
  ids.mapM (identifier rt name)

def episodeNews (rt : Runtime) (get : String → Value) (createdMs : ℤ) :
    Result (List (String × Value)) := do
  let listed ← fetched (itemsOf (get "source_batch_ids"))
    (.value "source_batch_ids must be a non-empty list")
  raiseIf listed.isEmpty (.value "source_batch_ids must be a non-empty list")
  let sourceIds ← idList rt "source batch ID" listed
  raiseIf (maxSourceBatches < sourceIds.length ∨ ¬ sourceIds.Nodup) (.value "invalid source_batch_ids")
  let type ← choice rt (episodeContracts.map Prod.fst) "unsupported P0 episode type"
    (get "episode_type")
  let window ← windowOf "invalid episode window" get createdMs
  let entries ← fetched (get "metrics").asMap (.value "invalid episode metrics")
  raiseIf (maxMetrics < entries.length) (.value "invalid episode metrics")
  let metrics ← entries.mapM (metricEntry rt)
  rejectForbidden rt "metrics" (.map (textEntries (dictOf metrics)))
  let consent ← consentOf rt (get "consent")
  let contract ← fetched (episodeContracts.lookup type) (.key type)
  raiseIf (consent.basis ≠ contract.1) (.value s!"{type} requires {contract.1} consent basis")
  raiseIf (contract.2 ∉ consent.scope) (.value "consent scope does not cover episode type")
  let node ← sourceNodeId rt (get "source_node_id")
  let level ← dataLevel rt (get "data_level")
  let version ← capabilityToken rt "transform_version" (get "transform_version")
  return [("source_node_id",.str node),("source_batch_ids",.list (sourceIds.map .str)),
    ("episode_type",.str type),("window_start_ms",.int window.1),("window_end_ms",.int window.2),
    ("data_level",.str level),("consent",consent.toValue),("transform_version",.str version),
    ("metrics",.map (textEntries (sortedDict metrics)))]

def episodeMessage : MessageKind where
  objectType := "episode"
  idName := "episode_id"
  maxTtlMs := maxBodyTtlMs
  additional := ["source_node_id","source_batch_ids","episode_type","window_start_ms","window_end_ms",
    "data_level","consent","transform_version","metrics"]
  news := episodeNews

/-- `_validate_episode`. -/
def validateEpisode (rt : Runtime) (body : Value) : Result Fields := project episodeMessage rt body

structure ResponseOption where
  actionId : String
  label : String

def ResponseOption.toValue (o : ResponseOption) : Value :=
  .map [(.str "action_id",.str o.actionId),(.str "label",.str o.label)]

def responseOption (rt : Runtime) (value : Value) : Result ResponseOption := do
  let fields ← exact ["action_id","label"] "response option" value
  let actionId ← capabilityToken rt "action_id" (item fields "action_id")
  let label ← text rt "response option label" true 128 (item fields "label")
  return ⟨actionId,label⟩

def interventionNews (rt : Runtime) (get : String → Value) (_ : ℤ) :
    Result (List (String × Value)) := do
  let category ← choice rt ["notification","reminder","choice","report"]
    "invalid intervention category" (get "category")
  let priority ← choice rt ["low","normal","high","urgent"] "invalid intervention priority"
    (get "priority")
  let listed ← fetched (itemsOf (get "response_options")) (.value "response_options must be a list")
  raiseIf (maxOptions < listed.length) (.value "too many response options")
  let options ← listed.mapM (responseOption rt)
  raiseIf (¬ (options.map ResponseOption.actionId).Nodup) (.value "duplicate response action_id")
  let related ← fetched (itemsOf (get "related_episode_ids")) (.value "invalid related_episode_ids")
  raiseIf (64 < related.length) (.value "invalid related_episode_ids")
  let relatedIds ← idList rt "related episode ID" related
  raiseIf (¬ relatedIds.Nodup) (.value "duplicate related episode ID")
  let human ← humanId rt (get "human_id")
  let device ← nodeId rt (get "target_device_id")
  let title ← text rt "intervention title" true 256 (get "title")
  let message ← text rt "intervention message" true maxTextChars (get "message")
  let dedupeKey ← identifier rt "dedupe_key" (get "dedupe_key")
  return [("human_id",.str human),("target_device_id",.str device),("category",.str category),
    ("priority",.str priority),("title",.str title),("message",.str message),
    ("dedupe_key",.str dedupeKey),("response_options",.list (options.map ResponseOption.toValue)),
    ("related_episode_ids",.list (relatedIds.map .str))]

def interventionMessage : MessageKind where
  objectType := "intervention"
  idName := "intervention_id"
  maxTtlMs := maxBodyTtlMs
  additional := ["human_id","target_device_id","category","priority","title","message","dedupe_key",
    "response_options","related_episode_ids"]
  news := interventionNews

/-- `_validate_intervention`. -/
def validateIntervention (rt : Runtime) (body : Value) : Result Fields :=
  project interventionMessage rt body

/-- The action of a response, if it names one. -/
def responseAction (rt : Runtime) (value : Value) : Result String :=
  if normalized rt value = "" then .ok ""
  else capabilityToken rt "action_id" (.str (normalized rt value))

def responseNews (rt : Runtime) (get : String → Value) (_ : ℤ) : Result (List (String × Value)) := do
  let disposition ← choice rt ["presented","ignored","snoozed","accepted","rejected","answered"]
    "invalid user response disposition" (get "disposition")
  let actionId ← responseAction rt (get "action_id")
  let given ← text rt "user response text" false maxSelfReportChars (get "text")
  raiseIf (disposition = "answered" ∧ actionId = "" ∧ given = "")
    (.value "answered response requires action_id or text")
  let interventionId ← identifier rt "intervention_id" (get "intervention_id")
  let human ← humanId rt (get "human_id")
  let device ← nodeId rt (get "device_node_id")
  return [("intervention_id",.str interventionId),("human_id",.str human),
    ("device_node_id",.str device),("disposition",.str disposition),("action_id",.str actionId),
    ("text",.str given)]

def responseMessage : MessageKind where
  objectType := "user_response"
  idName := "response_id"
  maxTtlMs := maxBodyTtlMs
  additional := ["intervention_id","human_id","device_node_id","disposition","action_id","text"]
  news := responseNews

/-- `_validate_user_response`. -/
def validateUserResponse (rt : Runtime) (body : Value) : Result Fields :=
  project responseMessage rt body

/-- `validate_companion_message`; of the approvals their fields are returned. -/
def validateCompanionMessage (rt : Runtime) (kind : String) (body : Value) : Result Fields :=
  let kind := lower (strip kind)
  if kind = observationBatchKind then validateObservationBatch rt body
  else if kind = episodeKind then validateEpisode rt body
  else if kind = interventionKind then validateIntervention rt body
  else if kind = userResponseKind then validateUserResponse rt body
  else if kind = approvalRequestKind then (validateApprovalRequest rt body).map (·.fields)
  else if kind = approvalDecisionKind then (validateApprovalDecision rt body).map (·.fields)
  else .error (.value "unsupported Companion kind")

end Anet.CompanionProtocol
