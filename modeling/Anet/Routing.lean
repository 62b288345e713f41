import Anet.Encoding
import Anet.Table
import Anet.Transition
import Mathlib.Data.Finset.Basic
import Mathlib.Data.Fintype.Basic
import Mathlib.Order.Defs.LinearOrder

/-! The adaptive router: the metrics of the paths to a peer, the route that is selected, and the
decision which carriers a peer's packets are pushed to. -/
namespace Anet

inductive QosClass | control | interactive | normal | bulk
  deriving DecidableEq

instance : Fintype QosClass := ⟨{.control,.interactive,.normal,.bulk},fun q => by cases q <;> decide⟩

def fastFailoverQos : Finset QosClass := {.control,.interactive}

inductive CarrierKind | directory | webdav | ahub
  deriving DecidableEq

inductive CarrierMode | fallback | always | receiveOnly
  deriving DecidableEq

/-- What the router reads of a configured carrier. -/
structure CarrierConfig where
  kind : CarrierKind
  name : String
  mode : CarrierMode
  priority : ℕ
  enabled : Bool
  deriving DecidableEq

/-- `RoutingConfig` behind the clamps of `from_dict`; the cooldown as the milliseconds that it
comes to. -/
structure RoutingConfig where
  directFailureThreshold : ℕ
  directRecoveryThreshold : ℕ
  carrierFailureThreshold : ℕ
  carrierRecoveryThreshold : ℕ
  carrierReplicaCount : ℕ
  switchCooldownMs : ℤ
  thresholds : 1 ≤ directFailureThreshold ∧ 1 ≤ directRecoveryThreshold ∧
    1 ≤ carrierFailureThreshold ∧ 1 ≤ carrierRecoveryThreshold
  replicas : 1 ≤ carrierReplicaCount

/-- The floating-point numbers of the router: the moving average of the round trips, and the
score of a carrier from its priority, its failures and that average. -/
structure RouteNumbers where
  Number : Type
  order : LinearOrder Number
  zero : Number
  average : (latency previous : Number) → Number
  score : (priority failures : ℕ) → Number → Number

instance (lib : RouteNumbers) : LinearOrder lib.Number := lib.order

/-- `path_metrics`. -/
structure PathMetric (lib : RouteNumbers) where
  peerId : String
  pathId : String
  attempts : ℕ
  successes : ℕ
  failures : ℕ
  consecutiveSuccesses : ℕ
  consecutiveFailures : ℕ
  ewmaRttMs : lib.Number
  lastAttemptMs : ℤ
  lastOkMs : ℤ
  lastFailureMs : ℤ
  lastError : String

def PathMetric.key {lib : RouteNumbers} (r : PathMetric lib) : String × String :=
  (r.peerId,r.pathId)

/-- `route_state`. -/
structure RouteRow where
  peerId : String
  selectedPath : String
  switchedMs : ℤ
  reason : String

structure RouteStore (lib : RouteNumbers) where
  metrics : Table (@PathMetric.key lib) noMarks
  routes : Table RouteRow.peerId noMarks

structure RouteDecision where
  peerId : String
  selectedPath : String
  reason : String
  pushQos : String → Finset QosClass
  changed : Bool

namespace CarrierConfig

def kindName : CarrierKind → String
  | .directory => "directory"
  | .webdav => "webdav"
  | .ahub => "ahub"

/-- `path_id`. -/
def pathId (c : CarrierConfig) : String := kindName c.kind ++ ":" ++ c.name

/-- Neither disabled nor for receiving only. -/
def Usable (c : CarrierConfig) : Prop := c.enabled = true ∧ c.mode ≠ .receiveOnly

instance : DecidablePred Usable := fun _ => inferInstanceAs (Decidable (_ ∧ _))

end CarrierConfig

namespace RouteStore

variable {lib : RouteNumbers}

def empty : RouteStore lib := ⟨.empty,.empty⟩

/-- `record_path_result`. -/
def recordPathResult (peerId pathId : String) (success : Bool) (latency : lib.Number)
    (error : String) (now : ℤ) (s : RouteStore lib) : Result (RouteStore lib) := do
  let latency := max lib.zero latency
  let previous := ((s.metrics.get (peerId,pathId)).map PathMetric.ewmaRttMs).getD lib.zero
  let ewma := if success then if previous ≤ lib.zero then latency else lib.average latency previous
    else previous
  let error := if success then "" else cut 1000 error
  let metrics ← fetched (s.metrics.upsert
    ⟨peerId,pathId,1,success.toNat,(!success).toNat,success.toNat,(!success).toNat,ewma,now,
      if success then now else 0,if success then 0 else now,error⟩
    (fun r => { r with
      attempts := r.attempts + 1
      successes := r.successes + success.toNat
      failures := r.failures + (!success).toNat
      consecutiveSuccesses := if success then r.consecutiveSuccesses + 1 else 0
      consecutiveFailures := if success then 0 else r.consecutiveFailures + 1
      ewmaRttMs := ewma
      lastAttemptMs := now
      lastOkMs := if success then now else r.lastOkMs
      lastFailureMs := if success then r.lastFailureMs else now
      lastError := error }) fun _ => rfl) .integrity
  return { s with metrics := metrics }

/-- `set_route`: the time of the switch stays while the path does. -/
def setRoute (peerId selectedPath reason : String) (now : ℤ) (s : RouteStore lib) :
    Result (RouteStore lib) := do
  if (s.routes.get peerId).any fun r => r.selectedPath = selectedPath then
    return { s with
      routes := s.routes.update (fun r => r.peerId = peerId)
        (fun r => { r with reason := cut 500 reason }) (fun _ => rfl) (noMarks_subset _) }
  else do
    let routes ← fetched (s.routes.upsert ⟨peerId,selectedPath,now,cut 500 reason⟩
      (fun r => { r with selectedPath := selectedPath, switchedMs := now, reason := cut 500 reason })
      fun _ => rfl) .integrity
    return { s with routes := routes }

def consecutiveFailures (peerId pathId : String) (s : RouteStore lib) : ℕ :=
  ((s.metrics.get (peerId,pathId)).map PathMetric.consecutiveFailures).getD 0

def consecutiveSuccesses (peerId pathId : String) (s : RouteStore lib) : ℕ :=
  ((s.metrics.get (peerId,pathId)).map PathMetric.consecutiveSuccesses).getD 0

/-- `_score`. -/
def score (peerId : String) (s : RouteStore lib) (c : CarrierConfig) : lib.Number :=
  lib.score c.priority (s.consecutiveFailures peerId c.pathId)
    (((s.metrics.get (peerId,c.pathId)).map PathMetric.ewmaRttMs).getD lib.zero)

/-- The carriers in the order of their scores, and then of their names. -/
def usable (peerId : String) (carriers : List CarrierConfig) (s : RouteStore lib) :
    List CarrierConfig :=
  (carriers.filter CarrierConfig.Usable).insertionSort fun a b =>
    s.score peerId a < s.score peerId b ∨ (s.score peerId a = s.score peerId b ∧ a.name ≤ b.name)

variable (cfg : RoutingConfig)

def healthy (peerId : String) (carriers : List CarrierConfig) (s : RouteStore lib) :
    List CarrierConfig :=
  (s.usable peerId carriers).filter fun c =>
    s.consecutiveFailures peerId c.pathId < cfg.carrierFailureThreshold

/-- `healthy or usable`. -/
def candidates (peerId : String) (carriers : List CarrierConfig) (s : RouteStore lib) :
    List CarrierConfig :=
  if s.healthy cfg peerId carriers = [] then s.usable peerId carriers
  else s.healthy cfg peerId carriers

def best (peerId : String) (carriers : List CarrierConfig) (s : RouteStore lib) :
    Option CarrierConfig := (s.candidates cfg peerId carriers).head?

/-- The selected path of the peer, or nothing. -/
def currentPath (peerId : String) (s : RouteStore lib) : String :=
  ((s.routes.get peerId).map RouteRow.selectedPath).getD ""

def CooledDown (peerId : String) (now : ℤ) (s : RouteStore lib) : Prop :=
  cfg.switchCooldownMs ≤ now - ((s.routes.get peerId).map RouteRow.switchedMs).getD 0

instance (peerId : String) (now : ℤ) (s : RouteStore lib) : Decidable (CooledDown cfg peerId now s) :=
  inferInstanceAs (Decidable (_ ≤ _))

/-- The choice while a fallback that is usable is selected. -/
def leaveFallback (peerId : String) (hasDirect : Bool) (carriers : List CarrierConfig) (now : ℤ)
    (s : RouteStore lib) : String × String :=
  let path := s.currentPath peerId
  let failures := s.consecutiveFailures peerId path
  let successes := s.consecutiveSuccesses peerId "direct"
  let alternatives := (s.healthy cfg peerId carriers).filter fun c => c.pathId ≠ path
  let failed := if cfg.carrierFailureThreshold ≤ failures then alternatives.head? else none
  let preferred := (s.best cfg peerId carriers).filter fun c => c.pathId ≠ path ∧
    s.CooledDown cfg peerId now ∧
    cfg.carrierRecoveryThreshold ≤ s.consecutiveSuccesses peerId c.pathId
  match failed with
  | some c => (c.pathId,s!"fallback {path} failed {failures} consecutive probes")
  | none =>
    if hasDirect = true ∧ cfg.directRecoveryThreshold ≤ successes ∧ s.CooledDown cfg peerId now then
      ("direct",s!"direct recovered for {successes} consecutive probes")
    else match preferred with
    | some c =>
      (c.pathId,s!"preferred fallback {c.pathId} recovered for {cfg.carrierRecoveryThreshold} probes")
    | none =>
      (path,if cfg.carrierFailureThreshold ≤ failures then
        "fallback held; all alternatives unhealthy" else "fallback held by recovery hysteresis")

/-- The choice of `decide`, with its reason. -/
def choose (peerId : String) (hasDirect : Bool) (carriers : List CarrierConfig) (now : ℤ)
    (s : RouteStore lib) : String × String :=
  let path := s.currentPath peerId
  let failures := s.consecutiveFailures peerId "direct"
  let best := s.best cfg peerId carriers
  if path ∉ ["","direct","none"] then
    if (s.usable peerId carriers).any fun c => c.pathId = path then
      s.leaveFallback cfg peerId hasDirect carriers now
    else ((best.map CarrierConfig.pathId).getD (if hasDirect then "direct" else "none"),
      "selected fallback disappeared")
  else if ¬ hasDirect = true then
    ((best.map CarrierConfig.pathId).getD "none","direct path unavailable")
  else
    match if cfg.directFailureThreshold ≤ failures then best else none with
    | some c => (c.pathId,s!"direct failed {failures} consecutive probes")
    | none => ("direct",if path = "none" then "direct available"
      else "direct healthy or below failure threshold")

/-- `push[name] = existing | qos`. -/
def push (qos : Finset QosClass) (pushed : String → Finset QosClass) (c : CarrierConfig) :
    String → Finset QosClass :=
  Function.update pushed c.name (pushed c.name ∪ qos)

/-- The carriers that a decision pushes to. -/
def pushQos (peerId selected : String) (carriers : List CarrierConfig) (s : RouteStore lib) :
    String → Finset QosClass :=
  let always := (carriers.filter fun c => c.Usable ∧ c.mode = .always).foldl (push .univ) fun _ => ∅
  match (s.usable peerId carriers).find? fun c => c.pathId = selected with
  | some chosen =>
    let replicas := chosen ::
      (s.candidates cfg peerId carriers).filter fun c => c.pathId ≠ chosen.pathId
    (replicas.take cfg.carrierReplicaCount).foldl (push .univ) always
  | none =>
    if selected = "direct" ∧ 1 ≤ s.consecutiveFailures peerId "direct" then
      ((s.candidates cfg peerId carriers).take cfg.carrierReplicaCount).foldl
        (push fastFailoverQos) always
    else always

/-- `decide`; the route is written at a later reading of the clock. -/
def decide (peerId : String) (hasDirect : Bool) (carriers : List CarrierConfig) (now later : ℤ)
    (s : RouteStore lib) : Result (RouteDecision × RouteStore lib) := do
  let (selected,reason) := s.choose cfg peerId hasDirect carriers now
  let s' ← s.setRoute peerId selected reason later
  return (⟨peerId,selected,reason,s.pushQos cfg peerId selected carriers,
    s.currentPath peerId ≠ selected⟩,s')

end RouteStore
end Anet
