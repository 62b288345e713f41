import Anet.AgentGrants

/-! Social evidence and the rules of the operator: the score of an actor, the actions that a policy
allows on it, and the rule that wins for an adapter, an actor and an action. -/
namespace Anet.Amesh

structure SocialThreshold where
  minScore : ℤ
  minConfidence : ℤ
  requiredLabels : List String

structure SocialPolicy where
  surface : SocialThreshold
  reply : SocialThreshold
  amplify : SocialThreshold
  connectCandidate : SocialThreshold
  version : ℤ

/-- The counters of `actor_stats`. -/
structure ActorStats where
  accountAgeDays : ℤ
  mentionCount : ℤ
  replyCount : ℤ
  reactionCount : ℤ
  pinnedCount : ℤ

structure Reputation where
  score : ℤ
  rawScore : ℤ
  confidence : ℤ
  algorithm : String
  deriving DecidableEq

structure Evaluation where
  action : String
  allowedActions : List String
  reasons : List String
  policyVersion : ℤ
  reputation : Reputation
  deriving DecidableEq

/-- A row of the counters that `score_social_actor` goes through. -/
structure CounterWeight where
  read : ActorStats → ℤ
  scaled : ℤ → ℤ
  cap : ℤ
  confidence : ℤ
  confidenceCap : ℤ
  label : String

def counterWeights : List CounterWeight :=
  [⟨ActorStats.accountAgeDays,fun n => n / 365,5,5,5,"account age"⟩,
    ⟨ActorStats.mentionCount,fun n => n * 2,10,3,15,"bounded mentions"⟩,
    ⟨ActorStats.replyCount,fun n => n * 4,12,5,20,"bounded replies"⟩,
    ⟨ActorStats.reactionCount,fun n => n * 1,8,1,10,"bounded reactions"⟩,
    ⟨ActorStats.pinnedCount,fun n => n * 8,16,10,20,"bounded pinned messages"⟩]

def labelWeights : List (String × ℤ × ℤ) :=
  [("community:moderator",10,20),("relationship:known",10,20),("relationship:vouched",30,50),
    ("status:verified",15,30),("risk:concern",-30,30),("risk:impersonation",-80,80),
    ("risk:malware",-100,100),("risk:spam",-60,60),("risk:block",-100,100)]

def blockingLabels : List String := ["risk:block","risk:impersonation","risk:malware","risk:spam"]

/-- The points, the confidence and the reasons that `score_social_actor` adds up. -/
structure Evidence where
  points : ℤ
  confidence : ℤ
  reasons : List String

namespace Evidence

def addCounter (stats : ActorStats) (e : Evidence) (w : CounterWeight) : Evidence :=
  let value := max 0 (min (w.read stats) 1000000)
  let increment := min (w.scaled value) w.cap
  if increment = 0 then e
  else ⟨e.points + increment,e.confidence + min (value * w.confidence) w.confidenceCap,
    e.reasons ++ [s!"{w.label} +{increment}"]⟩

/-- `f"{n:+d}"`. -/
def signed (n : ℤ) : String := if 0 ≤ n then s!"+{n}" else s!"{n}"

def addLabel (e : Evidence) (label : String) : Evidence :=
  match labelWeights.lookup label with
  | none => e
  | some (points,confidence) => ⟨e.points + points,e.confidence + confidence,
      e.reasons ++ [s!"operator label {label} {signed points}"]⟩

end Evidence

/-- `round(n / 100)`, half to even. -/
def roundHundredths (n : ℤ) : ℤ :=
  if n % 100 < 50 ∨ (n % 100 = 50 ∧ n / 100 % 2 = 0) then n / 100 else n / 100 + 1

/-- `score_social_actor`, with the reasons. -/
def scoreSocialActor (stats : ActorStats) (labels : List String) : Reputation × List String :=
  let counted := counterWeights.foldl (Evidence.addCounter stats) ⟨0,0,[]⟩
  let e := (sortedStrings labels.dedup).foldl Evidence.addLabel counted
  let rawScore := max 0 (min 100 (50 + e.points))
  let confidence := max 0 (min 100 e.confidence)
  (⟨roundHundredths (5000 + (rawScore - 50) * confidence),rawScore,confidence,
      "amesh-social-evidence-v1"⟩,
    if e.reasons = [] then ["no reputation evidence"] else e.reasons)

namespace SocialPolicy

def default : SocialPolicy where
  surface := ⟨45,0,[]⟩
  reply := ⟨60,25,[]⟩
  amplify := ⟨72,50,[]⟩
  connectCandidate := ⟨82,70,["relationship:vouched"]⟩
  version := 1

/-- `_passes`. -/
def passes (threshold : SocialThreshold) (reputation : Reputation) (labels : List String) : Bool :=
  threshold.minScore ≤ reputation.score && threshold.minConfidence ≤ reputation.confidence &&
    threshold.requiredLabels.all fun l => l ∈ labels

/-- `allowed_actions`, where no label blocks. -/
def openActions (p : SocialPolicy) (reputation : Reputation) (labels : List String) : List String :=
  let automation := "actor:bot" ∈ labels ∨ "actor:webhook" ∈ labels
  ["observe"] ++ (if passes p.surface reputation labels then ["surface"] else []) ++
    (if "interaction:mention" ∈ labels ∧ ¬ automation ∧ passes p.reply reputation labels then
      ["reply"] else []) ++
    (if ¬ automation ∧ passes p.amplify reputation labels then ["amplify"] else []) ++
    if ¬ automation ∧ passes p.connectCandidate reputation labels then ["connect_candidate"] else []

/-- `evaluate`. -/
def evaluate (p : SocialPolicy) (stats : ActorStats) (labels eventLabels : List String) :
    Evaluation :=
  let combined := labels ++ eventLabels
  let scored := scoreSocialActor stats labels
  let blocked := sortedStrings (combined.filter fun l => l ∈ blockingLabels).dedup
  let allowed := if blocked = [] then p.openActions scored.1 combined else ["observe"]
  let action := allowed.getLastD "observe"
  let reasons := scored.2 ++
    (if blocked = [] then [] else ["blocked by labels: " ++ ",".intercalate blocked]) ++
    if action = "connect_candidate" then
      ["candidate only; social evidence cannot grant authority"] else []
  ⟨action,allowed,reasons.take 32,p.version,scored.1⟩

end SocialPolicy

/-- A policy that lets everybody ask for a reply. -/
def openPolicy : SocialPolicy := { SocialPolicy.default with reply := ⟨45,0,[]⟩ }

/-- `amesh_permission_rules`. -/
structure RuleRow where
  ruleId : String
  adapter : String
  actorKey : String
  action : String
  effect : GrantEffect
  reason : String
  createdMs : ℤ
  deriving DecidableEq

/-- `amesh_permission_decisions`. -/
structure DecisionRow where
  adapter : String
  actorKey : String
  action : String
  effect : GrantEffect
  eventKey : String
  decidedMs : ℤ
  deriving DecidableEq

structure PermissionStore where
  rules : Table RuleRow.ruleId noMarks
  decisions : List DecisionRow

namespace PermissionStore

def empty : PermissionStore := ⟨.empty,[]⟩

/-- The rank of a rule in `effective`; the least one wins. -/
def rank (r : RuleRow) : List ℤ :=
  [if r.actorKey ≠ "*" then 0 else 1,if r.action ≠ "*" then 0 else 1,
    if r.effect ≠ .deny then 1 else 0,-r.createdMs]

/-- `effective`: the rule that wins. -/
def effective (s : PermissionStore) (adapter actorKey action : String) : Option RuleRow :=
  (s.rules.select fun r => r.adapter = adapter ∧ (r.actorKey = actorKey ∨ r.actorKey = "*") ∧
    (r.action = action ∨ r.action = "*")).foldl
      (fun best r => some (best.elim r fun b => if rank r < rank b then r else b)) none

/-- `permission_denies`. -/
def denies (s : PermissionStore) (adapter actorKey action : String) : Bool :=
  (s.effective adapter actorKey action).map RuleRow.effect = some .deny

/-- The actions that `apply_allowed` leaves. -/
def applyAllowed (s : PermissionStore) (adapter actorKey : String) (allowed : List String) :
    List String :=
  allowed.filter fun action => action = "observe" ∨ ¬ s.denies adapter actorKey action

/-- `record_decision`. -/
def recordDecision (s : PermissionStore) (adapter actorKey action : String) (effect : GrantEffect)
    (eventKey : String) (now : ℤ) : PermissionStore :=
  { s with decisions := s.decisions ++ [⟨adapter,actorKey,action,effect,eventKey,now⟩] }

/-- `add_rule`, with the id it draws. -/
def addRule (s : PermissionStore) (r : RuleRow) : PermissionStore :=
  { s with rules := s.rules.insertOrIgnore r }

/-- `remove_rule`. -/
def removeRule (s : PermissionStore) (ruleId : String) : PermissionStore :=
  { s with rules := s.rules.delete fun r => r.ruleId = ruleId }

/-- The operator's rules keep every action exactly if they deny none but `observe`. -/
theorem applyAllowed_eq {s : PermissionStore} {adapter actorKey : String} {allowed : List String} :
    s.applyAllowed adapter actorKey allowed = allowed ↔
      ∀ action ∈ allowed, action ≠ "observe" → s.denies adapter actorKey action = false := by
  rw [applyAllowed,List.filter_eq_self]
  refine forall₂_congr fun action _ => ?_
  by_cases hobserve : action = "observe" <;> simp [hobserve]

end PermissionStore

end Anet.Amesh
