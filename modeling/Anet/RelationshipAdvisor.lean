import Anet.HalfEven
import Anet.RelationshipActivities
import Mathlib.Data.Rat.Floor
import Mathlib.Data.Prod.Lex

/-! Advice about relationships: a closer circle after mutual task work, and a trust in task
delivery that follows the results, offered until it is decided. -/
namespace Anet.Relations

/-- What the advisor reads of an interaction. -/
structure AdvisedInteraction where
  interactionId : String
  subjectRef : String
  direction : String
  facets : List String
  outcome : String
  deriving DecidableEq

structure AdvisedRelationship where
  circle : String
  state : RelationshipState
  /-- Each context with its estimate and confidence. -/
  contextTrust : List (String × ℤ × ℤ)

structure AdvisorModel where
  subjects : List (String × SubjectState)
  relationships : List (String × AdvisedRelationship)
  interactions : List AdvisedInteraction
  suggestionDecisions : List String

/-- What the hash of a basis covers. -/
structure SuggestionBasis where
  suggestionType : String
  subjectRef : String
  proposedCircle : String
  context : String
  proposedEstimate : Option ℤ
  interactionIds : List String
  deriving DecidableEq

/-- The digests of the advisor, in hexadecimal. -/
structure AdvisorDigests where
  basisHash : SuggestionBasis → String
  suggestionHash : (basisHash : String) → (confidence : ℤ) → List (String × ℤ) → String
  basisHash_hex : ∀ b, isHex 32 (basisHash b)
  suggestionHash_hex : ∀ b c m, isHex 32 (suggestionHash b c m)

structure RelationshipSuggestion extends RelationshipBook.Suggestion where
  evidenceTags : List String
  rationaleCodes : List String
  metrics : List (String × ℤ)

namespace RelationshipAdvisor

/-- The checks of `RelationshipSuggestion.__post_init__`. -/
def checkSuggestion (s : RelationshipSuggestion) : Result Unit := do
  raiseIf (¬ "rsg_".toList <+: s.suggestionId.toList) (.value "invalid relationship suggestion ID")
  raiseIf (s.suggestionType ∉ ["circle.advance","context-trust.review"])
    (.value "invalid relationship suggestion type")
  raiseIf (¬ "subj_".toList <+: s.subjectRef.toList)
    (.value "invalid relationship suggestion Subject")
  raiseIf (s.confidence < 0 ∨ 100 < s.confidence)
    (.value "invalid relationship suggestion confidence")
  raiseIf (s.proposedCircle ≠ "" ∧
      s.proposedCircle ∉ ["public","known","collab","friend","close","family"])
    (.value "invalid suggested relationship circle")
  raiseIf (∃ n ∈ s.proposedEstimate, n < 0 ∨ 100 < n) (.value "invalid suggested contextual trust")
  raiseIf (s.basisHash.length ≠ 32) (.value "invalid relationship suggestion basis")

/-- `_build`; `metrics` is given sorted by name. -/
def build (lib : AdvisorDigests) (suggestionType subjectRef : String) (confidence : ℤ)
    (proposedCircle context : String) (proposedEstimate : Option ℤ)
    (evidenceTags rationaleCodes : List String) (metrics : List (String × ℤ))
    (basis : List AdvisedInteraction) : Result RelationshipSuggestion := do
  let basisHash := lib.basisHash ⟨suggestionType,subjectRef,proposedCircle,context,proposedEstimate,
    sortedStrings (basis.map AdvisedInteraction.interactionId)⟩
  let s : RelationshipSuggestion :=
    { suggestionId := "rsg_" ++ lib.suggestionHash basisHash confidence metrics
      suggestionType, subjectRef, basisHash, confidence, proposedCircle, context
      proposedEstimate, evidenceTags, rationaleCodes, metrics }
  checkSuggestion s
  return s

def IsTask (i : AdvisedInteraction) : Prop := "task" ∈ i.facets

instance : DecidablePred IsTask := fun i => inferInstanceAs (Decidable ("task" ∈ i.facets))

def outcomes (outcome : String) (tasks : List AdvisedInteraction) : ℕ :=
  (tasks.filter fun i => i.outcome = outcome).length

/-- The number of directions that tasks went in. -/
def directions (tasks : List AdvisedInteraction) : ℕ :=
  (["incoming","outgoing"].filter fun d => d ∈ tasks.map AdvisedInteraction.direction).length

def circleConfidence (tasks : List AdvisedInteraction) : ℤ :=
  min 85 (38 + min (outcomes "submitted" tasks) (outcomes "completed" tasks) * 8 +
    min tasks.length 8)

/-- `_circle_suggestion`. -/
def circleSuggestion (lib : AdvisorDigests) (subjectRef : String) (relationship : AdvisedRelationship)
    (interactions : List AdvisedInteraction) : Result (Option RelationshipSuggestion) := do
  if relationship.circle ≠ "known" then return none
  let tasks := interactions.filter fun i => IsTask i
  let submitted := outcomes "submitted" tasks
  let completed := outcomes "completed" tasks
  let balanced := min submitted completed
  if balanced < 2 ∨ directions tasks < 2 then return none
  let s ← build lib "circle.advance" subjectRef (circleConfidence tasks) "collab" "" none
    ["activity:reciprocal","activity:task-collaboration"]
    ["task.repeated-submission-completion","task.bidirectional","circle.explicit-review-required"]
    [("balanced_task_events",balanced),("completed",completed),("directions",directions tasks),
      ("submitted",submitted),("task_interactions",tasks.length)] tasks
  return some s

/-- A result of a task that the peer was given. -/
def IsTerminal (i : AdvisedInteraction) : Prop :=
  i.direction = "incoming" ∧ IsTask i ∧ (i.outcome = "completed" ∨ i.outcome = "failed")

instance : DecidablePred IsTerminal := fun _ => inferInstanceAs (Decidable (_ ∧ _ ∧ _))

def posteriorSuccess (completed sampleSize : ℕ) : ℤ :=
  halfEven ((100 * (completed + 2) : ℚ) / (sampleSize + 4))

def deliveryConfidence (sampleSize : ℕ) : ℤ := min 90 (20 + sampleSize * 10)

def deliveryEstimate (completed sampleSize : ℕ) : ℤ :=
  halfEven (50 + ((posteriorSuccess completed sampleSize : ℚ) - 50) *
    deliveryConfidence sampleSize / 100)

/-- A trust in task delivery that is set already stands unless the results say much more. -/
def KeepsTrust (relationship : AdvisedRelationship) (sampleSize : ℕ) (confidence estimate : ℤ) :
    Prop :=
  ∃ t ∈ (relationship.contextTrust.find? fun t => t.1 = "task.delivery"),
    ¬ (5 ≤ sampleSize ∧ t.2.2 + 10 ≤ confidence ∧ 10 ≤ |estimate - t.2.1|)

instance (relationship : AdvisedRelationship) (sampleSize : ℕ) (confidence estimate : ℤ) :
    Decidable (KeepsTrust relationship sampleSize confidence estimate) := by
  unfold KeepsTrust
  infer_instance

/-- `_task_delivery_suggestion`. -/
def taskDeliverySuggestion (lib : AdvisorDigests) (subjectRef : String)
    (relationship : AdvisedRelationship) (interactions : List AdvisedInteraction) :
    Result (Option RelationshipSuggestion) := do
  let terminal := interactions.filter fun i => IsTerminal i
  let sampleSize := terminal.length
  if sampleSize < 3 then return none
  let completed := outcomes "completed" terminal
  let confidence := deliveryConfidence sampleSize
  let estimate := deliveryEstimate completed sampleSize
  if KeepsTrust relationship sampleSize confidence estimate then return none
  let s ← build lib "context-trust.review" subjectRef confidence "" "task.delivery" (some estimate)
    ["evidence:task-delivery"]
    ["task.incoming-terminal-results","trust.context-specific","trust.explicit-review-required"]
    [("completed",completed),("failed",sampleSize - completed),
      ("posterior_success",posteriorSuccess completed sampleSize),("sample_size",sampleSize)] terminal
  return some s

/-- The active relationship of a Subject. -/
def activeRelationship (model : AdvisorModel) (key : String) : Option AdvisedRelationship :=
  ((model.relationships.filter fun r => r.1 = key ∧ r.2.state = .active).getLast?).map Prod.snd

def activeSubjects (model : AdvisorModel) : List String :=
  sortedStrings ((model.subjects.filter fun s => s.2 = .active).map Prod.fst).dedup

/-- The suggestions for one Subject. -/
def adviseOn (lib : AdvisorDigests) (model : AdvisorModel) (key : String) :
    Result (List RelationshipSuggestion) :=
  match activeRelationship model key with
  | none => return []
  | some relationship => do
    let evidence := model.interactions.filter fun i => i.subjectRef = key
    let circle ← circleSuggestion lib key relationship evidence
    let trust ← taskDeliverySuggestion lib key relationship evidence
    return circle.toList ++ trust.toList

/-- The order of the key `(subject_ref, suggestion_type)`. -/
def sortsBefore (s t : RelationshipSuggestion) : Prop :=
  s.subjectRef < t.subjectRef ∨ (s.subjectRef = t.subjectRef ∧ s.suggestionType ≤ t.suggestionType)

instance : DecidableRel sortsBefore := fun _ _ => inferInstanceAs (Decidable (_ ∨ _))

/-- `advise`; an empty `subjectRef` asks about every Subject. -/
def advise (lib : AdvisorDigests) (model : AdvisorModel) (subjectRef : String) :
    Result (List RelationshipSuggestion) := do
  let selected := strip subjectRef
  raiseIf (selected ≠ "" ∧ selected ∉ activeSubjects model)
    (.key s!"unknown active Subject hypothesis: {selected}")
  let suggestions ← ((activeSubjects model).filter fun key => selected = "" ∨ key = selected).mapM
    (adviseOn lib model)
  return (suggestions.flatten.filter fun s =>
    s.suggestionId ∉ model.suggestionDecisions).insertionSort sortsBefore

variable {lib : AdvisorDigests} {key : String} {relationship : AdvisedRelationship}
variable {interactions interactions' : List AdvisedInteraction} {model : AdvisorModel}
variable {s s' : RelationshipSuggestion}

theorem sortedStrings_perm {xs ys : List String} (h : xs.Perm ys) :
    sortedStrings xs = sortedStrings ys := by
  apply List.Perm.eq_of_pairwise (fun x y _ _ hxy hyx => String.le_antisymm hxy hyx)
  · exact List.pairwise_insertionSort _ _
  · exact List.pairwise_insertionSort _ _
  · exact ((List.perm_insertionSort _ _).trans h).trans (List.perm_insertionSort _ _).symm

theorem outcomes_perm (outcome : String) (h : interactions.Perm interactions') :
    outcomes outcome interactions = outcomes outcome interactions' :=
  (h.filter _).length_eq

theorem directions_perm (h : interactions.Perm interactions') :
    directions interactions = directions interactions' := by
  have hmem : ∀ d, d ∈ interactions.map AdvisedInteraction.direction ↔
      d ∈ interactions'.map AdvisedInteraction.direction := fun d => (h.map _).mem_iff
  simp only [directions,hmem]

theorem circleConfidence_perm (h : interactions.Perm interactions') :
    circleConfidence interactions = circleConfidence interactions' := by
  rw [circleConfidence,outcomes_perm _ h,outcomes_perm _ h,h.length_eq]
  rfl

theorem build_perm {suggestionType : String} {confidence : ℤ} {proposedCircle context : String}
    {proposedEstimate : Option ℤ} {evidenceTags rationaleCodes : List String}
    {metrics : List (String × ℤ)} (h : interactions.Perm interactions') :
    build lib suggestionType key confidence proposedCircle context proposedEstimate evidenceTags
        rationaleCodes metrics interactions =
      build lib suggestionType key confidence proposedCircle context proposedEstimate evidenceTags
        rationaleCodes metrics interactions' := by
  rw [build,sortedStrings_perm (h.map AdvisedInteraction.interactionId)]
  rfl

theorem circleSuggestion_perm (h : interactions.Perm interactions') :
    circleSuggestion lib key relationship interactions =
      circleSuggestion lib key relationship interactions' := by
  have htasks := h.filter fun i => IsTask i
  simp only [circleSuggestion,outcomes_perm _ htasks,directions_perm htasks,htasks.length_eq,
    circleConfidence_perm htasks,build_perm htasks]

theorem taskDeliverySuggestion_perm (h : interactions.Perm interactions') :
    taskDeliverySuggestion lib key relationship interactions =
      taskDeliverySuggestion lib key relationship interactions' := by
  have hterminal := h.filter fun i => IsTerminal i
  simp only [taskDeliverySuggestion,outcomes_perm _ hterminal,hterminal.length_eq,
    build_perm hterminal]

/-- Advice that looks at the interactions of a Subject alike is alike. -/
theorem advise_congr (h : ∀ key relationship,
      circleSuggestion lib key relationship (model.interactions.filter fun i => i.subjectRef = key) =
        circleSuggestion lib key relationship (interactions.filter fun i => i.subjectRef = key) ∧
      taskDeliverySuggestion lib key relationship
          (model.interactions.filter fun i => i.subjectRef = key) =
        taskDeliverySuggestion lib key relationship
          (interactions.filter fun i => i.subjectRef = key)) (subjectRef : String) :
    advise lib { model with interactions := interactions } subjectRef =
      advise lib model subjectRef := by
  have hadvise : adviseOn lib { model with interactions := interactions } = adviseOn lib model := by
    funext key
    simp only [adviseOn]
    rw [show activeRelationship { model with interactions := interactions } key =
      activeRelationship model key from rfl]
    cases activeRelationship model key with
    | none => rfl
    | some relationship => simp only [(h key relationship).1,(h key relationship).2]
  simp only [advise,hadvise]
  rfl

theorem advise_perm (h : interactions.Perm model.interactions) (subjectRef : String) :
    advise lib { model with interactions := interactions } subjectRef =
      advise lib model subjectRef := by
  apply advise_congr
  intro key relationship
  exact ⟨circleSuggestion_perm (h.symm.filter _),taskDeliverySuggestion_perm (h.symm.filter _)⟩

theorem filter_tasks (key : String) (l : List AdvisedInteraction) :
    ((l.filter fun i => IsTask i).filter fun i => i.subjectRef = key).filter (fun i => IsTask i) =
        (l.filter fun i => i.subjectRef = key).filter (fun i => IsTask i) ∧
      ((l.filter fun i => IsTask i).filter fun i => i.subjectRef = key).filter
          (fun i => IsTerminal i) =
        (l.filter fun i => i.subjectRef = key).filter (fun i => IsTerminal i) := by
  simp only [List.filter_filter]
  constructor
  · apply List.filter_congr
    intro i _
    by_cases hi : IsTask i <;> simp [hi]
  · apply List.filter_congr
    intro i _
    by_cases hi : IsTask i
    · simp [hi]
    · have hnot : ¬ IsTerminal i := fun h => hi h.2.1
      simp [hi,hnot]

theorem advise_tasks (model : AdvisorModel) (subjectRef : String) :
    advise lib { model with interactions := model.interactions.filter fun i => IsTask i } subjectRef =
      advise lib model subjectRef := by
  apply advise_congr
  intro key relationship
  obtain ⟨htask,hterminal⟩ := filter_tasks key model.interactions
  simp only [circleSuggestion,taskDeliverySuggestion,htask,hterminal,and_self]

/-- What makes `__post_init__` pass. -/
structure Sound (s : RelationshipSuggestion) : Prop where
  id : "rsg_".toList <+: s.suggestionId.toList
  type : s.suggestionType ∈ ["circle.advance","context-trust.review"]
  subject : "subj_".toList <+: s.subjectRef.toList
  confidence : 0 ≤ s.confidence ∧ s.confidence ≤ 100
  circle : s.proposedCircle = "" ∨
    s.proposedCircle ∈ ["public","known","collab","friend","close","family"]
  estimate : ∀ n ∈ s.proposedEstimate, 0 ≤ n ∧ n ≤ 100
  basis : s.basisHash.length = 32

theorem checkSuggestion_ok {u : Unit} : checkSuggestion s = .ok u ↔ Sound s := by
  simp only [checkSuggestion,bind_ok,raiseIf_ok]
  constructor
  · rintro ⟨-,hid,-,htype,-,hsubject,-,hconfidence,-,hcircle,-,hestimate,hbasis⟩
    refine ⟨not_not.mp hid,not_not.mp htype,not_not.mp hsubject,by omega,by tauto,?_,
      not_not.mp hbasis⟩
    intro n hn
    have hrange : ¬ (n < 0 ∨ 100 < n) := fun hout => hestimate ⟨n,hn,hout⟩
    omega
  · intro h
    have hconfidence := h.confidence
    have hcircle := h.circle
    refine ⟨(),not_not.mpr h.id,(),not_not.mpr h.type,(),not_not.mpr h.subject,(),by omega,(),
      by tauto,(),?_,not_not.mpr h.basis⟩
    rintro ⟨n,hn,hout⟩
    have hrange := h.estimate n hn
    omega

theorem length_hex {n : ℕ} {x : String} (h : isHex n x) : x.length = n := by
  simp only [isHex,Bool.and_eq_true,decide_eq_true_eq] at h
  rw [← String.length_toList]
  exact h.1

/-- What `_build` makes. -/
def built (lib : AdvisorDigests) (suggestionType subjectRef : String) (confidence : ℤ)
    (proposedCircle context : String) (proposedEstimate : Option ℤ)
    (evidenceTags rationaleCodes : List String) (metrics : List (String × ℤ))
    (basis : List AdvisedInteraction) : RelationshipSuggestion :=
  let basisHash := lib.basisHash ⟨suggestionType,subjectRef,proposedCircle,context,proposedEstimate,
    sortedStrings (basis.map AdvisedInteraction.interactionId)⟩
  { suggestionId := "rsg_" ++ lib.suggestionHash basisHash confidence metrics
    suggestionType, subjectRef, basisHash, confidence, proposedCircle, context
    proposedEstimate, evidenceTags, rationaleCodes, metrics }

theorem build_ok {suggestionType : String} {confidence : ℤ} {proposedCircle context : String}
    {proposedEstimate : Option ℤ} {evidenceTags rationaleCodes : List String}
    {metrics : List (String × ℤ)} {basis : List AdvisedInteraction} :
    build lib suggestionType key confidence proposedCircle context proposedEstimate evidenceTags
        rationaleCodes metrics basis = .ok s ↔
      s = built lib suggestionType key confidence proposedCircle context proposedEstimate evidenceTags
          rationaleCodes metrics basis ∧ Sound s := by
  simp only [build,bind_ok,checkSuggestion_ok]
  constructor
  · rintro ⟨-,hsound,h⟩
    cases h
    exact ⟨rfl,hsound⟩
  · rintro ⟨rfl,hsound⟩
    exact ⟨(),hsound,rfl⟩

theorem built_id {suggestionType : String} {confidence : ℤ} {proposedCircle context : String}
    {proposedEstimate : Option ℤ} {evidenceTags rationaleCodes : List String}
    {metrics : List (String × ℤ)} {basis : List AdvisedInteraction} :
    "rsg_".toList <+: (built lib suggestionType key confidence proposedCircle context
      proposedEstimate evidenceTags rationaleCodes metrics basis).suggestionId.toList := by
  rw [built,String.toList_append]
  exact List.prefix_append _ _

theorem circleSuggestion_some : circleSuggestion lib key relationship interactions = .ok (some s) ↔
    relationship.circle = "known" ∧
      2 ≤ outcomes "submitted" (interactions.filter fun i => IsTask i) ∧
      2 ≤ outcomes "completed" (interactions.filter fun i => IsTask i) ∧
      2 ≤ directions (interactions.filter fun i => IsTask i) ∧
      build lib "circle.advance" key
        (circleConfidence (interactions.filter fun i => IsTask i)) "collab" "" none
        ["activity:reciprocal","activity:task-collaboration"]
        ["task.repeated-submission-completion","task.bidirectional",
          "circle.explicit-review-required"]
        [("balanced_task_events",
            (min (outcomes "submitted" (interactions.filter fun i => IsTask i))
              (outcomes "completed" (interactions.filter fun i => IsTask i)) : ℕ)),
          ("completed",(outcomes "completed" (interactions.filter fun i => IsTask i) : ℕ)),
          ("directions",(directions (interactions.filter fun i => IsTask i) : ℕ)),
          ("submitted",(outcomes "submitted" (interactions.filter fun i => IsTask i) : ℕ)),
          ("task_interactions",((interactions.filter fun i => IsTask i).length : ℕ))]
        (interactions.filter fun i => IsTask i) = .ok s := by
  unfold circleSuggestion
  by_cases hcircle : relationship.circle = "known"
  · by_cases hfew : min (outcomes "submitted" (interactions.filter fun i => IsTask i))
        (outcomes "completed" (interactions.filter fun i => IsTask i)) < 2 ∨
        directions (interactions.filter fun i => IsTask i) < 2
    · have hnot : ¬ (2 ≤ outcomes "submitted" (interactions.filter fun i => IsTask i) ∧
          2 ≤ outcomes "completed" (interactions.filter fun i => IsTask i) ∧
          2 ≤ directions (interactions.filter fun i => IsTask i)) := by omega
      simp only [hcircle,ne_eq,not_true_eq_false,if_false,hfew,if_true,true_and]
      constructor
      · intro h
        cases h
      · rintro ⟨h1,h2,h3,-⟩
        exact absurd ⟨h1,h2,h3⟩ hnot
    · have hmany : 2 ≤ outcomes "submitted" (interactions.filter fun i => IsTask i) ∧
          2 ≤ outcomes "completed" (interactions.filter fun i => IsTask i) ∧
          2 ≤ directions (interactions.filter fun i => IsTask i) := by omega
      simp only [hcircle,ne_eq,not_true_eq_false,if_false,hfew,hmany,true_and,bind_ok]
      constructor
      · rintro ⟨s',hs',h⟩
        cases h
        exact hs'
      · intro h
        exact ⟨s,h,rfl⟩
  · simp only [hcircle,ne_eq,not_false_eq_true,if_true,false_and,iff_false]
    intro h
    cases h

theorem outcomes_append (outcome : String) (l l' : List AdvisedInteraction) :
    outcomes outcome (l ++ l') = outcomes outcome l + outcomes outcome l' := by
  simp [outcomes]

theorem directions_append (l l' : List AdvisedInteraction) :
    directions l' ≤ directions (l ++ l') := by
  unfold directions
  rw [← List.countP_eq_length_filter,← List.countP_eq_length_filter]
  apply List.countP_mono_left
  intro d _ hd
  simp only [decide_eq_true_eq,List.map_append,List.mem_append] at hd ⊢
  exact .inr hd

theorem circleConfidence_append (l l' : List AdvisedInteraction) :
    circleConfidence l' ≤ circleConfidence (l ++ l') := by
  unfold circleConfidence
  rw [outcomes_append,outcomes_append,List.length_append]
  push_cast
  omega

theorem circleConfidence_range (l : List AdvisedInteraction) :
    0 ≤ circleConfidence l ∧ circleConfidence l ≤ 100 := by
  unfold circleConfidence
  omega

/-- More evidence does not take a suggestion of a circle away, nor the confidence in it. -/
theorem circleSuggestion_grows (h : circleSuggestion lib key relationship interactions = .ok (some s))
    (extra : List AdvisedInteraction) :
    ∃ s', circleSuggestion lib key relationship (extra ++ interactions) = .ok (some s') ∧
      s.confidence ≤ s'.confidence := by
  obtain ⟨hcircle,hsubmitted,hcompleted,hdirections,hbuild⟩ := circleSuggestion_some.mp h
  obtain ⟨rfl,hsound⟩ := build_ok.mp hbuild
  have hmore := circleConfidence_append (extra.filter fun i => IsTask i)
    (interactions.filter fun i => IsTask i)
  have hdirections' := hdirections.trans (directions_append (extra.filter fun i => IsTask i)
    (interactions.filter fun i => IsTask i))
  refine ⟨_,circleSuggestion_some.mpr ⟨hcircle,?_,?_,?_,build_ok.mpr ⟨rfl,?_⟩⟩,?_⟩
  · rw [List.filter_append,outcomes_append]
    omega
  · rw [List.filter_append,outcomes_append]
    omega
  · rwa [List.filter_append]
  · exact ⟨built_id,by simp [built],hsound.subject,circleConfidence_range _,
      by simp [built],by simp [built],length_hex (lib.basisHash_hex _)⟩
  · simpa only [built,List.filter_append] using hmore

theorem posterior_range {completed sampleSize : ℕ} (h : completed ≤ sampleSize) :
    0 ≤ posteriorSuccess completed sampleSize ∧ posteriorSuccess completed sampleSize ≤ 100 := by
  have hc : (completed : ℚ) ≤ sampleSize := by exact_mod_cast h
  have hcompleted : (0 : ℚ) ≤ completed := Nat.cast_nonneg _
  have hsize : (0 : ℚ) < sampleSize + 4 := by linarith
  constructor
  · apply le_halfEven
    push_cast
    positivity
  · apply halfEven_le
    rw [div_le_iff₀ hsize]
    push_cast
    linarith

theorem deliveryConfidence_range (sampleSize : ℕ) :
    0 ≤ deliveryConfidence sampleSize ∧ deliveryConfidence sampleSize ≤ 90 := by
  unfold deliveryConfidence
  omega

/-- The estimate is the posterior, moved towards 50. -/
theorem estimate_between (completed sampleSize : ℕ) :
    min 50 (posteriorSuccess completed sampleSize) ≤ deliveryEstimate completed sampleSize ∧
      deliveryEstimate completed sampleSize ≤ max 50 (posteriorSuccess completed sampleSize) := by
  unfold deliveryEstimate
  obtain ⟨hnonneg,hle⟩ := deliveryConfidence_range sampleSize
  have hweight : (0 : ℚ) ≤ deliveryConfidence sampleSize ∧
      (deliveryConfidence sampleSize : ℚ) ≤ 90 :=
    ⟨by exact_mod_cast hnonneg,by exact_mod_cast hle⟩
  generalize (deliveryConfidence sampleSize : ℚ) = weight at hweight
  rcases le_total 50 (posteriorSuccess completed sampleSize) with hp | hp
  · have hpq : (50 : ℚ) ≤ posteriorSuccess completed sampleSize := by exact_mod_cast hp
    rw [min_eq_left hp,max_eq_right hp]
    constructor
    · apply le_halfEven
      push_cast
      nlinarith
    · apply halfEven_le
      nlinarith
  · have hpq : (posteriorSuccess completed sampleSize : ℚ) ≤ 50 := by exact_mod_cast hp
    rw [min_eq_right hp,max_eq_left hp]
    constructor
    · apply le_halfEven
      nlinarith
    · apply halfEven_le
      push_cast
      nlinarith

theorem posterior_completed {completed sampleSize : ℕ} (h : completed ≤ sampleSize) :
    posteriorSuccess completed sampleSize ≤ posteriorSuccess (completed + 1) (sampleSize + 1) := by
  have hc : (completed : ℚ) ≤ sampleSize := by exact_mod_cast h
  have hsize : (0 : ℚ) ≤ sampleSize := Nat.cast_nonneg _
  apply halfEven_mono
  push_cast
  rw [div_le_div_iff₀ (by linarith) (by linarith)]
  nlinarith

theorem posterior_failed (completed sampleSize : ℕ) :
    posteriorSuccess completed (sampleSize + 1) ≤ posteriorSuccess completed sampleSize := by
  have hc : (0 : ℚ) ≤ completed := Nat.cast_nonneg _
  have hsize : (0 : ℚ) ≤ sampleSize := Nat.cast_nonneg _
  apply halfEven_mono
  push_cast
  rw [div_le_div_iff₀ (by linarith) (by linarith)]
  nlinarith

/-- As long as more results mean more confidence, the estimates are few enough to look at. -/
theorem estimate_small : ∀ n < 7, ∀ c < n + 1,
    deliveryEstimate c n ≤ deliveryEstimate (c + 1) (n + 1) ∧
      deliveryEstimate c (n + 1) ≤ deliveryEstimate c n := by
  decide +kernel

/-- From seven results on the confidence does not grow, and the estimate follows the posterior. -/
theorem estimate_mono {c n c' n' : ℕ} (hn : 7 ≤ n) (hn' : 7 ≤ n')
    (h : posteriorSuccess c n ≤ posteriorSuccess c' n') :
    deliveryEstimate c n ≤ deliveryEstimate c' n' := by
  have hweight : deliveryConfidence n = 90 ∧ deliveryConfidence n' = 90 := by
    unfold deliveryConfidence
    omega
  have hq : (posteriorSuccess c n : ℚ) ≤ posteriorSuccess c' n' := by exact_mod_cast h
  unfold deliveryEstimate
  rw [hweight.1,hweight.2]
  apply halfEven_mono
  push_cast
  linarith

theorem estimate_completed {completed sampleSize : ℕ} (h : completed ≤ sampleSize) :
    deliveryEstimate completed sampleSize ≤ deliveryEstimate (completed + 1) (sampleSize + 1) := by
  by_cases hsmall : sampleSize < 7
  · exact (estimate_small sampleSize hsmall completed (by omega)).1
  · exact estimate_mono (by omega) (by omega) (posterior_completed h)

theorem estimate_failed {completed sampleSize : ℕ} (h : completed ≤ sampleSize) :
    deliveryEstimate completed (sampleSize + 1) ≤ deliveryEstimate completed sampleSize := by
  by_cases hsmall : sampleSize < 7
  · exact (estimate_small sampleSize hsmall completed (by omega)).2
  · exact estimate_mono (by omega) (by omega) (posterior_failed completed sampleSize)

theorem taskDelivery_some
    (h : taskDeliverySuggestion lib key relationship interactions = .ok (some s)) :
    s.proposedEstimate = some (deliveryEstimate
        (outcomes "completed" (interactions.filter fun i => IsTerminal i))
        (interactions.filter fun i => IsTerminal i).length) ∧
      ("posterior_success",posteriorSuccess
        (outcomes "completed" (interactions.filter fun i => IsTerminal i))
        (interactions.filter fun i => IsTerminal i).length) ∈ s.metrics := by
  unfold taskDeliverySuggestion at h
  simp only at h
  split_ifs at h with hfew hkeeps
  · cases h
  · cases h
  · obtain ⟨s',hbuild,h⟩ := bind_ok.mp h
    cases h
    obtain ⟨rfl,-⟩ := build_ok.mp hbuild
    simp [built]

/-- One more result, wherever it stands among the interactions, moves the estimate its way. -/
theorem taskDelivery_moves {before later : List AdvisedInteraction} {i : AdvisedInteraction}
    (hi : IsTerminal i)
    (h : taskDeliverySuggestion lib key relationship (before ++ later) = .ok (some s))
    (h' : taskDeliverySuggestion lib key relationship (before ++ i :: later) = .ok (some s')) :
    (i.outcome = "completed" → ∃ e ∈ s.proposedEstimate, ∃ e' ∈ s'.proposedEstimate, e ≤ e') ∧
      (i.outcome = "failed" → ∃ e ∈ s.proposedEstimate, ∃ e' ∈ s'.proposedEstimate, e' ≤ e) := by
  rw [taskDeliverySuggestion_perm List.perm_middle] at h'
  have hestimate := (taskDelivery_some h).1
  have hestimate' := (taskDelivery_some h').1
  rw [List.filter_cons_of_pos (by simpa using hi)] at hestimate'
  set terminal := (before ++ later).filter fun i => IsTerminal i
  have hle : outcomes "completed" terminal ≤ terminal.length := List.length_filter_le _ _
  constructor
  · intro hcompleted
    have hcount : outcomes "completed" (i :: terminal) = outcomes "completed" terminal + 1 := by
      simp [outcomes,hcompleted]
    rw [hcount,List.length_cons] at hestimate'
    exact ⟨_,hestimate,_,hestimate',estimate_completed hle⟩
  · intro hfailed
    have hcount : outcomes "completed" (i :: terminal) = outcomes "completed" terminal := by
      simp [outcomes,hfailed]
    rw [hcount,List.length_cons] at hestimate'
    exact ⟨_,hestimate,_,hestimate',estimate_failed hle⟩

/-- What is offered has not been decided. -/
theorem advise_undecided {subjectRef : String} {offered : List RelationshipSuggestion}
    (h : advise lib model subjectRef = .ok offered) (hs : s ∈ offered) :
    s.suggestionId ∉ model.suggestionDecisions := by
  simp only [advise,bind_ok] at h
  obtain ⟨-,-,suggestions,-,h⟩ := h
  cases h
  have hmem := (List.mem_insertionSort _).mp hs
  simpa using (List.mem_filter.mp hmem).2

/-- Every suggestion that is offered was built by `_build`. -/
theorem advise_built {subjectRef : String} {offered : List RelationshipSuggestion}
    (h : advise lib model subjectRef = .ok offered) (hs : s ∈ offered) :
    ∃ b c m, s.suggestionId = "rsg_" ++ lib.suggestionHash b c m := by
  simp only [advise,bind_ok] at h
  obtain ⟨-,-,suggestions,hsuggestions,h⟩ := h
  cases h
  obtain ⟨of,hof,hin⟩ := List.mem_flatten.mp
    (List.mem_filter.mp ((List.mem_insertionSort _).mp hs)).1
  obtain ⟨key,-,hkey⟩ := mem_mapM hsuggestions hof
  unfold adviseOn at hkey
  split at hkey
  · cases hkey
    cases hin
  · simp only [bind_ok] at hkey
    obtain ⟨circle,hcircle,trust,htrust,hkey⟩ := hkey
    cases hkey
    rcases List.mem_append.mp hin with hin | hin
    · rw [Option.mem_toList.mp hin] at hcircle
      obtain ⟨-,-,-,-,hbuild⟩ := circleSuggestion_some.mp hcircle
      obtain ⟨rfl,-⟩ := build_ok.mp hbuild
      exact ⟨_,_,_,rfl⟩
    · rw [Option.mem_toList.mp hin] at htrust
      unfold taskDeliverySuggestion at htrust
      simp only at htrust
      split_ifs at htrust with hfew hkeeps
      · cases htrust
      · cases htrust
      · obtain ⟨s',hbuild,hval⟩ := bind_ok.mp htrust
        cases hval
        obtain ⟨rfl,-⟩ := build_ok.mp hbuild
        exact ⟨_,_,_,rfl⟩

end RelationshipAdvisor

namespace RelationshipBook

/-- The entries of a dictionary in the order of their keys. -/
def inOrder {α : Type} (d : Keyed String α) : List (String × α) :=
  d.entries.insertionSort fun e f => e.1 ≤ f.1

/-- What the advisor reads of `snapshot`. -/
def snapshot (b : RelationshipBook) : AdvisorModel where
  subjects := (inOrder b.subjects).map fun e => (e.1,e.2.state)
  relationships := (inOrder b.relationships).map fun e => (e.1,⟨e.2.circle.text,e.2.state,
    e.2.contextTrust.entries.map fun t => (t.1,t.2.estimate,t.2.confidence)⟩)
  interactions := (inOrder b.interactions).map fun e => ⟨e.2.interactionId,e.2.subjectRef,
    e.2.direction.text,e.2.facets,e.2.outcome⟩
  suggestionDecisions := (inOrder b.suggestionDecisions).map Prod.fst

end RelationshipBook

namespace RelationshipDecisionManager

/-- `decide`. -/
def decide (lib : AdvisorDigests) (decisionId : String → String → String) (b : RelationshipBook)
    (suggestionId : String) (accepted : Bool) (rationale : String) (now : ℤ)
    (appliedEventId eventId : String) : Result (SuggestionDecision × RelationshipBook) := do
  match b.suggestionDecisions.get suggestionId with
  | some existing =>
    raiseIf (existing.accepted ≠ accepted)
      (.value "relationship suggestion already has another decision")
    return (existing,b)
  | none =>
    let current ← RelationshipAdvisor.advise lib b.snapshot ""
    let suggestion ← fetched (current.reverse.find? fun s => s.suggestionId = suggestionId)
      (.value "relationship suggestion is unknown, stale, or no longer applicable")
    RelationshipBook.decideSuggestion decisionId b suggestion.toSuggestion accepted rationale now
      appliedEventId eventId

end RelationshipDecisionManager

namespace RelationshipBook

variable {b b' : RelationshipBook} {decisionId : String → String → String} {lib : AdvisorDigests}

/-- No operation of the book takes a decision back. -/
theorem perform_decided (decisionId : String → String → String) (call : Call) {id : String}
    {d : SuggestionDecision} (h : b.suggestionDecisions.get id = some d) :
    (b.perform decisionId call).suggestionDecisions.get id = some d := by
  by_cases hcall : b.Separates call
  · exact (perform_grows decisionId hcall).decisions id d h
  · -- only an interaction can fail to be separate, and it records no decision
    cases call with
    | interaction i eventId =>
      apply after_cases (P := fun x => x.suggestionDecisions.get id = some d) h
      intro a b' hr
      unfold recordInteraction at hr
      split at hr
      · cases hr
        exact h
      · simp only [bind_ok] at hr
        obtain ⟨-,-,subject,-,-,-,hr⟩ := hr
        cases hr
        exact h
    | _ => exact absurd trivial hcall

theorem mem_snapshot_decisions {id : String} (h : (b.suggestionDecisions.get id).isSome) :
    id ∈ b.snapshot.suggestionDecisions := by
  obtain ⟨d,hd⟩ := Option.isSome_iff_exists.mp h
  have hentry := Keyed.get_eq_some.mp hd
  exact List.mem_map.mpr ⟨(id,d),(List.mem_insertionSort _).mpr hentry,rfl⟩

end RelationshipBook

namespace RelationshipDecisionManager

variable {b b' : RelationshipBook} {decisionId : String → String → String} {lib : AdvisorDigests}
variable {suggestionId rationale appliedEventId eventId : String} {accepted : Bool} {now : ℤ}
variable {d : SuggestionDecision}

theorem strip_hashed {n : ℕ} {x : String} (h : isHex n x) : strip ("rsg_" ++ x) = "rsg_" ++ x := by
  simp only [isHex,Bool.and_eq_true,List.all_eq_true] at h
  have hprefix : ∀ c ∈ "rsg_".toList, isPySpace c = false := by simp [isPySpace]
  apply strip_none
  intro c hc
  rw [String.toList_append] at hc
  rcases List.mem_append.mp hc with hc | hc
  · exact hprefix c hc
  · exact isPySpace_hex (h.2 c hc)

/-- A decision that is made is recorded, and leaves the others. -/
theorem decide_records (h : decide lib decisionId b suggestionId accepted rationale now
    appliedEventId eventId = .ok (d,b')) :
    (b'.suggestionDecisions.get suggestionId).isSome ∧
      ∀ id e, b.suggestionDecisions.get id = some e → b'.suggestionDecisions.get id = some e := by
  unfold decide at h
  split at h
  · next existing hexisting =>
    simp only [bind_ok,raiseIf_ok] at h
    obtain ⟨-,-,h⟩ := h
    cases h
    exact ⟨by simp [hexisting],fun _ _ he => he⟩
  · simp only [bind_ok,fetched_ok] at h
    obtain ⟨current,hcurrent,suggestion,hsuggestion,h⟩ := h
    have hmem : suggestion ∈ current := List.mem_reverse.mp (List.mem_of_find?_eq_some hsuggestion)
    have hid : suggestion.suggestionId = suggestionId := by
      simpa using List.find?_some hsuggestion
    obtain ⟨x,c,m,hbuilt⟩ := RelationshipAdvisor.advise_built hcurrent hmem
    have hstrip : strip suggestion.suggestionId = suggestionId := by
      rw [← hid,hbuilt,strip_hashed (lib.suggestionHash_hex x c m)]
    refine ⟨?_,(RelationshipBook.decideSuggestion_grows h).decisions⟩
    simp only [RelationshipBook.decideSuggestion,boundedText,bind_ok,
      raiseIf_ok] at h
    obtain ⟨id,⟨-,-,hval⟩,-,-,h⟩ := h
    cases hval
    rw [hstrip] at h
    split at h
    · next existing hexisting =>
      simp only [bind_ok] at h
      obtain ⟨-,-,h⟩ := h
      cases h
      simp [hexisting]
    · simp only [bind_ok] at h
      obtain ⟨ty,-,ref,-,-,-,reason,-,c,-,-,-,-,-,-,-,t,-,applied,-,h⟩ := h
      cases h
      simp [RelationshipBook.appendEvent]

end RelationshipDecisionManager
namespace RelationshipAdvisor

/-- A call of the book, or a decision on a suggestion that is offered. -/
inductive AdvisorStep (lib : AdvisorDigests) (decisionId : String → String → String) :
    RelationshipBook → RelationshipBook → Prop
  | call (b : RelationshipBook) (call : RelationshipBook.Call) :
      AdvisorStep lib decisionId b (b.perform decisionId call)
  | decide (b b' : RelationshipBook) (suggestionId : String) (accepted : Bool) (rationale : String)
      (now : ℤ) (appliedEventId eventId : String) (d : SuggestionDecision)
      (h : RelationshipDecisionManager.decide lib decisionId b suggestionId accepted rationale now
        appliedEventId eventId = .ok (d,b')) : AdvisorStep lib decisionId b b'

variable {lib : AdvisorDigests} {decisionId : String → String → String} {b b' : RelationshipBook}

theorem AdvisorStep.decided (h : AdvisorStep lib decisionId b b') {id : String}
    (hid : (b.suggestionDecisions.get id).isSome) : (b'.suggestionDecisions.get id).isSome := by
  obtain ⟨d,hd⟩ := Option.isSome_iff_exists.mp hid
  apply Option.isSome_iff_exists.mpr
  cases h with
  | call call => exact ⟨d,RelationshipBook.perform_decided decisionId call hd⟩
  | decide b' suggestionId accepted rationale now appliedEventId eventId e h =>
    exact ⟨d,(RelationshipDecisionManager.decide_records h).2 id d hd⟩

theorem run_decided (h : Reaches (AdvisorStep lib decisionId) b b') {id : String}
    (hid : (b.suggestionDecisions.get id).isSome) : (b'.suggestionDecisions.get id).isSome :=
  Reaches.invariant (I := fun x => (x.suggestionDecisions.get id).isSome)
    (fun _ _ hx hstep => hstep.decided hx) hid h

/-- Advice does not depend on the order of the interactions or on those without a task; the
estimate of task delivery lies between 50 and the posterior and follows each result; task
evidence never lowers the confidence in a closer circle; and what was decided is not offered
again. -/
theorem advice_follows_evidence (lib : AdvisorDigests) (decisionId : String → String → String) :
    (∀ model interactions subjectRef, List.Perm interactions model.interactions →
      advise lib { model with interactions := interactions } subjectRef =
        advise lib model subjectRef) ∧
    (∀ model subjectRef,
      advise lib { model with interactions := model.interactions.filter fun i => IsTask i }
        subjectRef = advise lib model subjectRef) ∧
    (∀ completed sampleSize, completed ≤ sampleSize →
      (0 ≤ posteriorSuccess completed sampleSize ∧ posteriorSuccess completed sampleSize ≤ 100) ∧
      (0 ≤ deliveryEstimate completed sampleSize ∧ deliveryEstimate completed sampleSize ≤ 100) ∧
      min 50 (posteriorSuccess completed sampleSize) ≤ deliveryEstimate completed sampleSize ∧
      deliveryEstimate completed sampleSize ≤ max 50 (posteriorSuccess completed sampleSize) ∧
      deliveryEstimate completed sampleSize ≤ deliveryEstimate (completed + 1) (sampleSize + 1) ∧
      deliveryEstimate completed (sampleSize + 1) ≤ deliveryEstimate completed sampleSize) ∧
    (∀ key relationship interactions s,
      taskDeliverySuggestion lib key relationship interactions = .ok (some s) →
      s.proposedEstimate = some (deliveryEstimate
        (outcomes "completed" (interactions.filter fun i => IsTerminal i))
        (interactions.filter fun i => IsTerminal i).length) ∧
      ("posterior_success",posteriorSuccess
        (outcomes "completed" (interactions.filter fun i => IsTerminal i))
        (interactions.filter fun i => IsTerminal i).length) ∈ s.metrics) ∧
    (∀ key relationship before later i s s', IsTerminal i →
      taskDeliverySuggestion lib key relationship (before ++ later) = .ok (some s) →
      taskDeliverySuggestion lib key relationship (before ++ i :: later) = .ok (some s') →
      (i.outcome = "completed" → ∃ e ∈ s.proposedEstimate, ∃ e' ∈ s'.proposedEstimate, e ≤ e') ∧
      (i.outcome = "failed" → ∃ e ∈ s.proposedEstimate, ∃ e' ∈ s'.proposedEstimate, e' ≤ e)) ∧
    (∀ key relationship interactions more s, List.Subperm interactions more →
      circleSuggestion lib key relationship interactions = .ok (some s) →
      ∃ s', circleSuggestion lib key relationship more = .ok (some s') ∧
        s.confidence ≤ s'.confidence) ∧
    (∀ b b' id, (b.suggestionDecisions.get id).isSome →
      Reaches (AdvisorStep lib decisionId) b b' → ∀ subjectRef offered,
      advise lib b'.snapshot subjectRef = .ok offered → ∀ s ∈ offered, s.suggestionId ≠ id) ∧
    ∀ b b' suggestionId accepted rationale now appliedEventId eventId d,
      RelationshipDecisionManager.decide lib decisionId b suggestionId accepted rationale now
        appliedEventId eventId = .ok (d,b') → (b'.suggestionDecisions.get suggestionId).isSome := by
  refine ⟨?_,?_,?_,?_,?_,?_,?_,?_⟩
  · intro model interactions subjectRef h
    exact advise_perm h subjectRef
  · exact advise_tasks
  · intro completed sampleSize h
    have hposterior := posterior_range h
    have hbetween := estimate_between completed sampleSize
    exact ⟨hposterior,by omega,hbetween.1,hbetween.2,estimate_completed h,estimate_failed h⟩
  · intro key relationship interactions s h
    exact taskDelivery_some h
  · intro key relationship before later i s s' hi h h'
    exact taskDelivery_moves hi h h'
  · intro key relationship interactions more s hsub h
    obtain ⟨l,hl,hin⟩ := hsub
    obtain ⟨extra,hextra⟩ := hin.exists_perm_append
    have hperm : more.Perm (extra ++ interactions) :=
      hextra.trans ((hl.append_right extra).trans List.perm_append_comm)
    rw [circleSuggestion_perm hperm]
    exact circleSuggestion_grows h extra
  · intro b b' id hid hrun subjectRef offered hoffered s hs heq
    apply advise_undecided hoffered hs
    rw [heq]
    exact RelationshipBook.mem_snapshot_decisions (run_decided hrun hid)
  · intro b b' suggestionId accepted rationale now appliedEventId eventId d h
    exact (RelationshipDecisionManager.decide_records h).1

def sampleDigests : AdvisorDigests where
  basisHash := fun _ => "00000000000000000000000000000000"
  suggestionHash := fun _ _ _ => "00000000000000000000000000000000"
  basisHash_hex := fun _ => by decide
  suggestionHash_hex := fun _ _ _ => by decide

def sampleTask (outcome : String) : AdvisedInteraction := ⟨"i","subj_a","incoming",["task"],outcome⟩

theorem advice_follows_evidence_sample : posteriorSuccess 3 3 = 71 ∧ deliveryEstimate 3 3 = 60 ∧
    deliveryEstimate 3 3 ≤ deliveryEstimate 4 4 ∧
    advise sampleDigests ⟨[],[],[sampleTask "failed",sampleTask "completed"],[]⟩ "" =
      advise sampleDigests ⟨[],[],[sampleTask "completed",sampleTask "failed"],[]⟩ "" := by
  obtain ⟨horder,-,hcounts,-⟩ := advice_follows_evidence sampleDigests fun owner id => owner ++ id
  have hswap := horder ⟨[],[],[sampleTask "completed",sampleTask "failed"],[]⟩
    [sampleTask "failed",sampleTask "completed"] "" (List.Perm.swap _ _ _)
  obtain ⟨-,-,-,-,hmore,-⟩ := hcounts 3 3 le_rfl
  exact ⟨by decide +kernel,by decide +kernel,hmore,hswap⟩

end RelationshipAdvisor
end Anet.Relations
