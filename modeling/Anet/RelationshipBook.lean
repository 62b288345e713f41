import Anet.Keyed
import Anet.Python
import Mathlib.Data.List.Dedup

/-! An observer's relationship book: the Actors it has seen, its Subject hypotheses about them, one
relationship estimate for each Subject, and the events behind all of these. -/
namespace Anet.Relations

inductive Circle
  | publicCircle | known | collab | friend | close | family
  deriving DecidableEq

/-- `RELATION_CIRCLES.index`. -/
def Circle.index : Circle → ℕ
  | publicCircle => 0 | known => 1 | collab => 2 | friend => 3 | close => 4 | family => 5

def Circle.text : Circle → String
  | publicCircle => "public" | known => "known" | collab => "collab" | friend => "friend"
  | close => "close" | family => "family"

inductive ActorState
  | active | revoked
  deriving DecidableEq

inductive SubjectState
  | active | superseded
  deriving DecidableEq

inductive RelationshipState
  | active | dormant | ended
  deriving DecidableEq

def RelationshipState.text : RelationshipState → String
  | active => "active" | dormant => "dormant" | ended => "ended"

inductive TransitionType
  | split | merge | supersede
  deriving DecidableEq

def TransitionType.text : TransitionType → String
  | split => "split" | merge => "merge" | supersede => "supersede"

inductive ProofScope
  | cryptographic | platformObserved | bridgeAttested | operatorAttested
  deriving DecidableEq

def ProofScope.text : ProofScope → String
  | cryptographic => "cryptographic" | platformObserved => "platform-observed"
  | bridgeAttested => "bridge-attested" | operatorAttested => "operator-attested"

structure ActorProof where
  proofType : String
  scope : ProofScope
  issuerActorId : String
  evidenceRef : String
  observedMs : ℤ

def ActorProof.key (p : ActorProof) : String × ProofScope × String :=
  (p.proofType,p.scope,p.issuerActorId)

/-- What an adapter reports of an Actor. -/
structure ActorObservation where
  actorId : String
  actorKind : String
  actorLabel : String
  proof : ActorProof

structure ActorRecord where
  actorKind : String
  actorLabel : String
  state : ActorState
  proofs : Keyed (String × ProofScope × String) ActorProof
  evidenceRefs : List String
  firstSeenMs : ℤ
  updatedMs : ℤ

structure SubjectActorLink where
  confidence : ℤ
  evidenceRefs : List String
  updatedMs : ℤ

structure SubjectHypothesis where
  state : SubjectState
  labels : List String
  actorLinks : Keyed String SubjectActorLink
  evidenceRefs : List String
  updatedMs : ℤ

structure ContextTrust where
  estimate : ℤ
  confidence : ℤ
  evidenceRefs : List String
  updatedMs : ℤ

structure RelationshipEstimate where
  circle : Circle
  state : RelationshipState
  relationshipLabels : List String
  relationshipConfidence : ℤ
  contextTrust : Keyed String ContextTrust
  evidenceRefs : List String
  updatedMs : ℤ

inductive DetailValue
  | text (s : String) | number (n : ℤ) | list (l : List String) | flag (b : Bool) | absent
  deriving DecidableEq

structure RelationshipEvent where
  eventId : String
  eventType : String
  actorId : String
  subjectRef : String
  evidenceRef : String
  observedMs : ℤ
  details : List (String × DetailValue)
  deriving DecidableEq

inductive Direction
  | incoming | outgoing
  deriving DecidableEq

def Direction.text : Direction → String
  | incoming => "incoming" | outgoing => "outgoing"

structure InteractionEvidence where
  interactionId : String
  actorId : String
  subjectRef : String
  direction : Direction
  facets : List String
  context : String
  outcome : String
  evidenceRef : String
  occurredMs : ℤ
  deriving DecidableEq

structure SubjectTransition where
  transitionId : String
  transitionType : TransitionType
  sourceSubjectRefs : List String
  replacementSubjectRefs : List String
  confidence : ℤ
  evidenceRef : String
  observedMs : ℤ
  deriving DecidableEq

structure SuggestionDecision where
  decisionId : String
  suggestionType : String
  subjectRef : String
  accepted : Bool
  rationale : String
  basisHash : String
  suggestionConfidence : ℤ
  proposedCircle : String
  context : String
  proposedEstimate : Option ℤ
  decidedMs : ℤ
  deriving DecidableEq

structure RelationshipBook where
  ownActorId : String
  actors : Keyed String ActorRecord
  subjects : Keyed String SubjectHypothesis
  relationships : Keyed String RelationshipEstimate
  events : List RelationshipEvent
  interactions : Keyed String InteractionEvidence
  transitions : List SubjectTransition
  suggestionDecisions : Keyed String SuggestionDecision

def maxLabelLength : ℕ := 128
def maxEvidenceLength : ℕ := 256
def maxContextLength : ℕ := 64

/-- `_now_ms`. -/
def nowMs (now : ℤ) : Result ℤ := do
  raiseIf (now ≤ 0) (.value "invalid relationship event time")
  return now

/-- `_bounded_text`. -/
def boundedText (label : String) (maximum : ℕ) (value : String) : Result String := do
  raiseIf (strip value = "" ∨ maximum < (strip value).length) (.value s!"invalid {label}")
  return strip value

/-- `_confidence`. -/
def checkedConfidence (label : String) (value : ℤ) : Result ℤ := do
  raiseIf (value < 0 ∨ 100 < value) (.value s!"invalid {label}")
  return value

/-- `_unique_text`. -/
def uniqueText (label : String) (maximum : ℕ) (values : List String) : Result (List String) := do
  let texts ← values.mapM (boundedText label maximum)
  return (texts.insertionSort (· ≤ ·)).dedup

/-- `tuple(dict.fromkeys(xs))`. -/
def firsts (xs : List String) : List String := xs.reverse.dedup.reverse

namespace RelationshipBook

/-- An Actor is linked to a Subject. -/
def Links (s : SubjectHypothesis) (actorId : String) : Prop := (s.actorLinks.get actorId).isSome

instance (s : SubjectHypothesis) (actorId : String) : Decidable (Links s actorId) :=
  inferInstanceAs (Decidable (_ = _))

def linkedActors (s : SubjectHypothesis) : List String := s.actorLinks.entries.map Prod.fst

/-- `_append_event`. -/
def appendEvent (b : RelationshipBook) (e : RelationshipEvent) : RelationshipBook :=
  { b with events := b.events ++ [e] }

/-- The keys of `max` in `primary_subject`. -/
def weaker (x y : ℤ × ℤ × String) : Prop :=
  x.1 < y.1 ∨ (x.1 = y.1 ∧ (x.2.1 < y.2.1 ∨ (x.2.1 = y.2.1 ∧ x.2.2 < y.2.2)))

instance (x y : ℤ × ℤ × String) : Decidable (weaker x y) := by
  unfold weaker
  infer_instance

/-- The active Subjects with a link to the Actor, by the confidence of the link. -/
def candidates (b : RelationshipBook) (actorId : String) :
    List ((ℤ × ℤ × String) × SubjectHypothesis) :=
  b.subjects.entries.filterMap fun e =>
    if e.2.state = .active then
      (e.2.actorLinks.get actorId).map fun l => ((l.confidence,e.2.updatedMs,e.1),e.2)
    else none

def strongest : List ((ℤ × ℤ × String) × SubjectHypothesis) →
    Option ((ℤ × ℤ × String) × SubjectHypothesis)
  | [] => none
  | c :: cs =>
    match strongest cs with
    | none => some c
    | some m => if weaker m.1 c.1 then some c else some m

def primarySubject (b : RelationshipBook) (actorId : String) :
    Option (String × SubjectHypothesis) :=
  (strongest (b.candidates actorId)).map fun c => (c.1.2.2,c.2)

/-- `visit`: the lineage from a Subject on; `fuel` bounds the depth. -/
def visit (lineage : String → List String) : ℕ → List String → List String → String →
    Result (List String)
  | 0,_,visited,_ => .ok visited
  | fuel + 1,visiting,visited,ref => do
    raiseIf (ref ∈ visiting) (.value "Subject transition lineage contains a cycle")
    if ref ∈ visited then return visited
    let visited ← (lineage ref).foldlM (visit lineage fuel (ref :: visiting)) visited
    return ref :: visited

def replacementsOf (transitions : List SubjectTransition) (ref : String) : List String :=
  (transitions.filter fun t => ref ∈ t.sourceSubjectRefs).flatMap
    SubjectTransition.replacementSubjectRefs

/-- The checks of `_validate_model` on the Actors, Subjects and relationships. -/
def validateLinks (b : RelationshipBook) : Result Unit := do
  raiseIf ((b.actors.get b.ownActorId).isSome = true)
    (.value "relationship book contains the local Actor")
  raiseIf (∃ a ∈ b.actors.entries, ∃ p ∈ a.2.proofs.entries, p.2.issuerActorId ≠ b.ownActorId ∧
      p.2.issuerActorId ≠ a.1 ∧ (b.actors.get p.2.issuerActorId).isNone)
    (.value "Actor proof references an unknown issuer")
  raiseIf (∃ s ∈ b.subjects.entries, ∃ a ∈ linkedActors s.2, (b.actors.get a).isNone)
    (.value "Subject hypothesis references an unknown Actor")
  raiseIf (∃ a ∈ b.actors.entries, ∀ s ∈ b.subjects.entries, ¬ Links s.2 a.1)
    (.value "every observed Actor must belong to a Subject hypothesis")
  raiseIf (∃ a ∈ b.actors.entries, ∀ s ∈ b.subjects.entries, s.2.state = .active → ¬ Links s.2 a.1)
    (.value "every observed Actor must have an active Subject hypothesis")
  raiseIf ((∃ s ∈ b.subjects.entries, (b.relationships.get s.1).isNone) ∨
      ∃ r ∈ b.relationships.entries, (b.subjects.get r.1).isNone)
    (.value "every Subject hypothesis must have one relationship")

/-- Its checks on the events and interactions. -/
def validateEvents (b : RelationshipBook) : Result Unit := do
  raiseIf (¬ (b.events.map RelationshipEvent.eventId).Nodup)
    (.value "relationship book contains a duplicate event")
  b.interactions.entries.forM fun i => do
    raiseIf ((b.actors.get i.2.actorId).isNone = true)
      (.value "interaction references an unknown Actor")
    let subject ← fetched (b.subjects.get i.2.subjectRef)
      (.value "interaction references an unknown Subject")
    raiseIf (¬ Links subject i.2.actorId) (.value "interaction Actor is not linked to its Subject")

/-- Its checks on one transition, with the sources and replacements of those before it. -/
def validateTransition (b : RelationshipBook) (seen : List String × List String)
    (t : SubjectTransition) : Result (List String × List String) := do
  let sources ← t.sourceSubjectRefs.foldlM (fun seen r => do
    raiseIf (r ∈ seen) (.value "Subject hypothesis has multiple outgoing transitions")
    let source ← fetched (b.subjects.get r) (.value "transition references an unknown source Subject")
    raiseIf (source.state ≠ .superseded) (.value "transition source Subject is not superseded")
    return r :: seen) seen.1
  let replacements ← t.replacementSubjectRefs.foldlM (fun seen r => do
    raiseIf (r ∈ seen) (.value "Subject hypothesis has multiple incoming transitions")
    raiseIf ((b.subjects.get r).isNone = true)
      (.value "transition references an unknown replacement Subject")
    return r :: seen) seen.2
  return (sources,replacements)

/-- Its checks on the lineage. -/
def validateLineage (b : RelationshipBook) : Result Unit := do
  raiseIf (¬ (b.transitions.map SubjectTransition.transitionId).Nodup)
    (.value "relationship book contains a duplicate transition")
  let seen ← b.transitions.foldlM b.validateTransition ([],[])
  let _ ← seen.1.foldlM (visit (replacementsOf b.transitions) (seen.1.length + 2) []) []

/-- `_validate_model` as a transition calls it, without the suggestion decisions. -/
def validateModel (b : RelationshipBook) : Result Unit := do
  b.validateLinks
  b.validateEvents
  b.validateLineage

def refreshedLabel (actor : ActorRecord) (o : ActorObservation) : String :=
  if o.actorLabel = "" then actor.actorLabel else o.actorLabel

/-- `proofs.setdefault`. -/
def refreshedProofs (actor : ActorRecord) (p : ActorProof) :
    Keyed (String × ProofScope × String) ActorProof :=
  if (actor.proofs.get p.key).isSome then actor.proofs else actor.proofs.put p.key p

/-- `observe_typed_actor`; `ref` and `eventId` are drawn at random. -/
def observeTypedActor (b : RelationshipBook) (o : ActorObservation) (confidence now : ℤ)
    (ref eventId : String) : Result (String × RelationshipBook) := do
  raiseIf (o.actorId = b.ownActorId) (.value "cannot observe the local Actor as a peer")
  raiseIf (o.proof.issuerActorId ≠ b.ownActorId ∧ o.proof.issuerActorId ≠ o.actorId ∧
      (b.actors.get o.proof.issuerActorId).isNone = true)
    (.value "Actor proof issuer is not known to this observer")
  let evidence := o.proof.evidenceRef
  let confidence ← checkedConfidence "initial Subject confidence" confidence
  let now ← nowMs now
  raiseIf (now < o.proof.observedMs) (.value "Actor proof occurs after the observation")
  match b.actors.get o.actorId with
  | none =>
    let subject : SubjectHypothesis := ⟨.active,[],
      Keyed.empty.put o.actorId ⟨confidence,[evidence],now⟩,[evidence],now⟩
    let added : RelationshipBook := { b with
      actors := b.actors.put o.actorId ⟨o.actorKind,o.actorLabel,.active,
        Keyed.empty.put o.proof.key o.proof,[evidence],now,now⟩
      subjects := b.subjects.put ref subject
      relationships := b.relationships.put ref
        ⟨.publicCircle,.active,[],0,Keyed.empty,[evidence],now⟩ }
    return (ref,added.appendEvent ⟨eventId,"actor.observed",o.actorId,ref,evidence,now,
      [("actor_kind",.text o.actorKind),("proof_scope",.text o.proof.scope.text)]⟩)
  | some actor =>
    raiseIf (actor.actorKind ≠ o.actorKind) (.value "Actor observation changes the Actor kind")
    if (actor.proofs.get o.proof.key).isSome ∧ refreshedLabel actor o = actor.actorLabel then
      let subject ← fetched (b.primarySubject o.actorId)
        (.value "observed Actor has no Subject hypothesis")
      return (subject.1,b)
    else
      let evidenceRefs ← uniqueText "Actor evidence reference" maxEvidenceLength
        (actor.evidenceRefs ++ [evidence])
      raiseIf (now < actor.firstSeenMs) (.value "invalid Actor observation time")
      let subject ← fetched (b.primarySubject o.actorId)
        (.value "observed Actor has no Subject hypothesis")
      let refreshed : RelationshipBook := { b with
        actors := b.actors.put o.actorId
          { actor with
            actorLabel := refreshedLabel actor o, proofs := refreshedProofs actor o.proof
            evidenceRefs := evidenceRefs, updatedMs := now } }
      return (subject.1,refreshed.appendEvent ⟨eventId,"actor.observation-refreshed",o.actorId,
        subject.1,evidence,now,
        [("actor_kind",.text o.actorKind),("proof_scope",.text o.proof.scope.text)]⟩)

/-- What `observe_actor` reads of a peer card. -/
structure Card where
  nodeId : String
  label : String
  verify : Result Unit

/-- `observe_actor`. -/
def observeActor (b : RelationshipBook) (card : Card) (evidenceRef : String) (confidence now : ℤ)
    (ref eventId : String) : Result (String × RelationshipBook) := do
  card.verify
  raiseIf (card.nodeId = b.ownActorId) (.value "cannot observe the local Actor as a peer")
  let evidence ← boundedText "Actor evidence reference" maxEvidenceLength evidenceRef
  let confidence ← checkedConfidence "initial Subject confidence" confidence
  let now ← nowMs now
  b.observeTypedActor ⟨card.nodeId,"anet.node",(card.label.take maxLabelLength).toString,
    ⟨"anet.peer-card",.cryptographic,card.nodeId,evidence,now⟩⟩ confidence now ref eventId

/-- `record_interaction`. -/
def recordInteraction (b : RelationshipBook) (i : InteractionEvidence) (eventId : String) :
    Result (Bool × RelationshipBook) := do
  if (b.interactions.get i.interactionId).isSome then return (false,b)
  else
    raiseIf ((b.actors.get i.actorId).isNone = true) (.key s!"unknown Actor: {i.actorId}")
    let subject ← fetched (b.subjects.get i.subjectRef)
      (.key s!"unknown Subject hypothesis: {i.subjectRef}")
    raiseIf (¬ Links subject i.actorId) (.value "interaction Actor is not linked to its Subject")
    let recorded : RelationshipBook :=
      { b with interactions := b.interactions.put i.interactionId i }
    return (true,recorded.appendEvent ⟨eventId,"interaction.observed",i.actorId,i.subjectRef,
      i.evidenceRef,i.occurredMs,[]⟩)

/-- `_replacement_relationship`. -/
def replacementRelationship (source : Option RelationshipEstimate) (evidenceRef : String)
    (now : ℤ) : Result RelationshipEstimate :=
  match source with
  | none => return ⟨.known,.active,[],25,Keyed.empty,[evidenceRef],now⟩
  | some r => do
    let evidenceRefs ← uniqueText "relationship evidence reference" maxEvidenceLength
      (r.evidenceRefs ++ [evidenceRef])
    return { r with evidenceRefs := evidenceRefs, updatedMs := now }

/-- The part of a transition for one source. -/
def supersedeSource (t : SubjectTransition) (eventIds : ℕ → String) (b : RelationshipBook)
    (source : String × ℕ) : Result RelationshipBook := do
  let subject ← fetched (b.subjects.get source.1) (.key source.1)
  let subjectRefs ← uniqueText "Subject evidence reference" maxEvidenceLength
    (subject.evidenceRefs ++ [t.evidenceRef])
  let relationship ← fetched (b.relationships.get source.1) (.key source.1)
  let relationshipRefs ← uniqueText "relationship evidence reference" maxEvidenceLength
    (relationship.evidenceRefs ++ [t.evidenceRef])
  let retired : RelationshipBook := { b with
    subjects := b.subjects.put source.1 { subject with
      state := .superseded, evidenceRefs := subjectRefs, updatedMs := t.observedMs }
    relationships := b.relationships.put source.1 { relationship with
      state := if relationship.state = .active then .dormant else relationship.state
      evidenceRefs := relationshipRefs, updatedMs := t.observedMs } }
  return retired.appendEvent ⟨eventIds source.2,s!"subject.{t.transitionType.text}","",source.1,
    t.evidenceRef,t.observedMs,[]⟩

/-- The estimate of the source that a replacement inherits from, if it does. -/
def inheritedEstimate (before : RelationshipBook) (inheritance : Option (String × String))
    (ref : String) : Result (Option RelationshipEstimate) :=
  match inheritance with
  | some h =>
    if h.1 = ref then (fetched (before.relationships.get h.2) (.key h.2)).map some else .ok none
  | none => .ok none

/-- The part of a transition for one replacement, which may take over the estimate of a source. -/
def addReplacement (before : RelationshipBook) (t : SubjectTransition)
    (inheritance : Option (String × String)) (b : RelationshipBook)
    (replacement : String × SubjectHypothesis) : Result RelationshipBook := do
  let source ← inheritedEstimate before inheritance replacement.1
  let relationship ← replacementRelationship source t.evidenceRef t.observedMs
  return { b with
    subjects := b.subjects.put replacement.1 replacement.2
    relationships := b.relationships.put replacement.1 relationship }

/-- `_commit_subject_transition`; each source has an event id of its own. -/
def commitSubjectTransition (b : RelationshipBook) (t : SubjectTransition)
    (replacements : List (String × SubjectHypothesis)) (inheritance : Option (String × String))
    (eventIds : ℕ → String) : Result (SubjectTransition × RelationshipBook) := do
  raiseIf (¬ (t.sourceSubjectRefs ++ t.replacementSubjectRefs).Nodup)
    (.value "Subject transition contains a duplicate reference")
  let retired ← t.sourceSubjectRefs.zipIdx.foldlM (supersedeSource t eventIds) b
  let replaced ← replacements.foldlM (addReplacement b t inheritance) retired
  let committed : RelationshipBook := { replaced with transitions := b.transitions ++ [t] }
  committed.validateModel
  return (t,committed)

/-- A link of a replacement, with the evidence of the transition. -/
def carriedLink (evidence : String) (now : ℤ) (l : SubjectActorLink) : Result SubjectActorLink := do
  let evidenceRefs ← uniqueText "Subject link evidence reference" maxEvidenceLength
    (l.evidenceRefs ++ [evidence])
  return ⟨l.confidence,evidenceRefs,now⟩

/-- The links of a replacement to some of the Actors of a source. -/
def carriedLinks (evidence : String) (now : ℤ) (source : SubjectHypothesis) :
    List String → Result (Keyed String SubjectActorLink)
  | [] => return Keyed.empty
  | a :: as => do
    let l ← fetched (source.actorLinks.get a) (.key a)
    let link ← carriedLink evidence now l
    let rest ← carriedLinks evidence now source as
    return rest.put a link

/-- A replacement for one source, with some of its Actors. -/
def replacementFor (source : SubjectHypothesis) (actorIds labels : List String)
    (evidence : String) (now : ℤ) : Result SubjectHypothesis := do
  let labels ← uniqueText "Subject label" maxLabelLength (source.labels ++ labels)
  let links ← carriedLinks evidence now source actorIds
  let evidenceRefs ← uniqueText "Subject evidence reference" maxEvidenceLength
    (source.evidenceRefs ++ [evidence])
  return ⟨.active,labels,links,evidenceRefs,now⟩

/-- An active source of a transition. -/
def activeSource (b : RelationshipBook) (inactive ref : String) : Result SubjectHypothesis := do
  let source ← fetched (b.subjects.get ref) (.key s!"unknown Subject hypothesis: {ref}")
  raiseIf (source.state ≠ .active) (.value inactive)
  return source

/-- The arguments that every transition has: its confidence, evidence and time, the labels it adds,
and the ids drawn for it. -/
structure TransitionTerms where
  confidence : ℤ
  evidenceRef : String
  labels : List String
  now : ℤ
  transitionId : String
  refs : ℕ → String
  eventIds : ℕ → String

/-- The checks on them. -/
def checkedTerms (x : TransitionTerms) : Result (ℤ × String × ℤ) := do
  let confidence ← checkedConfidence "Subject transition confidence" x.confidence
  let evidence ← boundedText "Subject transition evidence reference" maxEvidenceLength x.evidenceRef
  let now ← nowMs x.now
  return (confidence,evidence,now)

/-- `supersede_subject`. -/
def supersedeSubject (b : RelationshipBook) (subjectRef : String) (x : TransitionTerms) :
    Result (SubjectTransition × RelationshipBook) := do
  let sourceRef ← boundedText "Subject reference" 128 subjectRef
  let source ← b.activeSource "cannot supersede an inactive Subject hypothesis" sourceRef
  let (confidence,evidence,now) ← checkedTerms x
  let replacement ← replacementFor source (linkedActors source) x.labels evidence now
  b.commitSubjectTransition
    ⟨x.transitionId,.supersede,[sourceRef],[x.refs 0],confidence,evidence,now⟩
    [(x.refs 0,replacement)] (some (x.refs 0,sourceRef)) x.eventIds

/-- The links of a merged Subject: each Actor keeps the best confidence of the sources. -/
def mergeLinks (evidence : String) (now : ℤ) : List (String × SubjectActorLink) →
    Keyed String SubjectActorLink → Result (Keyed String SubjectActorLink)
  | [],links => .ok links
  | (a,l) :: rest,links => do
    let previous := links.get a
    let evidenceRefs ← uniqueText "Subject link evidence reference" maxEvidenceLength
      ((previous.map SubjectActorLink.evidenceRefs).getD [] ++ l.evidenceRefs ++ [evidence])
    mergeLinks evidence now rest (links.put a
      ⟨max l.confidence ((previous.map SubjectActorLink.confidence).getD 0),evidenceRefs,now⟩)

/-- `merge_subjects`. -/
def mergeSubjects (b : RelationshipBook) (subjectRefs : List String) (inheritRef : String)
    (x : TransitionTerms) : Result (SubjectTransition × RelationshipBook) := do
  let sourceRefs := firsts (subjectRefs.map strip)
  raiseIf (sourceRefs.length < 2) (.value "merge requires at least two Subject hypotheses")
  let sources ← sourceRefs.mapM (b.activeSource "cannot merge an inactive Subject hypothesis")
  let inheritedRef := strip inheritRef
  raiseIf (inheritedRef ≠ "" ∧ inheritedRef ∉ sourceRefs)
    (.value "merge inheritance must name one source Subject")
  let (confidence,evidence,now) ← checkedTerms x
  let links ← mergeLinks evidence now (sources.flatMap fun s => s.actorLinks.entries) Keyed.empty
  let labels ← uniqueText "Subject label" maxLabelLength
    (sources.flatMap SubjectHypothesis.labels ++ x.labels)
  let evidenceRefs ← uniqueText "Subject evidence reference" maxEvidenceLength
    (sources.flatMap SubjectHypothesis.evidenceRefs ++ [evidence])
  b.commitSubjectTransition
    ⟨x.transitionId,.merge,sourceRefs,[x.refs 0],confidence,evidence,now⟩
    [(x.refs 0,⟨.active,labels,links,evidenceRefs,now⟩)]
    (if inheritedRef = "" then none else some (x.refs 0,inheritedRef)) x.eventIds

/-- `split_subject`; `inheritGroup` counts the groups from zero. -/
def splitSubject (b : RelationshipBook) (subjectRef : String) (groups : List (List String))
    (inheritGroup : Option ℤ) (x : TransitionTerms) :
    Result (SubjectTransition × RelationshipBook) := do
  let sourceRef ← boundedText "Subject reference" 128 subjectRef
  let source ← b.activeSource "cannot split an inactive Subject hypothesis" sourceRef
  let groups := groups.map fun g => firsts (g.map strip)
  raiseIf (groups.length < 2 ∨ ∃ g ∈ groups, g = [])
    (.value "split requires at least two non-empty Actor groups")
  raiseIf (¬ groups.flatten.Nodup) (.value "split Actor groups overlap")
  raiseIf ((∃ a ∈ groups.flatten, ¬ Links source a) ∨ ∃ a ∈ linkedActors source, a ∉ groups.flatten)
    (.value "split groups must exactly partition the source Actors")
  raiseIf (∃ i ∈ inheritGroup, i < 0 ∨ (groups.length : ℤ) ≤ i)
    (.value "split inheritance group is out of range")
  let (confidence,evidence,now) ← checkedTerms x
  let subjects ← groups.mapM fun g => replacementFor source g x.labels evidence now
  let replacements := subjects.zipIdx.map fun s => (x.refs s.2,s.1)
  b.commitSubjectTransition
    ⟨x.transitionId,.split,[sourceRef],replacements.map Prod.fst,confidence,evidence,now⟩
    replacements (inheritGroup.map fun i => (x.refs i.toNat,sourceRef)) x.eventIds

/-- `link_actor`. -/
def linkActor (b : RelationshipBook) (actorId subjectRef : String) (confidence : ℤ)
    (evidenceRef : String) (now : ℤ) (eventId : String) : Result (String × RelationshipBook) := do
  let actor ← boundedText "Actor ID" 256 actorId
  let subjectKey ← boundedText "Subject reference" 128 subjectRef
  raiseIf ((b.actors.get actor).isNone = true) (.key s!"unknown Actor: {actor}")
  let subject ← fetched (b.subjects.get subjectKey) (.key s!"unknown Subject hypothesis: {subjectKey}")
  raiseIf (subject.state ≠ .active) (.value "cannot link an Actor to a superseded Subject")
  let confidence ← checkedConfidence "Subject link confidence" confidence
  let evidence ← boundedText "Subject link evidence reference" maxEvidenceLength evidenceRef
  let now ← nowMs now
  let linkRefs ← uniqueText "Subject link evidence reference" maxEvidenceLength
    (((subject.actorLinks.get actor).map SubjectActorLink.evidenceRefs).getD [] ++ [evidence])
  let subjectRefs ← uniqueText "Subject evidence reference" maxEvidenceLength
    (subject.evidenceRefs ++ [evidence])
  let updated : RelationshipBook := { b with
    subjects := b.subjects.put subjectKey { subject with
      actorLinks := subject.actorLinks.put actor ⟨confidence,linkRefs,now⟩
      evidenceRefs := subjectRefs, updatedMs := now } }
  return (subjectKey,updated.appendEvent ⟨eventId,"subject.actor-linked",actor,subjectKey,evidence,
    now,[("confidence",.number confidence)]⟩)

/-- `set_circle`. -/
def setCircle (b : RelationshipBook) (subjectRef : String) (circle : Circle) (confidence : ℤ)
    (evidenceRef : String) (labels : List String) (now : ℤ) (eventId : String) :
    Result (String × RelationshipBook) := do
  let subjectKey ← boundedText "Subject reference" 128 subjectRef
  raiseIf ((b.subjects.get subjectKey).isNone = true)
    (.key s!"unknown Subject hypothesis: {subjectKey}")
  let confidence ← checkedConfidence "relationship confidence" confidence
  let evidence ← boundedText "relationship evidence reference" maxEvidenceLength evidenceRef
  let now ← nowMs now
  let existing ← fetched (b.relationships.get subjectKey) (.key subjectKey)
  let labels ← uniqueText "relationship label" maxLabelLength (existing.relationshipLabels ++ labels)
  let evidenceRefs ← uniqueText "relationship evidence reference" maxEvidenceLength
    (existing.evidenceRefs ++ [evidence])
  let updated : RelationshipBook := { b with
    relationships := b.relationships.put subjectKey
      ⟨circle,.active,labels,confidence,existing.contextTrust,evidenceRefs,now⟩ }
  return (subjectKey,updated.appendEvent ⟨eventId,"relationship.circle-set","",subjectKey,evidence,
    now,[("circle",.text circle.text),("confidence",.number confidence)]⟩)

/-- An estimate with a contextual trust set. -/
def withTrust (r : RelationshipEstimate) (context : String) (estimate confidence : ℤ)
    (evidence : String) (now : ℤ) : Result RelationshipEstimate := do
  let trustRefs ← uniqueText "context trust evidence reference" maxEvidenceLength
    (((r.contextTrust.get context).map ContextTrust.evidenceRefs).getD [] ++ [evidence])
  let evidenceRefs ← uniqueText "relationship evidence reference" maxEvidenceLength
    (r.evidenceRefs ++ [evidence])
  return { r with
    contextTrust := r.contextTrust.put context ⟨estimate,confidence,trustRefs,now⟩
    evidenceRefs := evidenceRefs, updatedMs := now }

/-- `set_context_trust`. -/
def setContextTrust (b : RelationshipBook) (subjectRef context : String) (estimate confidence : ℤ)
    (evidenceRef : String) (now : ℤ) (eventId : String) : Result (String × RelationshipBook) := do
  let subjectKey ← boundedText "Subject reference" 128 subjectRef
  let relationship ← fetched (b.relationships.get subjectKey)
    (.key s!"unknown Subject hypothesis: {subjectKey}")
  let context ← boundedText "trust context" maxContextLength context
  let evidence ← boundedText "context trust evidence reference" maxEvidenceLength evidenceRef
  let now ← nowMs now
  let estimate ← checkedConfidence "context trust estimate" estimate
  let confidence ← checkedConfidence "context trust confidence" confidence
  let trusted ← withTrust relationship context estimate confidence evidence now
  let updated : RelationshipBook := { b with relationships := b.relationships.put subjectKey trusted }
  return (subjectKey,updated.appendEvent ⟨eventId,"relationship.context-trust-set","",subjectKey,
    evidence,now,[("confidence",.number confidence),("context",.text context),
      ("estimate",.number estimate)]⟩)

/-- `_set_relationship_state`. -/
def setRelationshipState (b : RelationshipBook) (subjectRef : String) (state : RelationshipState)
    (eventType evidenceRef : String) (now : ℤ) (eventId : String) :
    Result (String × RelationshipBook) := do
  raiseIf (state = .active) (.value "relationship state transition must be dormant or ended")
  let subjectKey ← boundedText "Subject reference" 128 subjectRef
  let relationship ← fetched (b.relationships.get subjectKey)
    (.key s!"unknown Subject hypothesis: {subjectKey}")
  if relationship.state = state then return (subjectKey,b)
  else
    raiseIf (state = .dormant ∧ relationship.state = .ended)
      (.value "cannot pause an ended relationship; use relation-circle to reactivate it")
    let evidence ← boundedText "relationship state evidence reference" maxEvidenceLength evidenceRef
    let now ← nowMs now
    let evidenceRefs ← uniqueText "relationship evidence reference" maxEvidenceLength
      (relationship.evidenceRefs ++ [evidence])
    let updated : RelationshipBook := { b with
      relationships := b.relationships.put subjectKey
        { relationship with state := state, evidenceRefs := evidenceRefs, updatedMs := now } }
    return (subjectKey,updated.appendEvent ⟨eventId,eventType,"",subjectKey,evidence,now,
      [("state",.text state.text)]⟩)

/-- `pause_relationship`. -/
def pauseRelationship (b : RelationshipBook) (subjectRef evidenceRef : String) (now : ℤ)
    (eventId : String) : Result (String × RelationshipBook) :=
  b.setRelationshipState subjectRef .dormant "relationship.paused" evidenceRef now eventId

/-- `end_relationship`. -/
def endRelationship (b : RelationshipBook) (subjectRef evidenceRef : String) (now : ℤ)
    (eventId : String) : Result (String × RelationshipBook) :=
  b.setRelationshipState subjectRef .ended "relationship.ended" evidenceRef now eventId

/-- A suggestion to be decided. -/
structure Suggestion where
  suggestionId : String
  suggestionType : String
  subjectRef : String
  basisHash : String
  confidence : ℤ
  proposedCircle : String
  context : String
  proposedEstimate : Option ℤ

/-- The estimate that an accepted suggestion leads to, with its event. -/
def applySuggestion (b : RelationshipBook) (s : Suggestion) (subjectRef evidence : String)
    (now : ℤ) (eventId : String) : Result RelationshipBook := do
  let relationship ← fetched (b.relationships.get subjectRef) (.key subjectRef)
  match s.proposedEstimate with
  | none =>
    let evidenceRefs ← uniqueText "relationship evidence reference" maxEvidenceLength
      (relationship.evidenceRefs ++ [evidence])
    let updated : RelationshipBook := { b with
      relationships := b.relationships.put subjectRef { relationship with
        circle := .collab, state := .active, relationshipConfidence := s.confidence
        evidenceRefs := evidenceRefs, updatedMs := now } }
    return updated.appendEvent ⟨eventId,"relationship.circle-set","",subjectRef,evidence,now,
      [("circle",.text s.proposedCircle),("confidence",.number s.confidence)]⟩
  | some estimate =>
    let trusted ← withTrust relationship s.context estimate s.confidence evidence now
    let updated : RelationshipBook :=
      { b with relationships := b.relationships.put subjectRef trusted }
    return updated.appendEvent ⟨eventId,"relationship.context-trust-set","",subjectRef,evidence,now,
      [("confidence",.number s.confidence),("context",.text s.context),
        ("estimate",.number estimate)]⟩

/-- A rejected suggestion changes no estimate. -/
def applyAccepted (b : RelationshipBook) (s : Suggestion) (accepted : Bool)
    (subjectRef evidence : String) (now : ℤ) (eventId : String) : Result RelationshipBook :=
  if accepted then b.applySuggestion s subjectRef evidence now eventId else .ok b

/-- The checks on what a suggestion proposes: a circle, or a contextual trust. -/
def checkProposal (s : Suggestion) (suggestionType : String) : Result Unit := do
  if suggestionType = "circle.advance" then
    raiseIf (s.proposedCircle ≠ "collab" ∨ s.context ≠ "" ∨ s.proposedEstimate ≠ none)
      (.value "unsupported circle suggestion")
  else if suggestionType = "context-trust.review" then
    raiseIf (s.proposedCircle ≠ "" ∨ s.context ≠ "task.delivery" ∨ s.proposedEstimate = none)
      (.value "unsupported contextual trust suggestion")
  else .error (.value "unsupported relationship suggestion")

/-- `decide_suggestion`; `decisionId` is the digest of the observer and the suggestion. -/
def decideSuggestion (decisionId : String → String → String) (b : RelationshipBook)
    (s : Suggestion) (accepted : Bool) (rationale : String) (now : ℤ)
    (appliedEventId eventId : String) : Result (SuggestionDecision × RelationshipBook) := do
  let suggestionId ← boundedText "relationship suggestion ID" 64 s.suggestionId
  raiseIf (¬ "rsg_".toList <+: suggestionId.toList) (.value "invalid relationship suggestion ID")
  match b.suggestionDecisions.get suggestionId with
  | some existing =>
    raiseIf (existing.accepted ≠ accepted)
      (.value "relationship suggestion already has another decision")
    return (existing,b)
  | none =>
    let suggestionType ← boundedText "relationship suggestion type" maxContextLength s.suggestionType
    let subjectRef ← boundedText "Subject reference" 128 s.subjectRef
    raiseIf (∀ x ∈ b.subjects.get subjectRef, x.state ≠ .active)
      (.value "relationship suggestion Subject is not active")
    let reason ← boundedText "suggestion decision rationale" maxEvidenceLength rationale
    let confidence ← checkedConfidence "relationship suggestion confidence" s.confidence
    raiseIf (∃ n ∈ s.proposedEstimate, n < 0 ∨ 100 < n)
      (.value "invalid relationship suggestion estimate")
    raiseIf (s.basisHash.length ≠ 32) (.value "invalid relationship suggestion basis")
    checkProposal s suggestionType
    let now ← nowMs now
    let evidence := "suggestion:" ++ suggestionId
    let applied ← b.applyAccepted s accepted subjectRef evidence now appliedEventId
    let record : SuggestionDecision := ⟨decisionId b.ownActorId suggestionId,suggestionType,
      subjectRef,accepted,reason,s.basisHash,confidence,s.proposedCircle,s.context,
      s.proposedEstimate,now⟩
    let decided : RelationshipBook :=
      { applied with suggestionDecisions := applied.suggestionDecisions.put suggestionId record }
    return (record,decided.appendEvent ⟨eventId,
      if accepted then "relationship.suggestion-accepted" else "relationship.suggestion-rejected",
      "",subjectRef,evidence,now,[]⟩)

/-- `revoke_actor`. -/
def revokeActor (b : RelationshipBook) (actorId evidenceRef : String) (now : ℤ)
    (eventId : String) : Result (Unit × RelationshipBook) := do
  let actorKey := strip actorId
  match b.actors.get actorKey with
  | none => return ((),b)
  | some actor =>
    if actor.state = .revoked then return ((),b)
    else
      let evidence ← boundedText "Actor revocation evidence reference" maxEvidenceLength evidenceRef
      let now ← nowMs now
      let evidenceRefs ← uniqueText "Actor evidence reference" maxEvidenceLength
        (actor.evidenceRefs ++ [evidence])
      raiseIf (now < actor.firstSeenMs) (.value "invalid Actor observation time")
      let revoked : RelationshipBook := { b with
        actors := b.actors.put actorKey
          { actor with state := .revoked, evidenceRefs := evidenceRefs, updatedMs := now } }
      return ((),revoked.appendEvent ⟨eventId,"actor.revoked",actorKey,
        ((revoked.primarySubject actorKey).map Prod.fst).getD "",evidence,now,[]⟩)

/-- A step of a composed operation: what it has saved stays when a later step raises. -/
def keeping {ρ : Type} (b : RelationshipBook) (r : Result (ρ × RelationshipBook))
    (next : ρ → RelationshipBook → RelationshipBook) : RelationshipBook :=
  match r with
  | .ok (a,b') => next a b'
  | .error _ => b

/-- The book after an operation that saves once. -/
def after {ρ : Type} (b : RelationshipBook) (r : Result (ρ × RelationshipBook)) : RelationshipBook :=
  b.keeping r fun _ b' => b'

/-- A circle never moves away. -/
def closer (existing circle : Circle) : Circle :=
  if circle.index ≤ existing.index then existing else circle

/-- The book after `confirm_friend`. -/
def confirmFriend (b : RelationshipBook) (card : Card) (evidenceRef : String) (now : ℤ)
    (ref eventId circleEventId : String) : RelationshipBook :=
  b.keeping (b.observeActor card evidenceRef 50 now ref eventId) fun subjectRef b' =>
    match b'.relationships.get subjectRef with
    | none => b'
    | some existing => b'.after (b'.setCircle subjectRef (closer existing.circle .friend) 100
        evidenceRef ["relationship:friend"] now circleEventId)

/-- The book after `confirm_mutual_relationship`. -/
def confirmMutualRelationship (b : RelationshipBook) (card : Card) (circle : Circle)
    (evidenceRef : String) (labels : List String) (now : ℤ) (ref eventId circleEventId : String) :
    RelationshipBook :=
  let confirm := b.keeping (b.observeActor card evidenceRef 50 now ref eventId) fun subjectRef b' =>
    match b'.relationships.get subjectRef with
    | none => b'
    | some existing => b'.after (b'.setCircle subjectRef (closer existing.circle circle) 100
        evidenceRef (labels ++ ["relationship:mutual",s!"relationship:mutual:{circle.text}"]) now
        circleEventId)
  if circle = .publicCircle ∨ now ≤ 0 then b
  else
    match b.primarySubject card.nodeId with
    | none => confirm
    | some subject =>
      match b.relationships.get subject.1 with
      | none => b
      | some existing => if evidenceRef ∈ existing.evidenceRefs then b else confirm

/-- The event of a withdrawal, unless the book has it. -/
def withdrawalEvent (b : RelationshipBook) (card : Card) (claimId withdrawingActorId subjectRef
    evidence : String) (now : ℤ) (eventId : String) : RelationshipBook :=
  if ∃ e ∈ b.events, e.eventType = "relationship.mutual-claim-withdrawn" ∧ e.evidenceRef = evidence
  then b
  else b.appendEvent ⟨eventId,"relationship.mutual-claim-withdrawn",card.nodeId,subjectRef,evidence,
    now,[("claim_id",.text claimId),("relationship_changed",.number 0),
      ("withdrawing_actor_id",.text withdrawingActorId)]⟩

/-- The book after `record_mutual_relationship_withdrawal`. -/
def recordWithdrawal (b : RelationshipBook) (card : Card) (claimId withdrawingActorId
    evidenceRef : String) (now : ℤ) (ref eventId withdrawalEventId : String) : RelationshipBook :=
  match card.verify,nowMs now,
    boundedText "relationship claim withdrawal evidence reference" maxEvidenceLength evidenceRef with
  | .ok _,.ok now,.ok evidence =>
    match b.primarySubject card.nodeId with
    | some subject =>
      b.withdrawalEvent card claimId withdrawingActorId subject.1 evidence now withdrawalEventId
    | none =>
      b.keeping (b.observeActor card evidence 50 now ref eventId) fun subjectRef b' =>
        b'.withdrawalEvent card claimId withdrawingActorId subjectRef evidence now withdrawalEventId
  | _,_,_ => b

/-- A call of one of the operations, with what it draws at random. -/
inductive Call
  | observe (o : ActorObservation) (confidence now : ℤ) (ref eventId : String)
  | observeCard (card : Card) (evidenceRef : String) (confidence now : ℤ) (ref eventId : String)
  | interaction (i : InteractionEvidence) (eventId : String)
  | link (actorId subjectRef : String) (confidence : ℤ) (evidenceRef : String) (now : ℤ)
      (eventId : String)
  | circle (subjectRef : String) (circle : Circle) (confidence : ℤ) (evidenceRef : String)
      (labels : List String) (now : ℤ) (eventId : String)
  | trust (subjectRef context : String) (estimate confidence : ℤ) (evidenceRef : String) (now : ℤ)
      (eventId : String)
  | pause (subjectRef evidenceRef : String) (now : ℤ) (eventId : String)
  | finish (subjectRef evidenceRef : String) (now : ℤ) (eventId : String)
  | supersede (subjectRef : String) (x : TransitionTerms)
  | merge (subjectRefs : List String) (inheritRef : String) (x : TransitionTerms)
  | split (subjectRef : String) (groups : List (List String)) (inheritGroup : Option ℤ)
      (x : TransitionTerms)
  | decide (s : Suggestion) (accepted : Bool) (rationale : String) (now : ℤ)
      (appliedEventId eventId : String)
  | friend (card : Card) (evidenceRef : String) (now : ℤ) (ref eventId circleEventId : String)
  | mutualClaim (card : Card) (circle : Circle) (evidenceRef : String) (labels : List String) (now : ℤ)
      (ref eventId circleEventId : String)
  | withdrawal (card : Card) (claimId withdrawingActorId evidenceRef : String) (now : ℤ)
      (ref eventId withdrawalEventId : String)
  | revoke (actorId evidenceRef : String) (now : ℤ) (eventId : String)

/-- The book after a call, whether it returned or raised. -/
def perform (decisionId : String → String → String) (b : RelationshipBook) :
    Call → RelationshipBook
  | .observe o confidence now ref eventId =>
    b.after (b.observeTypedActor o confidence now ref eventId)
  | .observeCard card evidenceRef confidence now ref eventId =>
    b.after (b.observeActor card evidenceRef confidence now ref eventId)
  | .interaction i eventId => b.after (b.recordInteraction i eventId)
  | .link actorId subjectRef confidence evidenceRef now eventId =>
    b.after (b.linkActor actorId subjectRef confidence evidenceRef now eventId)
  | .circle subjectRef circle confidence evidenceRef labels now eventId =>
    b.after (b.setCircle subjectRef circle confidence evidenceRef labels now eventId)
  | .trust subjectRef context estimate confidence evidenceRef now eventId =>
    b.after (b.setContextTrust subjectRef context estimate confidence evidenceRef now eventId)
  | .pause subjectRef evidenceRef now eventId =>
    b.after (b.pauseRelationship subjectRef evidenceRef now eventId)
  | .finish subjectRef evidenceRef now eventId =>
    b.after (b.endRelationship subjectRef evidenceRef now eventId)
  | .supersede subjectRef x => b.after (b.supersedeSubject subjectRef x)
  | .merge subjectRefs inheritRef x => b.after (b.mergeSubjects subjectRefs inheritRef x)
  | .split subjectRef groups inheritGroup x =>
    b.after (b.splitSubject subjectRef groups inheritGroup x)
  | .decide s accepted rationale now appliedEventId eventId =>
    b.after (decideSuggestion decisionId b s accepted rationale now appliedEventId eventId)
  | .friend card evidenceRef now ref eventId circleEventId =>
    b.confirmFriend card evidenceRef now ref eventId circleEventId
  | .mutualClaim card circle evidenceRef labels now ref eventId circleEventId =>
    b.confirmMutualRelationship card circle evidenceRef labels now ref eventId circleEventId
  | .withdrawal card claimId withdrawingActorId evidenceRef now ref eventId withdrawalEventId =>
    b.recordWithdrawal card claimId withdrawingActorId evidenceRef now ref eventId withdrawalEventId
  | .revoke actorId evidenceRef now eventId => b.after (b.revokeActor actorId evidenceRef now eventId)

/-- The book of a node that has seen nobody. -/
def empty (ownActorId : String) : RelationshipBook :=
  ⟨ownActorId,Keyed.empty,Keyed.empty,Keyed.empty,[],Keyed.empty,[],Keyed.empty⟩

variable {b : RelationshipBook}

theorem after_cases {ρ : Type} {r : Result (ρ × RelationshipBook)} {P : RelationshipBook → Prop}
    (hb : P b) (h : ∀ a b', r = .ok (a,b') → P b') : P (b.after r) := by
  cases r with
  | error e => exact hb
  | ok x => exact h x.1 x.2 rfl

theorem keeping_cases {ρ : Type} {r : Result (ρ × RelationshipBook)}
    {next : ρ → RelationshipBook → RelationshipBook} {P : RelationshipBook → Prop}
    (hb : P b) (h : ∀ a b', r = .ok (a,b') → P (next a b')) : P (b.keeping r next) := by
  cases r with
  | error e => exact hb
  | ok x => exact h x.1 x.2 rfl

end RelationshipBook
end Anet.Relations
