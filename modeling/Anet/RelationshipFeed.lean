import Anet.Base64
import Anet.RelationshipBook

/-! The activity feed of a relationship book: pages of its events in the order they were appended,
each joined, as it is read, with what the book holds about it. -/
namespace Anet.Relations

inductive ActivityCategory
  | actor | interaction | subject | decision | relationship
  deriving DecidableEq

inductive FactLevel
  | verified | inference | decision | estimate
  deriving DecidableEq

abbrev Details := List (String × DetailValue)

structure RelationshipActivity where
  activityId : String
  cursor : String
  activityType : String
  category : ActivityCategory
  factLevel : FactLevel
  actorId : String
  subjectRef : String
  occurredMs : ℤ
  details : Details
  evidenceDigest : String
  deriving DecidableEq

structure RelationshipActivityPage where
  observerActorId : String
  activities : List RelationshipActivity
  nextCursor : String
  hasMore : Bool

/-- The digests of the feed. That of an observer has eight bytes. -/
structure FeedDigests where
  observerScope : String → String
  evidenceDigest : String → String
  scope_hex : ∀ a, isHex 16 (observerScope a)

/-- `str.startswith`. -/
def startsWith (pre s : String) : Bool := pre.toList.isPrefixOf s.toList

/-- `str.removeprefix`. -/
def removePrefix (pre s : String) : String :=
  if startsWith pre s then String.ofList (s.toList.drop pre.toList.length) else s

/-- `revt_[0-9a-f]{24}`. -/
def isEventId (s : String) : Bool :=
  startsWith "revt_" s && isHex 24 (String.ofList (s.toList.drop 5))

/-- `_CURSOR_RE`: the scope and the event id of a cursor. -/
def parseCursor (s : String) : Option (String × String) :=
  let scope := String.ofList ((s.toList.drop 4).take 16)
  let eventId := String.ofList (s.toList.drop 21)
  if startsWith "rac_" s && isHex 16 scope && s.toList[20]? = some '_' && isEventId eventId then
    some (scope,eventId)
  else none

/-- `details[key] = value`. -/
def setDetail (d : Details) (e : String × DetailValue) : Details :=
  if e.1 ∈ d.map Prod.fst then d.map fun x => if x.1 = e.1 then e else x else d ++ [e]

/-- `details.setdefault`. -/
def defaultDetail (d : Details) (e : String × DetailValue) : Details :=
  if e.1 ∈ d.map Prod.fst then d else d ++ [e]

/-- `details.update`. -/
def updateDetails (d new : Details) : Details := new.foldl setDetail d

/-- What the lookup of interactions goes by. -/
def InteractionEvidence.joinKey (i : InteractionEvidence) : String × String × String × ℤ :=
  (i.actorId,i.subjectRef,i.evidenceRef,i.occurredMs)

def RelationshipEvent.joinKey (e : RelationshipEvent) : String × String × String × ℤ :=
  (e.actorId,e.subjectRef,e.evidenceRef,e.observedMs)

def InteractionEvidence.details (i : InteractionEvidence) : Details :=
  [("interaction_id",.text i.interactionId),("direction",.text i.direction.text),
    ("facets",.list i.facets),("context",.text i.context),("outcome",.text i.outcome)]

def SubjectTransition.details (t : SubjectTransition) : Details :=
  [("transition_id",.text t.transitionId),("transition_type",.text t.transitionType.text),
    ("source_subject_refs",.list t.sourceSubjectRefs),
    ("replacement_subject_refs",.list t.replacementSubjectRefs),("confidence",.number t.confidence)]

def SuggestionDecision.details (evidenceDigest : String → String) (suggestionId : String)
    (d : SuggestionDecision) : Details :=
  [("decision_id",.text d.decisionId),("suggestion_id",.text suggestionId),
    ("suggestion_type",.text d.suggestionType),
    ("decision",.text (if d.accepted then "accepted" else "rejected")),
    ("proposed_circle",.text d.proposedCircle),("context",.text d.context),
    ("proposed_estimate",(d.proposedEstimate.map DetailValue.number).getD .absent),
    ("applied",.flag d.accepted),("rationale_digest",.text (evidenceDigest d.rationale))]

namespace RelationshipBook

/-- `interaction_lookup`: of the interactions with the same key the last in the order of the ids. -/
def interactionFor (b : RelationshipBook) (e : RelationshipEvent) : Option InteractionEvidence :=
  ((b.interactions.entries.insertionSort fun x y => x.1 ≤ y.1).map Prod.snd).reverse.find?
    fun i => i.joinKey = e.joinKey

/-- `_transition_for_event`. -/
def transitionFor (b : RelationshipBook) (e : RelationshipEvent) : Option SubjectTransition :=
  b.transitions.find? fun t => t.transitionType.text = removePrefix "subject." e.eventType ∧
    e.subjectRef ∈ t.sourceSubjectRefs ∧ t.evidenceRef = e.evidenceRef ∧ t.observedMs = e.observedMs

/-- The suggestion that the evidence of an event names. -/
def suggestionOf (e : RelationshipEvent) : String :=
  if startsWith "suggestion:" e.evidenceRef then removePrefix "suggestion:" e.evidenceRef else ""

def decisionFor (b : RelationshipBook) (e : RelationshipEvent) : Option SuggestionDecision :=
  b.suggestionDecisions.get (suggestionOf e)

/-- The details of an event with those of what it is joined with, if that is there. -/
def joinedDetails (e : RelationshipEvent) (found : Option Details) : Details :=
  match found with
  | none => e.details
  | some d => updateDetails e.details d

def actorDetails (b : RelationshipBook) (e : RelationshipEvent) : Details :=
  match b.actors.get e.actorId with
  | none => e.details
  | some actor => defaultDetail e.details ("actor_kind",.text actor.actorKind)

/-- Category, fact level and details of an event. -/
def classify (lib : FeedDigests) (b : RelationshipBook) (e : RelationshipEvent) :
    ActivityCategory × FactLevel × Details :=
  if startsWith "actor." e.eventType then
    (.actor,.verified,setDetail (b.actorDetails e)
      ("actor_state",.text (if e.eventType = "actor.revoked" then "revoked" else "observed")))
  else if e.eventType = "interaction.observed" then
    (.interaction,.verified,
      joinedDetails e ((b.interactionFor e).map InteractionEvidence.details))
  else if startsWith "subject." e.eventType then
    (.subject,.inference,joinedDetails e ((b.transitionFor e).map SubjectTransition.details))
  else if startsWith "relationship.suggestion-" e.eventType then
    (.decision,.decision,joinedDetails e
      ((b.decisionFor e).map (SuggestionDecision.details lib.evidenceDigest (suggestionOf e))))
  else (.relationship,.estimate,e.details)

/-- `_cursor`. -/
def cursorOf (lib : FeedDigests) (b : RelationshipBook) (eventId : String) : Result String := do
  raiseIf (¬ isEventId eventId) (.value "invalid relationship event ID for cursor")
  return "rac_" ++ lib.observerScope b.ownActorId ++ "_" ++ eventId

/-- `_project`. -/
def project (lib : FeedDigests) (b : RelationshipBook) (e : RelationshipEvent) :
    Result RelationshipActivity := do
  let cursor ← b.cursorOf lib e.eventId
  let c := b.classify lib e
  return ⟨e.eventId,cursor,e.eventType,c.1,c.2.1,e.actorId,e.subjectRef,e.observedMs,
    c.2.2.insertionSort fun x y => x.1 ≤ y.1,lib.evidenceDigest e.evidenceRef⟩

/-- `_start_index`. -/
def startIndex (lib : FeedDigests) (b : RelationshipBook) (after : String) : Result ℕ :=
  if after = "" then .ok 0
  else
    match parseCursor after with
    | none => .error (.value "invalid relationship activity cursor")
    | some c =>
      if c.1 ≠ lib.observerScope b.ownActorId then
        .error (.value "relationship activity cursor belongs to another observer")
      else
        match b.events.findIdx? fun e => e.eventId = c.2 with
        | none => .error (.value "relationship activity cursor is unknown or stale")
        | some i => .ok (i + 1)

/-- An event that the filter lets through. -/
def InScope (subjectRef : String) (e : RelationshipEvent) : Prop :=
  subjectRef = "" ∨ e.subjectRef = subjectRef

instance (subjectRef : String) : DecidablePred (InScope subjectRef) :=
  fun _ => inferInstanceAs (Decidable (_ ∨ _))

/-- The loop of `read`: the activities up to the limit, and the events read for them. -/
def scan (lib : FeedDigests) (b : RelationshipBook) (subjectRef : String) :
    List RelationshipEvent → ℕ → Result (List RelationshipActivity × List RelationshipEvent)
  | [],_ => .ok ([],[])
  | _ :: _,0 => .ok ([],[])
  | e :: es,limit + 1 =>
    if InScope subjectRef e then do
      let activity ← b.project lib e
      let rest ← scan lib b subjectRef es limit
      return (activity :: rest.1,e :: rest.2)
    else do
      let rest ← scan lib b subjectRef es (limit + 1)
      return (rest.1,e :: rest.2)

/-- The cursor of the last event read. -/
def cursorAfter (lib : FeedDigests) (b : RelationshipBook) (after : String)
    (seen : List RelationshipEvent) : Result String :=
  match seen.getLast? with
  | none => .ok (strip after)
  | some e => if e.eventId = "" then .ok (strip after) else b.cursorOf lib e.eventId

/-- Where a page starts. -/
def startOf (lib : FeedDigests) (b : RelationshipBook) (after : String) (limit : ℕ) (tail : Bool) :
    Result ℕ :=
  if tail then .ok (b.events.length - limit) else b.startIndex lib (strip after)

/-- `RelationshipActivityFeed.read` on a snapshot of the book. -/
def read (lib : FeedDigests) (b : RelationshipBook) (after : String) (limit : ℤ)
    (subjectRef : String) (tail : Bool) : Result RelationshipActivityPage := do
  raiseIf (b.ownActorId = "") (.value "relationship activity requires an observer Actor")
  raiseIf (limit < 1 ∨ 500 < limit) (.value "relationship activity limit must be 1-500")
  let selected := strip subjectRef
  raiseIf (tail = true ∧ (after ≠ "" ∨ selected ≠ ""))
    (.value "relationship activity tail cannot use after or subject filters")
  raiseIf (selected ≠ "" ∧ (b.subjects.get selected).isNone = true)
    (.key s!"unknown Subject hypothesis: {selected}")
  let start ← b.startOf lib after limit.toNat tail
  let read ← scan lib b selected (b.events.drop start) limit.toNat
  let nextCursor ← b.cursorAfter lib after read.2
  return ⟨b.ownActorId,read.1,nextCursor,read.2.length < (b.events.drop start).length⟩

end RelationshipBook
end Anet.Relations
