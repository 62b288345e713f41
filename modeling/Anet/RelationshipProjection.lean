import Anet.RelationshipActivities
import Anet.RelationshipRuns
import Anet.ControlPages

/-! Evidence of packets in the relationship book: what a packet says is recorded once, and a
public relationship that a verified packet reaches becomes known. -/
namespace Anet.Relations

open RelationshipBook

/-- The conversions and the digest of the projection. -/
structure ProjectionLibrary where
  str : Value → String
  /-- The digest of the Actor, the direction and the evidence. -/
  interactionId : String → String → String → String

def nonSocialKinds : List String := ["receipt","network.probe","social.relationship.disclosure"]

def artifactKeys : List String := ["artifact","artifacts","attachment","attachments","file","files",
  "filename","mediatype"]

/-- `"received" if direction == "incoming" else "queued"` -/
def arrival (direction : String) : String :=
  if direction = "incoming" then "received" else "queued"

/-- `str(x).strip().lower()` of a field that is "" by default. -/
def candidateState (lib : ProjectionLibrary) (fields : List (Value × Value)) : String :=
  lower (strip (lib.str (Value.fieldOr fields "state" (.str ""))))

/-- A task request that asks for capabilities. -/
def asksForSkill (fields : List (Value × Value)) : Bool :=
  RemoteControl.truthy (Value.fieldOr fields "required_capabilities" .nil) ||
    match (Value.fieldOr fields "context" .nil).asMap with
    | some context => RemoteControl.truthy (Value.fieldOr context "a2a" .nil)
    | none => false

/-- The task branch of `classify_interaction`. -/
def classifyTask (lib : ProjectionLibrary) (normalized : String) (body : Value) (direction : String) :
    List String × String × String :=
  match body.asMap with
  | some fields =>
    let candidate := candidateState lib fields
    if normalized = "agent.task.request" then
      (if asksForSkill fields then ["skill","task"] else ["task"],"task","submitted")
    else if normalized = "agent.task.status" then
      (["task"],"task",if candidate ∈ ["working","input-required","auth-required"] then candidate
        else arrival direction)
    else if normalized = "agent.task.result" then
      (match Value.fieldOr fields "output" .nil with
        | .nil => ["task"]
        | _ => ["artifact","task"],"task",
        if candidate ∈ ["completed","failed","canceled","rejected"] then candidate
        else arrival direction)
    else if normalized = "agent.task.cancel" then (["task"],"task","canceled")
    else (["task"],"task",arrival direction)
  | none =>
    (["task"],"task",if normalized = "agent.task.request" then "submitted"
      else if normalized = "agent.task.cancel" then "canceled" else arrival direction)

/-- `classify_interaction`. -/
def classifyInteraction (lib : ProjectionLibrary) (kind : String) (body : Value)
    (direction : String) : Option (List String × String × String) :=
  let normalized := lower (strip kind)
  if normalized = "" ∨ normalized ∈ nonSocialKinds ∨ startsWith "network." normalized ∨
      startsWith "companion." normalized then none
  else if startsWith "agent.task." normalized then
    some (classifyTask lib normalized body direction)
  else
    let artifact := startsWith "file." normalized || startsWith "artifact." normalized
    let attached := match body.asMap with
      | some fields => fields.any fun e => lower (strip (lib.str e.1)) ∈ artifactKeys
      | none => false
    let context := if artifact then "artifact" else if startsWith "skill." normalized then "skill"
      else if startsWith "discord." normalized || startsWith "social.discord." normalized then
        "social.discord"
      else "communication"
    some ((if artifact || attached then ["artifact"] else []) ++ ["message"] ++
      (if startsWith "skill." normalized then ["skill"] else []),context,arrival direction)

/-- `is_actor_id`. -/
def isActorId (s : String) : Bool :=
  startsWith "an1" s ||
    (startsWith "act_" s &&
      let rest := (removePrefix "act_" s).toList
      let platform := rest.takeWhile (· ≠ '_')
      matchesWord (fun c => 'a' ≤ c && c ≤ 'z')
          (fun c => ('a' ≤ c && c ≤ 'z') || isDigit c || c == '-') 31 (String.ofList platform) &&
        match rest.drop platform.length with
        | '_' :: digest => isHex 32 (String.ofList digest)
        | _ => false)

def directionOf (direction : String) : Result Direction :=
  if direction = "incoming" then .ok .incoming else if direction = "outgoing" then .ok .outgoing
  else .error (.value "invalid interaction direction")

/-- `InteractionEvidence.create`. -/
def createEvidence (lib : ProjectionLibrary) (actorId subjectRef direction : String)
    (facets : List String) (context outcome evidenceRef : String) (occurredMs : ℤ) :
    Result InteractionEvidence := do
  let facets := sortedStrings facets.dedup
  raiseIf (¬ isActorId (strip actorId)) (.value "invalid Actor ID")
  raiseIf (¬ startsWith "subj_" subjectRef) (.value "invalid interaction Subject")
  let towards ← directionOf direction
  raiseIf (facets = [] ∨ ∃ f ∈ facets, f ∉ ["message","task","skill","artifact"])
    (.value "invalid interaction facets")
  let _ ← boundedText "interaction context" maxContextLength context
  raiseIf (outcome ∉ ["queued","received","submitted","working","input-required","auth-required",
    "completed","failed","canceled","rejected"]) (.value "invalid interaction outcome")
  let _ ← boundedText "interaction evidence reference" maxEvidenceLength evidenceRef
  raiseIf (occurredMs ≤ 0) (.value "invalid interaction time")
  return ⟨"iev_" ++ lib.interactionId actorId direction evidenceRef,actorId,subjectRef,towards,facets,
    context,outcome,evidenceRef,occurredMs⟩

structure InteractionProjection where
  recorded : Bool
  interactionId : String
  subjectRef : String
  circle : Circle
  deriving DecidableEq

/-- The end of every projection: the evidence is recorded, and where it introduces the peer an
active public relationship becomes known. Each of the two is saved by itself. -/
def acquaint (b : RelationshipBook) (subjectRef : String) (evidence : Result InteractionEvidence)
    (introduces : Bool) (missing evidenceRef : String) (labels : List String) (now : ℤ)
    (recordedEventId circleEventId : String) :
    Result InteractionProjection × RelationshipBook :=
  match evidence with
  | .error e => (.error e,b)
  | .ok i =>
    match b.recordInteraction i recordedEventId with
    | .error e => (.error e,b)
    | .ok (recorded,b') =>
      match b'.relationships.get subjectRef with
      | none => (.error (.runtime missing),b')
      | some r =>
        if r.state = .active ∧ r.circle = .publicCircle ∧ introduces then
          match b'.setCircle subjectRef .known 25 evidenceRef labels now circleEventId with
          | .error e => (.error e,b')
          | .ok (_,b'') => (.ok ⟨recorded,i.interactionId,subjectRef,.known⟩,b'')
        else (.ok ⟨recorded,i.interactionId,subjectRef,r.circle⟩,b')

/-- `f"packet:\x7bstr(packet_id).strip().lower()\x7d"` -/
def packetRef (packetId : String) : String := "packet:" ++ lower (strip packetId)

/-- The Subject that a packet of the peer counts for. -/
def packetSubject (b : RelationshipBook) (card : Card) (evidenceRef : String) (occurredMs : ℤ)
    (ref eventId : String) : Result (String × RelationshipBook) :=
  match b.primarySubject card.nodeId with
  | some s => .ok (s.1,b)
  | none => b.observeActor card evidenceRef 50 occurredMs ref eventId

/-- A call of `project_packet`, with what it draws at random. -/
structure PacketCall where
  card : Card
  packetId : String
  kind : String
  body : Value
  direction : String
  occurredMs : ℤ
  ref : String
  observedEventId : String
  recordedEventId : String
  circleEventId : String

/-- The evidence of a packet, with how it was classified. -/
def packetEvidence (lib : ProjectionLibrary) (c : PacketCall) (subjectRef : String)
    (classified : List String × String × String) : Result InteractionEvidence :=
  createEvidence lib c.card.nodeId subjectRef c.direction classified.1 classified.2.1 classified.2.2
    (packetRef c.packetId) c.occurredMs

def acquaintPacket (lib : ProjectionLibrary) (b : RelationshipBook) (c : PacketCall)
    (subjectRef : String) (classified : List String × String × String) :
    Result InteractionProjection × RelationshipBook :=
  acquaint b subjectRef (packetEvidence lib c subjectRef classified) true
    "observed Subject has no relationship estimate" (packetRef c.packetId) ["interaction:verified"]
    c.occurredMs c.recordedEventId c.circleEventId

/-- `project_packet`: what it returns or raises, and the book after it. -/
def projectPacket (lib : ProjectionLibrary) (b : RelationshipBook) (c : PacketCall) :
    Result (Option InteractionProjection) × RelationshipBook :=
  match classifyInteraction lib c.kind c.body c.direction with
  | none => (.ok none,b)
  | some classified =>
    match packetSubject b c.card (packetRef c.packetId) c.occurredMs c.ref c.observedEventId with
    | .error e => (.error e,b)
    | .ok (subjectRef,b') =>
      let projected := acquaintPacket lib b' c subjectRef classified
      (projected.1.map some,projected.2)

variable {b b' b'' : RelationshipBook} {a : String} {lib : ProjectionLibrary}

/-- The peer's relationship is active and public. -/
def Introducible (e : RelationshipEstimate) : Prop := e.state = .active ∧ e.circle = .publicCircle

/-- What a projection for the Actor `a` may change: that Actor, a Subject and relationship of its
own where it was unknown, the interactions, the events, and the circle of a Subject it is linked
to, from public to known. -/
structure Projects (a : String) (b b' : RelationshipBook) : Prop where
  own : b'.ownActorId = b.ownActorId
  actors : ∀ x, x ≠ a → b'.actors.get x = b.actors.get x
  kind : ∀ r, b.actors.get a = some r → ∃ r', b'.actors.get a = some r' ∧ r'.actorKind = r.actorKind
  subjects : b'.subjects = b.subjects ∨ (b.actors.get a = none ∧ ∃ ref s,
    b.subjects.get ref = none ∧ b'.subjects = b.subjects.put ref s ∧ ∀ x, Links s x → x = a)
  relationships : ∀ r e, b.relationships.get r = some e → b'.relationships.get r = some e ∨
    (b.InState r .active ∧ b.LinksAt r a ∧ Introducible e ∧ ∃ e', b'.relationships.get r = some e' ∧
      e'.state = .active ∧ e'.circle = .known ∧ e'.contextTrust = e.contextTrust)
  interactions : ∀ k i, b.interactions.get k = some i → b'.interactions.get k = some i
  decisions : b'.suggestionDecisions = b.suggestionDecisions
  transitions : b'.transitions = b.transitions

theorem Projects.refl (a : String) (b : RelationshipBook) : Projects a b b :=
  ⟨rfl,fun _ _ => rfl,fun r hr => ⟨r,hr,rfl⟩,.inl rfl,fun _ _ he => .inl he,fun _ _ hi => hi,rfl,rfl⟩

/-- A Subject that was there is as it was. -/
theorem Projects.subject (h : Projects a b b') {r : String} {s : SubjectHypothesis}
    (hs : b.subjects.get r = some s) : b'.subjects.get r = some s := by
  rcases h.subjects with hsame | ⟨-,ref,x,hnew,hput,-⟩
  · rw [hsame,hs]
  · have hne : r ≠ ref := by
      rintro rfl
      rw [hnew] at hs
      cases hs
    rw [hput,Keyed.get_put,if_neg hne,hs]

/-- What the book's own check asks of the links, and of the references of Subjects. -/
structure Anchored (b : RelationshipBook) : Prop where
  names : ∀ r, (b.subjects.get r).isSome → strip r = r
  linked : ∀ a, (b.actors.get a).isSome → ∃ r, b.InState r .active ∧ b.LinksAt r a
  known : ∀ r a, b.LinksAt r a → (b.actors.get a).isSome
  estimated : ∀ r, (b.relationships.get r).isSome → (b.subjects.get r).isSome

/-- What an observation of an Actor does, and the Subject it returns. -/
structure Observes (a : String) (b b' : RelationshipBook) (subjectRef : String) : Prop where
  projects : Projects a b b'
  seen : (b'.actors.get a).isSome
  kept : ∀ r e, b.relationships.get r = some e → b'.relationships.get r = some e
  subject : b.relationships.get subjectRef = none ∨
    (b.InState subjectRef .active ∧ b.LinksAt subjectRef a)
  estimated : ∀ r, (b'.relationships.get r).isSome →
    (b.relationships.get r).isSome ∨ (b'.subjects.get r).isSome
  interactions : b'.interactions = b.interactions
  found : ∃ s, b'.primarySubject a = some (subjectRef,s)

theorem primarySubject_active {r : String} {s : SubjectHypothesis}
    (h : b.primarySubject a = some (r,s)) : b.InState r .active ∧ b.LinksAt r a := by
  obtain ⟨hget,hactive,hlink⟩ := primarySubject_cases h
  exact ⟨⟨s,hget,hactive⟩,⟨s,hget,hlink⟩⟩

/-- A Subject that is not linked to an Actor does not matter for its primary Subject. -/
theorem candidates_put {ref : String} {s : SubjectHypothesis} (hnew : b.subjects.get ref = none)
    (hsubjects : b'.subjects = b.subjects.put ref s) :
    b'.candidates a = (if s.state = .active then
      ((s.actorLinks.get a).map fun l => ((l.confidence,s.updatedMs,ref),s)) else none).toList ++
        b.candidates a := by
  have hothers : b.subjects.entries.filter (fun e => e.1 ≠ ref) = b.subjects.entries := by
    rw [List.filter_eq_self]
    rintro ⟨r,x⟩ hmem
    have hne : r ≠ ref := by
      rintro rfl
      rw [Keyed.get_eq_some.mpr hmem] at hnew
      cases hnew
    simpa using hne
  unfold candidates
  rw [hsubjects]
  simp only [Keyed.put,hothers,List.filterMap_cons]
  split <;> next h => simp [h]

theorem primarySubject_congr (h : b'.subjects = b.subjects) :
    b'.primarySubject a = b.primarySubject a := by
  unfold primarySubject candidates
  rw [h]

/-- An Actor that is not known has no Subject. -/
theorem Anchored.candidates_nil (hb : Anchored b) (ha : b.actors.get a = none) :
    b.candidates a = [] := by
  unfold candidates
  rw [List.filterMap_eq_nil_iff]
  rintro ⟨r,s⟩ hmem
  split
  · cases hl : s.actorLinks.get a with
    | none => rfl
    | some l =>
      have hsome := hb.known r a ⟨s,Keyed.get_eq_some.mpr hmem,Option.isSome_iff_exists.mpr ⟨l,hl⟩⟩
      rw [ha] at hsome
      cases hsome
  · rfl

theorem strongest_isSome {l : List ((ℤ × ℤ × String) × SubjectHypothesis)} (h : l ≠ []) :
    ∃ c, strongest l = some c := by
  cases l with
  | nil => exact absurd rfl h
  | cons c cs =>
    simp only [strongest]
    split
    · exact ⟨_,rfl⟩
    · split
      · exact ⟨_,rfl⟩
      · exact ⟨_,rfl⟩

/-- A known Actor has a primary Subject. -/
theorem Anchored.primary (hb : Anchored b) (ha : (b.actors.get a).isSome) :
    ∃ c, b.primarySubject a = some c := by
  obtain ⟨r,⟨s,hs,hactive⟩,⟨s',hs',hlink⟩⟩ := hb.linked a ha
  cases Option.mem_unique hs hs'
  obtain ⟨l,hl⟩ := Option.isSome_iff_exists.mp hlink
  have hcandidate : ((l.confidence,s.updatedMs,r),s) ∈ b.candidates a := by
    apply List.mem_filterMap.mpr
    exact ⟨(r,s),Keyed.get_eq_some.mp hs,by simp [hactive,hl]⟩
  obtain ⟨c,hc⟩ := strongest_isSome (List.ne_nil_of_mem hcandidate)
  exact ⟨_,by rw [primarySubject,hc]; rfl⟩

/-- A new reference has no relationship either. -/
theorem Anchored.unused (hb : Anchored b) {ref : String} (hnew : b.NewRef ref) :
    b.relationships.get ref = none := by
  by_contra hsome
  have hsubject := hb.estimated ref (Option.isSome_iff_ne_none.mpr hsome)
  rw [hnew.2] at hsubject
  cases hsubject

theorem observeTypedActor_observes (hb : Anchored b) {o : ActorObservation} {confidence now : ℤ}
    {ref eventId r : String} (hnew : b.NewRef ref)
    (h : b.observeTypedActor o confidence now ref eventId = .ok (r,b')) :
    Observes o.actorId b b' r := by
  simp only [observeTypedActor,bind_ok,raiseIf_ok] at h
  obtain ⟨-,-,-,-,c,-,t,-,-,-,h⟩ := h
  split at h
  · next hnone =>
    cases h
    set subject : SubjectHypothesis := ⟨.active,[],
      Keyed.empty.put o.actorId ⟨c,[o.proof.evidenceRef],t⟩,[o.proof.evidenceRef],t⟩ with hsubject
    have hrelationships : ∀ x e, b.relationships.get x = some e → x ≠ ref := by
      rintro x e hx rfl
      rw [hb.unused hnew] at hx
      cases hx
    refine ⟨⟨rfl,fun x hx => ?_,fun x hx => ?_,.inr ⟨hnone,ref,subject,hnew.2,rfl,fun x hx => ?_⟩,
      fun x e hx => .inl ?_,fun _ _ hi => hi,rfl,rfl⟩,?_,fun x e hx => ?_,.inl (hb.unused hnew),
      fun x hx => ?_,rfl,?_⟩
    · exact (Keyed.get_put _ _ _ _).trans (if_neg hx)
    · rw [hnone] at hx
      cases hx
    · by_contra hne
      simp [Links,hsubject,hne] at hx
    · exact (Keyed.get_put _ _ _ _).trans ((if_neg (hrelationships x e hx)).trans hx)
    · exact Option.isSome_iff_exists.mpr ⟨_,(Keyed.get_put _ _ _ _).trans (if_pos rfl)⟩
    · exact (Keyed.get_put _ _ _ _).trans ((if_neg (hrelationships x e hx)).trans hx)
    · by_cases heq : x = ref
      · exact .inr (Option.isSome_iff_exists.mpr ⟨_,(Keyed.get_put _ _ _ _).trans (if_pos heq)⟩)
      · have hold : (b.relationships.get x).isSome := by
          simpa [appendEvent,Keyed.get_put,heq] using hx
        exact .inl hold
    · refine ⟨subject,?_⟩
      unfold primarySubject
      rw [candidates_put hnew.2 rfl,hb.candidates_nil hnone]
      simp [hsubject,strongest]
  · next actor hactor =>
    simp only [bind_ok,raiseIf_ok] at h
    obtain ⟨-,-,h⟩ := h
    split at h
    · simp only [bind_ok,fetched_ok] at h
      obtain ⟨subject,hsubject,h⟩ := h
      cases h
      exact ⟨.refl _ b,Option.isSome_iff_exists.mpr ⟨actor,hactor⟩,fun _ _ he => he,
        .inr (primarySubject_active hsubject),fun _ => .inl,rfl,_,hsubject⟩
    · simp only [bind_ok,fetched_ok] at h
      obtain ⟨refs,-,-,-,subject,hsubject,h⟩ := h
      cases h
      refine ⟨⟨rfl,fun x hx => ?_,fun x hx => ?_,.inl rfl,fun _ _ he => .inl he,fun _ _ hi => hi,
          rfl,rfl⟩,
        Option.isSome_iff_exists.mpr ⟨_,(Keyed.get_put _ _ _ _).trans (if_pos rfl)⟩,
        fun _ _ he => he,.inr (primarySubject_active hsubject),fun _ => .inl,rfl,_,hsubject⟩
      · exact (Keyed.get_put _ _ _ _).trans (if_neg hx)
      · rw [hactor] at hx
        cases hx
        exact ⟨_,(Keyed.get_put _ _ _ _).trans (if_pos rfl),rfl⟩

theorem observeActor_observes (hb : Anchored b) {card : Card} {evidenceRef : String}
    {confidence now : ℤ} {ref eventId r : String} (hnew : b.NewRef ref)
    (h : b.observeActor card evidenceRef confidence now ref eventId = .ok (r,b')) :
    Observes card.nodeId b b' r := by
  simp only [observeActor,bind_ok] at h
  obtain ⟨-,-,-,-,evidence,-,c,-,t,-,h⟩ := h
  exact observeTypedActor_observes hb hnew h

/-- An operation that leaves the Subjects and touches no relationship but those of Subjects. -/
structure Estimates (b b' : RelationshipBook) : Prop where
  subjects : b'.subjects = b.subjects
  actors : ∀ a, (b'.actors.get a).isSome = (b.actors.get a).isSome
  relationships : ∀ r, (b'.relationships.get r).isSome →
    (b.relationships.get r).isSome ∨ (b.subjects.get r).isSome

theorem Estimates.refl (b : RelationshipBook) : Estimates b b := ⟨rfl,fun _ => rfl,fun _ => .inl⟩

theorem Estimates.trans (h : Estimates b b') (h' : Estimates b' b'') : Estimates b b'' := by
  refine ⟨h'.subjects.trans h.subjects,fun a => (h'.actors a).trans (h.actors a),fun r hr => ?_⟩
  rcases h'.relationships r hr with hr | hr
  · exact h.relationships r hr
  · exact .inr (h.subjects ▸ hr)

/-- A relationship put for a reference that has one, or has a Subject. -/
theorem Estimates.put {ref : String} {e : RelationshipEstimate} (hsubjects : b'.subjects = b.subjects)
    (hactors : b'.actors = b.actors) (hrelationships : b'.relationships = b.relationships.put ref e)
    (href : (b.relationships.get ref).isSome ∨ (b.subjects.get ref).isSome) : Estimates b b' := by
  refine ⟨hsubjects,fun a => by rw [hactors],fun r hr => ?_⟩
  by_cases heq : r = ref
  · exact heq ▸ href
  · rw [hrelationships,Keyed.get_put,if_neg heq] at hr
    exact .inl hr

theorem Anchored.estimates (hb : Anchored b) (h : Estimates b b') : Anchored b' := by
  refine ⟨fun r hr => hb.names r (h.subjects ▸ hr),fun a ha => ?_,fun r a hr => ?_,fun r hr => ?_⟩
  · obtain ⟨r,hr,hl⟩ := hb.linked a (h.actors a ▸ ha)
    refine ⟨r,?_,?_⟩
    · rwa [InState,h.subjects]
    · rwa [LinksAt,h.subjects]
  · rw [LinksAt,h.subjects] at hr
    exact h.actors a ▸ hb.known r a hr
  · rw [h.subjects]
    rcases h.relationships r hr with hr | hr
    · exact hb.estimated r hr
    · exact hr

theorem recordInteraction_estimates {i : InteractionEvidence} {eventId : String} {new : Bool}
    (h : b.recordInteraction i eventId = .ok (new,b')) : Estimates b b' := by
  unfold recordInteraction at h
  split at h
  · cases h
    exact .refl b
  · simp only [bind_ok] at h
    obtain ⟨-,-,subject,-,-,-,h⟩ := h
    cases h
    exact ⟨rfl,fun _ => rfl,fun _ => .inl⟩

theorem setCircle_estimates {subjectRef evidenceRef eventId r : String} {circle : Circle}
    {confidence now : ℤ} {labels : List String}
    (h : b.setCircle subjectRef circle confidence evidenceRef labels now eventId = .ok (r,b')) :
    Estimates b b' := by
  simp only [setCircle,bind_ok,fetched_ok] at h
  obtain ⟨key,-,-,-,c,-,evidence,-,t,-,existing,hexisting,ls,-,refs,-,h⟩ := h
  cases h
  exact .put rfl rfl rfl (.inl (Option.isSome_iff_exists.mpr ⟨_,hexisting⟩))

theorem setContextTrust_estimates {subjectRef context evidenceRef eventId r : String}
    {estimate confidence now : ℤ}
    (h : b.setContextTrust subjectRef context estimate confidence evidenceRef now eventId =
      .ok (r,b')) : Estimates b b' := by
  simp only [setContextTrust,bind_ok,fetched_ok] at h
  obtain ⟨key,-,relationship,hrelationship,x,-,y,-,t,-,n,-,c,-,trusted,-,h⟩ := h
  cases h
  exact .put rfl rfl rfl (.inl (Option.isSome_iff_exists.mpr ⟨_,hrelationship⟩))

theorem setRelationshipState_estimates {subjectRef eventType evidenceRef eventId r : String}
    {state : RelationshipState} {now : ℤ}
    (h : b.setRelationshipState subjectRef state eventType evidenceRef now eventId = .ok (r,b')) :
    Estimates b b' := by
  simp only [setRelationshipState,bind_ok,fetched_ok] at h
  obtain ⟨-,-,key,-,relationship,hrelationship,h⟩ := h
  split at h
  · cases h
    exact .refl b
  · simp only [bind_ok] at h
    obtain ⟨-,-,evidence,-,t,-,refs,-,h⟩ := h
    cases h
    exact .put rfl rfl rfl (.inl (Option.isSome_iff_exists.mpr ⟨_,hrelationship⟩))

theorem applyAccepted_estimates {x : Suggestion} {accepted : Bool}
    {subjectRef evidence eventId : String} {now : ℤ}
    (h : b.applyAccepted x accepted subjectRef evidence now eventId = .ok b') : Estimates b b' := by
  unfold applyAccepted at h
  split at h
  · simp only [applySuggestion,bind_ok,fetched_ok] at h
    obtain ⟨relationship,hrelationship,h⟩ := h
    have href := Option.isSome_iff_exists.mpr ⟨_,hrelationship⟩
    split at h
    · simp only [bind_ok] at h
      obtain ⟨refs,-,h⟩ := h
      cases h
      exact .put rfl rfl rfl (.inl href)
    · simp only [bind_ok] at h
      obtain ⟨trusted,-,h⟩ := h
      cases h
      exact .put rfl rfl rfl (.inl href)
  · cases h
    exact .refl b

theorem decideSuggestion_estimates {decisionId : String → String → String} {x : Suggestion}
    {accepted : Bool} {rationale appliedEventId eventId : String} {now : ℤ} {d : SuggestionDecision}
    (h : decideSuggestion decisionId b x accepted rationale now appliedEventId eventId =
      .ok (d,b')) : Estimates b b' := by
  simp only [decideSuggestion,bind_ok,raiseIf_ok] at h
  obtain ⟨id,-,-,-,h⟩ := h
  split at h
  · simp only [bind_ok] at h
    obtain ⟨-,-,h⟩ := h
    cases h
    exact .refl b
  · simp only [bind_ok,raiseIf_ok] at h
    obtain ⟨ty,-,ref,-,-,-,reason,-,c,-,-,-,-,-,-,-,t,-,applied,happlied,h⟩ := h
    cases h
    exact (applyAccepted_estimates happlied).trans ⟨rfl,fun _ => rfl,fun _ => .inl⟩

theorem revokeActor_estimates {actorId evidenceRef eventId : String} {now : ℤ} {u : Unit}
    (h : b.revokeActor actorId evidenceRef now eventId = .ok (u,b')) : Estimates b b' := by
  simp only [revokeActor] at h
  split at h
  · cases h
    exact .refl b
  · next actor hactor =>
    split at h
    · cases h
      exact .refl b
    · simp only [bind_ok] at h
      obtain ⟨evidence,-,t,-,refs,-,-,-,h⟩ := h
      cases h
      refine ⟨rfl,fun a => ?_,fun _ => .inl⟩
      simp only [appendEvent,Keyed.get_put]
      split
      · next heq => simp [heq,hactor]
      · rfl

theorem withdrawalEvent_estimates {card : Card} {claimId withdrawingActorId subjectRef evidence : String}
    {now : ℤ} {eventId : String} : Estimates b
      (b.withdrawalEvent card claimId withdrawingActorId subjectRef evidence now eventId) := by
  unfold withdrawalEvent
  split
  · exact .refl b
  · exact ⟨rfl,fun _ => rfl,fun _ => .inl⟩

/-- An observed Actor has its Subject, and the others keep theirs. -/
theorem Anchored.observes (hb : Anchored b) {r : String} (h : Observes a b b' r)
    (hnames : ∀ x, (b'.subjects.get x).isSome → strip x = x) : Anchored b' := by
  have hactors : ∀ x, (b.actors.get x).isSome → (b'.actors.get x).isSome := by
    intro x hx
    by_cases heq : x = a
    · exact heq ▸ h.seen
    · rwa [h.projects.actors x heq]
  refine ⟨hnames,fun x hx => ?_,fun x y hy => ?_,fun x hx => ?_⟩
  · by_cases heq : x = a
    · obtain ⟨s,hs⟩ := h.found
      exact ⟨r,heq ▸ primarySubject_active hs⟩
    · rw [h.projects.actors x heq] at hx
      obtain ⟨r',⟨s,hs,hactive⟩,⟨s',hs',hlink⟩⟩ := hb.linked x hx
      exact ⟨r',⟨s,h.projects.subject hs,hactive⟩,⟨s',h.projects.subject hs',hlink⟩⟩
  · rcases h.projects.subjects with hsame | ⟨-,ref,s,-,hput,honly⟩
    · rw [LinksAt,hsame] at hy
      exact hactors y (hb.known x y hy)
    · obtain ⟨s',hs',hlink⟩ := hy
      rw [hput,Keyed.get_put] at hs'
      split at hs'
      · cases hs'
        exact honly y hlink ▸ h.seen
      · exact hactors y (hb.known x y ⟨s',hs',hlink⟩)
  · rcases h.estimated x hx with hx | hx
    · obtain ⟨s,hs⟩ := Option.isSome_iff_exists.mp (hb.estimated x hx)
      exact Option.isSome_iff_exists.mpr ⟨s,h.projects.subject hs⟩
    · exact hx

theorem Anchored.observe (hb : Anchored b) {o : ActorObservation} {confidence now : ℤ}
    {ref eventId r : String} (hnew : b.NewRef ref)
    (h : b.observeTypedActor o confidence now ref eventId = .ok (r,b')) : Anchored b' :=
  hb.observes (observeTypedActor_observes hb hnew h) fun _ hx =>
    (observeTypedActor_edit h hnew).1.names hb.names hx

theorem Anchored.observeActor (hb : Anchored b) {card : Card} {evidenceRef : String}
    {confidence now : ℤ} {ref eventId r : String} (hnew : b.NewRef ref)
    (h : b.observeActor card evidenceRef confidence now ref eventId = .ok (r,b')) : Anchored b' :=
  hb.observes (observeActor_observes hb hnew h) fun _ hx =>
    (observeActor_edit h hnew).1.names hb.names hx

theorem Anchored.linkActor (hb : Anchored b) {actorId subjectRef evidenceRef eventId r : String}
    {confidence now : ℤ}
    (h : b.linkActor actorId subjectRef confidence evidenceRef now eventId = .ok (r,b')) :
    Anchored b' := by
  have hedit := linkActor_edit h
  simp only [RelationshipBook.linkActor,bind_ok,raiseIf_ok,fetched_ok,not_not,ne_eq] at h
  obtain ⟨actor,-,key,-,-,hactor,subject,hsubject,-,hactive,c,-,evidence,-,t,-,linkRefs,-,refs,-,h⟩ :=
    h
  cases h
  refine ⟨fun x hx => hedit.names hb.names hx,fun x hx => ?_,fun x y hy => ?_,fun x hx => ?_⟩
  · obtain ⟨r',hr,hl⟩ := hb.linked x hx
    exact ⟨r',hedit.inState hr,hedit.linksAt hl⟩
  · obtain ⟨s,hs,hlink⟩ := hy
    simp only [appendEvent,Keyed.get_put] at hs
    split at hs
    · next heq =>
      cases hs
      by_cases hya : y = actor
      · change (b.actors.get y).isSome
        rw [hya]
        simpa using Option.isSome_iff_ne_none.mpr (by simpa using hactor)
      · have hold : Links subject y := by simpa [Links,Keyed.get_put,hya] using hlink
        exact hb.known x y ⟨subject,heq ▸ hsubject,hold⟩
    · exact hb.known x y ⟨s,hs,hlink⟩
  · obtain ⟨s,hs⟩ := Option.isSome_iff_exists.mp (hb.estimated x hx)
    obtain ⟨s',hs',-⟩ := hedit.keeps.1 x s hs
    exact Option.isSome_iff_exists.mpr ⟨s',hs'⟩

theorem Anchored.transition (hb : Anchored b) {t : SubjectTransition} (ht : Transitioned b b' t) :
    Anchored b' := by
  refine ⟨fun r hr => ?_,fun x hx => ?_,fun r x hx => ?_,fun r hr => ?_⟩
  · by_cases hnew : r ∈ t.replacementSubjectRefs
    · exact ht.names r hnew
    · by_cases hrs : r ∈ t.sourceSubjectRefs
      · exact hb.names r (ht.sources r hrs).1.isSome
      · exact hb.names r ((ht.others r hrs hnew).1 ▸ hr)
  · rw [ht.actors] at hx
    obtain ⟨r,hr,hlink⟩ := hb.linked x hx
    by_cases hrs : r ∈ t.sourceSubjectRefs
    · obtain ⟨r',hr',hlink'⟩ := (ht.carried x).mpr ⟨r,hrs,hlink⟩
      exact ⟨r',(ht.replacements r' hr').2,hlink'⟩
    · exact ⟨r,ht.inState hr hrs,(ht.linksAt hr.isSome x).mpr hlink⟩
  · rw [ht.actors]
    by_cases hnew : r ∈ t.replacementSubjectRefs
    · obtain ⟨r',-,hlink⟩ := (ht.carried x).mp ⟨r,hnew,hx⟩
      exact hb.known r' x hlink
    · by_cases hrs : r ∈ t.sourceSubjectRefs
      · exact hb.known r x ((ht.linksAt (ht.sources r hrs).1.isSome x).mp hx)
      · rw [LinksAt,(ht.others r hrs hnew).1] at hx
        exact hb.known r x hx
  · by_cases hnew : r ∈ t.replacementSubjectRefs
    · exact (ht.replacements r hnew).2.isSome
    · by_cases hrs : r ∈ t.sourceSubjectRefs
      · obtain ⟨-,s,-,s',hs',-⟩ := ht.sources r hrs
        exact Option.isSome_iff_exists.mpr ⟨s',hs'⟩
      · rw [(ht.others r hrs hnew).1]
        exact hb.estimated r ((ht.others r hrs hnew).2 ▸ hr)

/-- A confirmation observes the peer and sets a circle. -/
theorem Anchored.confirm (hb : Anchored b) {card : Card} {evidenceRef ref eventId : String}
    {now : ℤ} {next : String → RelationshipBook → RelationshipBook} (hnew : b.NewRef ref)
    (hnext : ∀ r b', Estimates b' (next r b')) :
    Anchored (b.keeping (b.observeActor card evidenceRef 50 now ref eventId) next) :=
  keeping_cases hb fun r _ h => (hb.observeActor hnew h).estimates (hnext r _)

theorem circleOf_estimates {r evidenceRef eventId : String} {f : Circle → Circle}
    {labels : List String} {now : ℤ} : Estimates b
      (match b.relationships.get r with
        | none => b
        | some existing => b.after (b.setCircle r (f existing.circle) 100 evidenceRef labels now
            eventId)) := by
  split
  · exact .refl b
  · exact after_cases (.refl b) fun _ _ h => setCircle_estimates h

/-- Whatever the operations, every Actor keeps an active Subject, and no Subject is linked to an
Actor that is not known. -/
theorem Anchored.perform (hb : Anchored b) (decisionId : String → String → String) {call : Call}
    (hfresh : b.FreshRefs call) : Anchored (b.perform decisionId call) := by
  cases call with
  | observe o confidence now ref eventId =>
    exact after_cases hb fun _ _ h => hb.observe hfresh h
  | observeCard card evidenceRef confidence now ref eventId =>
    exact after_cases hb fun _ _ h => hb.observeActor hfresh h
  | interaction i eventId =>
    exact after_cases hb fun _ _ h => hb.estimates (recordInteraction_estimates h)
  | link actorId subjectRef confidence evidenceRef now eventId =>
    exact after_cases hb fun _ _ h => hb.linkActor h
  | circle subjectRef circle confidence evidenceRef labels now eventId =>
    exact after_cases hb fun _ _ h => hb.estimates (setCircle_estimates h)
  | trust subjectRef context estimate confidence evidenceRef now eventId =>
    exact after_cases hb fun _ _ h => hb.estimates (setContextTrust_estimates h)
  | pause subjectRef evidenceRef now eventId =>
    exact after_cases hb fun _ _ h => hb.estimates (setRelationshipState_estimates h)
  | finish subjectRef evidenceRef now eventId =>
    exact after_cases hb fun _ _ h => hb.estimates (setRelationshipState_estimates h)
  | supersede subjectRef x =>
    exact after_cases hb fun _ _ h => hb.transition (supersedeSubject_transitioned h hfresh)
  | merge subjectRefs inheritRef x =>
    exact after_cases hb fun _ _ h => hb.transition (mergeSubjects_transitioned h hfresh)
  | split subjectRef groups inheritGroup x =>
    exact after_cases hb fun _ _ h => hb.transition (splitSubject_transitioned h hfresh)
  | decide x accepted rationale now appliedEventId eventId =>
    exact after_cases hb fun _ _ h => hb.estimates (decideSuggestion_estimates h)
  | friend card evidenceRef now ref eventId circleEventId =>
    exact hb.confirm hfresh fun r b' => circleOf_estimates (f := fun c => closer c .friend)
  | mutualClaim card circle evidenceRef labels now ref eventId circleEventId =>
    have hconfirm := @Anchored.confirm b hb card evidenceRef ref eventId now _ hfresh
      fun r b' => @circleOf_estimates b' r evidenceRef circleEventId (fun c => closer c circle)
        (labels ++ ["relationship:mutual",s!"relationship:mutual:{circle.text}"]) now
    change Anchored (b.confirmMutualRelationship card circle evidenceRef labels now ref eventId
      circleEventId)
    unfold confirmMutualRelationship
    split
    · exact hb
    · split
      · exact hconfirm
      · split
        · exact hb
        · split
          · exact hb
          · exact hconfirm
  | withdrawal card claimId withdrawingActorId evidenceRef now ref eventId withdrawalEventId =>
    change Anchored (b.recordWithdrawal card claimId withdrawingActorId evidenceRef now ref eventId
      withdrawalEventId)
    unfold recordWithdrawal
    split
    · split
      · exact hb.estimates withdrawalEvent_estimates
      · exact hb.confirm hfresh fun r b' => withdrawalEvent_estimates
    · exact hb
  | revoke actorId evidenceRef now eventId =>
    exact after_cases hb fun _ _ h => hb.estimates (revokeActor_estimates h)

theorem anchored_empty (ownActorId : String) : Anchored (empty ownActorId) := by
  refine ⟨by simp [empty],by simp [empty],?_,by simp [empty]⟩
  rintro r a ⟨s,hs,-⟩
  simp [empty] at hs

/-- What `set_circle` leaves. -/
theorem setCircle_cases {subjectRef evidenceRef eventId r : String} {circle : Circle}
    {confidence now : ℤ} {labels : List String}
    (h : b.setCircle subjectRef circle confidence evidenceRef labels now eventId = .ok (r,b')) :
    ∃ existing e event, b.relationships.get (strip subjectRef) = some existing ∧
      e.circle = circle ∧ e.state = .active ∧ e.contextTrust = existing.contextTrust ∧
      b' = RelationshipBook.appendEvent
        { b with relationships := b.relationships.put (strip subjectRef) e } event := by
  simp only [setCircle,boundedText,bind_ok,raiseIf_ok,fetched_ok] at h
  obtain ⟨key,⟨-,-,hkey⟩,-,-,c,-,evidence,-,t,-,existing,hexisting,ls,-,refs,-,h⟩ := h
  cases hkey
  cases h
  exact ⟨existing,⟨circle,.active,ls,c,existing.contextTrust,refs,t⟩,_,hexisting,rfl,rfl,rfl,rfl⟩

/-- What `record_interaction` leaves. -/
theorem recordInteraction_cases {i : InteractionEvidence} {eventId : String} {new : Bool}
    (h : b.recordInteraction i eventId = .ok (new,b')) :
    (b' = b ∧ (b.interactions.get i.interactionId).isSome) ∨
      (b.interactions.get i.interactionId = none ∧ ∃ event, b' = RelationshipBook.appendEvent
        { b with interactions := b.interactions.put i.interactionId i } event) := by
  unfold recordInteraction at h
  split at h
  · next hsome =>
    cases h
    exact .inl ⟨rfl,hsome⟩
  · next hnone =>
    simp only [bind_ok] at h
    obtain ⟨-,-,subject,-,-,-,h⟩ := h
    cases h
    exact .inr ⟨by simpa using hnone,_,rfl⟩

theorem recordInteraction_recorded {i : InteractionEvidence} {eventId : String} {new : Bool}
    (h : b.recordInteraction i eventId = .ok (new,b')) :
    (b'.interactions.get i.interactionId).isSome := by
  rcases recordInteraction_cases h with ⟨rfl,hsome⟩ | ⟨-,event,rfl⟩
  · exact hsome
  · simp [appendEvent]

/-- The steps of `acquaint`: nothing, the evidence, or the evidence and the circle. -/
theorem acquaint_cases {subjectRef missing evidenceRef recordedEventId circleEventId : String}
    {evidence : Result InteractionEvidence} {introduces : Bool} {labels : List String} {now : ℤ}
    {result : Result InteractionProjection}
    (h : acquaint b subjectRef evidence introduces missing evidenceRef labels now recordedEventId
      circleEventId = (result,b'')) :
    (b'' = b ∧ ∃ e, result = .error e) ∨ ∃ i new b', evidence = .ok i ∧
      b.recordInteraction i recordedEventId = .ok (new,b') ∧
      ((b'' = b' ∧ ((∃ e, result = .error e) ∨ ∃ e, b'.relationships.get subjectRef = some e ∧
          ¬ (Introducible e ∧ introduces))) ∨
        ∃ e x, b'.relationships.get subjectRef = some e ∧ Introducible e ∧ introduces ∧
          b'.setCircle subjectRef .known 25 evidenceRef labels now circleEventId = .ok (x,b'')) := by
  unfold acquaint at h
  cases evidence with
  | error e =>
    cases h
    exact .inl ⟨rfl,e,rfl⟩
  | ok i =>
    simp only at h
    cases hrecord : b.recordInteraction i recordedEventId with
    | error e =>
      rw [hrecord] at h
      cases h
      exact .inl ⟨rfl,e,rfl⟩
    | ok x =>
      obtain ⟨new,b'⟩ := x
      rw [hrecord] at h
      refine .inr ⟨i,new,b',rfl,hrecord,?_⟩
      simp only at h
      cases he : b'.relationships.get subjectRef with
      | none =>
        rw [he] at h
        cases h
        exact .inl ⟨rfl,.inl ⟨_,rfl⟩⟩
      | some e =>
        rw [he] at h
        simp only at h
        split at h
        · next hintro =>
          cases hcircle : b'.setCircle subjectRef .known 25 evidenceRef labels now circleEventId with
          | error x =>
            rw [hcircle] at h
            cases h
            exact .inl ⟨rfl,.inl ⟨x,rfl⟩⟩
          | ok x =>
            rw [hcircle] at h
            cases h
            exact .inr ⟨e,x.1,rfl,⟨hintro.1,hintro.2.1⟩,hintro.2.2,rfl⟩
        · next hnot =>
          cases h
          exact .inl ⟨rfl,.inr ⟨e,rfl,fun hi => hnot ⟨hi.1.1,hi.1.2,hi.2⟩⟩⟩

/-- Evidence touches the interactions alone. -/
theorem Projects.record (h : Projects a b b') {i : InteractionEvidence} {eventId : String}
    {new : Bool} (hrecord : b'.recordInteraction i eventId = .ok (new,b'')) : Projects a b b'' := by
  rcases recordInteraction_cases hrecord with ⟨rfl,-⟩ | ⟨hnone,event,rfl⟩
  · exact h
  · refine ⟨h.own,h.actors,h.kind,h.subjects,h.relationships,fun k j hj => ?_,h.decisions,
      h.transitions⟩
    have hold := h.interactions k j hj
    have hne : k ≠ i.interactionId := by
      rintro rfl
      rw [hnone] at hold
      cases hold
    exact (Keyed.get_put _ _ _ _).trans ((if_neg hne).trans hold)

/-- The circle moves from public to known for the Subject that was observed. -/
theorem Projects.circle (h : Projects a b b') {subjectRef evidenceRef eventId x : String}
    {labels : List String} {now : ℤ} {e : RelationshipEstimate} (hname : strip subjectRef = subjectRef)
    (hsubject : b.relationships.get subjectRef = none ∨
      (b.InState subjectRef .active ∧ b.LinksAt subjectRef a ∧
        b.relationships.get subjectRef = some e))
    (he : b'.relationships.get subjectRef = some e) (hintro : Introducible e)
    (hcircle : b'.setCircle subjectRef .known 25 evidenceRef labels now eventId = .ok (x,b'')) :
    Projects a b b'' := by
  obtain ⟨existing,e',event,hexisting,hknown,hactive,htrust,rfl⟩ := setCircle_cases hcircle
  rw [hname] at hexisting
  cases he.symm.trans hexisting
  refine ⟨h.own,h.actors,h.kind,h.subjects,fun r y hy => ?_,h.interactions,h.decisions,
    h.transitions⟩
  rw [hname]
  by_cases hr : r = subjectRef
  · subst hr
    rcases hsubject with hnone | ⟨hstate,hlink,hold⟩
    · rw [hnone] at hy
      cases hy
    · cases hold.symm.trans hy
      exact .inr ⟨hstate,hlink,hintro,e',(Keyed.get_put _ _ _ _).trans (if_pos rfl),hactive,hknown,
        htrust⟩
  · have hput : ∀ z, b'.relationships.get r = some z →
        (b'.relationships.put subjectRef e').get r = some z := fun z hz =>
      (Keyed.get_put _ _ _ _).trans ((if_neg hr).trans hz)
    rcases h.relationships r y hy with hsame | ⟨hstate,hlink,hpublic,z,hz,hrest⟩
    · exact .inl (hput y hsame)
    · exact .inr ⟨hstate,hlink,hpublic,z,hput z hz,hrest⟩

section Acquaint

variable {subjectRef missing evidenceRef recordedEventId circleEventId : String}
variable {evidence : Result InteractionEvidence} {introduces : Bool} {labels : List String} {now : ℤ}
variable {result : Result InteractionProjection}

theorem record_relationships {i : InteractionEvidence} {eventId : String} {new : Bool}
    (h : b.recordInteraction i eventId = .ok (new,b')) : b'.relationships = b.relationships := by
  rcases recordInteraction_cases h with ⟨rfl,-⟩ | ⟨-,event,rfl⟩
  · rfl
  · rfl

theorem Observes.acquaint (h : Observes a b b' subjectRef) (hname : strip subjectRef = subjectRef) :
    Projects a b (acquaint b' subjectRef evidence introduces missing evidenceRef labels now recordedEventId
      circleEventId).2 := by
  rcases hacquaint : Relations.acquaint b' subjectRef evidence introduces missing evidenceRef labels now
    recordedEventId circleEventId with ⟨result,b''⟩
  rcases acquaint_cases hacquaint with ⟨rfl,-⟩ | ⟨i,new,b1,-,hrecord,hend⟩
  · exact h.projects
  · rcases hend with ⟨rfl,-⟩ | ⟨e,x,he,hintro,-,hcircle⟩
    · exact h.projects.record hrecord
    · apply (h.projects.record hrecord).circle hname ?_ he hintro hcircle
      rcases h.subject with hnone | ⟨hstate,hlink⟩
      · exact .inl hnone
      · cases hold : b.relationships.get subjectRef with
        | none => exact .inl rfl
        | some y =>
          have hsame := h.kept subjectRef y hold
          rw [record_relationships hrecord,hsame] at he
          exact .inr ⟨hstate,hlink,he⟩

theorem acquaint_estimates : Estimates b (acquaint b subjectRef evidence introduces missing evidenceRef labels
    now recordedEventId circleEventId).2 := by
  rcases hacquaint : acquaint b subjectRef evidence introduces missing evidenceRef labels now recordedEventId
    circleEventId with ⟨result,b''⟩
  rcases acquaint_cases hacquaint with ⟨rfl,-⟩ | ⟨i,new,b1,-,hrecord,hend⟩
  · exact .refl b''
  · have hfirst := recordInteraction_estimates hrecord
    rcases hend with ⟨rfl,-⟩ | ⟨e,x,-,-,-,hcircle⟩
    · exact hfirst
    · exact hfirst.trans (setCircle_estimates hcircle)

/-- Evidence that is recorded already, for a relationship that is not to be introduced. -/
theorem acquaint_settled (hrecorded : ∀ i, evidence = .ok i →
      (b.interactions.get i.interactionId).isSome)
    (hsettled : ∀ e, b.relationships.get subjectRef = some e → ¬ (Introducible e ∧ introduces)) :
    (acquaint b subjectRef evidence introduces missing evidenceRef labels now recordedEventId
      circleEventId).2 = b := by
  rcases hacquaint : acquaint b subjectRef evidence introduces missing evidenceRef labels now recordedEventId
    circleEventId with ⟨result,b''⟩
  rcases acquaint_cases hacquaint with ⟨rfl,-⟩ | ⟨i,new,b1,hi,hrecord,hend⟩
  · rfl
  · rcases recordInteraction_cases hrecord with ⟨rfl,-⟩ | ⟨hnone,-⟩
    · rcases hend with ⟨rfl,-⟩ | ⟨e,x,he,hintro,hlets,-⟩
      · rfl
      · exact absurd ⟨hintro,hlets⟩ (hsettled e he)
    · have hsome := hrecorded i hi
      rw [hnone] at hsome
      cases hsome

/-- Evidence that is recorded already is not recorded again. -/
theorem acquaint_interactions (hrecorded : ∀ i, evidence = .ok i →
      (b.interactions.get i.interactionId).isSome) :
    (acquaint b subjectRef evidence introduces missing evidenceRef labels now recordedEventId
      circleEventId).2.interactions = b.interactions := by
  rcases hacquaint : acquaint b subjectRef evidence introduces missing evidenceRef labels now recordedEventId
    circleEventId with ⟨result,b''⟩
  rcases acquaint_cases hacquaint with ⟨rfl,-⟩ | ⟨i,new,b1,hi,hrecord,hend⟩
  · rfl
  · rcases recordInteraction_cases hrecord with ⟨rfl,-⟩ | ⟨hnone,-⟩
    · rcases hend with ⟨rfl,-⟩ | ⟨e,x,-,-,-,hcircle⟩
      · rfl
      · obtain ⟨existing,e',event,-,-,-,-,rfl⟩ := setCircle_cases hcircle
        rfl
    · have hsome := hrecorded i hi
      rw [hnone] at hsome
      cases hsome

/-- A projection that returns has recorded its evidence and left nobody to introduce. -/
theorem acquaint_returns {p : InteractionProjection} (hname : strip subjectRef = subjectRef)
    (h : (acquaint b subjectRef evidence introduces missing evidenceRef labels now recordedEventId
      circleEventId).1 = .ok p) :
    (∃ i, evidence = .ok i ∧ ((acquaint b subjectRef evidence introduces missing evidenceRef labels now
      recordedEventId circleEventId).2.interactions.get i.interactionId).isSome) ∧
      ∀ e, (acquaint b subjectRef evidence introduces missing evidenceRef labels now recordedEventId
        circleEventId).2.relationships.get subjectRef = some e → ¬ (Introducible e ∧ introduces) := by
  rcases hacquaint : acquaint b subjectRef evidence introduces missing evidenceRef labels now recordedEventId
    circleEventId with ⟨result,b''⟩
  rw [hacquaint] at h
  rcases acquaint_cases hacquaint with ⟨-,e,he⟩ | ⟨i,new,b1,hi,hrecord,hend⟩
  · cases he.symm.trans h
  · have hrecorded := recordInteraction_recorded hrecord
    rcases hend with ⟨rfl,⟨e,he⟩ | ⟨e,he,hnot⟩⟩ | ⟨e,x,-,-,-,hcircle⟩
    · cases he.symm.trans h
    · refine ⟨⟨i,hi,hrecorded⟩,fun y hy => ?_⟩
      cases he.symm.trans hy
      exact hnot
    · obtain ⟨existing,e',event,-,hknown,-,-,rfl⟩ := setCircle_cases hcircle
      refine ⟨⟨i,hi,hrecorded⟩,fun y hy hlets => ?_⟩
      simp only [hname] at hy
      have hput : some e' = some y := (if_pos rfl).symm.trans ((Keyed.get_put _ _ _ _).symm.trans hy)
      cases hput
      exact absurd (hlets.1.2.symm.trans hknown) (by decide)

end Acquaint

/-- The Actor's primary Subject has no active public relationship. -/
def Settled (b : RelationshipBook) (a : String) : Prop :=
  ∀ r s e, b.primarySubject a = some (r,s) → b.relationships.get r = some e → ¬ Introducible e

theorem createEvidence_ok {actorId subjectRef direction context outcome evidenceRef : String}
    {facets : List String} {occurredMs : ℤ} {i : InteractionEvidence}
    (h : createEvidence lib actorId subjectRef direction facets context outcome evidenceRef
      occurredMs = .ok i) :
    i.interactionId = "iev_" ++ lib.interactionId actorId direction evidenceRef := by
  simp only [createEvidence,bind_ok] at h
  obtain ⟨-,-,-,-,towards,-,-,-,-,-,-,-,-,-,-,-,h⟩ := h
  cases h
  rfl

theorem packetSubject_observes (hb : Anchored b) {card : Card} {evidenceRef ref eventId r : String}
    {occurredMs : ℤ} (hnew : b.NewRef ref)
    (h : packetSubject b card evidenceRef occurredMs ref eventId = .ok (r,b')) :
    Observes card.nodeId b b' r ∧ Anchored b' := by
  unfold packetSubject at h
  split at h
  · next s hs =>
    cases h
    have hlinked := primarySubject_active hs
    exact ⟨⟨.refl _ b,hb.known _ _ hlinked.2,fun _ _ he => he,.inr hlinked,fun _ => .inl,rfl,_,hs⟩,hb⟩
  · exact ⟨observeActor_observes hb hnew h,hb.observeActor hnew h⟩

/-- The evidence that a packet call leads to is recorded. -/
def Recorded (lib : ProjectionLibrary) (b : RelationshipBook) (nodeId direction packetId : String) :
    Prop :=
  (b.interactions.get ("iev_" ++ lib.interactionId nodeId direction (packetRef packetId))).isSome

/-- A packet says nothing, stops at its Subject, or acquaints. -/
theorem projectPacket_cases (lib : ProjectionLibrary) (b : RelationshipBook) (c : PacketCall) :
    ((projectPacket lib b c).2 = b ∧ ∀ p, (projectPacket lib b c).1 ≠ .ok (some p)) ∨
      ∃ subjectRef b' classified,
        packetSubject b c.card (packetRef c.packetId) c.occurredMs c.ref c.observedEventId =
          .ok (subjectRef,b') ∧
        projectPacket lib b c = ((acquaintPacket lib b' c subjectRef classified).1.map some,
          (acquaintPacket lib b' c subjectRef classified).2) := by
  unfold projectPacket
  cases hclass : classifyInteraction lib c.kind c.body c.direction with
  | none =>
    left
    simp
  | some classified =>
    cases hsubject : packetSubject b c.card (packetRef c.packetId) c.occurredMs c.ref
        c.observedEventId with
    | error e =>
      left
      simp
    | ok x => exact .inr ⟨x.1,x.2,classified,rfl,rfl⟩

theorem packetEvidence_ok {c : PacketCall} {subjectRef : String}
    {classified : List String × String × String} {i : InteractionEvidence}
    (h : packetEvidence lib c subjectRef classified = .ok i) :
    i.interactionId = "iev_" ++ lib.interactionId c.card.nodeId c.direction (packetRef c.packetId) :=
  createEvidence_ok h

theorem projectPacket_projects (hb : Anchored b) (c : PacketCall) (hnew : b.NewRef c.ref) :
    Projects c.card.nodeId b (projectPacket lib b c).2 ∧ Anchored (projectPacket lib b c).2 := by
  rcases projectPacket_cases lib b c with ⟨hsame,-⟩ | ⟨subjectRef,b',classified,hsubject,heq⟩
  · rw [hsame]
    exact ⟨.refl _ b,hb⟩
  · obtain ⟨hobserves,hanchored⟩ := packetSubject_observes hb hnew hsubject
    obtain ⟨s,hs⟩ := hobserves.found
    have hname := hanchored.names subjectRef (primarySubject_active hs).1.isSome
    rw [heq]
    dsimp only
    unfold acquaintPacket
    exact ⟨hobserves.acquaint hname,hanchored.estimates acquaint_estimates⟩

/-- A known Actor is not observed again. -/
theorem packetSubject_known (hb : Anchored b) {card : Card} {evidenceRef ref eventId r : String}
    {occurredMs : ℤ} (hseen : (b.actors.get card.nodeId).isSome)
    (h : packetSubject b card evidenceRef occurredMs ref eventId = .ok (r,b')) :
    b' = b ∧ ∃ s, b.primarySubject card.nodeId = some (r,s) := by
  obtain ⟨⟨r',s⟩,hs⟩ := hb.primary hseen
  rw [packetSubject,hs] at h
  cases h
  exact ⟨rfl,s,hs⟩

/-- A packet whose evidence is recorded adds no interaction, and changes nothing if its sender
is settled. -/
theorem projectPacket_recorded (hb : Anchored b) (c : PacketCall)
    (hseen : (b.actors.get c.card.nodeId).isSome)
    (hrecorded : Recorded lib b c.card.nodeId c.direction c.packetId) :
    (projectPacket lib b c).2.interactions = b.interactions ∧
      (Settled b c.card.nodeId → (projectPacket lib b c).2 = b) := by
  rcases projectPacket_cases lib b c with ⟨hsame,-⟩ | ⟨subjectRef,b',classified,hsubject,heq⟩
  · rw [hsame]
    exact ⟨rfl,fun _ => rfl⟩
  · obtain ⟨rfl,s,hs⟩ := packetSubject_known hb hseen hsubject
    have hevidence : ∀ i, packetEvidence lib c subjectRef classified = .ok i →
        (b'.interactions.get i.interactionId).isSome := by
      intro i hi
      rw [packetEvidence_ok hi]
      exact hrecorded
    have hkeeps : (acquaintPacket lib b' c subjectRef classified).2.interactions =
        b'.interactions := by
      unfold acquaintPacket
      exact acquaint_interactions hevidence
    rw [heq]
    dsimp only
    refine ⟨hkeeps,fun hsettled => ?_⟩
    have hpublic : ∀ e, b'.relationships.get subjectRef = some e → ¬ (Introducible e ∧ true) :=
      fun e he hlets => hsettled _ _ e hs he hlets.1
    unfold acquaintPacket
    exact acquaint_settled hevidence hpublic

/-- A packet that is projected leaves its evidence recorded and its sender settled. -/
theorem projectPacket_returns (hb : Anchored b) {c : PacketCall} (hnew : b.NewRef c.ref)
    {p : InteractionProjection} (h : (projectPacket lib b c).1 = .ok (some p)) :
    Recorded lib (projectPacket lib b c).2 c.card.nodeId c.direction c.packetId ∧
      ((projectPacket lib b c).2.actors.get c.card.nodeId).isSome ∧
      Settled (projectPacket lib b c).2 c.card.nodeId := by
  rcases projectPacket_cases lib b c with ⟨-,hnone⟩ | ⟨subjectRef,b',classified,hsubject,heq⟩
  · exact absurd h (hnone p)
  · obtain ⟨hobserves,hanchored⟩ := packetSubject_observes hb hnew hsubject
    obtain ⟨s,hs⟩ := hobserves.found
    have hname := hanchored.names subjectRef (primarySubject_active hs).1.isSome
    have hestimates : Estimates b' (acquaintPacket lib b' c subjectRef classified).2 := by
      unfold acquaintPacket
      exact acquaint_estimates
    rw [heq] at h ⊢
    dsimp only at h ⊢
    obtain ⟨q,hq,-⟩ := map_ok.mp h
    have hreturns : (∃ i, packetEvidence lib c subjectRef classified = .ok i ∧
        ((acquaintPacket lib b' c subjectRef classified).2.interactions.get i.interactionId).isSome) ∧
        ∀ e, (acquaintPacket lib b' c subjectRef classified).2.relationships.get subjectRef = some e →
          ¬ (Introducible e ∧ true) := by
      unfold acquaintPacket at hq ⊢
      exact acquaint_returns hname hq
    obtain ⟨⟨i,hi,hrecorded⟩,hsettled⟩ := hreturns
    rw [packetEvidence_ok hi] at hrecorded
    have hseen : ((acquaintPacket lib b' c subjectRef classified).2.actors.get c.card.nodeId).isSome := by
      rw [hestimates.actors]
      exact hobserves.seen
    refine ⟨hrecorded,hseen,fun r s' e hprimary he hintro => ?_⟩
    · rw [primarySubject_congr hestimates.subjects,hs] at hprimary
      cases hprimary
      exact hsettled e he ⟨hintro,rfl⟩

/-- No operation of the book takes an interaction or an Actor away. -/
theorem perform_keeps (decisionId : String → String → String) (call : Call) :
    (∀ k i, b.interactions.get k = some i → (b.perform decisionId call).interactions.get k = some i) ∧
      ∀ x, (b.actors.get x).isSome → ((b.perform decisionId call).actors.get x).isSome := by
  by_cases hcall : b.Separates call
  · have hgrows := perform_grows decisionId hcall
    refine ⟨hgrows.interactions,fun x hx => ?_⟩
    obtain ⟨r,hr⟩ := Option.isSome_iff_exists.mp hx
    obtain ⟨y,hy,-⟩ := hgrows.actors x r hr
    exact Option.isSome_iff_exists.mpr ⟨y,hy⟩
  · cases call with
    | interaction i eventId =>
      apply after_cases (P := fun z => (∀ k i, b.interactions.get k = some i →
        z.interactions.get k = some i) ∧ ∀ x, (b.actors.get x).isSome → (z.actors.get x).isSome)
        ⟨fun _ _ h => h,fun _ h => h⟩
      intro new b' hr
      rcases recordInteraction_cases hr with ⟨rfl,-⟩ | ⟨hnone,event,rfl⟩
      · exact ⟨fun _ _ h => h,fun _ h => h⟩
      · refine ⟨fun k j hj => ?_,fun _ h => h⟩
        have hne : k ≠ i.interactionId := by
          rintro rfl
          rw [hnone] at hj
          cases hj
        exact (Keyed.get_put _ _ _ _).trans ((if_neg hne).trans hj)
    | _ => exact absurd trivial hcall

/-- A call of the book, or a packet. -/
inductive PacketStep (lib : ProjectionLibrary) (decisionId : String → String → String) :
    RelationshipBook → RelationshipBook → Prop
  | call (b : RelationshipBook) (call : Call) (hfresh : b.FreshRefs call) :
      PacketStep lib decisionId b (b.perform decisionId call)
  | packet (b : RelationshipBook) (c : PacketCall) (hnew : b.NewRef c.ref) :
      PacketStep lib decisionId b (projectPacket lib b c).2

variable {decisionId : String → String → String}

theorem Projects.seen (h : Projects a b b') {x : String} (hx : (b.actors.get x).isSome) :
    (b'.actors.get x).isSome := by
  by_cases heq : x = a
  · subst heq
    obtain ⟨r,hr⟩ := Option.isSome_iff_exists.mp hx
    obtain ⟨r',hr',-⟩ := h.kind r hr
    exact Option.isSome_iff_exists.mpr ⟨r',hr'⟩
  · rwa [h.actors x heq]

theorem PacketStep.anchored (h : PacketStep lib decisionId b b') (hb : Anchored b) : Anchored b' := by
  cases h with
  | call call hfresh => exact hb.perform decisionId hfresh
  | packet c hnew => exact (projectPacket_projects hb c hnew).2

/-- What a run keeps of an Actor whose evidence is recorded. -/
structure Seen (lib : ProjectionLibrary) (a direction packetId : String) (b : RelationshipBook) :
    Prop where
  anchored : Anchored b
  actor : (b.actors.get a).isSome
  recorded : Recorded lib b a direction packetId

theorem PacketStep.seen {direction packetId : String} (h : PacketStep lib decisionId b b')
    (hb : Seen lib a direction packetId b) : Seen lib a direction packetId b' := by
  obtain ⟨i,hi⟩ := Option.isSome_iff_exists.mp hb.recorded
  refine ⟨h.anchored hb.anchored,?_,Option.isSome_iff_exists.mpr ⟨i,?_⟩⟩
  · cases h with
    | call call hfresh => exact (perform_keeps decisionId call).2 a hb.actor
    | packet c hnew => exact (projectPacket_projects hb.anchored c hnew).1.seen hb.actor
  · cases h with
    | call call hfresh => exact (perform_keeps decisionId call).1 _ i hi
    | packet c hnew => exact (projectPacket_projects hb.anchored c hnew).1.interactions _ i hi

/-- In every run of operations and packets: a packet changes at most what `Projects` says; a
packet that was projected before records nothing anew, and changes nothing unless its sender's
primary Subject has an active public relationship by then; and the same packet twice in a row
changes nothing the second time. -/
theorem packet_projection_bounded (lib : ProjectionLibrary)
    (decisionId : String → String → String) {b₀ b : RelationshipBook} (h₀ : Anchored b₀)
    (hrun : Reaches (PacketStep lib decisionId) b₀ b) {c : PacketCall} (hnew : b.NewRef c.ref) :
    Projects c.card.nodeId b (projectPacket lib b c).2 ∧
      ∀ p, (projectPacket lib b c).1 = .ok (some p) → ∀ c' : PacketCall,
        c'.card.nodeId = c.card.nodeId → packetRef c'.packetId = packetRef c.packetId →
        c'.direction = c.direction →
        (projectPacket lib (projectPacket lib b c).2 c').2 = (projectPacket lib b c).2 ∧
        ∀ b', Reaches (PacketStep lib decisionId) (projectPacket lib b c).2 b' →
          (projectPacket lib b' c').2.interactions = b'.interactions ∧
          (Settled b' c.card.nodeId → (projectPacket lib b' c').2 = b') := by
  have hb : Anchored b :=
    Reaches.invariant (I := Anchored) (fun _ _ hi hstep => hstep.anchored hi) h₀ hrun
  obtain ⟨hprojects,hanchored⟩ := @projectPacket_projects b lib hb c hnew
  refine ⟨hprojects,fun p hp c' hnode hpacket hdirection => ?_⟩
  obtain ⟨hrecorded,hactor,hsettled⟩ := projectPacket_returns hb hnew hp
  have hseen : Seen lib c.card.nodeId c.direction c.packetId (projectPacket lib b c).2 :=
    ⟨hanchored,hactor,hrecorded⟩
  have hagain : ∀ x, Seen lib c.card.nodeId c.direction c.packetId x →
      Recorded lib x c'.card.nodeId c'.direction c'.packetId := by
    intro x hx
    have hkept := hx.recorded
    unfold Recorded at hkept ⊢
    rwa [hnode,hdirection,hpacket]
  refine ⟨?_,fun b' hlater => ?_⟩
  · exact (projectPacket_recorded hanchored c' (hnode ▸ hactor) (hagain _ hseen)).2
      (hnode ▸ hsettled)
  · have hseen' : Seen lib c.card.nodeId c.direction c.packetId b' :=
      Reaches.invariant (I := Seen lib c.card.nodeId c.direction c.packetId)
        (fun _ _ hi hstep => hstep.seen hi) hseen hlater
    obtain ⟨hinteractions,hsame⟩ := projectPacket_recorded hseen'.anchored c'
      (hnode ▸ hseen'.actor) (hagain _ hseen')
    exact ⟨hinteractions,fun hset => hsame (hnode ▸ hset)⟩

section Sample

private def packetLibrary : ProjectionLibrary := ⟨fun _ => "",fun _ _ evidenceRef => evidenceRef⟩

private def samplePacket : PacketCall :=
  ⟨⟨"an1p","p",.ok ()⟩,"1","chat",.nil,"incoming",1,"subj_a","e1","e2","e3"⟩

private def packetDecisions (x y : String) : String := x ++ y

private def sampleProjected : RelationshipBook :=
  (projectPacket packetLibrary (empty "an1s") samplePacket).2

private def sampleReopened : RelationshipBook :=
  sampleProjected.perform packetDecisions (.circle "subj_a" .publicCircle 50 "op" [] 2 "e4")

private theorem samplePacket_projected :
    (projectPacket packetLibrary (empty "an1s") samplePacket).1 =
      .ok (some ⟨true,"iev_packet:1","subj_a",.known⟩) := by
  decide +kernel

/-- Between two projections of one packet the operator sets the circle back to public, and the
second moves it to known again. -/
theorem packet_projection_moves_again :
    (projectPacket packetLibrary (empty "an1s") samplePacket).1 =
        .ok (some ⟨true,"iev_packet:1","subj_a",.known⟩) ∧
      PacketStep packetLibrary packetDecisions sampleProjected sampleReopened ∧
      (sampleReopened.relationships.get "subj_a").map RelationshipEstimate.circle =
        some .publicCircle ∧
      ((projectPacket packetLibrary sampleReopened samplePacket).2.relationships.get "subj_a").map
        RelationshipEstimate.circle = some .known := by
  have hstep : PacketStep packetLibrary packetDecisions sampleProjected sampleReopened := by
    unfold sampleReopened
    exact .call sampleProjected (.circle "subj_a" .publicCircle 50 "op" [] 2 "e4") trivial
  have hcircles : (sampleReopened.relationships.get "subj_a").map RelationshipEstimate.circle =
        some .publicCircle ∧
      ((projectPacket packetLibrary sampleReopened samplePacket).2.relationships.get "subj_a").map
        RelationshipEstimate.circle = some .known := by
    decide +kernel
  exact ⟨samplePacket_projected,hstep,hcircles⟩

theorem packet_projection_bounded_sample :
    Projects samplePacket.card.nodeId (empty "an1s") sampleProjected ∧
      (projectPacket packetLibrary sampleProjected samplePacket).2 = sampleProjected := by
  have hnew : (empty "an1s").NewRef samplePacket.ref := ⟨by decide,by simp [empty]⟩
  have hbounded := packet_projection_bounded packetLibrary packetDecisions (anchored_empty "an1s")
    .refl hnew
  unfold sampleProjected
  exact ⟨hbounded.1,(hbounded.2 _ samplePacket_projected samplePacket rfl rfl rfl).1⟩

end Sample

end Anet.Relations
