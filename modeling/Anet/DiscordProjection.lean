import Anet.DiscordSignals
import Anet.RelationshipProjection

/-! Evidence of Discord accounts in the relationship book: what the node saw itself and what a bridge
attests is recorded once for an opaque Actor, and a mention or a reply makes a public relationship
known. -/
namespace Anet.Relations

open RelationshipBook DiscordSignals

/-- The digest of a platform account, and what every projection takes. -/
structure DiscordLibrary extends ProjectionLibrary where
  actorDigest : String → String → String → String

/-- `platform_actor_id`, for the platform discord. -/
def platformActorId (lib : DiscordLibrary) (namespaceActorId actorKey : String) : Result String := do
  raiseIf (¬ isActorId (strip namespaceActorId)) (.value "invalid Actor ID")
  let localKey := lower (strip actorKey)
  raiseIf (¬ (32 ≤ localKey.toList.length ∧ localKey.toList.length ≤ 128 ∧
    localKey.toList.all isHexDigit)) (.value "invalid platform Actor pseudonym")
  return "act_discord_" ++ lib.actorDigest "discord" (strip namespaceActorId) localKey

/-- What `_project` is given. -/
structure Sighting where
  namespaceActorId : String
  actorKey : String
  createdMs : ℤ
  evidenceRef : String
  labels : List String
  proofType : String
  proofScope : ProofScope

/-- What a projection draws at random. -/
structure Draws where
  ref : String
  observedEventId : String
  recordedEventId : String
  circleEventId : String

structure DiscordActorProjection where
  actorId : String
  subjectRef : String
  proofScope : ProofScope
  recorded : Bool
  circle : Circle
  deriving DecidableEq

/-- The observation of the account, with the checks of `ActorProof` and `ActorObservation`. -/
def discordObservation (x : Sighting) (actorId : String) : Result ActorObservation := do
  raiseIf (¬ isActorId (strip x.namespaceActorId)) (.value "invalid Actor ID")
  let _ ← boundedText "Actor proof evidence reference" maxEvidenceLength x.evidenceRef
  raiseIf (x.createdMs ≤ 0) (.value "invalid Actor proof time")
  raiseIf (¬ isActorId (strip actorId)) (.value "invalid Actor ID")
  return ⟨actorId,"account.discord",
    "Discord account · " ++ String.ofList (actorId.toList.drop (actorId.toList.length - 6)),
    ⟨x.proofType,x.proofScope,x.namespaceActorId,x.evidenceRef,x.createdMs⟩⟩

def discordEvidence (lib : DiscordLibrary) (x : Sighting) (actorId subjectRef : String) :
    Result InteractionEvidence :=
  createEvidence lib.toProjectionLibrary actorId subjectRef "incoming"
    (if "content:attachment" ∈ x.labels then ["message","artifact"] else ["message"])
    "social.discord" "received" x.evidenceRef x.createdMs

/-- `{"interaction:mention", "interaction:reply"}.intersection(labels)` -/
def Directed (labels : List String) : Prop :=
  "interaction:mention" ∈ labels ∨ "interaction:reply" ∈ labels

instance (labels : List String) : Decidable (Directed labels) := by
  unfold Directed
  infer_instance

def acquaintAccount (lib : DiscordLibrary) (b : RelationshipBook) (x : Sighting) (d : Draws)
    (actorId subjectRef : String) : Result InteractionProjection × RelationshipBook :=
  acquaint b subjectRef (discordEvidence lib x actorId subjectRef) (Directed x.labels)
    "Discord Actor Subject has no relationship estimate" x.evidenceRef
    ["interaction:directed","platform:discord"] x.createdMs d.recordedEventId d.circleEventId

/-- `_project`: what it returns or raises, and the book after it. -/
def project (lib : DiscordLibrary) (b : RelationshipBook) (x : Sighting) (d : Draws) :
    Result DiscordActorProjection × RelationshipBook :=
  match platformActorId lib x.namespaceActorId x.actorKey with
  | .error e => (.error e,b)
  | .ok actorId =>
    match discordObservation x actorId >>= fun o =>
        b.observeTypedActor o 50 x.createdMs d.ref d.observedEventId with
    | .error e => (.error e,b)
    | .ok (subjectRef,b') =>
      let acquainted := acquaintAccount lib b' x d actorId subjectRef
      (acquainted.1.map fun p => ⟨actorId,subjectRef,x.proofScope,p.recorded,p.circle⟩,acquainted.2)

/-- The fields of a stored event that the projector reads. -/
structure LocalEvent where
  actorKey : String
  createdMs : ℤ
  eventKey : String
  eventLabels : List String

def LocalEvent.sighting (e : LocalEvent) (ownActorId : String) : Sighting :=
  ⟨ownActorId,e.actorKey,e.createdMs,"discord-event:" ++ e.eventKey,e.eventLabels,"discord.rest.v10",
    .platformObserved⟩

/-- `project_local_event`. -/
def projectLocalEvent (lib : DiscordLibrary) (b : RelationshipBook) (e : LocalEvent) (d : Draws) :
    Result DiscordActorProjection × RelationshipBook :=
  project lib b (e.sighting b.ownActorId) d

def signalSighting (bridge : Card) (signal : DiscordSignal) : Sighting :=
  ⟨bridge.nodeId,signal.actorKey,signal.createdMs,"discord-signal:" ++ signal.sourceEventId,
    signal.labels,"discord.signal.v1",.bridgeAttested⟩

/-- The signal as it is projected. -/
def admitted (b : RelationshipBook) (bridge : Card) (signal : DiscordSignal) :
    Result DiscordSignal := do
  bridge.verify
  let normalized ← validateDiscordSignal signal
  let _ ← fetched (b.primarySubject bridge.nodeId)
    (.value "Discord signal bridge Actor is not observed")
  return normalized

/-- `project_signal`. -/
def projectSignal (lib : DiscordLibrary) (b : RelationshipBook) (bridge : Card)
    (signal : DiscordSignal) (d : Draws) : Result DiscordActorProjection × RelationshipBook :=
  match admitted b bridge signal with
  | .error e => (.error e,b)
  | .ok normalized => project lib b (signalSighting bridge normalized) d

/-- A call of the projector, with what it draws at random. -/
inductive DiscordCall
  | event (e : LocalEvent) (d : Draws)
  | signal (bridge : Card) (signal : DiscordSignal) (d : Draws)

namespace DiscordCall

def draws : DiscordCall → Draws
  | event _ d => d
  | signal _ _ d => d

/-- What the call gives to `_project`. -/
def sighting (b : RelationshipBook) : DiscordCall → Result Sighting
  | event e _ => .ok (e.sighting b.ownActorId)
  | signal bridge s _ => (admitted b bridge s).map (signalSighting bridge)

def run (lib : DiscordLibrary) (b : RelationshipBook) : DiscordCall →
    Result DiscordActorProjection × RelationshipBook
  | event e d => projectLocalEvent lib b e d
  | signal bridge s d => projectSignal lib b bridge s d

/-- The calls that are about one event of an account. -/
def SameAs : DiscordCall → DiscordCall → Prop
  | event e _,event e' _ => e.actorKey = e'.actorKey ∧ e.eventKey = e'.eventKey
  | signal bridge s _,signal bridge' s' _ => bridge.nodeId = bridge'.nodeId ∧
      lower (strip s.actorKey) = lower (strip s'.actorKey) ∧
      lower (strip s.sourceEventId) = lower (strip s'.sourceEventId)
  | _,_ => False

end DiscordCall

variable {lib : DiscordLibrary} {b b' : RelationshipBook} {x : Sighting} {d : Draws}

/-- The Actor that stands for an account. -/
def accountId (lib : DiscordLibrary) (x : Sighting) : String :=
  "act_discord_" ++ lib.actorDigest "discord" (strip x.namespaceActorId) (lower (strip x.actorKey))

/-- The id under which a sighting is recorded. -/
def sightingId (lib : DiscordLibrary) (x : Sighting) : String :=
  "iev_" ++ lib.interactionId (accountId lib x) "incoming" x.evidenceRef

theorem platformActorId_ok {namespaceActorId actorKey actorId : String}
    (h : platformActorId lib namespaceActorId actorKey = .ok actorId) :
    actorId = "act_discord_" ++
      lib.actorDigest "discord" (strip namespaceActorId) (lower (strip actorKey)) := by
  simp only [platformActorId,bind_ok] at h
  obtain ⟨-,-,-,-,h⟩ := h
  exact (Except.ok.inj h).symm

theorem discordObservation_ok {actorId : String} {o : ActorObservation}
    (h : discordObservation x actorId = .ok o) :
    o.actorId = actorId ∧ o.actorKind = "account.discord" := by
  simp only [discordObservation,bind_ok] at h
  obtain ⟨-,-,-,-,-,-,-,-,h⟩ := h
  cases h
  exact ⟨rfl,rfl⟩

/-- A sighting is refused, or its account is observed and acquainted. -/
theorem project_cases (lib : DiscordLibrary) (b : RelationshipBook) (x : Sighting) (d : Draws) :
    ((project lib b x d).2 = b ∧ ∀ p, (project lib b x d).1 ≠ .ok p) ∨
      ∃ o subjectRef b', o.actorId = accountId lib x ∧ o.actorKind = "account.discord" ∧
        b.observeTypedActor o 50 x.createdMs d.ref d.observedEventId = .ok (subjectRef,b') ∧
        project lib b x d = ((acquaintAccount lib b' x d (accountId lib x) subjectRef).1.map
            fun p => ⟨accountId lib x,subjectRef,x.proofScope,p.recorded,p.circle⟩,
          (acquaintAccount lib b' x d (accountId lib x) subjectRef).2) := by
  unfold project
  cases hactor : platformActorId lib x.namespaceActorId x.actorKey with
  | error e =>
    left
    simp
  | ok actorId =>
    have hid : actorId = accountId lib x := platformActorId_ok hactor
    dsimp only
    cases hobserved : (discordObservation x actorId >>= fun o =>
        b.observeTypedActor o 50 x.createdMs d.ref d.observedEventId) with
    | error e =>
      left
      simp
    | ok r =>
      obtain ⟨o,ho,hobserve⟩ := bind_ok.mp hobserved
      obtain ⟨hsame,hkind⟩ := discordObservation_ok ho
      subst hid
      exact .inr ⟨o,r.1,r.2,hsame,hkind,hobserve,rfl⟩

/-- A known Actor that is observed again keeps its Subjects and relationships. -/
theorem observeTypedActor_known {o : ActorObservation} {confidence now : ℤ}
    {ref eventId r : String} (hseen : (b.actors.get o.actorId).isSome)
    (h : b.observeTypedActor o confidence now ref eventId = .ok (r,b')) :
    b'.subjects = b.subjects ∧ b'.relationships = b.relationships ∧
      b'.interactions = b.interactions ∧ ∃ s, b.primarySubject o.actorId = some (r,s) := by
  simp only [observeTypedActor,bind_ok,raiseIf_ok] at h
  obtain ⟨-,-,-,-,c,-,t,-,-,-,h⟩ := h
  split at h
  · next hnone =>
    rw [hnone] at hseen
    cases hseen
  · simp only [bind_ok,raiseIf_ok] at h
    obtain ⟨-,-,h⟩ := h
    split at h
    · simp only [bind_ok,fetched_ok] at h
      obtain ⟨subject,hsubject,h⟩ := h
      cases h
      exact ⟨rfl,rfl,rfl,_,hsubject⟩
    · simp only [bind_ok,fetched_ok] at h
      obtain ⟨refs,-,-,-,subject,hsubject,h⟩ := h
      cases h
      exact ⟨rfl,rfl,rfl,_,hsubject⟩

/-- An Actor keeps its kind. -/
theorem observeTypedActor_kind {o : ActorObservation} {confidence now : ℤ}
    {ref eventId r : String} {actor : ActorRecord} (hactor : b.actors.get o.actorId = some actor)
    (h : b.observeTypedActor o confidence now ref eventId = .ok (r,b')) :
    actor.actorKind = o.actorKind := by
  simp only [observeTypedActor,bind_ok,raiseIf_ok] at h
  obtain ⟨-,-,-,-,c,-,t,-,-,-,h⟩ := h
  split at h
  · next hnone =>
    rw [hnone] at hactor
    cases hactor
  · next known hknown =>
    cases hactor.symm.trans hknown
    simp only [bind_ok,raiseIf_ok,not_not] at h
    obtain ⟨-,hkind,-⟩ := h
    simpa using hkind

theorem project_projects (hb : Anchored b) (x : Sighting) (hnew : b.NewRef d.ref) :
    Projects (accountId lib x) b (project lib b x d).2 ∧ Anchored (project lib b x d).2 := by
  rcases project_cases lib b x d with ⟨hsame,-⟩ | ⟨o,subjectRef,b',hid,-,hobserve,heq⟩
  · rw [hsame]
    exact ⟨.refl _ b,hb⟩
  · have hobserves := observeTypedActor_observes hb hnew hobserve
    have hanchored := hb.observe hnew hobserve
    obtain ⟨s,hs⟩ := hobserves.found
    have hname := hanchored.names subjectRef (primarySubject_active hs).1.isSome
    rw [heq,← hid]
    dsimp only
    unfold acquaintAccount
    exact ⟨hobserves.acquaint hname,hanchored.estimates acquaint_estimates⟩

/-- An Actor of another kind is left alone, whatever its id. -/
theorem project_kind (hb : Anchored b) (x : Sighting) (hnew : b.NewRef d.ref) {a : String}
    {actor : ActorRecord} (hactor : b.actors.get a = some actor)
    (hkind : actor.actorKind ≠ "account.discord") :
    (project lib b x d).2.actors.get a = some actor := by
  by_cases heq : a = accountId lib x
  · subst heq
    rcases project_cases lib b x d with ⟨hsame,-⟩ | ⟨o,subjectRef,b',hid,hdiscord,hobserve,-⟩
    · rw [hsame,hactor]
    · rw [← hid] at hactor
      exact absurd ((observeTypedActor_kind hactor hobserve).trans hdiscord) hkind
  · rw [(project_projects hb x hnew).1.actors a heq,hactor]

theorem discordEvidence_ok {actorId subjectRef : String} {i : InteractionEvidence}
    (h : discordEvidence lib x actorId subjectRef = .ok i) :
    i.interactionId = "iev_" ++ lib.interactionId actorId "incoming" x.evidenceRef :=
  createEvidence_ok h

/-- A sighting that is recorded adds no interaction, and changes no relationship if it is not
directed or its account is settled. -/
theorem project_recorded (x : Sighting) (hseen : (b.actors.get (accountId lib x)).isSome)
    (hrecorded : (b.interactions.get (sightingId lib x)).isSome) :
    (project lib b x d).2.interactions = b.interactions ∧
      ((Directed x.labels → Settled b (accountId lib x)) →
        (project lib b x d).2.relationships = b.relationships) := by
  rcases project_cases lib b x d with ⟨hsame,-⟩ | ⟨o,subjectRef,b',hid,-,hobserve,heq⟩
  · rw [hsame]
    exact ⟨rfl,fun _ => rfl⟩
  · obtain ⟨-,hrelationships,hinteractions,s,hs⟩ := observeTypedActor_known (hid ▸ hseen) hobserve
    have hevidence : ∀ i, discordEvidence lib x (accountId lib x) subjectRef = .ok i →
        (b'.interactions.get i.interactionId).isSome := by
      intro i hi
      rw [discordEvidence_ok hi,hinteractions]
      exact hrecorded
    rw [heq]
    dsimp only
    unfold acquaintAccount
    refine ⟨(acquaint_interactions hevidence).trans hinteractions,fun hsettled => ?_⟩
    rw [acquaint_settled hevidence,hrelationships]
    rintro e he ⟨hintro,hdirected⟩
    rw [hid] at hs
    rw [hrelationships] at he
    exact hsettled (by simpa using hdirected) _ _ e hs he hintro

/-- A sighting that is projected leaves its evidence recorded, and its account settled if it was
directed. -/
theorem project_returns (hb : Anchored b) (hnew : b.NewRef d.ref) {p : DiscordActorProjection}
    (h : (project lib b x d).1 = .ok p) :
    ((project lib b x d).2.interactions.get (sightingId lib x)).isSome ∧
      ((project lib b x d).2.actors.get (accountId lib x)).isSome ∧
      (Directed x.labels → Settled (project lib b x d).2 (accountId lib x)) := by
  rcases project_cases lib b x d with ⟨-,hnone⟩ | ⟨o,subjectRef,b',hid,-,hobserve,heq⟩
  · exact absurd h (hnone p)
  · have hobserves := observeTypedActor_observes hb hnew hobserve
    obtain ⟨s,hs⟩ := hobserves.found
    have hname := (hb.observe hnew hobserve).names subjectRef (primarySubject_active hs).1.isSome
    have hestimates : Estimates b' (acquaintAccount lib b' x d (accountId lib x) subjectRef).2 := by
      unfold acquaintAccount
      exact acquaint_estimates
    rw [heq] at h ⊢
    dsimp only at h ⊢
    obtain ⟨q,hq,-⟩ := map_ok.mp h
    have hreturns : (∃ i, discordEvidence lib x (accountId lib x) subjectRef = .ok i ∧
        ((acquaintAccount lib b' x d (accountId lib x) subjectRef).2.interactions.get
          i.interactionId).isSome) ∧
        ∀ e, (acquaintAccount lib b' x d (accountId lib x) subjectRef).2.relationships.get subjectRef =
          some e → ¬ (Introducible e ∧ decide (Directed x.labels) = true) := by
      unfold acquaintAccount at hq ⊢
      exact acquaint_returns hname hq
    obtain ⟨⟨i,hi,hrecorded⟩,hsettled⟩ := hreturns
    rw [discordEvidence_ok hi] at hrecorded
    refine ⟨hrecorded,?_,fun hdirected r s' e hprimary he hintro => ?_⟩
    · rw [hestimates.actors,← hid]
      exact hobserves.seen
    · rw [primarySubject_congr hestimates.subjects,← hid,hs] at hprimary
      cases hprimary
      exact hsettled e he ⟨hintro,by simpa using hdirected⟩

/-- A call is refused, or its sighting is projected. -/
theorem DiscordCall.run_cases (lib : DiscordLibrary) (b : RelationshipBook) (c : DiscordCall) :
    (∃ e, c.sighting b = .error e ∧ c.run lib b = (.error e,b)) ∨
      ∃ x, c.sighting b = .ok x ∧ c.run lib b = project lib b x c.draws := by
  cases c with
  | event e d => exact .inr ⟨_,rfl,rfl⟩
  | signal bridge signal d =>
    cases hadmitted : admitted b bridge signal with
    | error e =>
      left
      simp only [sighting,run,projectSignal,hadmitted]
      exact ⟨e,rfl,rfl⟩
    | ok normalized =>
      right
      simp only [sighting,run,projectSignal,hadmitted]
      exact ⟨_,rfl,rfl⟩

/-- What a call may change, with the Actors of other kinds. -/
structure Contained (lib : DiscordLibrary) (b : RelationshipBook) (c : DiscordCall) : Prop where
  projects : (c.run lib b).2 = b ∨
    ∃ x, c.sighting b = .ok x ∧ Projects (accountId lib x) b (c.run lib b).2
  kinds : ∀ a actor, b.actors.get a = some actor → actor.actorKind ≠ "account.discord" →
    (c.run lib b).2.actors.get a = some actor

theorem contained (hb : Anchored b) {c : DiscordCall} (hnew : b.NewRef c.draws.ref) :
    Contained lib b c := by
  rcases c.run_cases lib b with ⟨e,-,hrun⟩ | ⟨x,hx,hrun⟩
  · refine ⟨.inl ?_,fun a actor hactor _ => ?_⟩
    · rw [hrun]
    · rw [hrun]
      exact hactor
  · refine ⟨.inr ⟨x,hx,?_⟩,fun a actor hactor hkind => ?_⟩
    · rw [hrun]
      exact (project_projects hb x hnew).1
    · rw [hrun]
      exact project_kind hb x hnew hactor hkind

/-- A call of the book, or of the projector. -/
inductive DiscordStep (lib : DiscordLibrary) (decisionId : String → String → String) :
    RelationshipBook → RelationshipBook → Prop
  | call (b : RelationshipBook) (call : Call) (hfresh : b.FreshRefs call) :
      DiscordStep lib decisionId b (b.perform decisionId call)
  | project (b : RelationshipBook) (c : DiscordCall) (hnew : b.NewRef c.draws.ref) :
      DiscordStep lib decisionId b (c.run lib b).2

variable {decisionId : String → String → String}

theorem perform_own (decisionId : String → String → String) (b : RelationshipBook) (call : Call) :
    (b.perform decisionId call).ownActorId = b.ownActorId := by
  by_cases hcall : b.Separates call
  · exact (perform_grows decisionId hcall).own
  · cases call with
    | interaction i eventId =>
      apply after_cases (P := fun z => z.ownActorId = b.ownActorId) rfl
      intro new b' hr
      rcases recordInteraction_cases hr with ⟨rfl,-⟩ | ⟨-,event,rfl⟩
      · rfl
      · rfl
    | _ => exact absurd trivial hcall

/-- What a run keeps of an account that was projected. -/
structure Known (own account id : String) (b : RelationshipBook) : Prop where
  anchored : Anchored b
  own : b.ownActorId = own
  actor : (b.actors.get account).isSome
  recorded : (b.interactions.get id).isSome

theorem Projects.known {a own account id : String} (h : Projects a b b') (hb' : Anchored b')
    (hb : Known own account id b) : Known own account id b' := by
  obtain ⟨i,hi⟩ := Option.isSome_iff_exists.mp hb.recorded
  exact ⟨hb',h.own.trans hb.own,h.seen hb.actor,
    Option.isSome_iff_exists.mpr ⟨i,h.interactions _ i hi⟩⟩

theorem run_anchored (hb : Anchored b) {c : DiscordCall} (hnew : b.NewRef c.draws.ref) :
    Anchored (c.run lib b).2 := by
  rcases c.run_cases lib b with ⟨e,-,hrun⟩ | ⟨x,-,hrun⟩
  · rw [hrun]
    exact hb
  · rw [hrun]
    exact (project_projects hb x hnew).2

theorem DiscordStep.anchored (h : DiscordStep lib decisionId b b') (hb : Anchored b) :
    Anchored b' := by
  cases h with
  | call call hfresh => exact hb.perform decisionId hfresh
  | project c hnew => exact run_anchored hb hnew

theorem DiscordStep.known {own account id : String} (h : DiscordStep lib decisionId b b')
    (hb : Known own account id b) : Known own account id b' := by
  have hanchored := h.anchored hb.anchored
  cases h with
  | call call hfresh =>
    obtain ⟨hinteractions,hactors⟩ := perform_keeps decisionId call
    obtain ⟨i,hi⟩ := Option.isSome_iff_exists.mp hb.recorded
    exact ⟨hanchored,(perform_own decisionId b call).trans hb.own,hactors _ hb.actor,
      Option.isSome_iff_exists.mpr ⟨i,hinteractions _ i hi⟩⟩
  | project c hnew =>
    have hcontained : Contained lib b _ := contained hb.anchored hnew
    rcases hcontained.projects with hsame | ⟨x,-,hprojects⟩
    · rw [hsame]
      exact hb
    · exact hprojects.known hanchored hb

theorem normalHex_ok {label value text : String} {length : ℕ} (h : normalHex label length value = .ok text) :
    text = lower (strip value) := by
  simp only [normalHex,bind_ok] at h
  obtain ⟨-,-,h⟩ := h
  exact (Except.ok.inj h).symm

/-- What a valid signal is projected as. -/
theorem validateDiscordSignal_fields {signal normalized : DiscordSignal}
    (h : validateDiscordSignal signal = .ok normalized) :
    normalized.actorKey = lower (strip signal.actorKey) ∧
      normalized.sourceEventId = lower (strip signal.sourceEventId) := by
  unfold validateDiscordSignal at h
  iterate 2 obtain ⟨_,-,h⟩ := bind_ok.mp h
  obtain ⟨signalId,-,h⟩ := bind_ok.mp h
  obtain ⟨sourceEventId,hsource,h⟩ := bind_ok.mp h
  obtain ⟨actorKey,hactor,h⟩ := bind_ok.mp h
  -- the checks of the other fields
  iterate 21 obtain ⟨_,-,h⟩ := bind_ok.mp h
  cases h
  exact ⟨normalHex_ok hactor,normalHex_ok hsource⟩

/-- Calls about one event of an account have one account and one id. -/
theorem DiscordCall.SameAs.sightings {c c' : DiscordCall} (h : c'.SameAs c)
    (hown : b'.ownActorId = b.ownActorId) {x x' : Sighting} (hx : c.sighting b = .ok x)
    (hx' : c'.sighting b' = .ok x') :
    accountId lib x' = accountId lib x ∧ sightingId lib x' = sightingId lib x := by
  cases c with
  | event e d =>
    cases c' with
    | signal bridge signal d' => exact h.elim
    | event e' d' =>
      obtain ⟨hkey,hevent⟩ := h
      obtain rfl : e.sighting b.ownActorId = x := Except.ok.inj hx
      obtain rfl : e'.sighting b'.ownActorId = x' := Except.ok.inj hx'
      have haccount : accountId lib (e'.sighting b'.ownActorId) =
          accountId lib (e.sighting b.ownActorId) := by
        simp only [accountId,LocalEvent.sighting,hown,hkey]
      refine ⟨haccount,?_⟩
      unfold sightingId
      rw [haccount]
      simp only [LocalEvent.sighting,hevent]
  | signal bridge signal d =>
    cases c' with
    | event e' d' => exact h.elim
    | signal bridge' signal' d' =>
      obtain ⟨hbridge,hkey,hsource⟩ := h
      obtain ⟨n,hn,rfl⟩ := map_ok.mp hx
      obtain ⟨n',hn',rfl⟩ := map_ok.mp hx'
      simp only [admitted,bind_ok] at hn hn'
      obtain ⟨-,-,m,hm,-,-,hn⟩ := hn
      obtain ⟨-,-,m',hm',-,-,hn'⟩ := hn'
      rw [Except.ok.inj hn] at hm
      rw [Except.ok.inj hn'] at hm'
      obtain ⟨hactor,hevent⟩ := validateDiscordSignal_fields hm
      obtain ⟨hactor',hevent'⟩ := validateDiscordSignal_fields hm'
      have haccount : accountId lib (signalSighting bridge' n') =
          accountId lib (signalSighting bridge n) := by
        simp only [accountId,signalSighting,hactor,hactor',hbridge,hkey]
      refine ⟨haccount,?_⟩
      unfold sightingId
      rw [haccount]
      simp only [signalSighting,hevent,hevent',hsource]

/-- The digests tell two signals apart, as they do unless two of their inputs collide. -/
structure Apart (lib : DiscordLibrary) (x x' : Sighting) : Prop where
  actors : lib.actorDigest "discord" (strip x.namespaceActorId) (lower (strip x.actorKey)) =
      lib.actorDigest "discord" (strip x'.namespaceActorId) (lower (strip x'.actorKey)) →
    strip x.namespaceActorId = strip x'.namespaceActorId
  interactions : lib.interactionId (accountId lib x) "incoming" x.evidenceRef =
      lib.interactionId (accountId lib x') "incoming" x'.evidenceRef →
    accountId lib x = accountId lib x' ∧ x.evidenceRef = x'.evidenceRef

theorem prefix_inj {p s t : String} (h : p ++ s = p ++ t) : s = t := by
  rw [String.ext_iff] at h ⊢
  simpa [String.toList_append] using h

/-- Signals of two bridges, or of two events, have two ids. -/
theorem sightingId_ne {bridge bridge' : Card} {n n' : DiscordSignal}
    (hbridge : strip bridge.nodeId = bridge.nodeId) (hbridge' : strip bridge'.nodeId = bridge'.nodeId)
    (hapart : Apart lib (signalSighting bridge n) (signalSighting bridge' n'))
    (hne : (bridge.nodeId,n.sourceEventId) ≠ (bridge'.nodeId,n'.sourceEventId)) :
    sightingId lib (signalSighting bridge n) ≠ sightingId lib (signalSighting bridge' n') := by
  intro hsame
  obtain ⟨haccount,hevidence⟩ := hapart.interactions (prefix_inj hsame)
  have hnamespace := hapart.actors (prefix_inj haccount)
  have hsource : n.sourceEventId = n'.sourceEventId := prefix_inj hevidence
  have hnode : bridge.nodeId = bridge'.nodeId := by
    rw [← hbridge,← hbridge']
    exact hnamespace
  exact hne (by rw [hnode,hsource])

/-- In every run of operations and projections: a projection changes at most what `Contained` says;
an event or signal that was projected before adds no interaction, and changes no relationship unless
it is directed and its account's primary Subject has an active public relationship by then, which is
not so right after a directed projection; and signals of two bridges or events have two ids. -/
theorem discord_evidence_contained (lib : DiscordLibrary)
    (decisionId : String → String → String) {b₀ b : RelationshipBook} (h₀ : Anchored b₀)
    (hrun : Reaches (DiscordStep lib decisionId) b₀ b) {c : DiscordCall}
    (hnew : b.NewRef c.draws.ref) :
    Contained lib b c ∧
      (∀ p, (c.run lib b).1 = .ok p → ∃ x, c.sighting b = .ok x ∧
        ((c.run lib b).2.interactions.get (sightingId lib x)).isSome ∧
        (Directed x.labels → Settled (c.run lib b).2 (accountId lib x)) ∧
        ∀ b', Reaches (DiscordStep lib decisionId) (c.run lib b).2 b' → ∀ c' : DiscordCall, c'.SameAs c →
          (c'.run lib b').2.interactions = b'.interactions ∧
          ∀ x', c'.sighting b' = .ok x' →
            (Directed x'.labels → Settled b' (accountId lib x)) →
            (c'.run lib b').2.relationships = b'.relationships) ∧
      ∀ (bridge bridge' : Card) (n n' : DiscordSignal), strip bridge.nodeId = bridge.nodeId →
        strip bridge'.nodeId = bridge'.nodeId →
        Apart lib (signalSighting bridge n) (signalSighting bridge' n') →
        (bridge.nodeId,n.sourceEventId) ≠ (bridge'.nodeId,n'.sourceEventId) →
        sightingId lib (signalSighting bridge n) ≠ sightingId lib (signalSighting bridge' n') := by
  have hb : Anchored b :=
    Reaches.invariant (I := Anchored) (fun _ _ hi hstep => hstep.anchored hi) h₀ hrun
  refine ⟨contained hb hnew,fun p hp => ?_,
    fun _ _ _ _ hbridge hbridge' hapart hne => sightingId_ne hbridge hbridge' hapart hne⟩
  rcases c.run_cases lib b with ⟨e,-,hrefused⟩ | ⟨x,hx,hproject⟩
  · rw [hrefused] at hp
    cases hp
  rw [hproject] at hp ⊢
  have hprojected : Projects (accountId lib x) b (project lib b x c.draws).2 ∧
      Anchored (project lib b x c.draws).2 := project_projects hb x hnew
  obtain ⟨hprojects,hanchored⟩ := hprojected
  obtain ⟨hrecorded,hactor,hsettled⟩ := project_returns hb hnew hp
  have hknown : Known b.ownActorId (accountId lib x) (sightingId lib x)
      (project lib b x c.draws).2 := ⟨hanchored,hprojects.own,hactor,hrecorded⟩
  refine ⟨x,hx,hrecorded,hsettled,fun b' hlater c' hsame => ?_⟩
  have hknown' : Known b.ownActorId (accountId lib x) (sightingId lib x) b' :=
    Reaches.invariant (I := Known b.ownActorId (accountId lib x) (sightingId lib x))
      (fun _ _ hi hstep => hstep.known hi) hknown hlater
  rcases c'.run_cases lib b' with ⟨e,herror,hrefused⟩ | ⟨x',hx',hproject'⟩
  · rw [hrefused]
    refine ⟨rfl,fun x' hx' => ?_⟩
    rw [herror] at hx'
    cases hx'
  · have hids : accountId lib x' = accountId lib x ∧ sightingId lib x' = sightingId lib x :=
      hsame.sightings hknown'.own hx hx'
    obtain ⟨haccount,hid⟩ := hids
    have hactor' : (b'.actors.get (accountId lib x')).isSome := haccount ▸ hknown'.actor
    have hrecorded' : (b'.interactions.get (sightingId lib x')).isSome := hid ▸ hknown'.recorded
    rw [hproject']
    obtain ⟨hinteractions,hrelationships⟩ := project_recorded x' hactor' hrecorded'
    refine ⟨hinteractions,fun y hy hlets => hrelationships ?_⟩
    obtain rfl : x' = y := Except.ok.inj (hx'.symm.trans hy)
    rwa [haccount]

section Sample

private def discordLibrary : DiscordLibrary where
  str _ := ""
  interactionId _ _ evidenceRef := evidenceRef
  actorDigest _ _ _ := "00000000000000000000000000000000"

private def sampleCall : DiscordCall :=
  .event ⟨"00000000000000000000000000000000",1,"k",["interaction:mention"]⟩
    ⟨"subj_a","e1","e2","e3"⟩

private def discordDecisions (x y : String) : String := x ++ y

private def sampleSeen : RelationshipBook := (sampleCall.run discordLibrary (empty "an1s")).2

private def samplePublished : RelationshipBook :=
  sampleSeen.perform discordDecisions (.circle "subj_a" .publicCircle 50 "op" [] 2 "e4")

private theorem sampleCall_projected : (sampleCall.run discordLibrary (empty "an1s")).1 =
    .ok ⟨"act_discord_00000000000000000000000000000000","subj_a",.platformObserved,true,.known⟩ := by
  decide +kernel

/-- The operator sets the circle of an account back to public, which is no operation on its Subject,
and the same event moves it to known again. -/
theorem discord_event_moves_again :
    (sampleCall.run discordLibrary (empty "an1s")).1 = .ok
        ⟨"act_discord_00000000000000000000000000000000","subj_a",.platformObserved,true,.known⟩ ∧
      DiscordStep discordLibrary discordDecisions sampleSeen samplePublished ∧
      samplePublished.subjects = sampleSeen.subjects ∧
      (samplePublished.relationships.get "subj_a").map RelationshipEstimate.circle =
        some .publicCircle ∧
      ((sampleCall.run discordLibrary samplePublished).2.relationships.get "subj_a").map
        RelationshipEstimate.circle = some .known := by
  have hstep : DiscordStep discordLibrary discordDecisions sampleSeen samplePublished := by
    unfold samplePublished
    exact .call sampleSeen (.circle "subj_a" .publicCircle 50 "op" [] 2 "e4") trivial
  have hsubjects (b : RelationshipBook) : (b.perform discordDecisions
      (.circle "subj_a" .publicCircle 50 "op" [] 2 "e4")).subjects = b.subjects :=
    after_cases (P := fun z => z.subjects = b.subjects) rfl
      fun _ _ h => (setCircle_estimates h).subjects
  have hcircles : (samplePublished.relationships.get "subj_a").map RelationshipEstimate.circle =
        some .publicCircle ∧
      ((sampleCall.run discordLibrary samplePublished).2.relationships.get "subj_a").map
        RelationshipEstimate.circle = some .known := by
    decide +kernel
  exact ⟨sampleCall_projected,hstep,hsubjects sampleSeen,hcircles⟩

theorem discord_evidence_contained_sample :
    Contained discordLibrary (empty "an1s") sampleCall ∧
      (sampleCall.run discordLibrary sampleSeen).2.interactions = sampleSeen.interactions := by
  have hnew : (empty "an1s").NewRef sampleCall.draws.ref := ⟨by decide,by simp [empty]⟩
  have hcontained := discord_evidence_contained discordLibrary discordDecisions
    (anchored_empty "an1s") .refl hnew
  obtain ⟨x,-,-,-,hagain⟩ := hcontained.2.1 _ sampleCall_projected
  exact ⟨hcontained.1,(hagain sampleSeen .refl sampleCall ⟨rfl,rfl⟩).1⟩

end Sample

end Anet.Relations
