import Anet.RelationshipSteps

/-! Runs of the operations of a relationship book: the lineage of its Subjects is kept, as long as
no superseded Subject is given a circle. -/
namespace Anet.Relations

namespace RelationshipBook

variable {b b' : RelationshipBook}

/-- The Subject references that a call draws are new. -/
def FreshRefs (b : RelationshipBook) : Call → Prop
  | .observe _ _ _ ref _ | .observeCard _ _ _ _ ref _ | .friend _ _ _ ref _ _
  | .mutualClaim _ _ _ _ _ ref _ _ | .withdrawal _ _ _ _ _ ref _ _ => b.NewRef ref
  | .supersede _ x | .merge _ _ x | .split _ _ _ x => x.Fresh b
  | _ => True

/-- The condition on a call: `set_circle` is not called for a superseded Subject. -/
def Meets (b : RelationshipBook) : Call → Prop
  | .circle subjectRef .. => b.CurrentSubject subjectRef
  | _ => True

/-- An operation that edits the book once. -/
theorem after_edit {ρ : Type} {r : Result (ρ × RelationshipBook)}
    (h : ∀ a b', r = .ok (a,b') → Edit b b') : Reaches Edit b (b.after r) :=
  after_cases .refl fun a b' hr => .single (h a b' hr)

/-- `set_circle` for the Subject that an observation has returned. -/
theorem circleAfter_edit {ref evidenceRef eventId : String} {circle : Circle} {labels : List String}
    {now : ℤ} (hactive : b.InState ref .active)
    (hnames : ∀ r, (b.subjects.get r).isSome → strip r = r) :
    Reaches Edit b (b.after (b.setCircle ref circle 100 evidenceRef labels now eventId)) := by
  refine after_edit fun a b' h => setCircle_edit h fun s hs => ?_
  rw [hnames ref hactive.isSome] at hs
  exact InState.eq ⟨s,hs,rfl⟩ hactive

theorem confirmFriend_edit {card : Card} {evidenceRef ref eventId circleEventId : String} {now : ℤ}
    (hnew : b.NewRef ref) (hnames : ∀ r, (b.subjects.get r).isSome → strip r = r) :
    Reaches Edit b (b.confirmFriend card evidenceRef now ref eventId circleEventId) := by
  refine keeping_cases .refl fun r b' h => ?_
  obtain ⟨hedit,hactive⟩ := observeActor_edit h hnew
  split
  · exact .single hedit
  · exact (Relation.ReflTransGen.single hedit).trans
      (circleAfter_edit hactive fun r hr => hedit.names hnames hr)

theorem confirmMutual_edit {card : Card} {circle : Circle} {evidenceRef : String}
    {labels : List String} {now : ℤ} {ref eventId circleEventId : String} (hnew : b.NewRef ref)
    (hnames : ∀ r, (b.subjects.get r).isSome → strip r = r) :
    Reaches Edit b (b.confirmMutualRelationship card circle evidenceRef labels now ref eventId
      circleEventId) := by
  unfold confirmMutualRelationship
  extract_lets confirm
  have hconfirm : Reaches Edit b confirm := by
    refine keeping_cases .refl fun r b' h => ?_
    obtain ⟨hedit,hactive⟩ := observeActor_edit h hnew
    split
    · exact .single hedit
    · exact (Relation.ReflTransGen.single hedit).trans
        (circleAfter_edit hactive fun r hr => hedit.names hnames hr)
  split
  · exact .refl
  · split
    · exact hconfirm
    · split
      · exact .refl
      · split
        · exact .refl
        · exact hconfirm

theorem withdrawalEvent_edit {card : Card} {claimId withdrawingActorId subjectRef evidence : String}
    {now : ℤ} {eventId : String} : Reaches Edit b
      (b.withdrawalEvent card claimId withdrawingActorId subjectRef evidence now eventId) := by
  unfold withdrawalEvent
  split
  · exact .refl
  · exact .single (.frame _ _ (fun _ => rfl) rfl rfl rfl)

theorem recordWithdrawal_edit {card : Card} {claimId withdrawingActorId evidenceRef : String}
    {now : ℤ} {ref eventId withdrawalEventId : String} (hnew : b.NewRef ref) :
    Reaches Edit b (b.recordWithdrawal card claimId withdrawingActorId evidenceRef now ref eventId
      withdrawalEventId) := by
  unfold recordWithdrawal
  split
  · split
    · exact withdrawalEvent_edit
    · refine keeping_cases .refl fun r b' h => ?_
      exact (Relation.ReflTransGen.single (observeActor_edit h hnew).1).trans withdrawalEvent_edit
  · exact .refl

/-- A transition, when it returned. -/
theorem after_transitioned {r : Result (SubjectTransition × RelationshipBook)}
    (h : ∀ t b', r = .ok (t,b') → Transitioned b b' t) :
    Reaches Edit b (b.after r) ∨ ∃ t, Transitioned b (b.after r) t := by
  refine after_cases (P := fun x => Reaches Edit b x ∨ ∃ t, Transitioned b x t) (.inl .refl) ?_
  exact fun t b' hr => .inr ⟨t,h t b' hr⟩

/-- A call edits the book or is one transition of it. -/
theorem perform_cases {decisionId : String → String → String} {call : Call}
    (hfresh : b.FreshRefs call) (hmeets : b.Meets call)
    (hnames : ∀ r, (b.subjects.get r).isSome → strip r = r) :
    Reaches Edit b (b.perform decisionId call) ∨
      ∃ t, Transitioned b (b.perform decisionId call) t := by
  cases call with
  | observe o confidence now ref eventId =>
    exact .inl (after_edit fun a b' h => (observeTypedActor_edit h hfresh).1)
  | observeCard card evidenceRef confidence now ref eventId =>
    exact .inl (after_edit fun a b' h => (observeActor_edit h hfresh).1)
  | interaction i eventId => exact .inl (after_edit fun a b' h => recordInteraction_edit h)
  | link actorId subjectRef confidence evidenceRef now eventId =>
    exact .inl (after_edit fun a b' h => linkActor_edit h)
  | circle subjectRef circle confidence evidenceRef labels now eventId =>
    exact .inl (after_edit fun a b' h => setCircle_edit h hmeets)
  | trust subjectRef context estimate confidence evidenceRef now eventId =>
    exact .inl (after_edit fun a b' h => setContextTrust_edit h)
  | pause subjectRef evidenceRef now eventId =>
    exact .inl (after_edit fun a b' h => setRelationshipState_edit h)
  | finish subjectRef evidenceRef now eventId =>
    exact .inl (after_edit fun a b' h => setRelationshipState_edit h)
  | supersede subjectRef x =>
    exact after_transitioned fun t b' h => supersedeSubject_transitioned h hfresh
  | merge subjectRefs inheritRef x =>
    exact after_transitioned fun t b' h => mergeSubjects_transitioned h hfresh
  | split subjectRef groups inheritGroup x =>
    exact after_transitioned fun t b' h => splitSubject_transitioned h hfresh
  | decide s accepted rationale now appliedEventId eventId =>
    exact .inl (after_cases .refl fun a b' h => decideSuggestion_edit h)
  | friend card evidenceRef now ref eventId circleEventId =>
    exact .inl (confirmFriend_edit hfresh hnames)
  | mutualClaim card circle evidenceRef labels now ref eventId circleEventId =>
    exact .inl (confirmMutual_edit hfresh hnames)
  | withdrawal card claimId withdrawingActorId evidenceRef now ref eventId withdrawalEventId =>
    exact .inl (recordWithdrawal_edit hfresh)
  | revoke actorId evidenceRef now eventId =>
    exact .inl (after_edit fun a b' h => revokeActor_edit h)

/-- One call, whatever it asks for. -/
def Called (decisionId : String → String → String) (b b' : RelationshipBook) : Prop :=
  ∃ call, b.FreshRefs call ∧ b' = b.perform decisionId call

/-- One call of a run in which no superseded Subject is given a circle. -/
def Step (decisionId : String → String → String) (b b' : RelationshipBook) : Prop :=
  ∃ call, b.FreshRefs call ∧ b.Meets call ∧ b' = b.perform decisionId call

theorem kept_empty (ownActorId : String) : Kept (empty ownActorId) := by
  refine ⟨⟨?_,?_,?_,by simp [empty],?_⟩,by simp [empty],by simp [empty],by simp [empty]⟩
  · simp [empty]
  · rintro r ⟨s,hs,-⟩
    simp [empty] at hs
  · intro r hr
    obtain ⟨r',⟨t,ht,-⟩,-⟩ := Relation.TransGen.head'_iff.mp hr
    simp [empty] at ht
  · rintro r ⟨s,hs,-⟩
    simp [empty] at hs

theorem Kept.edits (h : Kept b) (hedits : Reaches Edit b b') : Kept b' :=
  Reaches.invariant (I := Kept) (fun _ _ hi hstep => hi.edit hstep) h hedits

theorem Kept.step {decisionId : String → String → String} (h : Kept b) (hstep : Step decisionId b b') :
    Kept b' := by
  obtain ⟨call,hfresh,hmeets,rfl⟩ := hstep
  rcases perform_cases hfresh hmeets h.names with hedits | ⟨t,ht⟩
  · exact h.edits hedits
  · exact h.transition ht

/-- What is superseded stays so. -/
theorem Step.superseded {decisionId : String → String → String} (h : Kept b)
    (hstep : Step decisionId b b') {r : String} (hr : b.InState r .superseded) :
    b'.InState r .superseded := by
  obtain ⟨call,hfresh,hmeets,rfl⟩ := hstep
  rcases perform_cases hfresh hmeets h.names with hedits | ⟨t,ht⟩
  · exact Reaches.invariant (I := fun b => b.InState r .superseded)
      (fun _ _ hi hedit => hedit.inState hi) hr hedits
  · exact ht.inState hr (ht.superseded_source hr)

/-- Edits add no transition. -/
theorem edits_transitions (h : Reaches Edit b b') : b'.transitions = b.transitions :=
  Reaches.invariant (I := fun x => x.transitions = b.transitions)
    (fun _ _ hi hedit => hedit.keeps.2.trans hi) rfl h

/-- In a run that sets no circle for a superseded Subject the lineage of the Subjects is kept, and
a call that adds a transition replaces its sources as a transition must. -/
theorem lineage_kept (decisionId : String → String → String) (ownActorId : String)
    {b b' : RelationshipBook} (hrun : Reaches (Step decisionId) (empty ownActorId) b)
    (hlater : Reaches (Step decisionId) b b') :
    Lineage b ∧ (∀ r, b.InState r .superseded → b'.InState r .superseded) ∧
      ∀ call, b.FreshRefs call → b.Meets call →
        (b.perform decisionId call).transitions = b.transitions ∨
          ∃ t, Transitioned b (b.perform decisionId call) t := by
  have hkept : Kept b :=
    Reaches.invariant (I := Kept) (fun _ _ hi hstep => hi.step hstep) (kept_empty ownActorId) hrun
  refine ⟨hkept.lineage,fun r hr => ?_,fun call hfresh hmeets => ?_⟩
  · have hboth : Kept b' ∧ b'.InState r .superseded :=
      Reaches.invariant (I := fun x => Kept x ∧ x.InState r .superseded)
        (fun _ _ hi hstep => ⟨hi.1.step hstep,hstep.superseded hi.1 hi.2⟩) ⟨hkept,hr⟩ hlater
    exact hboth.2
  · rcases perform_cases hfresh hmeets hkept.names with hedits | ht
    · exact .inl (edits_transitions hedits)
    · exact .inr ht

def sampleDecision (owner suggestionId : String) : String := owner ++ suggestionId

def sampleRef : String := "subj_00000000000000aa"

def replacementRef : String := "subj_00000000000000bb"

def sampleTerms : TransitionTerms :=
  ⟨80,"note:rename",[],20,"strn_000000000000000000000001",fun _ => replacementRef,
    fun _ => "revt_000000000000000000000002"⟩

/-- A peer is observed. -/
def sampleObserve : Call :=
  .observe ⟨"an1peer","anet.node","Peer",
    ⟨"anet.peer-card",.cryptographic,"an1peer","card:peer",10⟩⟩ 50 10 sampleRef
    "revt_000000000000000000000001"

/-- Its Subject is superseded. -/
def sampleSupersede : Call := .supersede sampleRef sampleTerms

/-- The superseded Subject is given a circle. -/
def sampleCircle : Call := .circle sampleRef .friend 90 "note:friend" [] 30 "revt_000000000000000000000003"

def sampleSeen : RelationshipBook := (empty "an1self").perform sampleDecision sampleObserve

def sampleReplaced : RelationshipBook := sampleSeen.perform sampleDecision sampleSupersede

def sampleReactivated : RelationshipBook := sampleReplaced.perform sampleDecision sampleCircle

theorem sampleSeen_fresh : (empty "an1self").FreshRefs sampleObserve := by
  change (empty "an1self").NewRef sampleRef
  exact ⟨by decide,rfl⟩

theorem sampleReplaced_fresh : sampleSeen.FreshRefs sampleSupersede := by
  change ∀ _ : ℕ, sampleSeen.NewRef replacementRef
  exact fun _ => ⟨by decide,by decide⟩

/-- The Subject that a call superseded has its circle set again, and its relationship is active. -/
theorem superseded_relationship_active : ∃ b, Reaches (Called sampleDecision) (empty "an1self") b ∧
    b.InState sampleRef .superseded ∧ ∃ e ∈ b.relationships.get sampleRef, e.state = .active := by
  refine ⟨sampleReactivated,?_,?_,?_⟩
  · have hseen : Reaches (Called sampleDecision) (empty "an1self") sampleSeen :=
      .single ⟨_,sampleSeen_fresh,rfl⟩
    exact (hseen.tail ⟨_,sampleReplaced_fresh,rfl⟩).tail ⟨sampleCircle,trivial,rfl⟩
  · have hstate : (sampleReactivated.subjects.get sampleRef).map SubjectHypothesis.state =
        some .superseded := by decide +kernel
    exact Option.map_eq_some_iff.mp hstate
  · have hstate : (sampleReactivated.relationships.get sampleRef).map RelationshipEstimate.state =
        some .active := by decide +kernel
    exact Option.map_eq_some_iff.mp hstate

theorem lineage_kept_sample : sampleReplaced.InState sampleRef .superseded ∧
    Lineage sampleReplaced ∧
      ∀ e ∈ sampleReplaced.relationships.get sampleRef, e.state ≠ .active := by
  have hseen : Step sampleDecision (empty "an1self") sampleSeen :=
    ⟨sampleObserve,sampleSeen_fresh,trivial,rfl⟩
  have hreplaced : Step sampleDecision sampleSeen sampleReplaced :=
    ⟨sampleSupersede,sampleReplaced_fresh,trivial,rfl⟩
  have hkept := lineage_kept sampleDecision "an1self"
    ((Relation.ReflTransGen.single hseen).tail hreplaced) .refl
  have hstate : (sampleReplaced.subjects.get sampleRef).map SubjectHypothesis.state =
      some .superseded := by decide +kernel
  have hsuperseded : sampleReplaced.InState sampleRef .superseded :=
    Option.map_eq_some_iff.mp hstate
  exact ⟨hsuperseded,hkept.1,hkept.1.dormant sampleRef hsuperseded⟩

end RelationshipBook
end Anet.Relations
