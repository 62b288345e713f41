import Anet.RelationshipGrowth

/-! Reading the activity feed while the relationship book goes on: the pages that follow one another
hold each event in scope once, and what they say of it never changes. -/
namespace Anet.Relations

namespace RelationshipBook

variable {b b' : RelationshipBook}

/-- The ids that a call draws for its events. -/
def Call.eventIds : Call → List String
  | .observe _ _ _ _ i | .observeCard _ _ _ _ _ i | .interaction _ i | .link _ _ _ _ _ i
  | .circle _ _ _ _ _ _ i | .trust _ _ _ _ _ _ i | .pause _ _ _ i | .finish _ _ _ i
  | .revoke _ _ _ i => [i]
  | .supersede _ x | .split _ _ _ x => [x.eventIds 0]
  | .merge refs _ x => (firsts (refs.map strip)).zipIdx.map fun s => x.eventIds s.2
  | .decide _ _ _ _ i j | .friend _ _ _ _ i j | .mutualClaim _ _ _ _ _ _ i j
  | .withdrawal _ _ _ _ _ _ i j => [i,j]

/-- They are event ids that the book has not got. -/
def FreshEvents (b : RelationshipBook) (call : Call) : Prop :=
  (b.events.map RelationshipEvent.eventId ++ call.eventIds).Nodup ∧
    ∀ i ∈ call.eventIds, isEventId i = true

/-- The condition on a call: `record_interaction` gets no new interaction with the Actor, Subject,
evidence and time of another. -/
def Separates (b : RelationshipBook) : Call → Prop
  | .interaction i _ => b.SeparateInteraction i
  | _ => True

theorem after_grows {ρ : Type} {r : Result (ρ × RelationshipBook)} {ids : List String}
    (h : ∀ a b', r = .ok (a,b') → Grows b b' ids) : Grows b (b.after r) ids :=
  after_cases (Grows.refl b ids) h

theorem keeping_grows {ρ : Type} {r : Result (ρ × RelationshipBook)} {ids : List String}
    {next : ρ → RelationshipBook → RelationshipBook}
    (h : ∀ a b', r = .ok (a,b') → Grows b (next a b') ids) : Grows b (b.keeping r next) ids :=
  keeping_cases (P := fun x => Grows b x ids) (Grows.refl b ids) h

theorem confirm_grows {card : Card} {evidenceRef ref eventId circleEventId : String} {now : ℤ}
    {f : Circle → Circle} {labels : List String} :
    Grows b (b.keeping (b.observeActor card evidenceRef 50 now ref eventId) fun subjectRef b' =>
      match b'.relationships.get subjectRef with
      | none => b'
      | some existing => b'.after (b'.setCircle subjectRef (f existing.circle) 100 evidenceRef
          labels now circleEventId)) [eventId,circleEventId] := by
  refine keeping_grows fun r b' h => ?_
  have hobserved := observeActor_grows h
  split
  · exact hobserved.mono (by simp)
  · exact hobserved.trans (after_grows fun a b'' h => setCircle_grows h)

theorem withdrawalEvent_grows {card : Card} {claimId withdrawingActorId subjectRef evidence : String}
    {now : ℤ} {eventId : String} : Grows b
      (b.withdrawalEvent card claimId withdrawingActorId subjectRef evidence now eventId) [eventId] := by
  unfold withdrawalEvent
  split
  · exact .refl b _
  · exact Frames.append (.of_actors rfl rfl rfl rfl rfl) rfl rfl
      (joined_relationship "relationship.mutual-claim-withdrawn" rfl (by decide) (by decide))

theorem recordWithdrawal_grows {card : Card} {claimId withdrawingActorId evidenceRef : String}
    {now : ℤ} {ref eventId withdrawalEventId : String} :
    Grows b (b.recordWithdrawal card claimId withdrawingActorId evidenceRef now ref eventId
      withdrawalEventId) [eventId,withdrawalEventId] := by
  unfold recordWithdrawal
  split
  · split
    · exact withdrawalEvent_grows.mono (by simp)
    · exact keeping_grows fun r b' h =>
        (observeActor_grows h).trans withdrawalEvent_grows
  · exact .refl b _

theorem confirmMutual_grows {card : Card} {circle : Circle} {evidenceRef : String}
    {labels : List String} {now : ℤ} {ref eventId circleEventId : String} :
    Grows b (b.confirmMutualRelationship card circle evidenceRef labels now ref eventId
      circleEventId) [eventId,circleEventId] := by
  unfold confirmMutualRelationship
  split
  · exact .refl b _
  · split
    · exact confirm_grows (f := fun c => closer c circle)
    · split
      · exact .refl b _
      · split
        · exact .refl b _
        · exact confirm_grows (f := fun c => closer c circle)

/-- A call makes the book grow. -/
theorem perform_grows (decisionId : String → String → String) {call : Call}
    (hseparates : b.Separates call) : Grows b (b.perform decisionId call) call.eventIds := by
  cases call with
  | observe o confidence now ref eventId =>
    exact after_grows fun a b' h => observeTypedActor_grows h
  | observeCard card evidenceRef confidence now ref eventId =>
    exact after_grows fun a b' h => observeActor_grows h
  | interaction i eventId =>
    exact after_grows fun a b' h => recordInteraction_grows h hseparates
  | link actorId subjectRef confidence evidenceRef now eventId =>
    exact after_grows fun a b' h => linkActor_grows h
  | circle subjectRef circle confidence evidenceRef labels now eventId =>
    exact after_grows fun a b' h => setCircle_grows h
  | trust subjectRef context estimate confidence evidenceRef now eventId =>
    exact after_grows fun a b' h => setContextTrust_grows h
  | pause subjectRef evidenceRef now eventId =>
    exact after_grows fun a b' h =>
      setRelationshipState_grows h (by decide) (by decide)
  | finish subjectRef evidenceRef now eventId =>
    exact after_grows fun a b' h =>
      setRelationshipState_grows h (by decide) (by decide)
  | supersede subjectRef x =>
    refine after_grows fun t b' h => ?_
    simp only [supersedeSubject,bind_ok] at h
    obtain ⟨ref,-,source,-,terms,-,s,-,h⟩ := h
    exact commit_grows h
  | merge subjectRefs inheritRef x =>
    refine after_grows fun t b' h => ?_
    simp only [mergeSubjects,bind_ok] at h
    obtain ⟨-,-,sources,-,-,-,terms,-,links,-,ls,-,refs,-,h⟩ := h
    exact commit_grows h
  | split subjectRef groups inheritGroup x =>
    refine after_grows fun t b' h => ?_
    simp only [splitSubject,bind_ok] at h
    obtain ⟨ref,-,source,-,-,-,-,-,-,-,-,-,terms,-,subjects,-,h⟩ := h
    exact commit_grows h
  | decide s accepted rationale now appliedEventId eventId =>
    exact after_grows fun a b' h => decideSuggestion_grows h
  | friend card evidenceRef now ref eventId circleEventId =>
    exact confirm_grows (f := fun c => closer c .friend)
  | mutualClaim card circle evidenceRef labels now ref eventId circleEventId =>
    exact confirmMutual_grows
  | withdrawal card claimId withdrawingActorId evidenceRef now ref eventId withdrawalEventId =>
    exact recordWithdrawal_grows
  | revoke actorId evidenceRef now eventId =>
    exact after_grows fun a b' h => revokeActor_grows h

/-- A book that the feed can read: its events have ids of their own and are joined with what the
book holds about them. -/
structure Readable (b : RelationshipBook) : Prop where
  observer : b.ownActorId ≠ ""
  nodup : (b.events.map RelationshipEvent.eventId).Nodup
  named : ∀ e ∈ b.events, isEventId e.eventId = true
  joined : ∀ e ∈ b.events, Joined b e
  separated : Separated b
  filed : Filed b

theorem Readable.grows {ids : List String} (hb : Readable b) (h : Grows b b' ids)
    (hnodup : (b.events.map RelationshipEvent.eventId ++ ids).Nodup)
    (hids : ∀ i ∈ ids, isEventId i = true) : Readable b' := by
  obtain ⟨new,hnew,hsub,hjoined⟩ := h.events
  refine ⟨by rw [h.own]; exact hb.observer,?_,fun e he => ?_,fun e he => ?_,
    h.separated hb.separated,h.filed hb.filed⟩
  · rw [hnew,List.map_append]
    exact hnodup.sublist ((List.Sublist.refl _).append hsub)
  · rw [hnew] at he
    rcases List.mem_append.mp he with he | he
    · exact hb.named e he
    · exact hids e.eventId (hsub.subset (List.mem_map_of_mem he))
  · rw [hnew] at he
    rcases List.mem_append.mp he with he | he
    · exact h.joined (hb.joined e he)
    · exact hjoined e he

/-- The interaction that an event is joined with is the one with its key. -/
theorem interactionFor_eq (hseparated : Separated b) {k : String} {i : InteractionEvidence}
    {e : RelationshipEvent} (hi : b.interactions.get k = some i) (hkey : i.joinKey = e.joinKey) :
    b.interactionFor e = some i := by
  have hmem : ∀ j, j ∈ ((b.interactions.entries.insertionSort fun x y => x.1 ≤ y.1).map
      Prod.snd).reverse ↔ ∃ l, b.interactions.get l = some j := by
    intro j
    rw [List.mem_reverse,List.mem_map]
    constructor
    · rintro ⟨⟨l,j⟩,hj,rfl⟩
      rw [List.mem_insertionSort] at hj
      exact ⟨l,Keyed.get_eq_some.mpr hj⟩
    · rintro ⟨l,hl⟩
      exact ⟨(l,j),(List.mem_insertionSort _).mpr (Keyed.get_eq_some.mp hl),rfl⟩
  cases hfor : b.interactionFor e with
  | none =>
    have hnone := List.find?_eq_none.mp hfor i ((hmem i).mpr ⟨k,hi⟩)
    simp [hkey] at hnone
  | some j =>
    obtain ⟨l,hl⟩ := (hmem j).mp (List.mem_of_find?_eq_some hfor)
    have hj : j.joinKey = e.joinKey := by simpa using List.find?_some hfor
    have hsame : k = l := hseparated i j k l hi hl (hkey.trans hj.symm)
    rw [← hsame,hi] at hl
    exact hl.symm

/-- What the feed says of an event is not changed by what happens later. -/
theorem classify_grows {lib : FeedDigests} {ids : List String} (h : Grows b b' ids)
    (hseparated : Separated b) {e : RelationshipEvent} (he : Joined b e) :
    b'.classify lib e = b.classify lib e := by
  unfold Joined at he
  unfold classify
  split
  · next hactor =>
    rw [if_pos hactor] at he
    obtain ⟨x,hx⟩ := Option.isSome_iff_exists.mp he
    obtain ⟨y,hy,hkind⟩ := h.actors _ _ hx
    simp only [actorDetails,hx,hy,hkind]
  · next hactor =>
    rw [if_neg hactor] at he
    split
    · next hinteraction =>
      rw [if_pos hinteraction] at he
      obtain ⟨i,hi,hkey⟩ := he
      rw [interactionFor_eq hseparated hi hkey,
        interactionFor_eq (h.separated hseparated) (h.interactions _ _ hi) hkey]
    · next hinteraction =>
      rw [if_neg hinteraction] at he
      split
      · next hsubject =>
        rw [if_pos hsubject] at he
        have hsame : b'.transitionFor e = b.transitionFor e := by
          rcases he with hlinked | hsome
          · have hnone : ∀ x : RelationshipBook, x.transitionFor e = none := by
              intro x
              rw [transitionFor,List.find?_eq_none]
              intro t _
              rw [hlinked]
              cases t.transitionType <;> simp [TransitionType.text]
            rw [hnone b,hnone b']
          · obtain ⟨t,ht⟩ := Option.isSome_iff_exists.mp hsome
            rw [ht]
            exact find?_extends h.transitions ht
        rw [hsame]
      · next hsubject =>
        rw [if_neg hsubject] at he
        split
        · next hdecision =>
          rw [if_pos hdecision] at he
          obtain ⟨d,hd⟩ := Option.isSome_iff_exists.mp he
          have hd' : b'.decisionFor e = some d := h.decisions _ _ hd
          rw [hd,hd']
        · rfl

theorem project_grows {lib : FeedDigests} {ids : List String} (h : Grows b b' ids)
    (hseparated : Separated b) {e : RelationshipEvent} (he : Joined b e) :
    b'.project lib e = b.project lib e := by
  unfold project cursorOf
  rw [classify_grows h hseparated he,h.own]

end RelationshipBook
end Anet.Relations
