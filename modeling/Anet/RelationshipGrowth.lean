import Anet.RelationshipFeed
import Anet.RelationshipSteps

/-! What the operations of a relationship book append to its events, and what each of them keeps of
the records that the feed joins with the events. -/
namespace Anet.Relations

namespace RelationshipBook

variable {b b' b'' : RelationshipBook}

/-- What an event is joined with is in the book. -/
def Joined (b : RelationshipBook) (e : RelationshipEvent) : Prop :=
  if startsWith "actor." e.eventType then (b.actors.get e.actorId).isSome = true
  else if e.eventType = "interaction.observed" then
    ∃ i, b.interactions.get i.interactionId = some i ∧ i.joinKey = e.joinKey
  else if startsWith "subject." e.eventType then
    removePrefix "subject." e.eventType = "actor-linked" ∨ (b.transitionFor e).isSome = true
  else if startsWith "relationship.suggestion-" e.eventType then (b.decisionFor e).isSome = true
  else True

/-- No two interactions share their key. -/
def Separated (b : RelationshipBook) : Prop :=
  ∀ i j k l, b.interactions.get k = some i → b.interactions.get l = some j →
    i.joinKey = j.joinKey → k = l

/-- An interaction stands under its own id. -/
def Filed (b : RelationshipBook) : Prop :=
  ∀ k i, b.interactions.get k = some i → i.interactionId = k

/-- A book that has grown by events with some of these ids. -/
structure Grows (b b' : RelationshipBook) (ids : List String) : Prop where
  own : b'.ownActorId = b.ownActorId
  events : ∃ new, b'.events = b.events ++ new ∧ (new.map RelationshipEvent.eventId).Sublist ids ∧
    ∀ e ∈ new, Joined b' e
  actors : ∀ a x, b.actors.get a = some x →
    ∃ y, b'.actors.get a = some y ∧ y.actorKind = x.actorKind
  transitions : b.transitions <+: b'.transitions
  decisions : ∀ k d, b.suggestionDecisions.get k = some d → b'.suggestionDecisions.get k = some d
  interactions : ∀ k i, b.interactions.get k = some i → b'.interactions.get k = some i
  separated : Separated b → Separated b'
  filed : Filed b → Filed b'

theorem find?_extends {α : Type} {l l' : List α} {p : α → Bool} {a : α} (h : l <+: l')
    (ha : l.find? p = some a) : l'.find? p = some a := by
  obtain ⟨new,rfl⟩ := h
  rw [List.find?_append,ha]
  rfl

theorem Grows.joined {ids : List String} (h : Grows b b' ids) {e : RelationshipEvent}
    (he : Joined b e) : Joined b' e := by
  unfold Joined at he ⊢
  split
  · next hactor =>
    rw [if_pos hactor] at he
    obtain ⟨x,hx⟩ := Option.isSome_iff_exists.mp he
    obtain ⟨y,hy,-⟩ := h.actors _ _ hx
    exact Option.isSome_iff_exists.mpr ⟨y,hy⟩
  · next hactor =>
    rw [if_neg hactor] at he
    split
    · next hinteraction =>
      rw [if_pos hinteraction] at he
      obtain ⟨i,hi,hkey⟩ := he
      exact ⟨i,h.interactions _ _ hi,hkey⟩
    · next hinteraction =>
      rw [if_neg hinteraction] at he
      split
      · next hsubject =>
        rw [if_pos hsubject] at he
        refine he.imp_right fun ht => ?_
        obtain ⟨t,ht⟩ := Option.isSome_iff_exists.mp ht
        exact Option.isSome_iff_exists.mpr ⟨t,find?_extends h.transitions ht⟩
      · next hsubject =>
        rw [if_neg hsubject] at he
        split
        · next hdecision =>
          rw [if_pos hdecision] at he
          obtain ⟨d,hd⟩ := Option.isSome_iff_exists.mp he
          exact Option.isSome_iff_exists.mpr ⟨d,h.decisions _ _ hd⟩
        · trivial

theorem Grows.refl (b : RelationshipBook) (ids : List String) : Grows b b ids :=
  ⟨rfl,⟨[],by simp⟩,fun _ x hx => ⟨x,hx,rfl⟩,List.prefix_rfl,fun _ _ h => h,fun _ _ h => h,id,id⟩

theorem Grows.mono {ids ids' : List String} (h : Grows b b' ids) (hids : ids.Sublist ids') :
    Grows b b' ids' := by
  obtain ⟨new,hnew,hsub,hjoined⟩ := h.events
  exact { h with events := ⟨new,hnew,hsub.trans hids,hjoined⟩ }

theorem Grows.trans {ids ids' : List String} (h : Grows b b' ids) (h' : Grows b' b'' ids') :
    Grows b b'' (ids ++ ids') := by
  obtain ⟨new,hnew,hsub,hjoined⟩ := h.events
  obtain ⟨new',hnew',hsub',hjoined'⟩ := h'.events
  refine ⟨h'.own.trans h.own,⟨new ++ new',?_,?_,fun e he => ?_⟩,fun a x hx => ?_,
    h.transitions.trans h'.transitions,fun k d hd => h'.decisions k d (h.decisions k d hd),
    fun k i hi => h'.interactions k i (h.interactions k i hi),fun hs => h'.separated (h.separated hs),
    fun hs => h'.filed (h.filed hs)⟩
  · rw [hnew',hnew,List.append_assoc]
  · rw [List.map_append]
    exact hsub.append hsub'
  · rcases List.mem_append.mp he with he | he
    · exact h'.joined (hjoined e he)
    · exact hjoined' e he
  · obtain ⟨y,hy,hkind⟩ := h.actors a x hx
    obtain ⟨z,hz,hkind'⟩ := h'.actors a y hy
    exact ⟨z,hz,hkind'.trans hkind⟩

/-- A book that keeps what the feed joins, the Actors up to their kind. -/
structure Frames (b b' : RelationshipBook) : Prop where
  own : b'.ownActorId = b.ownActorId
  actors : ∀ a x, b.actors.get a = some x →
    ∃ y, b'.actors.get a = some y ∧ y.actorKind = x.actorKind
  transitions : b.transitions <+: b'.transitions
  decisions : ∀ k d, b.suggestionDecisions.get k = some d → b'.suggestionDecisions.get k = some d
  interactions : b'.interactions = b.interactions

theorem Frames.of_actors (hown : b'.ownActorId = b.ownActorId) (hactors : b'.actors = b.actors)
    (htransitions : b'.transitions = b.transitions)
    (hdecisions : b'.suggestionDecisions = b.suggestionDecisions)
    (hinteractions : b'.interactions = b.interactions) : Frames b b' :=
  ⟨hown,fun _ x hx => ⟨x,by rw [hactors,hx],rfl⟩,htransitions ▸ List.prefix_rfl,
    fun k d hd => by rwa [hdecisions],hinteractions⟩

/-- A book that keeps what the feed joins grows by events that are joined in it. -/
theorem Frames.appendAll {new : List RelationshipEvent} (h : Frames b b')
    (hevents : b'.events = b.events ++ new) (hjoined : ∀ e ∈ new, Joined b' e) :
    Grows b b' (new.map RelationshipEvent.eventId) := by
  refine ⟨h.own,⟨new,hevents,List.Sublist.refl _,hjoined⟩,h.actors,h.transitions,h.decisions,
    fun k i hi => by rwa [h.interactions],fun hs => ?_,fun hs => ?_⟩
  · unfold Separated
    rwa [h.interactions]
  · unfold Filed
    rwa [h.interactions]

theorem Frames.append {e : RelationshipEvent} {eventId : String} (h : Frames b b')
    (hevents : b'.events = b.events ++ [e]) (hid : e.eventId = eventId) (he : Joined b' e) :
    Grows b b' [eventId] := by
  subst hid
  apply h.appendAll hevents
  intro x hx
  cases List.mem_singleton.mp hx
  exact he

theorem joined_actor {e : RelationshipEvent} (eventType : String) (htype : e.eventType = eventType)
    (h : startsWith "actor." eventType = true) (hactor : (b.actors.get e.actorId).isSome = true) :
    Joined b e := by
  subst htype
  rwa [Joined,if_pos h]

/-- An event about a relationship alone is joined with nothing. -/
theorem joined_relationship {e : RelationshipEvent} (eventType : String)
    (htype : e.eventType = eventType) (h : startsWith "relationship." eventType = true)
    (hdecision : startsWith "relationship.suggestion-" eventType = false) : Joined b e := by
  subst htype
  have hstart : "relationship.".toList <+: e.eventType.toList := List.isPrefixOf_iff_prefix.mp h
  obtain ⟨rest,hrest⟩ := hstart
  have hactor : startsWith "actor." e.eventType = false := by
    simp [startsWith,← hrest,List.isPrefixOf]
  have hsubject : startsWith "subject." e.eventType = false := by
    simp [startsWith,← hrest,List.isPrefixOf]
  have hinteraction : e.eventType ≠ "interaction.observed" := by
    intro heq
    rw [heq] at hrest
    simp at hrest
  rw [Joined,if_neg (by simp [hactor]),if_neg hinteraction,if_neg (by simp [hsubject]),
    if_neg (by simp [hdecision])]
  trivial

theorem observeTypedActor_grows {o : ActorObservation} {confidence now : ℤ} {ref eventId r : String}
    (h : b.observeTypedActor o confidence now ref eventId = .ok (r,b')) : Grows b b' [eventId] := by
  simp only [observeTypedActor,bind_ok,raiseIf_ok] at h
  obtain ⟨-,-,-,-,c,-,t,-,-,-,h⟩ := h
  split at h
  · next hnone =>
    cases h
    refine Frames.append ⟨rfl,fun a x hx => ⟨x,?_,rfl⟩,List.prefix_rfl,fun _ _ hd => hd,rfl⟩ rfl rfl ?_
    · have hne : a ≠ o.actorId := by
        rintro rfl
        rw [hnone] at hx
        cases hx
      exact (Keyed.get_put _ _ _ _).trans ((if_neg hne).trans hx)
    · exact joined_actor "actor.observed" rfl (by decide) (by simp [appendEvent])
  · next actor hactor =>
    simp only [bind_ok,raiseIf_ok] at h
    obtain ⟨-,-,h⟩ := h
    split at h
    · simp only [bind_ok,fetched_ok] at h
      obtain ⟨subject,hsubject,h⟩ := h
      cases h
      exact .refl b _
    · simp only [bind_ok,fetched_ok] at h
      obtain ⟨refs,-,-,-,subject,hsubject,h⟩ := h
      cases h
      refine Frames.append ⟨rfl,fun a x hx => ?_,List.prefix_rfl,fun _ _ hd => hd,rfl⟩ rfl rfl ?_
      · by_cases ha : a = o.actorId
        · subst ha
          rw [hactor] at hx
          cases hx
          exact ⟨_,(Keyed.get_put _ _ _ _).trans (if_pos rfl),rfl⟩
        · exact ⟨x,(Keyed.get_put _ _ _ _).trans ((if_neg ha).trans hx),rfl⟩
      · exact joined_actor "actor.observation-refreshed" rfl (by decide) (by simp [appendEvent])

theorem observeActor_grows {card : Card} {evidenceRef : String} {confidence now : ℤ}
    {ref eventId r : String}
    (h : b.observeActor card evidenceRef confidence now ref eventId = .ok (r,b')) :
    Grows b b' [eventId] := by
  simp only [observeActor,bind_ok] at h
  obtain ⟨-,-,-,-,evidence,-,c,-,t,-,h⟩ := h
  exact observeTypedActor_grows h

/-- The condition for `record_interaction`: a new interaction has a key of its own. -/
def SeparateInteraction (b : RelationshipBook) (i : InteractionEvidence) : Prop :=
  (b.interactions.get i.interactionId).isSome ∨
    ∀ k j, b.interactions.get k = some j → j.joinKey ≠ i.joinKey

theorem recordInteraction_grows {i : InteractionEvidence} {eventId : String} {new : Bool}
    (h : b.recordInteraction i eventId = .ok (new,b')) (hseparate : b.SeparateInteraction i) :
    Grows b b' [eventId] := by
  unfold recordInteraction at h
  split at h
  · cases h
    exact .refl b _
  · next hnew =>
    simp only [bind_ok] at h
    obtain ⟨-,-,subject,-,-,-,h⟩ := h
    cases h
    have hkeys := hseparate.resolve_left hnew
    have hget : ∀ k j, (b.interactions.put i.interactionId i).get k = some j →
        (k = i.interactionId ∧ j = i) ∨ b.interactions.get k = some j := by
      intro k j hj
      rw [Keyed.get_put] at hj
      split at hj
      · next hk =>
        cases hj
        exact .inl ⟨hk,rfl⟩
      · exact .inr hj
    refine ⟨rfl,⟨[_],rfl,by simp,fun e he => ?_⟩,fun _ x hx => ⟨x,hx,rfl⟩,List.prefix_rfl,
      fun _ _ hd => hd,fun k j hj => ?_,fun hs => ?_,fun hs k j hj => ?_⟩
    · cases List.mem_singleton.mp he
      rw [Joined,if_neg (by simp [startsWith,List.isPrefixOf]),if_pos rfl]
      exact ⟨i,(Keyed.get_put _ _ _ _).trans (if_pos rfl),rfl⟩
    · have hne : k ≠ i.interactionId := by
        rintro rfl
        exact hnew (Option.isSome_iff_exists.mpr ⟨j,hj⟩)
      exact (Keyed.get_put _ _ _ _).trans ((if_neg hne).trans hj)
    · change ∀ x y k l, (b.interactions.put i.interactionId i).get k = some x →
        (b.interactions.put i.interactionId i).get l = some y → x.joinKey = y.joinKey → k = l
      intro x y k l hx hy heq
      rcases hget k x hx with ⟨rfl,rfl⟩ | hx
      · rcases hget l y hy with ⟨rfl,-⟩ | hy
        · rfl
        · exact absurd heq.symm (hkeys l y hy)
      · rcases hget l y hy with ⟨-,hyi⟩ | hy
        · exact absurd (hyi ▸ heq) (hkeys k x hx)
        · exact hs x y k l hx hy heq
    · rcases hget k j hj with ⟨rfl,rfl⟩ | hj
      · rfl
      · exact hs k j hj

theorem linkActor_grows {actorId subjectRef evidenceRef eventId r : String} {confidence now : ℤ}
    (h : b.linkActor actorId subjectRef confidence evidenceRef now eventId = .ok (r,b')) :
    Grows b b' [eventId] := by
  simp only [linkActor,bind_ok] at h
  obtain ⟨actor,-,key,-,-,-,subject,-,-,-,c,-,evidence,-,t,-,linkRefs,-,refs,-,h⟩ := h
  cases h
  refine Frames.append (.of_actors rfl rfl rfl rfl rfl) rfl rfl ?_
  have hlinked : removePrefix "subject." "subject.actor-linked" = "actor-linked" := by decide
  simp [Joined,startsWith,hlinked]

theorem setCircle_grows {subjectRef evidenceRef eventId r : String} {circle : Circle}
    {confidence now : ℤ} {labels : List String}
    (h : b.setCircle subjectRef circle confidence evidenceRef labels now eventId = .ok (r,b')) :
    Grows b b' [eventId] := by
  simp only [setCircle,bind_ok] at h
  obtain ⟨key,-,-,-,c,-,evidence,-,t,-,existing,-,ls,-,refs,-,h⟩ := h
  cases h
  exact Frames.append (.of_actors rfl rfl rfl rfl rfl) rfl rfl
    (joined_relationship "relationship.circle-set" rfl (by decide) (by decide))

theorem setContextTrust_grows {subjectRef context evidenceRef eventId r : String}
    {estimate confidence now : ℤ}
    (h : b.setContextTrust subjectRef context estimate confidence evidenceRef now eventId =
      .ok (r,b')) : Grows b b' [eventId] := by
  simp only [setContextTrust,bind_ok] at h
  obtain ⟨key,-,relationship,-,x,-,y,-,t,-,n,-,c,-,trusted,-,h⟩ := h
  cases h
  exact Frames.append (.of_actors rfl rfl rfl rfl rfl) rfl rfl
    (joined_relationship "relationship.context-trust-set" rfl (by decide) (by decide))

theorem setRelationshipState_grows {subjectRef eventType evidenceRef eventId r : String}
    {state : RelationshipState} {now : ℤ}
    (h : b.setRelationshipState subjectRef state eventType evidenceRef now eventId = .ok (r,b'))
    (htype : startsWith "relationship." eventType = true)
    (hdecision : startsWith "relationship.suggestion-" eventType = false) :
    Grows b b' [eventId] := by
  simp only [setRelationshipState,bind_ok] at h
  obtain ⟨-,-,key,-,relationship,-,h⟩ := h
  split at h
  · cases h
    exact .refl b _
  · simp only [bind_ok] at h
    obtain ⟨-,-,evidence,-,t,-,refs,-,h⟩ := h
    cases h
    exact Frames.append (.of_actors rfl rfl rfl rfl rfl) rfl rfl (joined_relationship eventType rfl htype hdecision)

theorem applySuggestion_grows {s : Suggestion} {subjectRef evidence eventId : String} {now : ℤ}
    (h : b.applySuggestion s subjectRef evidence now eventId = .ok b') : Grows b b' [eventId] := by
  simp only [applySuggestion,bind_ok] at h
  obtain ⟨relationship,-,h⟩ := h
  split at h
  · simp only [bind_ok] at h
    obtain ⟨refs,-,h⟩ := h
    cases h
    exact Frames.append (.of_actors rfl rfl rfl rfl rfl) rfl rfl
      (joined_relationship "relationship.circle-set" rfl (by decide) (by decide))
  · simp only [bind_ok] at h
    obtain ⟨trusted,-,h⟩ := h
    cases h
    exact Frames.append (.of_actors rfl rfl rfl rfl rfl) rfl rfl
      (joined_relationship "relationship.context-trust-set" rfl (by decide) (by decide))

theorem revokeActor_grows {actorId evidenceRef eventId : String} {now : ℤ} {u : Unit}
    (h : b.revokeActor actorId evidenceRef now eventId = .ok (u,b')) : Grows b b' [eventId] := by
  simp only [revokeActor] at h
  split at h
  · cases h
    exact .refl b _
  · next actor hactor =>
    split at h
    · cases h
      exact .refl b _
    · simp only [bind_ok] at h
      obtain ⟨evidence,-,t,-,refs,-,-,-,h⟩ := h
      cases h
      refine Frames.append ⟨rfl,fun a x hx => ?_,List.prefix_rfl,fun _ _ hd => hd,rfl⟩ rfl rfl ?_
      · by_cases ha : a = strip actorId
        · subst ha
          rw [hactor] at hx
          cases hx
          exact ⟨_,(Keyed.get_put _ _ _ _).trans (if_pos rfl),rfl⟩
        · exact ⟨x,(Keyed.get_put _ _ _ _).trans ((if_neg ha).trans hx),rfl⟩
      · exact joined_actor "actor.revoked" rfl (by decide) (by simp [appendEvent])

theorem startsWith_append (pre s : String) : startsWith pre (pre ++ s) = true := by
  rw [startsWith,String.toList_append,List.isPrefixOf_iff_prefix]
  exact List.prefix_append _ _

theorem removePrefix_append (pre s : String) : removePrefix pre (pre ++ s) = s := by
  rw [removePrefix,if_pos (startsWith_append pre s),String.toList_append,List.drop_left,
    String.ofList_toList]

theorem applyAccepted_grows {s : Suggestion} {accepted : Bool} {subjectRef evidence eventId : String}
    {now : ℤ} (h : b.applyAccepted s accepted subjectRef evidence now eventId = .ok b') :
    Grows b b' [eventId] ∧ b'.suggestionDecisions = b.suggestionDecisions := by
  unfold applyAccepted at h
  split at h
  · refine ⟨applySuggestion_grows h,?_⟩
    simp only [applySuggestion,bind_ok] at h
    obtain ⟨relationship,-,h⟩ := h
    split at h
    · simp only [bind_ok] at h
      obtain ⟨refs,-,h⟩ := h
      cases h
      rfl
    · simp only [bind_ok] at h
      obtain ⟨trusted,-,h⟩ := h
      cases h
      rfl
  · cases h
    exact ⟨.refl b _,rfl⟩

/-- The event of a decision is joined with it. -/
theorem joined_decision (accepted : Bool) {e : RelationshipEvent} {suggestionId : String}
    (htype : e.eventType = if accepted then "relationship.suggestion-accepted"
      else "relationship.suggestion-rejected") (hevidence : e.evidenceRef = "suggestion:" ++ suggestionId)
    (hdecision : (b.suggestionDecisions.get suggestionId).isSome = true) : Joined b e := by
  have hfor : (b.decisionFor e).isSome = true := by
    rwa [decisionFor,suggestionOf,hevidence,if_pos (startsWith_append _ _),removePrefix_append]
  have hkinds : startsWith "actor." e.eventType = false ∧ e.eventType ≠ "interaction.observed" ∧
      startsWith "subject." e.eventType = false ∧
      startsWith "relationship.suggestion-" e.eventType = true := by
    rw [htype]
    cases accepted <;> decide
  rw [Joined,if_neg (by simp [hkinds.1]),if_neg hkinds.2.1,if_neg (by simp [hkinds.2.2.1]),
    if_pos hkinds.2.2.2]
  exact hfor

theorem decideSuggestion_grows {decisionId : String → String → String} {s : Suggestion}
    {accepted : Bool} {rationale appliedEventId eventId : String} {now : ℤ} {d : SuggestionDecision}
    (h : decideSuggestion decisionId b s accepted rationale now appliedEventId eventId =
      .ok (d,b')) : Grows b b' [appliedEventId,eventId] := by
  simp only [decideSuggestion,bind_ok,raiseIf_ok] at h
  obtain ⟨id,-,-,-,h⟩ := h
  split at h
  · simp only [bind_ok] at h
    obtain ⟨-,-,h⟩ := h
    cases h
    exact .refl b _
  · next hnone =>
    simp only [bind_ok,raiseIf_ok] at h
    obtain ⟨ty,-,ref,-,-,-,reason,-,c,-,-,-,-,-,-,-,t,-,applied,happlied,h⟩ := h
    cases h
    obtain ⟨hgrows,hsame⟩ := applyAccepted_grows happlied
    refine hgrows.trans (Frames.append ⟨rfl,fun _ x hx => ⟨x,hx,rfl⟩,List.prefix_rfl,
      fun k d hd => ?_,rfl⟩ rfl rfl ?_)
    · have hne : k ≠ id := by
        rintro rfl
        rw [hsame,hnone] at hd
        cases hd
      exact (Keyed.get_put _ _ _ _).trans ((if_neg hne).trans hd)
    · exact joined_decision accepted rfl rfl (by simp [appendEvent])

/-- The event that a transition records for one source. -/
def transitionEvent (t : SubjectTransition) (eventIds : ℕ → String) (source : String × ℕ) :
    RelationshipEvent :=
  ⟨eventIds source.2,s!"subject.{t.transitionType.text}","",source.1,t.evidenceRef,t.observedMs,[]⟩

/-- A part of a transition that records events and touches none of the records they join. -/
structure Records (b b' : RelationshipBook) (new : List RelationshipEvent) : Prop where
  own : b'.ownActorId = b.ownActorId
  events : b'.events = b.events ++ new
  actors : b'.actors = b.actors
  decisions : b'.suggestionDecisions = b.suggestionDecisions
  interactions : b'.interactions = b.interactions

theorem Records.trans {new new' : List RelationshipEvent} (h : Records b b' new)
    (h' : Records b' b'' new') : Records b b'' (new ++ new') := by
  refine ⟨h'.own.trans h.own,?_,h'.actors.trans h.actors,h'.decisions.trans h.decisions,
    h'.interactions.trans h.interactions⟩
  rw [h'.events,h.events,List.append_assoc]

theorem supersedeSource_records {t : SubjectTransition} {eventIds : ℕ → String}
    {source : String × ℕ} (h : supersedeSource t eventIds b source = .ok b') :
    Records b b' [transitionEvent t eventIds source] := by
  simp only [supersedeSource,bind_ok] at h
  obtain ⟨s,-,refs,-,e,-,refs',-,h⟩ := h
  cases h
  exact ⟨rfl,rfl,rfl,rfl,rfl⟩

theorem addReplacement_records {before : RelationshipBook} {t : SubjectTransition}
    {inheritance : Option (String × String)} {p : String × SubjectHypothesis}
    (h : addReplacement before t inheritance b p = .ok b') : Records b b' [] := by
  simp only [addReplacement,bind_ok] at h
  obtain ⟨source,-,e,-,h⟩ := h
  cases h
  exact ⟨rfl,(List.append_nil _).symm,rfl,rfl,rfl⟩

theorem retire_records {t : SubjectTransition} {eventIds : ℕ → String} {l : List (String × ℕ)}
    (h : l.foldlM (supersedeSource t eventIds) b = .ok b') :
    Records b b' (l.map (transitionEvent t eventIds)) := by
  induction l generalizing b with
  | nil =>
    cases h
    exact ⟨rfl,by simp,rfl,rfl,rfl⟩
  | cons x l ih =>
    rw [List.foldlM_cons] at h
    obtain ⟨b1,hfirst,hrest⟩ := bind_ok.mp h
    exact (supersedeSource_records hfirst).trans (ih hrest)

theorem replace_records {before : RelationshipBook} {t : SubjectTransition}
    {inheritance : Option (String × String)} {l : List (String × SubjectHypothesis)}
    (h : l.foldlM (addReplacement before t inheritance) b = .ok b') : Records b b' [] := by
  induction l generalizing b with
  | nil =>
    cases h
    exact ⟨rfl,by simp,rfl,rfl,rfl⟩
  | cons x l ih =>
    rw [List.foldlM_cons] at h
    obtain ⟨b1,hfirst,hrest⟩ := bind_ok.mp h
    exact (addReplacement_records hfirst).trans (ih hrest)

theorem transition_kinds (k : TransitionType) : startsWith "actor." s!"subject.{k.text}" = false ∧
    s!"subject.{k.text}" ≠ "interaction.observed" ∧
    startsWith "subject." s!"subject.{k.text}" = true := by
  cases k <;> decide

/-- The event of a source is joined with its transition. -/
theorem joined_transition {t : SubjectTransition} {eventIds : ℕ → String} {source : String × ℕ}
    (ht : t ∈ b.transitions) (hsource : source.1 ∈ t.sourceSubjectRefs) :
    Joined b (transitionEvent t eventIds source) := by
  have htext : removePrefix "subject." s!"subject.{t.transitionType.text}" =
      t.transitionType.text := removePrefix_append "subject." _
  have hfor : (b.transitionFor (transitionEvent t eventIds source)).isSome = true := by
    rw [transitionFor,List.find?_isSome]
    exact ⟨t,ht,by simp [transitionEvent,htext,hsource]⟩
  have hkinds : startsWith "actor." (transitionEvent t eventIds source).eventType = false ∧
      (transitionEvent t eventIds source).eventType ≠ "interaction.observed" ∧
      startsWith "subject." (transitionEvent t eventIds source).eventType = true :=
    transition_kinds t.transitionType
  rw [Joined,if_neg (by simp [hkinds.1]),if_neg hkinds.2.1,if_pos hkinds.2.2]
  exact .inr hfor

theorem commit_grows {t t' : SubjectTransition} {replacements : List (String × SubjectHypothesis)}
    {inheritance : Option (String × String)} {eventIds : ℕ → String}
    (h : b.commitSubjectTransition t replacements inheritance eventIds = .ok (t',b')) :
    Grows b b' (t.sourceSubjectRefs.zipIdx.map fun s => eventIds s.2) := by
  simp only [commitSubjectTransition,bind_ok] at h
  obtain ⟨-,-,retired,hretired,replaced,hreplaced,-,-,h⟩ := h
  cases h
  have hrecords := (retire_records hretired).trans (replace_records hreplaced)
  rw [List.append_nil] at hrecords
  have hframes : Frames b { replaced with transitions := b.transitions ++ [t] } := by
    refine ⟨hrecords.own,fun a x hx => ⟨x,?_,rfl⟩,List.prefix_append _ _,fun k d hd => ?_,
      hrecords.interactions⟩
    · exact hrecords.actors ▸ hx
    · exact hrecords.decisions ▸ hd
  have hgrows := hframes.appendAll hrecords.events fun e he => ?_
  · rw [List.map_map] at hgrows
    exact hgrows
  · obtain ⟨source,hsource,rfl⟩ := List.mem_map.mp he
    refine joined_transition (List.mem_append_right _ (List.mem_singleton_self t)) ?_
    have hmem := List.mem_map_of_mem (f := Prod.fst) hsource
    rwa [List.zipIdx_map_fst] at hmem

end RelationshipBook
end Anet.Relations
