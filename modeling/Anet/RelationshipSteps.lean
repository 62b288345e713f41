import Anet.RelationshipLineage

/-! What each operation of a relationship book does to the lineage of its Subjects. -/
namespace Anet.Relations

namespace RelationshipBook

variable {b b' b'' : RelationshipBook}

theorem strongest_mem {l : List ((ℤ × ℤ × String) × SubjectHypothesis)} {c}
    (h : strongest l = some c) : c ∈ l := by
  induction l generalizing c with
  | nil => cases h
  | cons x l ih =>
    simp only [strongest] at h
    split at h
    · cases h
      exact List.mem_cons_self ..
    · next m hm =>
      split at h
      · cases h
        exact List.mem_cons_self ..
      · cases h
        exact List.mem_cons_of_mem _ (ih hm)

theorem primarySubject_cases {a r : String} {s : SubjectHypothesis}
    (h : b.primarySubject a = some (r,s)) :
    b.subjects.get r = some s ∧ s.state = .active ∧ Links s a := by
  obtain ⟨c,hc,heq⟩ := Option.map_eq_some_iff.mp h
  obtain ⟨e,he,hsome⟩ := List.mem_filterMap.mp (strongest_mem hc)
  split at hsome
  · next hactive =>
    obtain ⟨l,hl,rfl⟩ := Option.map_eq_some_iff.mp hsome
    cases heq
    exact ⟨Keyed.get_eq_some.mpr he,hactive,Option.isSome_iff_exists.mpr ⟨l,hl⟩⟩
  · cases hsome

/-- A reference drawn for a new Subject. -/
def NewRef (b : RelationshipBook) (ref : String) : Prop :=
  strip ref = ref ∧ b.subjects.get ref = none

theorem Edit.refl (b : RelationshipBook) : Edit b b := .frame b b (fun _ => rfl) rfl rfl rfl

theorem observeTypedActor_edit {o : ActorObservation} {confidence now : ℤ} {ref eventId r : String}
    (h : b.observeTypedActor o confidence now ref eventId = .ok (r,b'))
    (hnew : b.NewRef ref) : Edit b b' ∧ b'.InState r .active := by
  simp only [observeTypedActor,bind_ok,raiseIf_ok] at h
  obtain ⟨-,-,-,-,c,-,t,-,-,-,h⟩ := h
  split at h
  · next hnone =>
    cases h
    refine ⟨.observed _ _ o.actorId ref ⟨.active,[],
      Keyed.empty.put o.actorId ⟨c,[o.proof.evidenceRef],t⟩,[o.proof.evidenceRef],t⟩ _ hnew.1 hnew.2
      (fun x hx => ?_) rfl rfl ?_ rfl rfl,?_⟩
    · simp only [appendEvent,Keyed.get_put] at hx
      split at hx
      · next heq => exact .inl heq
      · exact .inr hx
    · simp [Links]
    · exact ⟨_,(Keyed.get_put _ _ _ _).trans (if_pos rfl),rfl⟩
  · next actor hactor =>
    simp only [bind_ok,raiseIf_ok] at h
    obtain ⟨-,-,h⟩ := h
    split at h
    · simp only [bind_ok,fetched_ok] at h
      obtain ⟨subject,hsubject,h⟩ := h
      cases h
      obtain ⟨hget,hactive,-⟩ := primarySubject_cases hsubject
      exact ⟨.refl b,⟨_,hget,hactive⟩⟩
    · simp only [bind_ok,fetched_ok] at h
      obtain ⟨refs,-,-,-,subject,hsubject,h⟩ := h
      cases h
      obtain ⟨hget,hactive,-⟩ := primarySubject_cases hsubject
      refine ⟨.frame _ _ (fun x => ?_) rfl rfl rfl,⟨_,hget,hactive⟩⟩
      simp only [appendEvent,Keyed.get_put]
      split
      · next heq => simp [heq,hactor]
      · rfl

theorem observeActor_edit {card : Card} {evidenceRef : String} {confidence now : ℤ}
    {ref eventId r : String}
    (h : b.observeActor card evidenceRef confidence now ref eventId = .ok (r,b'))
    (hnew : b.NewRef ref) : Edit b b' ∧ b'.InState r .active := by
  simp only [observeActor,bind_ok] at h
  obtain ⟨-,-,-,-,evidence,-,c,-,t,-,h⟩ := h
  exact observeTypedActor_edit h hnew

theorem recordInteraction_edit {i : InteractionEvidence} {eventId : String} {new : Bool}
    (h : b.recordInteraction i eventId = .ok (new,b')) : Edit b b' := by
  unfold recordInteraction at h
  split at h
  · cases h
    exact .refl b
  · simp only [bind_ok] at h
    obtain ⟨-,-,subject,-,-,-,h⟩ := h
    cases h
    exact .frame _ _ (fun _ => rfl) rfl rfl rfl

theorem linkActor_edit {actorId subjectRef evidenceRef eventId r : String} {confidence now : ℤ}
    (h : b.linkActor actorId subjectRef confidence evidenceRef now eventId = .ok (r,b')) :
    Edit b b' := by
  simp only [linkActor,bind_ok,raiseIf_ok,fetched_ok,not_not,ne_eq] at h
  obtain ⟨actor,-,key,-,-,-,subject,hsubject,-,hactive,c,-,evidence,-,t,-,linkRefs,-,refs,-,h⟩ := h
  cases h
  refine .linked _ _ r subject _ hsubject hactive rfl rfl rfl (fun x hx => ?_) rfl rfl
  simp only [Links,Keyed.get_put]
  split
  · rfl
  · exact hx

/-- The condition for `set_circle`: its Subject is not superseded. -/
def CurrentSubject (b : RelationshipBook) (subjectRef : String) : Prop :=
  ∀ s ∈ b.subjects.get (strip subjectRef), s.state = .active

theorem setCircle_edit {subjectRef evidenceRef eventId r : String} {circle : Circle}
    {confidence now : ℤ} {labels : List String}
    (h : b.setCircle subjectRef circle confidence evidenceRef labels now eventId = .ok (r,b'))
    (hcurrent : b.CurrentSubject subjectRef) : Edit b b' := by
  simp only [setCircle,boundedText,bind_ok,raiseIf_ok,fetched_ok] at h
  obtain ⟨key,⟨-,-,hkey⟩,-,hknown,c,-,evidence,-,t,-,existing,-,ls,-,refs,-,h⟩ := h
  cases hkey
  cases h
  refine .estimated _ _ _ _ rfl rfl rfl (fun _ => .inl ?_) rfl
  cases hs : b.subjects.get (strip subjectRef) with
  | none => simp [hs] at hknown
  | some s => exact ⟨s,hs,hcurrent s hs⟩

theorem withTrust_state {r r' : RelationshipEstimate} {context evidence : String}
    {estimate confidence now : ℤ} (h : withTrust r context estimate confidence evidence now = .ok r') :
    r'.state = r.state := by
  simp only [withTrust,bind_ok] at h
  obtain ⟨x,-,y,-,h⟩ := h
  cases h
  rfl

theorem setContextTrust_edit {subjectRef context evidenceRef eventId r : String}
    {estimate confidence now : ℤ}
    (h : b.setContextTrust subjectRef context estimate confidence evidenceRef now eventId =
      .ok (r,b')) : Edit b b' := by
  simp only [setContextTrust,bind_ok,fetched_ok] at h
  obtain ⟨key,-,relationship,hrelationship,x,-,y,-,t,-,n,-,c,-,trusted,htrusted,h⟩ := h
  cases h
  refine .estimated _ _ r trusted rfl rfl rfl (fun hactive => .inr ⟨relationship,hrelationship,?_⟩)
    rfl
  rw [← withTrust_state htrusted,hactive]

theorem setRelationshipState_edit {subjectRef eventType evidenceRef eventId r : String}
    {state : RelationshipState} {now : ℤ}
    (h : b.setRelationshipState subjectRef state eventType evidenceRef now eventId = .ok (r,b')) :
    Edit b b' := by
  simp only [setRelationshipState,bind_ok,raiseIf_ok,fetched_ok] at h
  obtain ⟨-,hstate,key,-,relationship,hrelationship,h⟩ := h
  split at h
  · cases h
    exact .refl b
  · simp only [bind_ok] at h
    obtain ⟨-,-,evidence,-,t,-,refs,-,h⟩ := h
    cases h
    exact .estimated _ _ r _ rfl rfl rfl (fun hactive => absurd hactive hstate) rfl

theorem applySuggestion_edit {s : Suggestion} {subjectRef evidence eventId : String} {now : ℤ}
    (h : b.applySuggestion s subjectRef evidence now eventId = .ok b')
    (hactive : b.InState subjectRef .active) : Edit b b' := by
  simp only [applySuggestion,bind_ok,fetched_ok] at h
  obtain ⟨relationship,hrelationship,h⟩ := h
  split at h
  · simp only [bind_ok] at h
    obtain ⟨refs,-,h⟩ := h
    cases h
    exact .estimated _ _ subjectRef _ rfl rfl rfl (fun _ => .inl hactive) rfl
  · simp only [bind_ok] at h
    obtain ⟨trusted,htrusted,h⟩ := h
    cases h
    refine .estimated _ _ subjectRef trusted rfl rfl rfl
      (fun hstate => .inr ⟨relationship,hrelationship,?_⟩) rfl
    rw [← withTrust_state htrusted,hstate]

theorem decideSuggestion_edit {decisionId : String → String → String} {s : Suggestion}
    {accepted : Bool} {rationale appliedEventId eventId : String} {now : ℤ} {d : SuggestionDecision}
    (h : decideSuggestion decisionId b s accepted rationale now appliedEventId eventId =
      .ok (d,b')) : Reaches Edit b b' := by
  simp only [decideSuggestion,bind_ok,raiseIf_ok] at h
  obtain ⟨id,-,-,-,h⟩ := h
  split at h
  · simp only [bind_ok] at h
    obtain ⟨-,-,h⟩ := h
    cases h
    exact .refl
  · simp only [bind_ok,raiseIf_ok] at h
    obtain ⟨ty,-,ref,-,-,hactive,reason,-,c,-,-,-,-,-,-,-,t,-,applied,happlied,h⟩ := h
    cases h
    have hsubject : b.InState ref .active := by
      simpa only [InState,not_forall,not_not,exists_prop,ne_eq] using hactive
    unfold applyAccepted at happlied
    split at happlied
    · have happlied := applySuggestion_edit happlied hsubject
      exact (Relation.ReflTransGen.single happlied).tail (.frame _ _ (fun _ => rfl) rfl rfl rfl)
    · cases happlied
      exact .single (.frame _ _ (fun _ => rfl) rfl rfl rfl)

theorem revokeActor_edit {actorId evidenceRef eventId : String} {now : ℤ} {u : Unit}
    (h : b.revokeActor actorId evidenceRef now eventId = .ok (u,b')) : Edit b b' := by
  simp only [revokeActor] at h
  split at h
  · cases h
    exact .refl b
  · next actor hactor =>
    split at h
    · cases h
      exact .refl b
    · simp only [bind_ok] at h
      obtain ⟨evidence,-,t,-,refs,-,-,-,h⟩ := h
      cases h
      refine .frame _ _ (fun x => ?_) rfl rfl rfl
      simp only [appendEvent,Keyed.get_put]
      split
      · next heq => simp [heq,hactor]
      · rfl

/-- Sources that a transition has retired. -/
structure Retired (b b' : RelationshipBook) (refs : List String) : Prop where
  actors : b'.actors = b.actors
  sources : ∀ r ∈ refs, ∃ s ∈ b.subjects.get r, ∃ s' ∈ b'.subjects.get r,
    s'.state = .superseded ∧ s'.actorLinks = s.actorLinks
  dormant : ∀ r ∈ refs, ∀ e ∈ b'.relationships.get r, e.state ≠ .active
  others : ∀ r, r ∉ refs →
    b'.subjects.get r = b.subjects.get r ∧ b'.relationships.get r = b.relationships.get r

theorem supersedeSource_retired {t : SubjectTransition} {eventIds : ℕ → String}
    {source : String × ℕ} (h : supersedeSource t eventIds b source = .ok b') :
    Retired b b' [source.1] := by
  simp only [supersedeSource,bind_ok,fetched_ok] at h
  obtain ⟨s,hs,refs,-,e,he,refs',-,h⟩ := h
  cases h
  refine ⟨rfl,fun r hr => ?_,fun r hr x hx => ?_,fun r hr => ?_⟩
  · cases List.mem_singleton.mp hr
    exact ⟨s,hs,_,(Keyed.get_put _ _ _ _).trans (if_pos rfl),rfl,rfl⟩
  · cases List.mem_singleton.mp hr
    simp only [appendEvent,Keyed.get_put,if_pos,Option.mem_def,Option.some.injEq] at hx
    subst hx
    simp only
    split <;> simp [*]
  · rw [List.mem_singleton] at hr
    simp [appendEvent,hr]

theorem retire_cases {t : SubjectTransition} {eventIds : ℕ → String} {l : List (String × ℕ)}
    (h : l.foldlM (supersedeSource t eventIds) b = .ok b') (hnodup : (l.map Prod.fst).Nodup) :
    Retired b b' (l.map Prod.fst) := by
  induction l generalizing b with
  | nil =>
    cases h
    exact ⟨rfl,by simp,by simp,fun r _ => ⟨rfl,rfl⟩⟩
  | cons x l ih =>
    rw [List.foldlM_cons] at h
    obtain ⟨b1,hfirst,hrest⟩ := bind_ok.mp h
    rw [List.map_cons,List.nodup_cons] at hnodup
    have hx := supersedeSource_retired hfirst
    have hl := ih hrest hnodup.2
    have hsame := hl.others x.1 hnodup.1
    rw [List.map_cons]
    refine ⟨hl.actors.trans hx.actors,fun r hr => ?_,fun r hr e he => ?_,fun r hr => ?_⟩
    · rcases List.mem_cons.mp hr with rfl | hr
      · obtain ⟨s,hs,s',hs',hstate⟩ := hx.sources x.1 (List.mem_singleton_self _)
        exact ⟨s,hs,s',by rwa [hsame.1],hstate⟩
      · obtain ⟨s,hs,hrest⟩ := hl.sources r hr
        have hne : r ∉ [x.1] := fun hmem => hnodup.1 (List.mem_singleton.mp hmem ▸ hr)
        rw [(hx.others r hne).1] at hs
        exact ⟨s,hs,hrest⟩
    · rcases List.mem_cons.mp hr with rfl | hr
      · rw [hsame.2] at he
        exact hx.dormant x.1 (List.mem_singleton_self _) e he
      · exact hl.dormant r hr e he
    · rw [List.mem_cons,not_or] at hr
      have hold := hx.others r (by simpa using hr.1)
      have hnew := hl.others r hr.2
      exact ⟨hnew.1.trans hold.1,hnew.2.trans hold.2⟩

/-- Replacements that a transition has added. -/
structure Replaced (before : RelationshipBook) (inheritance : Option (String × String))
    (b b' : RelationshipBook) (replacements : List (String × SubjectHypothesis)) : Prop where
  actors : b'.actors = b.actors
  added : ∀ p ∈ replacements, b'.subjects.get p.1 = some p.2 ∧ ∃ e ∈ b'.relationships.get p.1,
    (∀ h ∈ inheritance, h.1 = p.1 → ∃ e0 ∈ before.relationships.get h.2, Inherits e0 e) ∧
    ((∀ h ∈ inheritance, h.1 ≠ p.1) → Unknown e)
  others : ∀ r, r ∉ replacements.map Prod.fst →
    b'.subjects.get r = b.subjects.get r ∧ b'.relationships.get r = b.relationships.get r

theorem replacementRelationship_cases {source : Option RelationshipEstimate} {evidenceRef : String}
    {now : ℤ} {e : RelationshipEstimate}
    (h : replacementRelationship source evidenceRef now = .ok e) :
    (∀ e0 ∈ source, Inherits e0 e) ∧ (source = none → Unknown e) := by
  cases source with
  | none =>
    cases h
    exact ⟨by simp,fun _ => ⟨rfl,rfl,rfl⟩⟩
  | some e0 =>
    simp only [replacementRelationship,bind_ok] at h
    obtain ⟨refs,-,h⟩ := h
    cases h
    exact ⟨by simpa using ⟨rfl,rfl,rfl⟩,by simp⟩

theorem addReplacement_replaced {before : RelationshipBook} {t : SubjectTransition}
    {inheritance : Option (String × String)} {p : String × SubjectHypothesis}
    (h : addReplacement before t inheritance b p = .ok b') :
    Replaced before inheritance b b' [p] := by
  simp only [addReplacement,bind_ok] at h
  obtain ⟨source,hsource,e,he,h⟩ := h
  cases h
  obtain ⟨hinherits,hunknown⟩ := replacementRelationship_cases he
  refine ⟨rfl,fun q hq => ?_,fun r hr => ?_⟩
  · cases List.mem_singleton.mp hq
    refine ⟨(Keyed.get_put _ _ _ _).trans (if_pos rfl),e,
      (Keyed.get_put _ _ _ _).trans (if_pos rfl),fun x hx heq => ?_,fun hne => ?_⟩
    · cases hx
      simp only [inheritedEstimate,heq,if_true] at hsource
      cases hget : before.relationships.get x.2 with
      | none =>
        rw [hget] at hsource
        cases hsource
      | some e0 =>
        rw [hget] at hsource
        cases hsource
        exact ⟨e0,rfl,hinherits e0 rfl⟩
    · cases inheritance with
      | none =>
        cases hsource
        exact hunknown rfl
      | some x =>
        simp only [inheritedEstimate,if_neg (hne x rfl)] at hsource
        cases hsource
        exact hunknown rfl
  · rw [List.map_singleton,List.mem_singleton] at hr
    simp [hr]

theorem replace_cases {before : RelationshipBook} {t : SubjectTransition}
    {inheritance : Option (String × String)} {l : List (String × SubjectHypothesis)}
    (h : l.foldlM (addReplacement before t inheritance) b = .ok b')
    (hnodup : (l.map Prod.fst).Nodup) : Replaced before inheritance b b' l := by
  induction l generalizing b with
  | nil =>
    cases h
    exact ⟨rfl,by simp,fun r _ => ⟨rfl,rfl⟩⟩
  | cons p l ih =>
    rw [List.foldlM_cons] at h
    obtain ⟨b1,hfirst,hrest⟩ := bind_ok.mp h
    rw [List.map_cons,List.nodup_cons] at hnodup
    have hp := addReplacement_replaced hfirst
    have hl := ih hrest hnodup.2
    have hsame := hl.others p.1 hnodup.1
    refine ⟨hl.actors.trans hp.actors,fun q hq => ?_,fun r hr => ?_⟩
    · rcases List.mem_cons.mp hq with rfl | hq
      · rw [hsame.1,hsame.2]
        exact hp.added q (List.mem_singleton_self _)
      · exact hl.added q hq
    · rw [List.map_cons,List.mem_cons,not_or] at hr
      have hold := hp.others r (by simpa using hr.1)
      have hnew := hl.others r hr.2
      exact ⟨hnew.1.trans hold.1,hnew.2.trans hold.2⟩

/-- The conditions under which a commit is a transition. -/
structure Proposed (b : RelationshipBook) (t : SubjectTransition)
    (replacements : List (String × SubjectHypothesis)) (inheritance : Option (String × String)) :
    Prop where
  refs : replacements.map Prod.fst = t.replacementSubjectRefs
  sources : ∀ r ∈ t.sourceSubjectRefs, b.InState r .active
  fresh : ∀ r ∈ t.replacementSubjectRefs, b.NewRef r
  active : ∀ p ∈ replacements, p.2.state = .active
  carried : ∀ a, (∃ p ∈ replacements, Links p.2 a) ↔ ∃ r ∈ t.sourceSubjectRefs, b.LinksAt r a
  disjoint : t.transitionType = .split → ∀ p ∈ replacements, ∀ q ∈ replacements, ∀ a,
    Links p.2 a → Links q.2 a → p.1 = q.1
  inherits : ∀ h ∈ inheritance, h.1 ∈ t.replacementSubjectRefs ∧ h.2 ∈ t.sourceSubjectRefs

theorem commit_transitioned {t t' : SubjectTransition}
    {replacements : List (String × SubjectHypothesis)} {inheritance : Option (String × String)}
    {eventIds : ℕ → String}
    (h : b.commitSubjectTransition t replacements inheritance eventIds = .ok (t',b'))
    (hp : Proposed b t replacements inheritance) : Transitioned b b' t' := by
  simp only [commitSubjectTransition,bind_ok,raiseIf_ok,not_not] at h
  obtain ⟨-,hdistinct,retired,hretired,replaced,hreplaced,-,-,h⟩ := h
  cases h
  have hsourceNodup : (t.sourceSubjectRefs.zipIdx.map Prod.fst).Nodup := by
    rw [List.zipIdx_map_fst]
    exact (List.nodup_append.mp hdistinct).1
  have hretire := retire_cases hretired hsourceNodup
  rw [List.zipIdx_map_fst] at hretire
  have hreplace := replace_cases hreplaced (by rw [hp.refs]; exact (List.nodup_append.mp hdistinct).2.1)
  have hapart : ∀ r ∈ t.sourceSubjectRefs, r ∉ replacements.map Prod.fst := by
    intro r hr hmem
    rw [hp.refs] at hmem
    exact (List.nodup_append.mp hdistinct).2.2 r hr r hmem rfl
  have hadded : ∀ r ∈ t.replacementSubjectRefs, ∃ p ∈ replacements, p.1 = r := by
    intro r hr
    rw [← hp.refs] at hr
    exact List.mem_map.mp hr
  have hlinks : ∀ p ∈ replacements, ∀ a, LinksAt { replaced with transitions := b.transitions ++ [t] }
      p.1 a ↔ Links p.2 a := by
    intro p hmem a
    have hget := (hreplace.added p hmem).1
    constructor
    · rintro ⟨s,hs,ha⟩
      cases Option.mem_unique hs hget
      exact ha
    · exact fun ha => ⟨p.2,hget,ha⟩
  refine ⟨rfl,hreplace.actors.trans hretire.actors,hdistinct,fun r hr => ⟨hp.sources r hr,?_⟩,
    fun r hr e he => ?_,fun r hr => ⟨(hp.fresh r hr).2,?_⟩,
    fun r hr => (hp.fresh r hr).1,fun r hrs hrr => ?_,fun a => ?_,
    fun hsplit r hr r' hr' a ha ha' => ?_,⟨inheritance,fun x hx => ?_,fun r hr hne => ?_⟩⟩
  · obtain ⟨s,hs,s',hs',hstate⟩ := hretire.sources r hr
    exact ⟨s,hs,s',(hreplace.others r (hapart r hr)).1.trans hs',hstate⟩
  · exact hretire.dormant r hr e ((hreplace.others r (hapart r hr)).2 ▸ he)
  · obtain ⟨p,hmem,rfl⟩ := hadded r hr
    exact ⟨p.2,(hreplace.added p hmem).1,hp.active p hmem⟩
  · rw [← hp.refs] at hrr
    have hold := hretire.others r hrs
    have hnew := hreplace.others r hrr
    exact ⟨hnew.1.trans hold.1,hnew.2.trans hold.2⟩
  · rw [← hp.carried a]
    constructor
    · rintro ⟨r,hr,ha⟩
      obtain ⟨p,hmem,rfl⟩ := hadded r hr
      exact ⟨p,hmem,(hlinks p hmem a).mp ha⟩
    · rintro ⟨p,hmem,ha⟩
      exact ⟨p.1,hp.refs ▸ List.mem_map_of_mem hmem,(hlinks p hmem a).mpr ha⟩
  · obtain ⟨p,hmem,rfl⟩ := hadded r hr
    obtain ⟨q,hmem',rfl⟩ := hadded r' hr'
    exact hp.disjoint hsplit p hmem q hmem' a ((hlinks p hmem a).mp ha) ((hlinks q hmem' a).mp ha')
  · obtain ⟨hheir,hsource⟩ := hp.inherits x hx
    obtain ⟨p,hmem,heq⟩ := hadded x.1 hheir
    obtain ⟨-,e,he,hinherits,-⟩ := hreplace.added p hmem
    obtain ⟨e0,he0,hi⟩ := hinherits x hx heq.symm
    exact ⟨hheir,hsource,e0,he0,e,heq ▸ he,hi⟩
  · obtain ⟨p,hmem,rfl⟩ := hadded r hr
    obtain ⟨-,e,he,-,hunknown⟩ := hreplace.added p hmem
    exact ⟨e,he,hunknown hne⟩

theorem links_iff {s : SubjectHypothesis} {a : String} : Links s a ↔ a ∈ linkedActors s := by
  unfold Links linkedActors
  rw [Option.isSome_iff_exists,List.mem_map]
  constructor
  · rintro ⟨l,hl⟩
    exact ⟨(a,l),Keyed.get_eq_some.mp hl,rfl⟩
  · rintro ⟨⟨a,l⟩,hl,rfl⟩
    exact ⟨l,Keyed.get_eq_some.mpr hl⟩

theorem carriedLinks_cases {evidence : String} {now : ℤ} {source : SubjectHypothesis}
    {actorIds : List String} {links : Keyed String SubjectActorLink}
    (h : carriedLinks evidence now source actorIds = .ok links) (a : String) :
    (links.get a).isSome ↔ a ∈ actorIds := by
  induction actorIds generalizing links with
  | nil =>
    cases h
    simp
  | cons x xs ih =>
    simp only [carriedLinks,bind_ok] at h
    obtain ⟨l,-,link,-,rest,hrest,h⟩ := h
    cases h
    rw [Keyed.get_put,List.mem_cons,← ih hrest]
    split
    · next heq => simp [heq]
    · next hne => simp [hne]

theorem replacementFor_cases {source s : SubjectHypothesis} {actorIds labels : List String}
    {evidence : String} {now : ℤ} (h : replacementFor source actorIds labels evidence now = .ok s) :
    s.state = .active ∧ ∀ a, Links s a ↔ a ∈ actorIds := by
  simp only [replacementFor,bind_ok] at h
  obtain ⟨ls,-,links,hlinks,refs,-,h⟩ := h
  cases h
  exact ⟨rfl,carriedLinks_cases hlinks⟩

theorem mergeLinks_cases {evidence : String} {now : ℤ} {l : List (String × SubjectActorLink)}
    {acc links : Keyed String SubjectActorLink} (h : mergeLinks evidence now l acc = .ok links)
    (a : String) : (links.get a).isSome ↔ a ∈ l.map Prod.fst ∨ (acc.get a).isSome := by
  induction l generalizing acc with
  | nil =>
    cases h
    simp
  | cons x l ih =>
    simp only [mergeLinks,bind_ok] at h
    obtain ⟨refs,-,h⟩ := h
    rw [ih h,Keyed.get_put,List.map_cons,List.mem_cons]
    split
    · next heq => simp [heq]
    · next hne => simp [hne]

theorem activeSource_cases {inactive ref : String} {s : SubjectHypothesis}
    (h : b.activeSource inactive ref = .ok s) : b.subjects.get ref = some s ∧ s.state = .active := by
  simp only [activeSource,bind_ok,fetched_ok,raiseIf_ok,not_not,ne_eq] at h
  obtain ⟨s',hs,-,hactive,h⟩ := h
  cases h
  exact ⟨hs,hactive⟩

/-- A Subject that there is links the Actors of its hypothesis. -/
theorem linksAt_iff {ref : String} {s : SubjectHypothesis} (hs : b.subjects.get ref = some s)
    (a : String) : b.LinksAt ref a ↔ Links s a := by
  constructor
  · rintro ⟨x,hx,ha⟩
    cases Option.mem_unique hx hs
    exact ha
  · exact fun ha => ⟨s,hs,ha⟩

/-- The results of `mapM` stand where their arguments stood. -/
theorem mapM_getElem {α β : Type} {f : α → Result β} {l : List α} {l' : List β}
    (h : l.mapM f = .ok l') (i : ℕ) : (l[i]? = none ∧ l'[i]? = none) ∨
      ∃ x y, l[i]? = some x ∧ l'[i]? = some y ∧ f x = .ok y := by
  induction l generalizing l' i with
  | nil =>
    rw [List.mapM_nil] at h
    cases h
    exact .inl ⟨rfl,rfl⟩
  | cons x l ih =>
    rw [List.mapM_cons] at h
    simp only [bind_ok] at h
    obtain ⟨y,hy,ys,hys,h⟩ := h
    cases h
    cases i with
    | zero => exact .inr ⟨x,y,rfl,rfl,hy⟩
    | succ i => simpa using ih hys i

/-- The Subjects and ids drawn for a transition are new. -/
def TransitionTerms.Fresh (x : TransitionTerms) (b : RelationshipBook) : Prop :=
  ∀ i, b.NewRef (x.refs i)

variable {x : TransitionTerms} {t : SubjectTransition}

theorem supersedeSubject_transitioned {subjectRef : String}
    (h : b.supersedeSubject subjectRef x = .ok (t,b')) (hfresh : x.Fresh b) :
    Transitioned b b' t := by
  simp only [supersedeSubject,bind_ok] at h
  obtain ⟨ref,-,source,hsource,terms,-,s,hs,h⟩ := h
  obtain ⟨hget,hactive⟩ := activeSource_cases hsource
  obtain ⟨hstate,hlinks⟩ := replacementFor_cases hs
  refine commit_transitioned h ⟨rfl,?_,?_,?_,fun a => ?_,(fun hsplit => by cases hsplit),?_⟩
  · simpa using ⟨source,hget,hactive⟩
  · simpa using hfresh 0
  · simpa using hstate
  · simpa [linksAt_iff hget a,links_iff (s := source)] using hlinks a
  · simp

theorem mergeSubjects_transitioned {subjectRefs : List String} {inheritRef : String}
    (h : b.mergeSubjects subjectRefs inheritRef x = .ok (t,b')) (hfresh : x.Fresh b) :
    Transitioned b b' t := by
  simp only [mergeSubjects,bind_ok,raiseIf_ok] at h
  obtain ⟨-,-,sources,hsources,-,hinherit,terms,-,links,hlinks,ls,-,refs,-,h⟩ := h
  have hsource : ∀ r ∈ firsts (subjectRefs.map strip), ∃ s ∈ sources, b.subjects.get r = some s ∧
      s.state = .active := by
    intro r hr
    obtain ⟨i,hi⟩ := List.mem_iff_getElem?.mp hr
    rcases mapM_getElem hsources i with ⟨hnone,-⟩ | ⟨r',s,hr',hs,hok⟩
    · rw [hi] at hnone
      cases hnone
    · rw [hi] at hr'
      cases hr'
      exact ⟨s,List.mem_of_getElem? hs,activeSource_cases hok⟩
  refine commit_transitioned h ⟨rfl,fun r hr => ?_,?_,?_,fun a => ?_,(fun hsplit => by cases hsplit),
    fun y hy => ?_⟩
  · obtain ⟨s,-,hs,hactive⟩ := hsource r hr
    exact ⟨s,hs,hactive⟩
  · simpa using hfresh 0
  · simp
  · have hlink := mergeLinks_cases hlinks a
    simp only [List.mem_singleton,exists_eq_left,Links]
    rw [hlink]
    simp only [Keyed.get_empty,Option.isSome_none,Bool.false_eq_true,or_false,List.mem_map,
      List.mem_flatMap]
    constructor
    · rintro ⟨e,⟨s,hs,he⟩,rfl⟩
      obtain ⟨r,hr,hok⟩ := mem_mapM hsources hs
      have hget := (activeSource_cases hok).1
      refine ⟨r,hr,(linksAt_iff hget e.1).mpr (links_iff.mpr ?_)⟩
      exact List.mem_map_of_mem he
    · rintro ⟨r,hr,ha⟩
      obtain ⟨s,hs,hget,-⟩ := hsource r hr
      obtain ⟨e,he,rfl⟩ := List.mem_map.mp (links_iff.mp ((linksAt_iff hget a).mp ha))
      exact ⟨e,⟨s,hs,he⟩,rfl⟩
  · split at hy
    · cases hy
    · next hne =>
      cases hy
      refine ⟨List.mem_singleton_self _,?_⟩
      by_contra habsent
      exact hinherit ⟨hne,habsent⟩

theorem splitSubject_transitioned {subjectRef : String} {groups : List (List String)}
    {inheritGroup : Option ℤ} (h : b.splitSubject subjectRef groups inheritGroup x = .ok (t,b'))
    (hfresh : x.Fresh b) : Transitioned b b' t := by
  simp only [splitSubject,bind_ok,raiseIf_ok,not_not] at h
  obtain ⟨ref,-,source,hsource,-,hgroups,-,hnodup,-,hpartition,-,hrange,terms,-,subjects,hsubjects,h⟩ :=
    h
  obtain ⟨hget,hactive⟩ := activeSource_cases hsource
  -- every replacement has the Actors of its own group
  have hreplacement : ∀ p ∈ subjects.zipIdx.map (fun s => (x.refs s.2,s.1)), ∃ i g,
      (groups.map fun g => firsts (g.map strip))[i]? = some g ∧ p.1 = x.refs i ∧
      p.2.state = .active ∧ ∀ a, Links p.2 a ↔ a ∈ g := by
    intro p hp
    obtain ⟨⟨s,i⟩,hs,rfl⟩ := List.mem_map.mp hp
    have hsi := List.mem_zipIdx_iff_getElem?.mp hs
    rcases mapM_getElem hsubjects i with ⟨-,hnone⟩ | ⟨g,s',hg,hs',hok⟩
    · rw [hsi] at hnone
      cases hnone
    · rw [hsi] at hs'
      cases hs'
      obtain ⟨hstate,hlinks⟩ := replacementFor_cases hok
      exact ⟨i,g,hg,rfl,hstate,hlinks⟩
  have hgroup : ∀ i g, (groups.map fun g => firsts (g.map strip))[i]? = some g →
      ∃ s, (x.refs i,s) ∈ subjects.zipIdx.map (fun s => (x.refs s.2,s.1)) ∧ ∀ a, Links s a ↔ a ∈ g := by
    intro i g hg
    rcases mapM_getElem hsubjects i with ⟨hnone,-⟩ | ⟨g',s,hg',hs,hok⟩
    · rw [hg] at hnone
      cases hnone
    · rw [hg] at hg'
      cases hg'
      exact ⟨s,List.mem_map.mpr ⟨(s,i),List.mem_zipIdx_iff_getElem?.mpr hs,rfl⟩,
        (replacementFor_cases hok).2⟩
  refine commit_transitioned h ⟨rfl,?_,fun r hr => ?_,fun p hp => ?_,fun a => ?_,
    fun _ p hp q hq a ha ha' => ?_,fun y hy => ?_⟩
  · simpa using ⟨source,hget,hactive⟩
  · obtain ⟨p,hp,rfl⟩ := List.mem_map.mp hr
    obtain ⟨i,g,-,heq,-,-⟩ := hreplacement p hp
    rw [heq]
    exact hfresh i
  · obtain ⟨i,g,-,-,hstate,-⟩ := hreplacement p hp
    exact hstate
  · rw [not_or] at hpartition
    have hall : a ∈ (groups.map fun g => firsts (g.map strip)).flatten ↔ Links source a := by
      constructor
      · intro ha
        by_contra hnot
        exact hpartition.1 ⟨a,ha,hnot⟩
      · intro ha
        by_contra hnot
        exact hpartition.2 ⟨a,links_iff.mp ha,hnot⟩
    simp only [List.mem_singleton,exists_eq_left]
    rw [linksAt_iff hget,← hall,List.mem_flatten]
    constructor
    · rintro ⟨p,hp,ha⟩
      obtain ⟨i,g,hg,-,-,hlinks⟩ := hreplacement p hp
      exact ⟨g,List.mem_of_getElem? hg,(hlinks a).mp ha⟩
    · rintro ⟨g,hg,ha⟩
      obtain ⟨i,hi⟩ := List.mem_iff_getElem?.mp hg
      obtain ⟨s,hs,hlinks⟩ := hgroup i g hi
      exact ⟨(x.refs i,s),hs,(hlinks a).mpr ha⟩
  · obtain ⟨i,g,hg,hi,-,hlinks⟩ := hreplacement p hp
    obtain ⟨j,g',hg',hj,-,hlinks'⟩ := hreplacement q hq
    have hsame : i = j := by
      obtain ⟨hlt,hgi⟩ := List.getElem?_eq_some_iff.mp hg
      obtain ⟨hlt',hgj⟩ := List.getElem?_eq_some_iff.mp hg'
      have hdisjoint := List.pairwise_iff_getElem.mp (List.nodup_flatten.mp hnodup).2
      rcases lt_trichotomy i j with hij | hij | hij
      · have hd := hdisjoint i j hlt hlt' hij
        rw [hgi,hgj] at hd
        exact absurd ((hlinks' a).mp ha') (hd ((hlinks a).mp ha))
      · exact hij
      · have hd := hdisjoint j i hlt' hlt hij
        rw [hgi,hgj] at hd
        exact absurd ((hlinks a).mp ha) (hd ((hlinks' a).mp ha'))
    rw [hi,hj,hsame]
  · cases hinherit : inheritGroup with
    | none =>
      rw [hinherit] at hy
      cases hy
    | some i =>
      rw [hinherit] at hy
      cases hy
      have hi : 0 ≤ i ∧ i < ((groups.map fun g => firsts (g.map strip)).length : ℤ) := by
        by_contra hnot
        exact hrange ⟨i,hinherit,by omega⟩
      have hlt : i.toNat < (groups.map fun g => firsts (g.map strip)).length := by omega
      obtain ⟨s,hs,-⟩ := hgroup i.toNat _ (List.getElem?_eq_getElem hlt)
      exact ⟨List.mem_map_of_mem (f := Prod.fst) hs,List.mem_singleton_self _⟩

end RelationshipBook
end Anet.Relations
