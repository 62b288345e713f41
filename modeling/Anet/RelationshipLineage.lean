import Anet.RelationshipBook
import Anet.Transition

/-! Subject lineage: whatever the operations of a relationship book, every Actor keeps an active
Subject, and what was superseded stays superseded, dormant and replaced once. -/
namespace Anet.Relations

namespace RelationshipBook

/-- The Subject is linked to the Actor. -/
def LinksAt (b : RelationshipBook) (ref actorId : String) : Prop :=
  ∃ s ∈ b.subjects.get ref, Links s actorId

/-- A Subject is in a state. -/
def InState (b : RelationshipBook) (ref : String) (state : SubjectState) : Prop :=
  ∃ s ∈ b.subjects.get ref, s.state = state

variable {b b' b'' : RelationshipBook}

/-- What a change other than a transition does to the Actors, Subjects and relationships. -/
inductive Edit : RelationshipBook → RelationshipBook → Prop
  | frame (b b' : RelationshipBook) (hactors : ∀ a, (b'.actors.get a).isSome = (b.actors.get a).isSome)
      (hsubjects : b'.subjects = b.subjects) (hrelationships : b'.relationships = b.relationships)
      (htransitions : b'.transitions = b.transitions) : Edit b b'
  | observed (b b' : RelationshipBook) (a ref : String) (s : SubjectHypothesis)
      (e : RelationshipEstimate) (hname : strip ref = ref) (hfresh : b.subjects.get ref = none)
      (hactors : ∀ x, (b'.actors.get x).isSome → x = a ∨ (b.actors.get x).isSome)
      (hsubjects : b'.subjects = b.subjects.put ref s) (hactive : s.state = .active)
      (hlink : Links s a) (hrelationships : b'.relationships = b.relationships.put ref e)
      (htransitions : b'.transitions = b.transitions) : Edit b b'
  | estimated (b b' : RelationshipBook) (ref : String) (e : RelationshipEstimate)
      (hactors : b'.actors = b.actors) (hsubjects : b'.subjects = b.subjects)
      (hrelationships : b'.relationships = b.relationships.put ref e)
      (hstate : e.state = .active → b.InState ref .active ∨
        ∃ x ∈ b.relationships.get ref, x.state = .active)
      (htransitions : b'.transitions = b.transitions) : Edit b b'
  | linked (b b' : RelationshipBook) (ref : String) (s s' : SubjectHypothesis)
      (hs : b.subjects.get ref = some s) (hactive : s.state = .active)
      (hactors : b'.actors = b.actors) (hsubjects : b'.subjects = b.subjects.put ref s') (hstate : s'.state = s.state)
      (hlinks : ∀ x, Links s x → Links s' x) (hrelationships : b'.relationships = b.relationships)
      (htransitions : b'.transitions = b.transitions) : Edit b b'

/-- An estimate taken over from another one. -/
structure Inherits (e e' : RelationshipEstimate) : Prop where
  circle : e'.circle = e.circle
  trust : e'.contextTrust = e.contextTrust
  labels : e'.relationshipLabels = e.relationshipLabels

/-- An estimate made anew. -/
structure Unknown (e : RelationshipEstimate) : Prop where
  circle : e.circle = .known
  trust : e.contextTrust.entries = []
  labels : e.relationshipLabels = []

/-- What a transition does: its sources are superseded and dormant, its replacements are new and
have the Actors of the sources, and one of them at most inherits a relationship. -/
structure Transitioned (b b' : RelationshipBook) (t : SubjectTransition) : Prop where
  transitions : b'.transitions = b.transitions ++ [t]
  actors : b'.actors = b.actors
  distinct : (t.sourceSubjectRefs ++ t.replacementSubjectRefs).Nodup
  sources : ∀ r ∈ t.sourceSubjectRefs, b.InState r .active ∧ ∃ s ∈ b.subjects.get r,
    ∃ s' ∈ b'.subjects.get r, s'.state = .superseded ∧ s'.actorLinks = s.actorLinks
  dormant : ∀ r ∈ t.sourceSubjectRefs, ∀ e ∈ b'.relationships.get r, e.state ≠ .active
  replacements : ∀ r ∈ t.replacementSubjectRefs,
    b.subjects.get r = none ∧ b'.InState r .active
  names : ∀ r ∈ t.replacementSubjectRefs, strip r = r
  others : ∀ r, r ∉ t.sourceSubjectRefs → r ∉ t.replacementSubjectRefs →
    b'.subjects.get r = b.subjects.get r ∧ b'.relationships.get r = b.relationships.get r
  carried : ∀ a, (∃ r ∈ t.replacementSubjectRefs, b'.LinksAt r a) ↔
    ∃ r ∈ t.sourceSubjectRefs, b.LinksAt r a
  disjoint : t.transitionType = .split → ∀ r ∈ t.replacementSubjectRefs,
    ∀ r' ∈ t.replacementSubjectRefs, ∀ a, b'.LinksAt r a → b'.LinksAt r' a → r = r'
  inherited : ∃ heir : Option (String × String),
    (∀ h ∈ heir, h.1 ∈ t.replacementSubjectRefs ∧ h.2 ∈ t.sourceSubjectRefs ∧
      ∃ e ∈ b.relationships.get h.2, ∃ e' ∈ b'.relationships.get h.1, Inherits e e') ∧
    ∀ r ∈ t.replacementSubjectRefs, (∀ h ∈ heir, h.1 ≠ r) →
      ∃ e ∈ b'.relationships.get r, Unknown e

/-- One Subject was replaced by another. -/
def Replaces (b : RelationshipBook) (r r' : String) : Prop :=
  ∃ t ∈ b.transitions, r ∈ t.sourceSubjectRefs ∧ r' ∈ t.replacementSubjectRefs

/-- The lineage of the Subjects of a book. -/
structure Lineage (b : RelationshipBook) : Prop where
  linked : ∀ a, (b.actors.get a).isSome → ∃ r, b.InState r .active ∧ b.LinksAt r a
  outgoing : ∀ r, b.InState r .superseded →
    ∃ t, b.transitions.filter (fun t => r ∈ t.sourceSubjectRefs) = [t]
  acyclic : ∀ r, ¬ Relation.TransGen b.Replaces r r
  carried : ∀ t ∈ b.transitions, ∀ a, (∃ r ∈ t.sourceSubjectRefs, b.LinksAt r a) →
    ∃ r ∈ t.replacementSubjectRefs, b.LinksAt r a
  dormant : ∀ r, b.InState r .superseded → ∀ e ∈ b.relationships.get r, e.state ≠ .active

/-- With what its steps need besides: how Subjects are named, and which of them transitions name. -/
structure Kept (b : RelationshipBook) : Prop where
  lineage : Lineage b
  names : ∀ r, (b.subjects.get r).isSome → strip r = r
  sources : ∀ t ∈ b.transitions, ∀ r ∈ t.sourceSubjectRefs, b.InState r .superseded
  replacements : ∀ t ∈ b.transitions, ∀ r ∈ t.replacementSubjectRefs, (b.subjects.get r).isSome

theorem InState.eq {ref : String} {state state' : SubjectState} (h : b.InState ref state)
    (h' : b.InState ref state') : state = state' := by
  obtain ⟨s,hs,rfl⟩ := h
  obtain ⟨s',hs',rfl⟩ := h'
  rw [Option.mem_unique hs hs']

theorem InState.isSome {ref : String} {state : SubjectState} (h : b.InState ref state) :
    (b.subjects.get ref).isSome := by
  obtain ⟨s,hs,-⟩ := h
  exact Option.isSome_iff_exists.mpr ⟨s,hs⟩

/-- An edit keeps the state and the links of every Subject, and the transitions. -/
theorem Edit.keeps (h : Edit b b') :
    (∀ r s, b.subjects.get r = some s → ∃ s', b'.subjects.get r = some s' ∧ s'.state = s.state ∧
      ∀ a, Links s a → Links s' a) ∧ b'.transitions = b.transitions := by
  cases h with
  | frame hactors hsubjects hrelationships htransitions =>
    exact ⟨fun r s hs => ⟨s,by rw [hsubjects,hs],rfl,fun _ h => h⟩,htransitions⟩
  | observed a ref s e hname hfresh hactors hsubjects hactive hlink hrelationships htransitions =>
    refine ⟨fun r x hx => ⟨x,?_,rfl,fun _ h => h⟩,htransitions⟩
    have hne : r ≠ ref := by
      rintro rfl
      rw [hfresh] at hx
      cases hx
    rw [hsubjects,Keyed.get_put,if_neg hne,hx]
  | estimated ref e hactors hsubjects hrelationships hstate htransitions =>
    exact ⟨fun r s hs => ⟨s,by rw [hsubjects,hs],rfl,fun _ h => h⟩,htransitions⟩
  | linked ref s s' hs hactive hactors hsubjects hstate hlinks hrelationships htransitions =>
    refine ⟨fun r x hx => ?_,htransitions⟩
    by_cases hr : r = ref
    · subst hr
      rw [hs] at hx
      cases hx
      exact ⟨s',by rw [hsubjects,Keyed.get_put,if_pos rfl],hstate,hlinks⟩
    · exact ⟨x,by rw [hsubjects,Keyed.get_put,if_neg hr,hx],rfl,fun _ h => h⟩

theorem Edit.inState (h : Edit b b') {r : String} {state : SubjectState} (hr : b.InState r state) :
    b'.InState r state := by
  obtain ⟨s,hs,rfl⟩ := hr
  obtain ⟨s',hs',hstate,-⟩ := h.keeps.1 r s hs
  exact ⟨s',hs',hstate⟩

theorem Edit.linksAt (h : Edit b b') {r a : String} (hr : b.LinksAt r a) : b'.LinksAt r a := by
  obtain ⟨s,hs,ha⟩ := hr
  obtain ⟨s',hs',-,hlinks⟩ := h.keeps.1 r s hs
  exact ⟨s',hs',hlinks a ha⟩

/-- A Subject superseded after an edit was so before it. -/
theorem Edit.superseded (h : Edit b b') {r : String} (hr : b'.InState r .superseded) :
    b.InState r .superseded := by
  have hold : ∀ s, b.subjects.get r = some s → b.InState r .superseded := by
    intro s hs
    have hs' : b'.InState r s.state := h.inState ⟨s,hs,rfl⟩
    exact ⟨s,hs,hs'.eq hr⟩
  cases hget : b.subjects.get r with
  | some s => exact hold s hget
  | none =>
    obtain ⟨x,hx,hstate⟩ := hr
    cases h with
    | frame hactors hsubjects hrelationships htransitions =>
      rw [hsubjects,hget] at hx
      cases hx
    | observed a ref s e hname hfresh hactors hsubjects hactive hlink hrelationships htransitions =>
      rw [hsubjects,Keyed.get_put,hget] at hx
      split at hx
      · cases hx
        rw [hactive] at hstate
        cases hstate
      · cases hx
    | estimated ref e hactors hsubjects hrelationships hstate' htransitions =>
      rw [hsubjects,hget] at hx
      cases hx
    | linked ref s s' hs hactive hactors hsubjects hstate' hlinks hrelationships htransitions =>
      rw [hsubjects,Keyed.get_put,hget] at hx
      split at hx
      · next heq =>
        rw [heq,hs] at hget
        cases hget
      · cases hx

/-- An edit leaves a superseded Subject alone. -/
theorem Edit.frozen (h : Edit b b') {r : String} (hr : b.InState r .superseded) :
    b'.subjects.get r = b.subjects.get r := by
  cases h with
  | frame hactors hsubjects hrelationships htransitions => rw [hsubjects]
  | observed a ref s e hname hfresh hactors hsubjects hactive hlink hrelationships htransitions =>
    have hne : r ≠ ref := by
      rintro rfl
      have hsome := hr.isSome
      rw [hfresh] at hsome
      cases hsome
    rw [hsubjects,Keyed.get_put,if_neg hne]
  | estimated ref e hactors hsubjects hrelationships hstate htransitions => rw [hsubjects]
  | linked ref s s' hs hactive hactors hsubjects hstate hlinks hrelationships htransitions =>
    have hne : r ≠ ref := by
      rintro rfl
      cases hr.eq ⟨s,hs,hactive⟩
    rw [hsubjects,Keyed.get_put,if_neg hne]

/-- Every Actor is linked to an active Subject after an edit. -/
theorem Edit.linked_kept (h : Edit b b') (hb : Lineage b) {a : String}
    (ha : (b'.actors.get a).isSome) : ∃ r, b'.InState r .active ∧ b'.LinksAt r a := by
  have hold : (b.actors.get a).isSome → ∃ r, b'.InState r .active ∧ b'.LinksAt r a := by
    intro ha
    obtain ⟨r,hr,hlink⟩ := hb.linked a ha
    exact ⟨r,h.inState hr,h.linksAt hlink⟩
  cases h with
  | frame hactors hsubjects hrelationships htransitions => exact hold (hactors a ▸ ha)
  | observed x ref s e hname hfresh hactors hsubjects hactive hlink hrelationships htransitions =>
    rcases hactors a ha with rfl | ha
    · have hs : b'.subjects.get ref = some s := by rw [hsubjects,Keyed.get_put,if_pos rfl]
      exact ⟨ref,⟨s,hs,hactive⟩,⟨s,hs,hlink⟩⟩
    · exact hold ha
  | estimated ref e hactors hsubjects hrelationships hstate htransitions => exact hold (hactors ▸ ha)
  | linked ref s s' hs hactive hactors hsubjects hstate hlinks hrelationships htransitions =>
    exact hold (hactors ▸ ha)

/-- No edit makes the relationship of a superseded Subject active. -/
theorem Edit.dormant_kept (h : Edit b b') (hb : Lineage b) {r : String}
    (hr : b'.InState r .superseded) {e : RelationshipEstimate} (he : e ∈ b'.relationships.get r) :
    e.state ≠ .active := by
  have hsuperseded := h.superseded hr
  have hold : e ∈ b.relationships.get r → e.state ≠ .active := hb.dormant r hsuperseded e
  cases h with
  | frame hactors hsubjects hrelationships htransitions => exact hold (hrelationships ▸ he)
  | observed a ref s x hname hfresh hactors hsubjects hactive hlink hrelationships htransitions =>
    rw [hrelationships,Keyed.get_put] at he
    split at he
    · next heq =>
      have hsome := hsuperseded.isSome
      rw [heq,hfresh] at hsome
      cases hsome
    · exact hold he
  | estimated ref x hactors hsubjects hrelationships hstate htransitions =>
    rw [hrelationships,Keyed.get_put] at he
    split at he
    · next heq =>
      subst heq
      cases he
      intro hactive
      rcases hstate hactive with hs | ⟨y,hy,hyactive⟩
      · cases hs.eq hsuperseded
      · exact hb.dormant r hsuperseded y hy hyactive
    · exact hold he
  | linked ref s s' hs hactive hactors hsubjects hstate hlinks hrelationships htransitions =>
    exact hold (hrelationships ▸ he)

theorem Edit.names (h : Edit b b') (hb : ∀ r, (b.subjects.get r).isSome → strip r = r) {r : String}
    (hr : (b'.subjects.get r).isSome) : strip r = r := by
  cases h with
  | frame hactors hsubjects hrelationships htransitions => exact hb r (hsubjects ▸ hr)
  | observed a ref s e hname hfresh hactors hsubjects hactive hlink hrelationships htransitions =>
    rw [hsubjects,Keyed.get_put] at hr
    split at hr
    · next heq => rw [heq,hname]
    · exact hb r hr
  | estimated ref e hactors hsubjects hrelationships hstate htransitions =>
    exact hb r (hsubjects ▸ hr)
  | linked ref s s' hs hactive hactors hsubjects hstate hlinks hrelationships htransitions =>
    rw [hsubjects,Keyed.get_put] at hr
    split at hr
    · next heq =>
      subst heq
      exact hb r (Option.isSome_iff_exists.mpr ⟨s,hs⟩)
    · exact hb r hr

theorem Kept.edit (h : Kept b) (hedit : Edit b b') : Kept b' := by
  obtain ⟨hkeeps,htransitions⟩ := hedit.keeps
  have hreplaces : b'.Replaces = b.Replaces := by
    unfold Replaces
    rw [htransitions]
  refine ⟨⟨fun a ha => hedit.linked_kept h.lineage ha,fun r hr => ?_,?_,fun t ht a ha => ?_,
    fun r hr e he => hedit.dormant_kept h.lineage hr he⟩,fun r hr => hedit.names h.names hr,
    fun t ht r hr => ?_,fun t ht r hr => ?_⟩
  · rw [htransitions]
    exact h.lineage.outgoing r (hedit.superseded hr)
  · rw [hreplaces]
    exact h.lineage.acyclic
  · rw [htransitions] at ht
    obtain ⟨r,hr,s,hs,hlink⟩ := ha
    rw [hedit.frozen (h.sources t ht r hr)] at hs
    have hold : b.LinksAt r a := ⟨s,hs,hlink⟩
    obtain ⟨r',hr',hlink'⟩ := h.lineage.carried t ht a ⟨r,hr,hold⟩
    exact ⟨r',hr',hedit.linksAt hlink'⟩
  · rw [htransitions] at ht
    exact hedit.inState (h.sources t ht r hr)
  · rw [htransitions] at ht
    obtain ⟨s,hs⟩ := Option.isSome_iff_exists.mp (h.replacements t ht r hr)
    obtain ⟨s',hs',-⟩ := hkeeps r s hs
    exact Option.isSome_iff_exists.mpr ⟨s',hs'⟩

/-- Edges to new nodes, which have none of their own, close no cycle. -/
theorem acyclic_extend {α : Type} {E E' : α → α → Prop} {S R : α → Prop}
    (hedge : ∀ a b, E' a b → E a b ∨ (S a ∧ R b)) (hout : ∀ a b, R a → ¬ E' a b)
    (hacyclic : ∀ a, ¬ Relation.TransGen E a a) (a : α) : ¬ Relation.TransGen E' a a := by
  have hpath : ∀ b, Relation.TransGen E' a b → Relation.TransGen E a b ∨ R b := by
    intro b h
    induction h with
    | single h =>
      rcases hedge _ _ h with h | ⟨-,hR⟩
      · exact .inl (.single h)
      · exact .inr hR
    | tail _ hlast ih =>
      rcases ih with ih | hR
      · rcases hedge _ _ hlast with h | ⟨-,hR⟩
        · exact .inl (ih.tail h)
        · exact .inr hR
      · exact absurd hlast (hout _ _ hR)
  intro hcycle
  rcases hpath a hcycle with h | hR
  · exact hacyclic a h
  · obtain ⟨x,hx,-⟩ := Relation.TransGen.head'_iff.mp hcycle
    exact hout a x hR hx

variable {t : SubjectTransition}

/-- The links of a Subject that was there before a transition are there after it. -/
theorem Transitioned.linksAt (ht : Transitioned b b' t) {r : String} (hr : (b.subjects.get r).isSome)
    (a : String) : b'.LinksAt r a ↔ b.LinksAt r a := by
  by_cases hsource : r ∈ t.sourceSubjectRefs
  · obtain ⟨-,s,hs,s',hs',-,hlinks⟩ := ht.sources r hsource
    constructor
    · rintro ⟨x,hx,ha⟩
      cases Option.mem_unique hx hs'
      exact ⟨s,hs,by rwa [Links,← hlinks]⟩
    · rintro ⟨x,hx,ha⟩
      cases Option.mem_unique hx hs
      exact ⟨s',hs',by rwa [Links,hlinks]⟩
  · have hnew : r ∉ t.replacementSubjectRefs := by
      intro hmem
      rw [(ht.replacements r hmem).1] at hr
      cases hr
    unfold LinksAt
    rw [(ht.others r hsource hnew).1]

/-- A Subject that was there before a transition and is no source of it keeps its state. -/
theorem Transitioned.inState (ht : Transitioned b b' t) {r : String} {state : SubjectState}
    (hr : b.InState r state) (hsource : r ∉ t.sourceSubjectRefs) : b'.InState r state := by
  have hnew : r ∉ t.replacementSubjectRefs := by
    intro hmem
    have hsome := hr.isSome
    rw [(ht.replacements r hmem).1] at hsome
    cases hsome
  unfold InState
  rwa [(ht.others r hsource hnew).1]

theorem Transitioned.superseded_source (ht : Transitioned b b' t) {r : String}
    (hr : b.InState r .superseded) : r ∉ t.sourceSubjectRefs := by
  intro hmem
  cases hr.eq (ht.sources r hmem).1

/-- What is superseded after a transition was so before it, or is one of its sources. -/
theorem Transitioned.cases_superseded (ht : Transitioned b b' t) {r : String}
    (hr : b'.InState r .superseded) :
    r ∈ t.sourceSubjectRefs ∨ (b.InState r .superseded ∧
      b'.relationships.get r = b.relationships.get r) := by
  by_cases hsource : r ∈ t.sourceSubjectRefs
  · exact .inl hsource
  · have hnew : r ∉ t.replacementSubjectRefs := by
      intro hmem
      cases hr.eq (ht.replacements r hmem).2
    obtain ⟨hsubject,hrelationship⟩ := ht.others r hsource hnew
    unfold InState at hr
    rw [hsubject] at hr
    exact .inr ⟨hr,hrelationship⟩

theorem Kept.transition (h : Kept b) (ht : Transitioned b b' t) : Kept b' := by
  have hmem : ∀ t', t' ∈ b'.transitions ↔ t' ∈ b.transitions ∨ t' = t := by
    intro t'
    rw [ht.transitions,List.mem_append,List.mem_singleton]
  have hsource : ∀ t' ∈ b.transitions, ∀ r ∈ t'.sourceSubjectRefs, r ∉ t.sourceSubjectRefs :=
    fun t' ht' r hr => ht.superseded_source (h.sources t' ht' r hr)
  have hfresh : ∀ r, r ∈ t.replacementSubjectRefs → ¬ (b.subjects.get r).isSome := by
    intro r hr hsome
    rw [(ht.replacements r hr).1] at hsome
    cases hsome
  refine ⟨⟨fun a ha => ?_,fun r hr => ?_,?_,fun t' ht' a ha => ?_,fun r hr e he => ?_⟩,
    fun r hr => ?_,fun t' ht' r hr => ?_,fun t' ht' r hr => ?_⟩
  · rw [ht.actors] at ha
    obtain ⟨r,hr,hlink⟩ := h.lineage.linked a ha
    by_cases hrs : r ∈ t.sourceSubjectRefs
    · obtain ⟨r',hr',hlink'⟩ := (ht.carried a).mpr ⟨r,hrs,hlink⟩
      exact ⟨r',(ht.replacements r' hr').2,hlink'⟩
    · exact ⟨r,ht.inState hr hrs,(ht.linksAt hr.isSome a).mpr hlink⟩
  · rw [ht.transitions,List.filter_append]
    rcases ht.cases_superseded hr with hrs | ⟨hold,-⟩
    · have hnone : b.transitions.filter (fun t => r ∈ t.sourceSubjectRefs) = [] := by
        rw [List.filter_eq_nil_iff]
        intro t' ht' hr'
        exact hsource t' ht' r (of_decide_eq_true hr') hrs
      exact ⟨t,by simp [hnone,hrs]⟩
    · obtain ⟨t',ht'⟩ := h.lineage.outgoing r hold
      exact ⟨t',by simp [ht',ht.superseded_source hold]⟩
  · refine acyclic_extend (E := b.Replaces) (S := (· ∈ t.sourceSubjectRefs))
      (R := (· ∈ t.replacementSubjectRefs)) ?_ ?_ h.lineage.acyclic
    · rintro r r' ⟨t',ht',hr,hr'⟩
      rcases (hmem t').mp ht' with ht' | rfl
      · exact .inl ⟨t',ht',hr,hr'⟩
      · exact .inr ⟨hr,hr'⟩
    · rintro r r' hrep ⟨t',ht',hr,-⟩
      rcases (hmem t').mp ht' with ht' | rfl
      · exact hfresh r hrep (h.sources t' ht' r hr).isSome
      · exact (List.nodup_append.mp ht.distinct).2.2 r hr r hrep rfl
  · rcases (hmem t').mp ht' with ht' | rfl
    · obtain ⟨r,hr,hlink⟩ := ha
      have hold := (ht.linksAt (h.sources t' ht' r hr).isSome a).mp hlink
      obtain ⟨r',hr',hlink'⟩ := h.lineage.carried t' ht' a ⟨r,hr,hold⟩
      exact ⟨r',hr',(ht.linksAt (h.replacements t' ht' r' hr') a).mpr hlink'⟩
    · obtain ⟨r,hr,hlink⟩ := ha
      exact (ht.carried a).mpr ⟨r,hr,(ht.linksAt (ht.sources r hr).1.isSome a).mp hlink⟩
  · rcases ht.cases_superseded hr with hrs | ⟨hold,hsame⟩
    · exact ht.dormant r hrs e he
    · exact h.lineage.dormant r hold e (hsame ▸ he)
  · by_cases hnew : r ∈ t.replacementSubjectRefs
    · exact ht.names r hnew
    · by_cases hrs : r ∈ t.sourceSubjectRefs
      · exact h.names r (ht.sources r hrs).1.isSome
      · exact h.names r ((ht.others r hrs hnew).1 ▸ hr)
  · rcases (hmem t').mp ht' with ht' | rfl
    · exact ht.inState (h.sources t' ht' r hr) (hsource t' ht' r hr)
    · obtain ⟨-,s,-,s',hs',hstate,-⟩ := ht.sources r hr
      exact ⟨s',hs',hstate⟩
  · rcases (hmem t').mp ht' with ht' | rfl
    · have hsome := h.replacements t' ht' r hr
      by_cases hrs : r ∈ t.sourceSubjectRefs
      · obtain ⟨-,s,-,s',hs',-⟩ := ht.sources r hrs
        exact Option.isSome_iff_exists.mpr ⟨s',hs'⟩
      · rwa [(ht.others r hrs fun hrep => hfresh r hrep hsome).1]
    · exact (ht.replacements r hr).2.isSome

end RelationshipBook
end Anet.Relations
