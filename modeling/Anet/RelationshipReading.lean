import Mathlib.Tactic.FinCases
import Anet.RelationshipActivities
import Anet.Transition

/-! Sessions of a reader of the activity feed: it follows the cursors of its pages while the
operations of the relationship book go on. -/
namespace Anet.Relations

namespace RelationshipBook

variable {b b' : RelationshipBook} {lib : FeedDigests}

def cursorText (lib : FeedDigests) (b : RelationshipBook) (eventId : String) : String :=
  "rac_" ++ lib.observerScope b.ownActorId ++ "_" ++ eventId

/-- The activity of an event with an id of the right form. -/
def activityOf (lib : FeedDigests) (b : RelationshipBook) (e : RelationshipEvent) :
    RelationshipActivity :=
  let c := b.classify lib e
  ⟨e.eventId,b.cursorText lib e.eventId,e.eventType,c.1,c.2.1,e.actorId,e.subjectRef,e.observedMs,
    c.2.2.insertionSort fun x y => x.1 ≤ y.1,lib.evidenceDigest e.evidenceRef⟩

theorem cursorOf_eq {eventId : String} (h : isEventId eventId = true) :
    b.cursorOf lib eventId = .ok (b.cursorText lib eventId) := by
  simp [cursorOf,cursorText,raiseIf,h]

theorem project_eq {e : RelationshipEvent} (h : isEventId e.eventId = true) :
    b.project lib e = .ok (activityOf lib b e) := by
  rw [project,cursorOf_eq h]
  rfl

/-- Two hexadecimal digits and more: the characters of an event id. -/
theorem eventId_chars {s : String} (h : isEventId s = true) :
    s.toList = "revt_".toList ++ s.toList.drop 5 ∧ ∀ c ∈ s.toList.drop 5, isHexDigit c = true := by
  simp only [isEventId,startsWith,isHex,Bool.and_eq_true,String.toList_ofList,List.all_eq_true] at h
  obtain ⟨hpre,-,hhex⟩ := h
  obtain ⟨rest,hrest⟩ := List.isPrefixOf_iff_prefix.mp hpre
  refine ⟨?_,hhex⟩
  rw [← hrest]
  rfl

theorem scope_chars (lib : FeedDigests) (a : String) : (lib.observerScope a).toList.length = 16 ∧
    ∀ c ∈ (lib.observerScope a).toList, isHexDigit c = true := by
  have h := lib.scope_hex a
  simp only [isHex,Bool.and_eq_true,decide_eq_true_eq,List.all_eq_true] at h
  exact h

theorem cursor_chars (lib : FeedDigests) (b : RelationshipBook) (eventId : String) :
    (b.cursorText lib eventId).toList =
      "rac_".toList ++ ((lib.observerScope b.ownActorId).toList ++ '_' :: eventId.toList) := by
  simp [cursorText,String.toList_append]

/-- A cursor has no spaces. -/
theorem strip_cursor {eventId : String} (h : isEventId eventId = true) :
    strip (b.cursorText lib eventId) = b.cursorText lib eventId := by
  refine strip_none fun c hc => ?_
  obtain ⟨hid,hhex⟩ := eventId_chars h
  rw [cursor_chars,hid] at hc
  simp only [List.mem_append,List.mem_cons] at hc
  rcases hc with hc | hc | rfl | hc | hc
  · have hchars : "rac_".toList = ['r','a','c','_'] := rfl
    rw [hchars] at hc
    fin_cases hc <;> rfl
  · exact isPySpace_hex ((scope_chars lib _).2 c hc)
  · decide
  · have hchars : "revt_".toList = ['r','e','v','t','_'] := rfl
    rw [hchars] at hc
    fin_cases hc <;> rfl
  · exact isPySpace_hex (hhex c hc)

theorem parse_cursor {eventId : String} (h : isEventId eventId = true) :
    parseCursor (b.cursorText lib eventId) = some (lib.observerScope b.ownActorId,eventId) := by
  have hlength := (scope_chars lib b.ownActorId).1
  have hscope : String.ofList (((b.cursorText lib eventId).toList.drop 4).take 16) =
      lib.observerScope b.ownActorId := by
    rw [cursor_chars]
    change String.ofList (List.take 16 (_ ++ '_' :: eventId.toList)) = _
    rw [← hlength,List.take_left,String.ofList_toList]
  have hid : String.ofList ((b.cursorText lib eventId).toList.drop 21) = eventId := by
    rw [cursor_chars]
    change String.ofList (List.drop 17 (_ ++ '_' :: eventId.toList)) = _
    rw [List.drop_append,hlength,List.drop_of_length_le (by omega)]
    simp
  have hmark : (b.cursorText lib eventId).toList[20]? = some '_' := by
    rw [cursor_chars]
    change (_ ++ '_' :: eventId.toList)[16]? = _
    rw [List.getElem?_append_right (by omega),hlength]
    rfl
  have hstart : startsWith "rac_" (b.cursorText lib eventId) = true := by
    rw [cursorText,String.append_assoc,String.append_assoc]
    exact startsWith_append _ _
  rw [parseCursor]
  simp only [hscope,hid,hmark,hstart,h,lib.scope_hex,Bool.and_self,decide_true,if_true]

/-- A cursor stands behind a first part of the events. -/
inductive Stands (lib : FeedDigests) (b : RelationshipBook) :
    String → List RelationshipEvent → Prop
  | start : Stands lib b "" []
  | behind (front : List RelationshipEvent) (e : RelationshipEvent) :
      Stands lib b (b.cursorText lib e.eventId) (front ++ [e])

theorem cursorText_ne (lib : FeedDigests) (b : RelationshipBook) (eventId : String) :
    b.cursorText lib eventId ≠ "" := by
  intro h
  have hchars := cursor_chars lib b eventId
  rw [h] at hchars
  cases hchars

theorem strip_stands (hb : Readable b) {after : String} {seen rest : List RelationshipEvent}
    (hevents : b.events = seen ++ rest) (h : Stands lib b after seen) : strip after = after := by
  cases h with
  | start => rfl
  | behind front e => exact strip_cursor (hb.named e (by simp [hevents]))

theorem startIndex_stands (hb : Readable b) {after : String} {seen rest : List RelationshipEvent}
    (hevents : b.events = seen ++ rest) (h : Stands lib b after seen) :
    b.startIndex lib after = .ok seen.length := by
  cases h with
  | start => rfl
  | behind front e =>
    have hnamed : isEventId e.eventId = true := hb.named e (by simp [hevents])
    have hfind : (b.events.findIdx? fun x => x.eventId = e.eventId) = some front.length := by
      have hnodup := hb.nodup
      rw [hevents,List.append_assoc,List.map_append,List.nodup_append] at hnodup
      have hfront : ∀ x ∈ front, ¬ x.eventId = e.eventId := by
        intro x hx
        exact hnodup.2.2 x.eventId (List.mem_map_of_mem hx) e.eventId (by simp)
      rw [hevents,List.append_assoc,List.findIdx?_append,List.findIdx?_eq_none_iff.mpr]
      · simp [List.findIdx?_cons]
      · simpa using hfront
    simp only [startIndex,parse_cursor hnamed,if_neg (cursorText_ne lib b e.eventId)]
    simp [hfind]

/-- The loop reads a first part of the events, and makes an activity of each event in scope. -/
theorem scan_cases (lib : FeedDigests) (b : RelationshipBook) (subjectRef : String)
    {events : List RelationshipEvent}
    (hnamed : ∀ e ∈ events, isEventId e.eventId = true) (limit : ℕ) :
    ∃ new rest, events = new ++ rest ∧ (0 < limit → events ≠ [] → new ≠ []) ∧
      scan lib b subjectRef events limit =
        .ok ((new.filter fun e => InScope subjectRef e).map (activityOf lib b),new) := by
  induction events generalizing limit with
  | nil => exact ⟨[],[],rfl,fun _ h => absurd rfl h,by cases limit <;> rfl⟩
  | cons e es ih =>
    cases limit with
    | zero => exact ⟨[],e :: es,rfl,fun h => absurd h (lt_irrefl 0),rfl⟩
    | succ limit =>
      have hes : ∀ x ∈ es, isEventId x.eventId = true := fun x hx =>
        hnamed x (List.mem_cons_of_mem _ hx)
      have he : b.project lib e = .ok (activityOf lib b e) :=
        project_eq (hnamed e (List.mem_cons_self ..))
      by_cases hscope : InScope subjectRef e
      · obtain ⟨new,rest,hsplit,-,hscan⟩ := ih hes limit
        refine ⟨e :: new,rest,by rw [hsplit]; rfl,fun _ _ => List.cons_ne_nil _ _,?_⟩
        rw [scan,if_pos hscope,he]
        simp only [bind,Except.bind,hscan]
        simp [hscope,pure,Except.pure]
      · obtain ⟨new,rest,hsplit,-,hscan⟩ := ih hes (limit + 1)
        refine ⟨e :: new,rest,by rw [hsplit]; rfl,fun _ _ => List.cons_ne_nil _ _,?_⟩
        rw [scan,if_neg hscope]
        simp only [bind,Except.bind,hscan]
        simp [hscope,pure,Except.pure]

/-- The filter of a reader names no Subject, or one that the book has. -/
def Known (b : RelationshipBook) (subjectRef : String) : Prop :=
  strip subjectRef = "" ∨ (b.subjects.get (strip subjectRef)).isSome

/-- A page from a cursor on. -/
theorem read_stands (hb : Readable b) {after subjectRef : String} {limit : ℤ}
    {seen rest : List RelationshipEvent} (hevents : b.events = seen ++ rest)
    (hstands : Stands lib b after seen) (hlimit : 1 ≤ limit ∧ limit ≤ 500)
    (hknown : b.Known subjectRef) : ∃ new rest' page, rest = new ++ rest' ∧
      (rest ≠ [] → new ≠ []) ∧ b.read lib after limit subjectRef false = .ok page ∧
      page.activities =
        (new.filter fun e => InScope (strip subjectRef) e).map (activityOf lib b) ∧
      Stands lib b page.nextCursor (seen ++ new) ∧ page.hasMore = decide (rest' ≠ []) := by
  have hnamed : ∀ e ∈ rest, isEventId e.eventId = true := fun e he =>
    hb.named e (by simp [hevents,he])
  obtain ⟨new,rest',hsplit,hnew,hscan⟩ :=
    scan_cases lib b (strip subjectRef) hnamed limit.toNat
  have hdrop : b.events.drop seen.length = rest := by rw [hevents,List.drop_left]
  have hstart : b.startOf lib after limit.toNat false = .ok seen.length := by
    rw [startOf,if_neg (by decide),strip_stands hb hevents hstands]
    exact startIndex_stands hb hevents hstands
  have hcursor : ∃ next, b.cursorAfter lib after new = .ok next ∧ Stands lib b next (seen ++ new) := by
    rcases List.eq_nil_or_concat new with rfl | ⟨front,e,rfl⟩
    · refine ⟨after,?_,by rwa [List.append_nil]⟩
      simp [cursorAfter,strip_stands hb hevents hstands]
    · have he : isEventId e.eventId = true := hnamed e (by simp [hsplit])
      have hne : e.eventId ≠ "" := by
        rintro h
        rw [h] at he
        revert he
        decide
      refine ⟨b.cursorText lib e.eventId,?_,?_⟩
      · simp [cursorAfter,hne,cursorOf_eq he]
      · rw [List.concat_eq_append,← List.append_assoc]
        exact .behind _ e
  obtain ⟨next,hnext,hstands'⟩ := hcursor
  refine ⟨new,rest',⟨b.ownActorId,_,next,decide (new.length < rest.length)⟩,hsplit,
    hnew (by omega),?_,rfl,hstands',?_⟩
  · have hlimit' : ¬ (limit < 1 ∨ 500 < limit) := by omega
    have hsubject : ¬ (strip subjectRef ≠ "" ∧
        (b.subjects.get (strip subjectRef)).isNone = true) := by
      rintro ⟨hne,hnone⟩
      rcases hknown with h | h
      · exact hne h
      · rw [Option.isNone_iff_eq_none.mp hnone] at h
        cases h
    simp only [read,raiseIf,if_neg hb.observer,if_neg hlimit',if_neg hsubject,hstart,hdrop,hscan,hnext,
      bind,Except.bind,pure,Except.pure,Bool.false_eq_true,false_and,if_false]
  · rw [hsplit]
    cases rest' <;> simp

/-- A reader, and the book it reads. -/
structure Session where
  book : RelationshipBook
  cursor : String
  seen : List RelationshipActivity

/-- One page: the reader asks behind its cursor. -/
inductive PageStep (lib : FeedDigests) (subjectRef : String) (limit : ℤ) : Session → Session → Prop
  | page {s : Session} (page : RelationshipActivityPage)
      (hread : s.book.read lib s.cursor limit subjectRef false = .ok page) :
      PageStep lib subjectRef limit s ⟨s.book,page.nextCursor,s.seen ++ page.activities⟩

/-- A call of the book that is good, or a page of any size. -/
inductive FeedStep (lib : FeedDigests) (decisionId : String → String → String)
    (good : RelationshipBook → Call → Prop) (subjectRef : String) : Session → Session → Prop
  | call {s : Session} (call : Call) (hfresh : s.book.FreshEvents call) (hgood : good s.book call) :
      FeedStep lib decisionId good subjectRef s ⟨s.book.perform decisionId call,s.cursor,s.seen⟩
  | page {s s' : Session} (limit : ℤ) (hpage : PageStep lib subjectRef limit s s') :
      FeedStep lib decisionId good subjectRef s s'

/-- What the reader has seen: the activities in scope of a first part of the events. -/
structure Faithful (lib : FeedDigests) (subjectRef : String) (s : Session) : Prop where
  readable : Readable s.book
  seen : ∃ read rest, s.book.events = read ++ rest ∧ Stands lib s.book s.cursor read ∧
    s.seen = (read.filter fun e => InScope (strip subjectRef) e).map (activityOf lib s.book)

theorem activityOf_grows {ids : List String} (h : Grows b b' ids) (hb : Readable b)
    {e : RelationshipEvent} (he : e ∈ b.events) : activityOf lib b' e = activityOf lib b e := by
  unfold activityOf cursorText
  rw [classify_grows h hb.separated (hb.joined e he),h.own]

variable {subjectRef : String} {s s' : Session}

/-- A page is only given for a limit in its range and a filter that is known. -/
theorem read_known {after : String} {limit : ℤ} {tail : Bool} {page : RelationshipActivityPage}
    (h : b.read lib after limit subjectRef tail = .ok page) :
    (1 ≤ limit ∧ limit ≤ 500) ∧ b.Known subjectRef := by
  simp only [read,bind_ok,raiseIf_ok] at h
  obtain ⟨-,-,-,hlimit,-,-,-,hsubject,-⟩ := h
  refine ⟨by omega,?_⟩
  by_cases hselected : strip subjectRef = ""
  · exact .inl hselected
  · have hsome := not_and.mp hsubject hselected
    exact .inr (by simpa [Option.isSome_iff_ne_none] using hsome)

theorem Faithful.page {limit : ℤ} (h : Faithful lib subjectRef s)
    (hpage : PageStep lib subjectRef limit s s') :
    Faithful lib subjectRef s' := by
  obtain ⟨seen,rest,hevents,hstands,hseen⟩ := h.seen
  cases hpage with
  | page page hread =>
    obtain ⟨hlimit,hknown⟩ := read_known hread
    obtain ⟨new,rest',page',hsplit,-,hread',hactivities,hstands',-⟩ :=
      read_stands h.readable hevents hstands hlimit hknown
    rw [hread] at hread'
    cases hread'
    refine ⟨h.readable,seen ++ new,rest',?_,hstands',?_⟩
    · rw [hevents,hsplit,List.append_assoc]
    · rw [hseen,hactivities,List.filter_append,List.map_append]

theorem Faithful.grows {ids : List String} {after : String} {seen : List RelationshipActivity}
    (h : Faithful lib subjectRef ⟨b,after,seen⟩) (hgrows : Grows b b' ids) (hb : Readable b') :
    Faithful lib subjectRef ⟨b',after,seen⟩ := by
  obtain ⟨read,rest,hevents,hstands,hseen⟩ := h.seen
  obtain ⟨new,hnew,-⟩ := hgrows.events
  refine ⟨hb,read,rest ++ new,?_,?_,?_⟩
  · change b.events = read ++ rest at hevents
    change b'.events = read ++ (rest ++ new)
    rw [hnew,hevents,List.append_assoc]
  · have hcursor : ∀ i, b'.cursorText lib i = b.cursorText lib i := by
      intro i
      rw [cursorText,cursorText,hgrows.own]
    change Stands lib b after read at hstands
    change Stands lib b' after read
    cases hstands with
    | start => exact .start
    | behind front e =>
      rw [← hcursor]
      exact .behind front e
  · change seen = _ at hseen
    refine hseen.trans ?_
    refine List.map_congr_left fun e he => (activityOf_grows hgrows h.readable ?_).symm
    change b.events = read ++ rest at hevents
    rw [hevents]
    exact List.mem_append_left _ (List.mem_of_mem_filter he)

theorem Faithful.step {decisionId : String → String → String} (h : Faithful lib subjectRef s)
    (hstep : FeedStep lib decisionId Separates subjectRef s s') : Faithful lib subjectRef s' := by
  cases hstep with
  | call call hfresh hgood =>
    have hgrows := perform_grows decisionId hgood
    exact h.grows hgrows (h.readable.grows hgrows hfresh.1 hfresh.2)
  | page limit hpage => exact h.page hpage

/-- Following the cursors ends, and the reader has then seen all that is in scope. -/
theorem Faithful.finishes (h : Faithful lib subjectRef s) {limit : ℤ}
    (hlimit : 1 ≤ limit ∧ limit ≤ 500) (hknown : s.book.Known subjectRef) : ∃ s' page,
      Reaches (PageStep lib subjectRef limit) s s' ∧ s'.book = s.book ∧
      s'.book.read lib s'.cursor limit subjectRef false = .ok page ∧ page.hasMore = false ∧
      s'.seen ++ page.activities = (s.book.events.filter fun e =>
        InScope (strip subjectRef) e).map (activityOf lib s.book) := by
  obtain ⟨seen,rest,hevents,hstands,hseen⟩ := h.seen
  induction hn : rest.length using Nat.strong_induction_on generalizing s seen rest with
  | h n ih =>
    obtain ⟨new,rest',page,hsplit,hnew,hread,hactivities,hstands',hmore⟩ :=
      read_stands h.readable hevents hstands hlimit hknown
    have hevents' : s.book.events = (seen ++ new) ++ rest' := by
      rw [hevents,hsplit,List.append_assoc]
    have hall : s.seen ++ page.activities =
        ((seen ++ new).filter fun e => InScope (strip subjectRef) e).map
          (activityOf lib s.book) := by
      rw [hseen,hactivities,List.filter_append,List.map_append]
    by_cases hrest : rest' = []
    · subst hrest
      refine ⟨s,page,.refl,rfl,hread,by simp [hmore],?_⟩
      rw [hall,hevents',List.append_nil]
    · have hpage : PageStep lib subjectRef limit s
          ⟨s.book,page.nextCursor,s.seen ++ page.activities⟩ := .page page hread
      have hshort : rest'.length < n := by
        have hne : new ≠ [] := hnew (by simp [hsplit,hrest])
        have hpos := List.length_pos_iff.mpr hne
        rw [← hn,hsplit,List.length_append]
        omega
      obtain ⟨s',page',hreach,hbook,hrest'⟩ := ih rest'.length hshort
        (h.page hpage) hknown (seen ++ new) rest' hevents' hstands' hall rfl
      exact ⟨s',page',.head hpage hreach,hbook,hrest'⟩

/-- The book of a session grows with every step. -/
theorem FeedStep.project_kept {decisionId : String → String → String}
    (h : Faithful lib subjectRef s) (hstep : FeedStep lib decisionId Separates subjectRef s s') :
    (∀ e ∈ s.book.events, e ∈ s'.book.events ∧ s'.book.project lib e = s.book.project lib e) := by
  intro e he
  cases hstep with
  | call call hfresh hgood =>
    have hgrows := perform_grows decisionId hgood
    obtain ⟨new,hnew,-⟩ := hgrows.events
    refine ⟨?_,project_grows hgrows h.readable.separated (h.readable.joined e he)⟩
    change e ∈ (s.book.perform decisionId call).events
    rw [hnew]
    exact List.mem_append_left new he
  | page limit hpage =>
    cases hpage
    exact ⟨he,rfl⟩

theorem faithful_empty (lib : FeedDigests) (subjectRef : String) {ownActorId : String}
    (hown : ownActorId ≠ "") : Faithful lib subjectRef ⟨empty ownActorId,"",[]⟩ := by
  refine ⟨⟨hown,by simp [empty],by simp [empty],by simp [empty],?_,?_⟩,[],[],rfl,.start,rfl⟩
  · intro i j k l hi
    cases hi
  · intro k i hi
    cases hi

/-- In a run where no interaction is recorded under the key of another, whatever the calls and
pages in between: a reader has seen each event in scope up to its cursor once and in order, the
pages that follow end with all of them, and what the feed says of an event never changes. -/
theorem feed_kept (lib : FeedDigests) (decisionId : String → String → String)
    {ownActorId subjectRef : String} (hown : ownActorId ≠ "") {s s' : Session}
    (hrun : Reaches (FeedStep lib decisionId Separates subjectRef) ⟨empty ownActorId,"",[]⟩ s)
    (hlater : Reaches (FeedStep lib decisionId Separates subjectRef) s s') :
    (s.book.events.map RelationshipEvent.eventId).Nodup ∧
    (∀ e ∈ s.book.events, s.book.project lib e = .ok (activityOf lib s.book e)) ∧
    (∃ read rest, s.book.events = read ++ rest ∧ Stands lib s.book s.cursor read ∧
      s.seen = (read.filter fun e => InScope (strip subjectRef) e).map (activityOf lib s.book)) ∧
    (∀ limit : ℤ, 1 ≤ limit ∧ limit ≤ 500 → s.book.Known subjectRef → ∃ t page,
      Reaches (PageStep lib subjectRef limit) s t ∧ t.book = s.book ∧
      t.book.read lib t.cursor limit subjectRef false = .ok page ∧ page.hasMore = false ∧
      t.seen ++ page.activities = (s.book.events.filter fun e =>
        InScope (strip subjectRef) e).map (activityOf lib s.book)) ∧
    ∀ e ∈ s.book.events, s'.book.project lib e = s.book.project lib e := by
  have hfaithful : Faithful lib subjectRef s :=
    Reaches.invariant (I := Faithful lib subjectRef) (fun _ _ hi hstep => hi.step hstep)
      (faithful_empty lib subjectRef hown) hrun
  refine ⟨hfaithful.readable.nodup,fun e he => project_eq (hfaithful.readable.named e he),
    hfaithful.seen,fun limit hlimit hknown => hfaithful.finishes hlimit hknown,fun e he => ?_⟩
  have hkept : Faithful lib subjectRef s' ∧ e ∈ s'.book.events ∧
      s'.book.project lib e = s.book.project lib e :=
    Reaches.invariant (I := fun x => Faithful lib subjectRef x ∧ e ∈ x.book.events ∧
      x.book.project lib e = s.book.project lib e)
      (fun _ _ hi hstep => ⟨hi.1.step hstep,(hstep.project_kept hi.1 e hi.2.1).1,
        (hstep.project_kept hi.1 e hi.2.1).2.trans hi.2.2⟩) ⟨hfaithful,he,rfl⟩ hlater
  exact hkept.2.2

/-- The digests that the samples ask for. -/
def sampleDigests : FeedDigests where
  observerScope _ := "fa2153a93caf4a82"
  evidenceDigest _ := "bebf3a18feff14c84b6c30f92217e92d"
  scope_hex _ := by decide

/-- A peer is observed. -/
def samplePeer : Call :=
  .observe ⟨"an1peer","anet.node","Peer",
    ⟨"anet.peer-card",.cryptographic,"an1peer","card:peer",10⟩⟩ 50 10 "subj_00000000000000aa"
    "revt_000000000000000000000001"

/-- A message from it or to it, with the same evidence and time. -/
def sampleMessage (direction : Direction) : Call :=
  match direction with
  | .incoming => .interaction ⟨"iev_5b0cc5e3c3535cb3cd72dd655baa7b23","an1peer",
      "subj_00000000000000aa",.incoming,["message"],"communication","received","packet:01",20⟩
      "revt_000000000000000000000002"
  | .outgoing => .interaction ⟨"iev_f45f74a13401bfcca3335a8a4682b1d3","an1peer",
      "subj_00000000000000aa",.outgoing,["message"],"communication","queued","packet:01",20⟩
      "revt_000000000000000000000003"

def sampleDecisionId (owner suggestionId : String) : String := owner ++ suggestionId

def sampleBook (calls : List Call) : RelationshipBook :=
  calls.foldl (perform sampleDecisionId) (empty "an1self")

def sampleReceived : RelationshipBook := sampleBook [samplePeer,sampleMessage .incoming]

def sampleSent : RelationshipBook :=
  sampleBook [samplePeer,sampleMessage .incoming,sampleMessage .outgoing]

def directionOf (e : RelationshipActivity) : Option DetailValue :=
  (e.details.find? fun d => d.1 = "direction").map Prod.snd

/-- The event of the incoming message. -/
def sampleEvent : RelationshipEvent :=
  ⟨"revt_000000000000000000000002","interaction.observed","an1peer","subj_00000000000000aa",
    "packet:01",20,[]⟩

theorem samplePeer_fresh : (sampleBook []).FreshEvents samplePeer := by
  refine ⟨by decide,fun i hi => ?_⟩
  cases List.mem_singleton.mp hi
  decide

theorem sampleIncoming_fresh : (sampleBook [samplePeer]).FreshEvents (sampleMessage .incoming) := by
  refine ⟨by decide,fun i hi => ?_⟩
  cases List.mem_singleton.mp hi
  decide

theorem sampleOutgoing_fresh : sampleReceived.FreshEvents (sampleMessage .outgoing) := by
  refine ⟨by decide,fun i hi => ?_⟩
  cases List.mem_singleton.mp hi
  decide

theorem sampleIncoming_separate : (sampleBook [samplePeer]).Separates (sampleMessage .incoming) := by
  refine .inr fun k j hj => ?_
  cases hj

theorem sampleReceived_run {good : RelationshipBook → Call → Prop}
    (hpeer : good (sampleBook []) samplePeer)
    (hincoming : good (sampleBook [samplePeer]) (sampleMessage .incoming)) :
    Reaches (FeedStep sampleDigests sampleDecisionId good "") ⟨empty "an1self","",[]⟩
      ⟨sampleReceived,"",[]⟩ := by
  have hobserved : FeedStep sampleDigests sampleDecisionId good "" ⟨empty "an1self","",[]⟩
      ⟨sampleBook [samplePeer],"",[]⟩ := .call samplePeer samplePeer_fresh hpeer
  have hreceived : FeedStep sampleDigests sampleDecisionId good "" ⟨sampleBook [samplePeer],"",[]⟩
      ⟨sampleReceived,"",[]⟩ := .call (sampleMessage .incoming) sampleIncoming_fresh hincoming
  exact (Relation.ReflTransGen.single hobserved).tail hreceived

/-- When the same evidence is recorded for both directions, the feed changes what it says of the
first event. -/
theorem activity_changes : ∃ s s', Reaches
      (FeedStep sampleDigests sampleDecisionId (fun _ _ => True) "") ⟨empty "an1self","",[]⟩ s ∧
    Reaches (FeedStep sampleDigests sampleDecisionId (fun _ _ => True) "") s s' ∧
    ∃ e ∈ s.book.events, s'.book.project sampleDigests e ≠ s.book.project sampleDigests e := by
  refine ⟨⟨sampleReceived,"",[]⟩,⟨sampleSent,"",[]⟩,sampleReceived_run trivial trivial,
    .single (.call (sampleMessage .outgoing) sampleOutgoing_fresh trivial),sampleEvent,by decide +kernel,?_⟩
  intro hsame
  have hnamed : isEventId sampleEvent.eventId = true := by decide +kernel
  rw [project_eq hnamed,project_eq hnamed] at hsame
  have hdirection := congrArg directionOf (Except.ok.inj hsame)
  revert hdirection
  decide +kernel

/-- A reader of pages of one event sees the observation and the message. -/
theorem feed_kept_sample : ∃ t page,
    Reaches (PageStep sampleDigests "" 1) ⟨sampleReceived,"",[]⟩ t ∧ t.book = sampleReceived ∧
      t.book.read sampleDigests t.cursor 1 "" false = .ok page ∧ page.hasMore = false ∧
      t.seen ++ page.activities = (sampleReceived.events.filter fun e =>
        InScope (strip "") e).map (activityOf sampleDigests sampleReceived) := by
  have hkept := feed_kept sampleDigests sampleDecisionId (by decide)
    (sampleReceived_run trivial sampleIncoming_separate) .refl
  exact hkept.2.2.2.1 1 (by decide) (.inl (by decide))

end RelationshipBook
end Anet.Relations
