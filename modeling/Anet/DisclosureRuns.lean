import Anet.DisclosureSeries
import Anet.Transition

/-! Runs of a disclosure schedule: each write of a run may be its last, the book grows and packets
arrive in any order in between, and the pages queued remain one gap-free series. -/
namespace Anet

open ActivityFeed

/-- The observer's book and schedule, the packets queued for the audience, those that have arrived
there, and what its book has kept; `lapsed` once a run has found the schedule expired. -/
structure SeriesWorld (α : Type) where
  book : BookModel α
  schedule : DisclosureSchedule α
  lapsed : Bool
  queued : List (String × Disclosure α)
  arrived : List (String × Disclosure α)
  received : List (String × Disclosure α)

namespace SeriesWorld

variable {α : Type}

/-- The writes for a pending page: queue, archive, `record_success`. -/
def finish (w : SeriesWorld α) (s : DisclosureSchedule α) (d : Disclosure α) (fate : RunFate)
    (packetId : String) (now : ℤ) : SeriesWorld α :=
  match fate with
  | .crashPrepared => { w with schedule := s }
  | .queueFails => { w with schedule := s.failed now }
  | .crashQueued => { w with schedule := s, queued := (packetId,d) :: w.queued }
  | .archiveFails => { w with schedule := s.failed now, queued := (packetId,d) :: w.queued }
  | .crashArchived => { w with schedule := s, queued := (packetId,d) :: w.queued }
  | .completes => { w with
      schedule := s.attempted (s.recordSuccess d now) now, queued := (packetId,d) :: w.queued }

/-- A page for an active schedule that has none pending. -/
def nextPage (lib : DisclosureLibrary α) (w : SeriesWorld α) (fate : RunFate) (packetId : String)
    (now : ℤ) : SeriesWorld α :=
  let s := w.schedule
  match ActivityFeed.read w.book s.cursor s.batchLimit s.subjectRef with
  | .error _ => { w with schedule := s.failed now }
  | .ok page =>
    if page.activities.isEmpty ∧ page.nextCursor = s.cursor then
      { w with schedule := s.attempted (s.recordIdle now) now }
    else
      match s.createSeries lib page now with
      | .error _ => { w with schedule := s.failed now }
      | .ok d => w.finish { s with pending := some d } d fate packetId now

/-- `run_relationship_disclosure_schedules_once` on the schedule. -/
def runOnce (lib : DisclosureLibrary α) (w : SeriesWorld α) (force : Bool) (fate : RunFate)
    (packetId : String) (now : ℤ) : SeriesWorld α :=
  match w.schedule.state now with
  | .revoked => w
  | .expired => { w with schedule := { w.schedule with pending := none }, lapsed := true }
  | .active =>
    if force ∨ w.schedule.due now then
      match w.schedule.pending with
      | some d => w.finish w.schedule d fate packetId now
      | none => w.nextPage lib fate packetId now
    else w

/-- The book grows by events with ids of their own; its other content may change with them. -/
def grow (w : SeriesWorld α) (new : List BookEvent) (subjects : List String)
    (project : BookEvent → Result α) : SeriesWorld α :=
  { w with book := ⟨w.book.events ++ new,subjects,project⟩ }

def deliver (w : SeriesWorld α) (packetId : String) (d : Disclosure α) : SeriesWorld α :=
  { w with
    arrived := (packetId,d) :: w.arrived
    received := SeriesReport.add packetId d w.received }

/-- What can happen to a series. No run finds the schedule active again after one has found it
expired. -/
inductive Step (lib : DisclosureLibrary α) : SeriesWorld α → SeriesWorld α → Prop
  | grow (w : SeriesWorld α) (new : List BookEvent) (subjects : List String)
      (project : BookEvent → Result α)
      (hfresh : ((w.book.events ++ new).map BookEvent.eventId).Nodup) :
      Step lib w (w.grow new subjects project)
  | run (w : SeriesWorld α) (force : Bool) (fate : RunFate) (packetId : String) (now : ℤ)
      (hpacket : packetId ∉ w.queued.map Prod.fst)
      (hlapsed : w.lapsed = true → w.schedule.expiresMs ≤ now) :
      Step lib w (w.runOnce lib force fate packetId now)
  | revoke (w : SeriesWorld α) (s : DisclosureSchedule α) (now : ℤ) (hnow : now ≠ 0)
      (hrevoked : w.schedule.revoke now = .ok s) : Step lib w { w with schedule := s }
  | deliver (w : SeriesWorld α) (packetId : String) (d : Disclosure α)
      (hqueued : (packetId,d) ∈ w.queued) : Step lib w (w.deliver packetId d)

/-- A schedule just created, with a cursor that the book knows. -/
structure IsNew (w : SeriesWorld α) : Prop where
  nodup : (w.book.events.map BookEvent.eventId).Nodup
  known : ∃ events, ActivityFeed.eventsAfter w.book.events w.schedule.cursor = .ok events
  pending : w.schedule.pending = none
  first : w.schedule.nextSequence = 0
  queued : w.queued = []
  arrived : w.arrived = []
  received : w.received = []

end SeriesWorld

namespace DisclosureSchedule

variable {α : Type} {s t u : DisclosureSchedule α}

/-- The terms of a series, which no run changes. -/
structure SameTerms (s t : DisclosureSchedule α) : Prop where
  observer : t.observerActorId = s.observerActorId
  audience : t.audienceActorId = s.audienceActorId
  series : t.seriesId = s.seriesId
  scope : t.subjectRef = s.subjectRef
  baseline : t.baseline = s.baseline

/-- An update of the times and counts of a schedule. -/
structure SamePlace (s t : DisclosureSchedule α) : Prop extends SameTerms s t where
  cursor : t.cursor = s.cursor
  sequence : t.nextSequence = s.nextSequence
  pending : t.pending = s.pending

theorem SameTerms.trans (h : SameTerms s t) (h' : SameTerms t u) : SameTerms s u :=
  ⟨h'.observer.trans h.observer,h'.audience.trans h.audience,h'.series.trans h.series,
    h'.scope.trans h.scope,h'.baseline.trans h.baseline⟩

theorem SamePlace.refl : SamePlace s s := ⟨⟨rfl,rfl,rfl,rfl,rfl⟩,rfl,rfl,rfl⟩

theorem failed_place (now : ℤ) : SamePlace s (s.failed now) := by
  unfold failed
  split
  · next t h =>
    rw [replaced_ok h]
    exact ⟨⟨rfl,rfl,rfl,rfl,rfl⟩,rfl,rfl,rfl⟩
  · exact .refl

theorem idle_place (now : ℤ) : SamePlace s (s.attempted (s.recordIdle now) now) := by
  unfold attempted
  split
  · next t h =>
    rw [replaced_ok h]
    exact ⟨⟨rfl,rfl,rfl,rfl,rfl⟩,rfl,rfl,rfl⟩
  · exact failed_place now

/-- A success moves the schedule behind its page, or fails and leaves it in its place. -/
theorem success_cases (d : Disclosure α) (now : ℤ) :
    SamePlace s (s.attempted (s.recordSuccess d now) now) ∨
      (SameTerms s (s.attempted (s.recordSuccess d now) now) ∧
        (s.attempted (s.recordSuccess d now) now).cursor = d.nextCursor ∧
        (s.attempted (s.recordSuccess d now) now).nextSequence = s.nextSequence + 1 ∧
        (s.attempted (s.recordSuccess d now) now).pending = none) := by
  unfold attempted
  split
  · next t h =>
    rw [replaced_ok h]
    exact .inr ⟨⟨rfl,rfl,rfl,rfl,rfl⟩,rfl,rfl,rfl⟩
  · exact .inl (failed_place now)

/-- A new page continues the series of its schedule. -/
theorem createSeries_ok {lib : DisclosureLibrary α} {page : FeedPage α} {now : ℤ}
    {d : Disclosure α} (h : s.createSeries lib page now = .ok d) :
    d.Under s ∧ d.sequence = s.nextSequence ∧ d.startsAfter = s.cursor ∧
      d.nextCursor = page.nextCursor ∧ d.activities = page.activities := by
  simp only [createSeries,bind_ok] at h
  obtain ⟨-,-,h⟩ := h
  cases h
  exact ⟨⟨rfl,rfl,rfl,rfl,rfl⟩,rfl,rfl,rfl,rfl⟩

end DisclosureSchedule

namespace SeriesWorld

open DisclosureSchedule

variable {α : Type} {lib : DisclosureLibrary α} {s0 : DisclosureSchedule α}
  {w : SeriesWorld α} {pages : List (Disclosure α)} {seen : List BookEvent}

/-- The disclosures in the queue are the pages made from the events seen. -/
structure Sent (s0 : DisclosureSchedule α) (w : SeriesWorld α) (pages : List (Disclosure α))
    (seen : List BookEvent) : Prop where
  series : Series s0 pages seen
  reached : ∃ rest, eventsAfter w.book.events s0.cursor = .ok (seen ++ rest)
  queued : ∀ d, d ∈ w.queued.map Prod.snd ↔ d ∈ pages

/-- The schedule stands behind the pages it has recorded; a pending page is the next of them, and
the queue may hold it already. -/
structure Open (s0 : DisclosureSchedule α) (w : SeriesWorld α) (pages : List (Disclosure α))
    (seen : List BookEvent) : Prop where
  series : Series s0 pages seen
  reached : ∃ rest, eventsAfter w.book.events s0.cursor = .ok (seen ++ rest)
  terms : SameTerms s0 w.schedule
  cursor : w.schedule.cursor = cursorBehind seen s0.cursor
  sequence : w.schedule.nextSequence = pages.length
  pending : ∀ d ∈ w.schedule.pending, ∃ new, Series s0 (pages ++ [d]) (seen ++ new) ∧
    ∃ rest, eventsAfter w.book.events s0.cursor = .ok (seen ++ new ++ rest)
  kept : ∀ d ∈ pages, d ∈ w.queued.map Prod.snd
  only : ∀ d ∈ w.queued.map Prod.snd, d ∈ pages ∨ d ∈ w.schedule.pending

theorem Open.sent (h : Open s0 w pages seen) : ∃ pages seen, Sent s0 w pages seen := by
  by_cases hp : ∃ d ∈ w.schedule.pending, d ∈ w.queued.map Prod.snd
  · obtain ⟨d,hd,hqueued⟩ := hp
    obtain ⟨new,hseries,hreached⟩ := h.pending d hd
    refine ⟨pages ++ [d],seen ++ new,hseries,hreached,fun e => ?_⟩
    rw [List.mem_append,List.mem_singleton]
    constructor
    · intro he
      rcases h.only e he with he | he
      · exact .inl he
      · exact .inr (Option.mem_unique he hd)
    · rintro (he | rfl)
      · exact h.kept e he
      · exact hqueued
  · refine ⟨pages,seen,h.series,h.reached,fun e => ⟨fun he => ?_,h.kept e⟩⟩
    rcases h.only e he with he' | he'
    · exact he'
    · exact absurd ⟨e,he',he⟩ hp

/-- Times and counts of the schedule do not matter to its place. -/
theorem Open.of_place {t : DisclosureSchedule α} (h : Open s0 w pages seen)
    (hplace : SamePlace w.schedule t) : Open s0 { w with schedule := t } pages seen :=
  ⟨h.series,h.reached,h.terms.trans hplace.toSameTerms,hplace.cursor.trans h.cursor,
    hplace.sequence.trans h.sequence,by simpa only [hplace.pending] using h.pending,h.kept,
    by simpa only [hplace.pending] using h.only⟩

/-- The pending page may be queued, again or for the first time. -/
theorem Open.requeue (h : Open s0 w pages seen) {d : Disclosure α}
    (hd : d ∈ w.schedule.pending) (packetId : String) :
    Open s0 { w with queued := (packetId,d) :: w.queued } pages seen := by
  refine ⟨h.series,h.reached,h.terms,h.cursor,h.sequence,h.pending,fun e he => ?_,fun e he => ?_⟩
  · simp [h.kept e he]
  · rw [List.map_cons,List.mem_cons] at he
    rcases he with rfl | he
    · exact .inr hd
    · exact h.only e he

/-- A recorded page that was queued is one of the pages from then on. -/
theorem Open.record (h : Open s0 w pages seen) {d : Disclosure α} {t : DisclosureSchedule α}
    (hd : d ∈ w.schedule.pending) (hqueued : d ∈ w.queued.map Prod.snd)
    (hterms : SameTerms w.schedule t) (hcursor : t.cursor = d.nextCursor)
    (hsequence : t.nextSequence = w.schedule.nextSequence + 1) (hpending : t.pending = none) :
    ∃ pages seen, Open s0 { w with schedule := t } pages seen := by
  obtain ⟨new,hseries,hreached⟩ := h.pending d hd
  refine ⟨pages ++ [d],seen ++ new,hseries,hreached,h.terms.trans hterms,?_,?_,?_,?_,?_⟩
  · exact hcursor.trans (hseries.last_cursor (by simp))
  · simp [hsequence,h.sequence]
  · simp [hpending]
  · intro e he
    rcases List.mem_append.mp he with he | he
    · exact h.kept e he
    · rwa [List.mem_singleton.mp he]
  · intro e he
    rcases h.only e he with he | he
    · exact .inl (List.mem_append_left _ he)
    · exact .inl (by simp [Option.mem_unique he hd])

/-- However far the writes for a pending page get, the schedule keeps its place or moves on. -/
theorem Open.finish {s : DisclosureSchedule α} {d : Disclosure α}
    (h : Open s0 { w with schedule := s } pages seen) (hd : d ∈ s.pending) (fate : RunFate)
    (packetId : String) (now : ℤ) : ∃ pages seen, Open s0 (w.finish s d fate packetId now) pages seen := by
  have hqueued := h.requeue hd packetId
  cases fate with
  | crashPrepared => exact ⟨pages,seen,h⟩
  | queueFails => exact ⟨pages,seen,h.of_place (failed_place now)⟩
  | crashQueued => exact ⟨pages,seen,hqueued⟩
  | archiveFails => exact ⟨pages,seen,hqueued.of_place (failed_place now)⟩
  | crashArchived => exact ⟨pages,seen,hqueued⟩
  | completes =>
    rcases success_cases (s := s) d now with hplace | ⟨hterms,hcursor,hsequence,hpending⟩
    · exact ⟨pages,seen,hqueued.of_place hplace⟩
    · exact hqueued.record hd (by simp) hterms hcursor hsequence hpending

/-- A page prepared at the schedule's place is the next of the series. -/
theorem Open.prepare (h : Open s0 w pages seen)
    (hnodup : (w.book.events.map BookEvent.eventId).Nodup) (hnone : w.schedule.pending = none)
    {page : FeedPage α} (hpage : read w.book w.schedule.cursor w.schedule.batchLimit
      w.schedule.subjectRef = .ok page) {now : ℤ} {d : Disclosure α}
    (hd : w.schedule.createSeries lib page now = .ok d) :
    Open s0 { w with schedule := { w.schedule with pending := some d } } pages seen := by
  obtain ⟨hunder,hsequence,hstarts,hnext,hactivities⟩ := createSeries_ok hd
  obtain ⟨new,rest,hnew,hcontent,hcursor⟩ := read_cases hpage
  obtain ⟨rest',hreached⟩ := h.reached
  have hrest : rest' = new ++ rest := by
    have hbehind := eventsAfter_behind hnodup hreached
    rw [← h.cursor,hnew] at hbehind
    exact (Except.ok.inj hbehind).symm
  have hterms : d.Under s0 := ⟨hunder.observer.trans h.terms.observer,
    hunder.audience.trans h.terms.audience,hunder.series.trans h.terms.series,
    hunder.scope.trans h.terms.scope,hunder.baseline.trans h.terms.baseline⟩
  have hsame : SameTerms s0 { w.schedule with pending := some d } :=
    h.terms.trans ⟨rfl,rfl,rfl,rfl,rfl⟩
  refine ⟨h.series,h.reached,hsame,h.cursor,h.sequence,?_,h.kept,?_⟩
  · rintro e he
    cases he
    refine ⟨new,.page pages seen new d h.series hterms (hsequence.trans h.sequence)
      (hstarts.trans h.cursor) ?_ ?_,rest,?_⟩
    · rw [hnext,hcursor,h.cursor,cursorBehind_append]
    · rw [hactivities,hcontent,h.terms.scope]
    · rw [hreached,hrest,List.append_assoc]
  · intro e he
    rcases h.only e he with he | he
    · exact .inl he
    · simp [hnone] at he

theorem Open.nextPage (h : Open s0 w pages seen)
    (hnodup : (w.book.events.map BookEvent.eventId).Nodup) (hnone : w.schedule.pending = none)
    (fate : RunFate) (packetId : String) (now : ℤ) :
    ∃ pages seen, Open s0 (w.nextPage lib fate packetId now) pages seen := by
  unfold SeriesWorld.nextPage
  simp only
  split
  · exact ⟨pages,seen,h.of_place (failed_place now)⟩
  · next page hpage =>
    split
    · exact ⟨pages,seen,h.of_place (idle_place now)⟩
    · split
      · exact ⟨pages,seen,h.of_place (failed_place now)⟩
      · next d hd => exact (h.prepare hnodup hnone hpage hd).finish rfl fate packetId now

/-- A schedule that will not be active again. -/
def Closed (w : SeriesWorld α) : Prop := w.schedule.revokedMs ≠ 0 ∨ w.lapsed = true

/-- What every state of a series keeps. -/
structure Kept (s0 : DisclosureSchedule α) (w : SeriesWorld α) : Prop where
  nodup : (w.book.events.map BookEvent.eventId).Nodup
  place : (∃ pages seen, Open s0 w pages seen) ∨ (w.Closed ∧ ∃ pages seen, Sent s0 w pages seen)

/-- What the queue and the audience's book keep of the packets. -/
structure Mailed (w : SeriesWorld α) : Prop where
  packets : (w.queued.map Prod.fst).Nodup
  arrived : ∀ a ∈ w.arrived, a ∈ w.queued
  received : ∀ r ∈ w.received, r ∈ w.arrived
  distinct : (w.received.map fun r => r.2.disclosureId).Nodup
  covered : ∀ a ∈ w.arrived, ∃ r ∈ w.received, r.1 = a.1 ∨ r.2.disclosureId = a.2.disclosureId

theorem Kept.sent (h : Kept s0 w) : ∃ pages seen, Sent s0 w pages seen := by
  rcases h.place with ⟨pages,seen,hopen⟩ | ⟨-,hsent⟩
  · exact hopen.sent
  · exact hsent

theorem Kept.start (h : IsNew w) : Kept w.schedule w := by
  obtain ⟨events,hevents⟩ := h.known
  refine ⟨h.nodup,.inl ⟨[],[],.start,⟨events,hevents⟩,⟨rfl,rfl,rfl,rfl,rfl⟩,by simp [cursorBehind],
    h.first,?_,by simp,?_⟩⟩
  · simp [h.pending]
  · simp [h.queued]

theorem Mailed.start (h : IsNew w) : Mailed w := by
  constructor <;> simp [h.queued,h.arrived,h.received]

/-- A run leaves the book alone and queues one packet at most. -/
theorem finish_frame (s : DisclosureSchedule α) (d : Disclosure α) (fate : RunFate)
    (packetId : String) (now : ℤ) : (w.finish s d fate packetId now).book = w.book ∧
      (w.finish s d fate packetId now).arrived = w.arrived ∧
      (w.finish s d fate packetId now).received = w.received ∧
      ((w.finish s d fate packetId now).queued = w.queued ∨
        (w.finish s d fate packetId now).queued = (packetId,d) :: w.queued) := by
  cases fate <;> simp [finish]

theorem runOnce_frame (lib : DisclosureLibrary α) (force : Bool) (fate : RunFate) (packetId : String) (now : ℤ) :
    (w.runOnce lib force fate packetId now).book = w.book ∧
      (w.runOnce lib force fate packetId now).arrived = w.arrived ∧
      (w.runOnce lib force fate packetId now).received = w.received ∧
      ((w.runOnce lib force fate packetId now).queued = w.queued ∨
        ∃ d, (w.runOnce lib force fate packetId now).queued = (packetId,d) :: w.queued) := by
  have hfinish (s : DisclosureSchedule α) (d : Disclosure α) :=
    finish_frame (w := w) s d fate packetId now
  unfold runOnce
  split
  · exact ⟨rfl,rfl,rfl,.inl rfl⟩
  · exact ⟨rfl,rfl,rfl,.inl rfl⟩
  · split
    · split
      · next d _ =>
        obtain ⟨hbook,harrived,hreceived,hqueued⟩ := hfinish w.schedule d
        exact ⟨hbook,harrived,hreceived,hqueued.imp id fun h => ⟨d,h⟩⟩
      · unfold nextPage
        simp only
        split
        · exact ⟨rfl,rfl,rfl,.inl rfl⟩
        · split
          · exact ⟨rfl,rfl,rfl,.inl rfl⟩
          · split
            · exact ⟨rfl,rfl,rfl,.inl rfl⟩
            · next d _ =>
              obtain ⟨hbook,harrived,hreceived,hqueued⟩ := hfinish _ d
              exact ⟨hbook,harrived,hreceived,hqueued.imp id fun h => ⟨d,h⟩⟩
    · exact ⟨rfl,rfl,rfl,.inl rfl⟩

theorem Open.runOnce (h : Open s0 w pages seen)
    (hnodup : (w.book.events.map BookEvent.eventId).Nodup) (force : Bool) (fate : RunFate)
    (packetId : String) (now : ℤ) (hactive : w.schedule.state now = .active) :
    ∃ pages seen, Open s0 (w.runOnce lib force fate packetId now) pages seen := by
  simp only [SeriesWorld.runOnce,hactive]
  split
  · split
    · next d hd => exact Open.finish h hd fate packetId now
    · next hnone => exact h.nextPage hnodup hnone fate packetId now
  · exact ⟨pages,seen,h⟩

/-- What has been sent is not touched by a run of a schedule that is not active. -/
theorem runOnce_idle (lib : DisclosureLibrary α) (force : Bool) (fate : RunFate) (packetId : String) (now : ℤ)
    (hactive : w.schedule.state now ≠ .active) :
    (w.runOnce lib force fate packetId now).queued = w.queued ∧
      (w.runOnce lib force fate packetId now).Closed := by
  unfold SeriesWorld.runOnce
  cases hstate : w.schedule.state now with
  | revoked =>
    refine ⟨rfl,.inl fun hzero => ?_⟩
    simp only [state,hzero,ne_eq,not_true_eq_false,if_false] at hstate
    split at hstate <;> cases hstate
  | expired => exact ⟨rfl,.inr rfl⟩
  | active => exact absurd hstate hactive

theorem Sent.of_queued {w' : SeriesWorld α} (h : Sent s0 w pages seen) (hbook : w'.book = w.book)
    (hqueued : w'.queued = w.queued) : Sent s0 w' pages seen :=
  ⟨h.series,by rw [hbook]; exact h.reached,by rw [hqueued]; exact h.queued⟩

/-- A closed schedule is not active when the clock has not gone back behind its expiry. -/
theorem Closed.not_active (h : w.Closed) {now : ℤ}
    (hlapsed : w.lapsed = true → w.schedule.expiresMs ≤ now) : w.schedule.state now ≠ .active := by
  unfold state
  rcases h with hrevoked | hlapse
  · simp [hrevoked]
  · rw [if_pos (hlapsed hlapse)]
    split <;> simp

theorem Kept.run (h : Kept s0 w) (force : Bool) (fate : RunFate) (packetId : String) (now : ℤ)
    (hlapsed : w.lapsed = true → w.schedule.expiresMs ≤ now) :
    Kept s0 (w.runOnce lib force fate packetId now) := by
  obtain ⟨hbook,-,-,-⟩ := runOnce_frame (w := w) lib force fate packetId now
  refine ⟨by rw [hbook]; exact h.nodup,?_⟩
  by_cases hactive : w.schedule.state now = .active
  · rcases h.place with ⟨pages,seen,hopen⟩ | ⟨hclosed,-⟩
    · exact .inl (hopen.runOnce h.nodup force fate packetId now hactive)
    · exact absurd hactive (hclosed.not_active hlapsed)
  · obtain ⟨pages,seen,hsent⟩ := h.sent
    obtain ⟨hqueued,hclosed⟩ := runOnce_idle lib force fate packetId now hactive
    exact .inr ⟨hclosed,pages,seen,hsent.of_queued hbook hqueued⟩

theorem Kept.grow (h : Kept s0 w) (new : List BookEvent) (subjects : List String)
    (project : BookEvent → Result α)
    (hfresh : ((w.book.events ++ new).map BookEvent.eventId).Nodup) :
    Kept s0 (w.grow new subjects project) := by
  have hgrown {seen : List BookEvent}
      (hreached : ∃ rest, eventsAfter w.book.events s0.cursor = .ok (seen ++ rest)) :
      ∃ rest, eventsAfter (w.book.events ++ new) s0.cursor = .ok (seen ++ rest) := by
    obtain ⟨rest,hrest⟩ := hreached
    exact ⟨rest ++ new,by rw [eventsAfter_append hrest,List.append_assoc]⟩
  refine ⟨hfresh,h.place.imp ?_ ?_⟩
  · rintro ⟨pages,seen,ho⟩
    refine ⟨pages,seen,ho.series,hgrown ho.reached,ho.terms,ho.cursor,ho.sequence,fun d hd => ?_,
      ho.kept,ho.only⟩
    obtain ⟨more,hseries,hreached⟩ := ho.pending d hd
    exact ⟨more,hseries,hgrown hreached⟩
  · rintro ⟨hclosed,pages,seen,hsent⟩
    exact ⟨hclosed,pages,seen,hsent.series,hgrown hsent.reached,hsent.queued⟩

theorem Kept.revoke (h : Kept s0 w) {s : DisclosureSchedule α} {now : ℤ} (hnow : now ≠ 0)
    (hrevoked : w.schedule.revoke now = .ok s) : Kept s0 { w with schedule := s } := by
  obtain ⟨pages,seen,hsent⟩ := h.sent
  refine ⟨h.nodup,.inr ⟨.inl ?_,pages,seen,hsent.of_queued rfl rfl⟩⟩
  unfold DisclosureSchedule.revoke at hrevoked
  split at hrevoked
  · next hbefore =>
    cases hrevoked
    exact hbefore
  · rw [replaced_ok hrevoked]
    exact hnow

theorem Kept.deliver (h : Kept s0 w) (packetId : String) (d : Disclosure α) :
    Kept s0 (w.deliver packetId d) := by
  refine ⟨h.nodup,h.place.imp ?_ ?_⟩
  · rintro ⟨pages,seen,ho⟩
    exact ⟨pages,seen,ho.series,ho.reached,ho.terms,ho.cursor,ho.sequence,ho.pending,ho.kept,ho.only⟩
  · rintro ⟨hclosed,pages,seen,hsent⟩
    exact ⟨hclosed,pages,seen,hsent.of_queued rfl rfl⟩

theorem Mailed.queue (h : Mailed w) {w' : SeriesWorld α} (harrived : w'.arrived = w.arrived)
    (hreceived : w'.received = w.received) (hsub : ∀ a ∈ w.queued, a ∈ w'.queued)
    (hpackets : (w'.queued.map Prod.fst).Nodup) : Mailed w' :=
  ⟨hpackets,by rw [harrived]; exact fun a ha => hsub a (h.arrived a ha),
    by rw [harrived,hreceived]; exact h.received,by rw [hreceived]; exact h.distinct,
    by rw [harrived,hreceived]; exact h.covered⟩

theorem Mailed.run (h : Mailed w) (force : Bool) (fate : RunFate) (packetId : String) (now : ℤ)
    (hpacket : packetId ∉ w.queued.map Prod.fst) :
    Mailed (w.runOnce lib force fate packetId now) := by
  obtain ⟨-,harrived,hreceived,hqueued⟩ := runOnce_frame (w := w) lib force fate packetId now
  rcases hqueued with hqueued | ⟨d,hqueued⟩
  · refine h.queue harrived hreceived ?_ ?_
    · rw [hqueued]
      exact fun a ha => ha
    · rw [hqueued]
      exact h.packets
  · refine h.queue harrived hreceived ?_ ?_
    · rw [hqueued]
      exact fun a ha => List.mem_cons_of_mem _ ha
    · rw [hqueued,List.map_cons,List.nodup_cons]
      exact ⟨hpacket,h.packets⟩

theorem Mailed.deliver (h : Mailed w) {packetId : String} {d : Disclosure α}
    (hqueued : (packetId,d) ∈ w.queued) : Mailed (w.deliver packetId d) := by
  have harrived : ∀ a ∈ (w.deliver packetId d).arrived, a ∈ w.queued := by
    intro a ha
    rcases List.mem_cons.mp ha with rfl | ha
    · exact hqueued
    · exact h.arrived a ha
  have hold : ∀ r ∈ w.received, r ∈ (w.deliver packetId d).arrived :=
    fun r hr => List.mem_cons_of_mem _ (h.received r hr)
  rcases SeriesReport.add_cases packetId d w.received with ⟨hadd,hknown⟩ | ⟨hadd,hnew⟩
  · refine ⟨h.packets,harrived,?_,?_,fun a ha => ?_⟩
    · simpa only [SeriesWorld.deliver,hadd] using hold
    · simpa only [SeriesWorld.deliver,hadd] using h.distinct
    · simp only [SeriesWorld.deliver,hadd]
      rcases List.mem_cons.mp ha with rfl | ha
      · exact hknown
      · exact h.covered a ha
  · refine ⟨h.packets,harrived,fun r hr => ?_,?_,fun a ha => ?_⟩
    · simp only [SeriesWorld.deliver,hadd] at hr
      rcases List.mem_append.mp hr with hr | hr
      · exact hold r hr
      · rw [List.mem_singleton.mp hr]
        exact List.mem_cons_self ..
    · simp only [SeriesWorld.deliver,hadd,List.map_append,List.map_singleton]
      refine List.Nodup.append h.distinct (List.nodup_singleton _) ?_
      intro i hi hi'
      obtain ⟨r,hr,rfl⟩ := List.mem_map.mp hi
      exact hnew r hr (List.mem_singleton.mp hi')
    · simp only [SeriesWorld.deliver,hadd]
      rcases List.mem_cons.mp ha with rfl | ha
      · exact ⟨(packetId,d),by simp,.inl rfl⟩
      · obtain ⟨r,hr,hmatch⟩ := h.covered a ha
        exact ⟨r,List.mem_append_left _ hr,hmatch⟩

theorem kept_step (w w' : SeriesWorld α) (h : Kept s0 w ∧ Mailed w) (hstep : Step lib w w') :
    Kept s0 w' ∧ Mailed w' := by
  obtain ⟨hkept,hmailed⟩ := h
  cases hstep with
  | grow new subjects project hfresh =>
    exact ⟨hkept.grow new subjects project hfresh,
      hmailed.queue rfl rfl (fun a ha => ha) hmailed.packets⟩
  | run force fate packetId now hpacket hlapsed =>
    exact ⟨hkept.run force fate packetId now hlapsed,hmailed.run force fate packetId now hpacket⟩
  | revoke s now hnow hrevoked =>
    exact ⟨hkept.revoke hnow hrevoked,hmailed.queue rfl rfl (fun a ha => ha) hmailed.packets⟩
  | deliver packetId d hqueued => exact ⟨hkept.deliver packetId d,hmailed.deliver hqueued⟩

/-- The queue holds one gap-free series over the events in scope behind the schedule's first cursor,
and a report about what the audience has received of it names exactly its gaps. -/
structure Continuous (w0 w : SeriesWorld α) (pages : List (Disclosure α)) (seen rest : List BookEvent) :
    Prop where
  queued : ∀ d, d ∈ w.queued.map Prod.snd ↔ d ∈ pages
  sequences : pages.map Disclosure.sequence = List.range pages.length
  starts : ∀ d ∈ pages, d.sequence = 0 → d.startsAfter = w0.schedule.cursor
  links : ∀ d ∈ pages, ∀ e ∈ pages, e.sequence = d.sequence + 1 → e.startsAfter = d.nextCursor
  events : eventsAfter w.book.events w0.schedule.cursor = .ok (seen ++ rest)
  through : ∀ d ∈ pages.getLast?, eventsAfter w.book.events d.nextCursor = .ok rest
  covers : pages.flatMap (fun d => d.activities.map FeedActivity.eventId) =
    (seen.filter (inScope w0.schedule.subjectRef)).map BookEvent.eventId
  received : ∀ r ∈ w.received, r.2 ∈ pages
  arrivals : (∀ p ∈ w.queued, ∀ q ∈ w.queued, p.2.disclosureId = q.2.disclosureId → p.2 = q.2) →
    ∀ d, (∃ a ∈ w.arrived, a.2 = d) ↔ ∃ r ∈ w.received, r.2 = d
  report : w.received ≠ [] → ((SeriesReport.analyzeSeries w.received).continuity =
    "proven-continuous" ↔ ∃ n, ∀ i, (∃ r ∈ w.received, r.2.sequence = i) ↔ i < n)
  missing : ∀ i, i ∈ (SeriesReport.analyzeSeries w.received).missingSequences ↔
    (∀ r ∈ w.received, r.2.sequence ≠ i) ∧ ∃ r ∈ w.received, i < r.2.sequence

/-- Without two pages of one id, what has arrived is what the book of the audience has kept. -/
theorem Mailed.arrivals (h : Mailed w)
    (hids : ∀ p ∈ w.queued, ∀ q ∈ w.queued, p.2.disclosureId = q.2.disclosureId → p.2 = q.2)
    (d : Disclosure α) : (∃ a ∈ w.arrived, a.2 = d) ↔ ∃ r ∈ w.received, r.2 = d := by
  constructor
  · rintro ⟨a,ha,rfl⟩
    have haqueued := h.arrived a ha
    obtain ⟨r,hr,hmatch⟩ := h.covered a ha
    have hrqueued := h.arrived r (h.received r hr)
    refine ⟨r,hr,?_⟩
    rcases hmatch with hpacket | hid
    · rw [List.inj_on_of_nodup_map h.packets hrqueued haqueued hpacket]
    · exact hids r hrqueued a haqueued hid
  · rintro ⟨r,hr,rfl⟩
    exact ⟨r,h.received r hr,rfl⟩

theorem Sent.continuous {w0 : SeriesWorld α} (h : Sent w0.schedule w pages seen) (hmailed : Mailed w)
    (hnodup : (w.book.events.map BookEvent.eventId).Nodup) :
    ∃ rest, Continuous w0 w pages seen rest := by
  obtain ⟨rest,hrest⟩ := h.reached
  have hreceived : ∀ r ∈ w.received, r.2 ∈ pages := fun r hr =>
    (h.queued r.2).mp (List.mem_map_of_mem (hmailed.arrived r (hmailed.received r hr)))
  refine ⟨rest,h.queued,h.series.sequences,h.series.first_starts,h.series.links,hrest,fun d hd => ?_,
    h.series.covers,hreceived,hmailed.arrivals,fun _ => ?_,fun i => SeriesReport.mem_missing⟩
  · rw [h.series.last_cursor hd]
    exact eventsAfter_behind hnodup hrest
  · exact SeriesReport.continuity_pages h.series hreceived hmailed.distinct

/-- Any run from a new schedule on leaves one gap-free series in the queue. -/
theorem series_stays_continuous {w0 : SeriesWorld α} (hnew : IsNew w0)
    (hrun : Reaches (Step lib) w0 w) : ∃ pages seen rest, Continuous w0 w pages seen rest := by
  obtain ⟨hkept,hmailed⟩ := Reaches.invariant (I := fun w => Kept w0.schedule w ∧ Mailed w)
    kept_step ⟨.start hnew,.start hnew⟩ hrun
  obtain ⟨pages,seen,hsent⟩ := hkept.sent
  exact ⟨pages,seen,hsent.continuous hmailed hkept.nodup⟩

/-- Ids and a feed for the examples below. -/
def sampleLibrary : DisclosureLibrary Unit :=
  ⟨fun d => s!"rdis_{d.sequence}_{d.activities.length}",fun _ => .ok ()⟩

def sampleSeries : SeriesWorld Unit where
  book := ⟨[⟨"revt_1",""⟩],[],fun _ => .ok ()⟩
  schedule := ⟨"observer","audience","",30,10,1,100,none,1,"rdsr_1",0,"history-start",0,0,none⟩
  lapsed := false
  queued := []
  arrived := []
  received := []

theorem sampleSeries_new : IsNew sampleSeries :=
  ⟨by decide,⟨_,rfl⟩,rfl,rfl,rfl,rfl,rfl⟩

/-- The first page is queued twice, around a crash, and the second one arrives before it. -/
def sampleRun : SeriesWorld Unit :=
  ((((sampleSeries.runOnce sampleLibrary false .crashQueued "p1" 10).runOnce sampleLibrary false
    .completes "p2" 20).grow [⟨"revt_2",""⟩] [] fun _ => .ok ()).runOnce sampleLibrary true
    .completes "p3" 30).deliver "p3" ⟨"rdis_1_1","observer","audience",30,[⟨"revt_2",()⟩],
      some "revt_2",false,"rdsr_1",1,some "revt_1","","history-start"⟩

theorem series_stays_continuous_sample :
    (SeriesReport.analyzeSeries sampleRun.received).missingSequences = [0] ∧
      ∃ pages seen rest, Continuous sampleSeries sampleRun pages seen rest := by
  have hcrash : Reaches (Step sampleLibrary) sampleSeries _ :=
    .single (.run sampleSeries false .crashQueued "p1" 10 (by decide) (by decide))
  have hfirst := hcrash.tail (.run _ false .completes "p2" 20 (by decide) (by decide))
  have hgrown := hfirst.tail (.grow _ [⟨"revt_2",""⟩] [] (fun _ => .ok ()) (by decide))
  have hsecond := hgrown.tail (.run _ true .completes "p3" 30 (by decide) (by decide))
  exact ⟨by decide,series_stays_continuous sampleSeries_new
    (hsecond.tail (.deliver _ "p3" _ (List.mem_cons_self ..)))⟩

/-- A clock set back revives a schedule whose pending page was queued and then discarded: the next
page has its number. -/
def revivedRun : SeriesWorld Unit :=
  (((sampleSeries.runOnce sampleLibrary false .crashQueued "p1" 10).runOnce sampleLibrary false
    .completes "p2" 100).grow [⟨"revt_2",""⟩] [] fun _ => .ok ()).runOnce sampleLibrary false
    .completes "p3" 50

theorem revived_schedule_repeats : IsNew sampleSeries ∧
    (revivedRun.queued.map fun p => (p.2.sequence,p.2.disclosureId)) =
      [(0,"rdis_0_2"),(0,"rdis_0_1")] ∧
    ¬ ∃ pages seen rest, Continuous sampleSeries revivedRun pages seen rest := by
  refine ⟨sampleSeries_new,by decide,?_⟩
  rintro ⟨pages,seen,rest,h⟩
  have hnodup : (pages.map Disclosure.sequence).Nodup := by
    rw [h.sequences]
    exact List.nodup_range
  have hpage : ∀ p ∈ revivedRun.queued, p.2 ∈ pages := fun p hp =>
    (h.queued p.2).mp (List.mem_map_of_mem hp)
  have hsame := List.inj_on_of_nodup_map hnodup (hpage _ (List.mem_cons_self ..))
    (hpage _ (List.mem_cons_of_mem _ (List.mem_cons_self ..))) rfl
  exact absurd (congrArg Disclosure.disclosureId hsame) (by decide)

end SeriesWorld
end Anet
