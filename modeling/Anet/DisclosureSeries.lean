import Anet.Python
import Anet.Transition
import Mathlib.Data.List.Sort

/-! Disclosure series: an observer's schedule prepares a page of its relationship feed, queues it
and records it, each of these a write of its own; the audience keeps what arrives and judges from
it whether the series has a gap. -/
namespace Anet

structure BookEvent where
  eventId : String
  subjectRef : String
  deriving DecidableEq

/-- What the feed reads of a relationship book: its events in the order they were appended, its
subjects, and the content of the activity of an event. -/
structure BookModel (α : Type) where
  events : List BookEvent
  subjects : List String
  project : BookEvent → Result α

/-- An activity; its id and its own cursor are made from the id of its event. -/
structure FeedActivity (α : Type) where
  eventId : String
  body : α

/-- A page of the feed. A cursor names the last event that was read. -/
structure FeedPage (α : Type) where
  activities : List (FeedActivity α)
  nextCursor : Option String
  hasMore : Bool

namespace ActivityFeed

variable {α : Type}

/-- The events behind a cursor. -/
def eventsAfter (events : List BookEvent) : Option String → Result (List BookEvent)
  | none => .ok events
  | some eventId =>
    match events.dropWhile fun e => e.eventId ≠ eventId with
    | [] => .error (.value "relationship activity cursor is unknown or stale")
    | _ :: rest => .ok rest

def inScope (subjectRef : String) (e : BookEvent) : Bool := subjectRef = "" || e.subjectRef = subjectRef

/-- The activities up to the limit, and the events read for them. -/
def scanEvents (project : BookEvent → Result α) (subjectRef : String) :
    List BookEvent → ℕ → Result (List (FeedActivity α) × List BookEvent)
  | [],_ => .ok ([],[])
  | _ :: _,0 => .ok ([],[])
  | e :: es,limit + 1 =>
    if inScope subjectRef e then do
      let body ← project e
      let rest ← scanEvents project subjectRef es limit
      return (⟨e.eventId,body⟩ :: rest.1,e :: rest.2)
    else do
      let rest ← scanEvents project subjectRef es (limit + 1)
      return (rest.1,e :: rest.2)

/-- `RelationshipActivityFeed.read` from a cursor on. -/
def read (model : BookModel α) (after : Option String) (limit : ℕ) (subjectRef : String) :
    Result (FeedPage α) := do
  raiseIf (subjectRef ≠ "" ∧ subjectRef ∉ model.subjects)
    (.key s!"unknown Subject hypothesis: {subjectRef}")
  let events ← eventsAfter model.events after
  let read ← scanEvents model.project subjectRef events limit
  return ⟨read.1,(read.2.getLast?.map BookEvent.eventId).or after,read.2.length < events.length⟩

/-- The cursor behind the events that were read from a cursor on. -/
def cursorBehind (seen : List BookEvent) (after : Option String) : Option String :=
  (seen.getLast?.map BookEvent.eventId).or after

theorem cursorBehind_append (seen new : List BookEvent) (after : Option String) :
    cursorBehind (seen ++ new) after = cursorBehind new (cursorBehind seen after) := by
  unfold cursorBehind
  rw [List.getLast?_append]
  cases new.getLast? <;> simp

/-- What is behind a cursor stays there, before whatever the book adds. -/
theorem eventsAfter_append {events rest : List BookEvent} {after : Option String}
    (h : eventsAfter events after = .ok rest) (new : List BookEvent) :
    eventsAfter (events ++ new) after = .ok (rest ++ new) := by
  cases after with
  | none =>
    simp only [eventsAfter,Except.ok.injEq] at h ⊢
    rw [h]
  | some eventId =>
    simp only [eventsAfter] at h ⊢
    rw [List.dropWhile_append]
    cases hd : events.dropWhile fun e => e.eventId ≠ eventId with
    | nil =>
      rw [hd] at h
      cases h
    | cons e es =>
      rw [hd] at h
      simp only [Except.ok.injEq] at h
      simp [h]

theorem eventsAfter_suffix {events rest : List BookEvent} {after : Option String}
    (h : eventsAfter events after = .ok rest) : rest <:+ events := by
  cases after with
  | none =>
    simp only [eventsAfter,Except.ok.injEq] at h
    subst h
    exact List.suffix_rfl
  | some eventId =>
    simp only [eventsAfter] at h
    have hsuffix := List.dropWhile_suffix (l := events) fun e => e.eventId ≠ eventId
    cases hd : events.dropWhile fun e => e.eventId ≠ eventId with
    | nil =>
      rw [hd] at h
      cases h
    | cons e es =>
      rw [hd] at h hsuffix
      simp only [Except.ok.injEq] at h
      subst h
      exact (List.suffix_cons e es).trans hsuffix

/-- An event's own cursor stands behind it, as no other event has its id. -/
theorem eventsAfter_event {pre rest : List BookEvent} {e : BookEvent}
    (hnodup : ((pre ++ e :: rest).map BookEvent.eventId).Nodup) :
    eventsAfter (pre ++ e :: rest) (some e.eventId) = .ok rest := by
  have hpre : ∀ a ∈ pre, decide (a.eventId ≠ e.eventId) = true := by
    intro a ha
    rw [List.map_append,List.map_cons,List.nodup_append] at hnodup
    have hne := hnodup.2.2 a.eventId (List.mem_map_of_mem ha) e.eventId (List.mem_cons_self ..)
    simpa using hne
  simp only [eventsAfter]
  rw [List.dropWhile_append_of_pos hpre,List.dropWhile_cons_of_neg (by simp)]

/-- Reading on from the cursor behind what was read finds the rest. -/
theorem eventsAfter_behind {events seen rest : List BookEvent} {after : Option String}
    (hnodup : (events.map BookEvent.eventId).Nodup)
    (h : eventsAfter events after = .ok (seen ++ rest)) :
    eventsAfter events (cursorBehind seen after) = .ok rest := by
  rcases List.eq_nil_or_concat seen with rfl | ⟨front,e,rfl⟩
  · simpa [cursorBehind] using h
  · obtain ⟨pre,hpre⟩ := eventsAfter_suffix h
    have hevents : events = (pre ++ front) ++ e :: rest := by simp [← hpre]
    have hcursor : cursorBehind (front.concat e) after = some e.eventId := by simp [cursorBehind]
    rw [hcursor,hevents]
    rw [hevents] at hnodup
    exact eventsAfter_event hnodup

/-- A scan reads a first part of the events and makes an activity of each event in scope. -/
theorem scanEvents_cases {project : BookEvent → Result α} {subjectRef : String}
    {events : List BookEvent} {limit : ℕ} {r : List (FeedActivity α) × List BookEvent}
    (h : scanEvents project subjectRef events limit = .ok r) :
    ∃ rest, events = r.2 ++ rest ∧
      r.1.map FeedActivity.eventId = (r.2.filter (inScope subjectRef)).map BookEvent.eventId := by
  induction events generalizing limit r with
  | nil =>
    cases limit <;> cases h <;> exact ⟨[],by simp,by simp⟩
  | cons e es ih =>
    cases limit with
    | zero =>
      cases h
      exact ⟨e :: es,by simp,by simp⟩
    | succ limit =>
      simp only [scanEvents] at h
      split at h
      · next hscope =>
        simp only [bind_ok] at h
        obtain ⟨body,-,r',hr',hr⟩ := h
        cases hr
        obtain ⟨rest,hes,hactivities⟩ := ih hr'
        exact ⟨rest,by simp [hes],by simp [hscope,hactivities]⟩
      · next hscope =>
        simp only [bind_ok] at h
        obtain ⟨r',hr',hr⟩ := h
        cases hr
        obtain ⟨rest,hes,hactivities⟩ := ih hr'
        exact ⟨rest,by simp [hes],by simp [hscope,hactivities]⟩

/-- A page holds the activities of the events in scope up to its cursor. -/
theorem read_cases {model : BookModel α} {after : Option String} {limit : ℕ} {subjectRef : String}
    {page : FeedPage α} (h : read model after limit subjectRef = .ok page) :
    ∃ new rest, eventsAfter model.events after = .ok (new ++ rest) ∧
      page.activities.map FeedActivity.eventId =
        (new.filter (inScope subjectRef)).map BookEvent.eventId ∧
      page.nextCursor = cursorBehind new after := by
  simp only [read,bind_ok] at h
  obtain ⟨-,-,events,hevents,r,hr,hpage⟩ := h
  cases hpage
  obtain ⟨rest,hrest,hactivities⟩ := scanEvents_cases hr
  exact ⟨r.2,rest,by rw [hevents,hrest],hactivities,rfl⟩

end ActivityFeed

/-- A version 2 disclosure. -/
structure Disclosure (α : Type) where
  disclosureId : String
  observerActorId : String
  audienceActorId : String
  issuedMs : ℤ
  activities : List (FeedActivity α)
  nextCursor : Option String
  hasMore : Bool
  seriesId : String
  sequence : ℕ
  startsAfter : Option String
  scopeSubjectRef : String
  baseline : String

/-- The content digest of a disclosure, and the checks that its constructor makes. -/
structure DisclosureLibrary (α : Type) where
  digest : Disclosure α → String
  check : Disclosure α → Result Unit

/-- The fields of a schedule that its runs read and write; `pending` starts at the cursor. -/
structure DisclosureSchedule (α : Type) where
  observerActorId : String
  audienceActorId : String
  subjectRef : String
  intervalSeconds : ℤ
  batchLimit : ℕ
  createdMs : ℤ
  expiresMs : ℤ
  cursor : Option String
  nextDueMs : ℤ
  seriesId : String
  nextSequence : ℕ
  baseline : String
  revokedMs : ℤ
  failureCount : ℕ
  pending : Option (Disclosure α)

inductive ScheduleState
  | revoked | expired | active
  deriving DecidableEq

/-- What becomes of a pending page in a run: a crash or a failure between two writes. -/
inductive RunFate
  | crashPrepared | queueFails | crashQueued | archiveFails | crashArchived | completes
  deriving DecidableEq

namespace DisclosureSchedule

variable {α : Type}

def maxIntervalSeconds : ℤ := 86400

def state (s : DisclosureSchedule α) (now : ℤ) : ScheduleState :=
  if s.revokedMs ≠ 0 then .revoked else if s.expiresMs ≤ now then .expired else .active

/-- `due` of an active schedule. -/
def due (s : DisclosureSchedule α) (now : ℤ) : Prop := s.nextDueMs ≤ now

instance (s : DisclosureSchedule α) (now : ℤ) : Decidable (s.due now) :=
  inferInstanceAs (Decidable (s.nextDueMs ≤ now))

/-- The checks of the constructor on the times that an update sets. -/
def replaced (s : DisclosureSchedule α) : Result (DisclosureSchedule α) := do
  raiseIf (s.nextDueMs < s.createdMs) (.value "invalid relationship disclosure schedule due time")
  raiseIf (s.revokedMs ≠ 0 ∧ s.revokedMs < s.createdMs)
    (.value "invalid relationship disclosure revocation time")
  return s

theorem replaced_ok {s t : DisclosureSchedule α} (h : s.replaced = .ok t) : t = s := by
  simp only [replaced,bind_ok] at h
  obtain ⟨-,-,-,-,h⟩ := h
  cases h
  rfl

def revoke (s : DisclosureSchedule α) (now : ℤ) : Result (DisclosureSchedule α) :=
  if s.revokedMs ≠ 0 then return s
  else replaced { s with revokedMs := now, pending := none, nextDueMs := max s.nextDueMs now }

def recordIdle (s : DisclosureSchedule α) (now : ℤ) : Result (DisclosureSchedule α) :=
  replaced { s with nextDueMs := now + s.intervalSeconds * 1000 }

def recordFailure (s : DisclosureSchedule α) (now : ℤ) : Result (DisclosureSchedule α) :=
  let failures := min (s.failureCount + 1) 16
  let delay := min (s.intervalSeconds * 2 ^ min (failures - 1) 6) maxIntervalSeconds
  replaced { s with failureCount := failures, nextDueMs := now + delay * 1000 }

def recordSuccess (s : DisclosureSchedule α) (d : Disclosure α) (now : ℤ) :
    Result (DisclosureSchedule α) :=
  replaced { s with
    cursor := d.nextCursor
    nextSequence := s.nextSequence + 1
    pending := none
    failureCount := 0
    nextDueMs := now + s.intervalSeconds * 1000 }

/-- The handler of a run: it records the failure, or raises itself and leaves the schedule. -/
def failed (s : DisclosureSchedule α) (now : ℤ) : DisclosureSchedule α :=
  match s.recordFailure now with
  | .ok s' => s'
  | .error _ => s

/-- An update under that handler. -/
def attempted (s : DisclosureSchedule α) (update : Result (DisclosureSchedule α)) (now : ℤ) :
    DisclosureSchedule α :=
  match update with
  | .ok s' => s'
  | .error _ => s.failed now

/-- `create_series` for the next page of the schedule. -/
def createSeries (lib : DisclosureLibrary α) (s : DisclosureSchedule α) (page : FeedPage α)
    (now : ℤ) : Result (Disclosure α) := do
  let unsigned : Disclosure α := ⟨"",s.observerActorId,s.audienceActorId,now,page.activities,
    page.nextCursor,page.hasMore,s.seriesId,s.nextSequence,s.cursor,s.subjectRef,s.baseline⟩
  let disclosure := { unsigned with disclosureId := lib.digest unsigned }
  lib.check disclosure
  return disclosure

end DisclosureSchedule

/-- The received pages, and the report about a series. -/
structure SeriesReport where
  continuity : String
  missingSequences : List ℕ
  duplicateSequences : List ℕ
  issues : List String

namespace SeriesReport

variable {α : Type}

abbrev Received (α : Type) := List (String × Disclosure α)

/-- `RelationshipDisclosureBook.add`. -/
def add (packetId : String) (d : Disclosure α) (received : Received α) : Received α :=
  if (∃ r ∈ received, r.1 = packetId) ∨ ∃ r ∈ received, r.2.disclosureId = d.disclosureId then received
  else received ++ [(packetId,d)]

def ordered (received : Received α) : List (Disclosure α) :=
  (received.map Prod.snd).insertionSort fun a b =>
    a.sequence < b.sequence ∨ (a.sequence = b.sequence ∧ a.disclosureId ≤ b.disclosureId)

/-- `by_sequence.get`: a later entry replaces an earlier one. -/
def bySequence (ds : List (Disclosure α)) (sequence : ℕ) : Option (Disclosure α) :=
  ds.reverse.find? fun d => d.sequence = sequence

/-- `range(0, max(sequences, default=-1) + 1)`. -/
def upTo (ds : List (Disclosure α)) : List ℕ :=
  List.range (ds.foldr (fun d n => max (d.sequence + 1) n) 0)

def missing (ds : List (Disclosure α)) : List ℕ :=
  (upTo ds).filter fun i => i ∉ ds.map Disclosure.sequence

def duplicates (ds : List (Disclosure α)) : List ℕ :=
  (upTo ds).filter fun i => 1 < (ds.map Disclosure.sequence).count i

/-- A page does not start where the one before it ends. -/
def brokenLink (ds : List (Disclosure α)) (sequence : ℕ) : Bool :=
  match bySequence ds (sequence - 1),bySequence ds sequence with
  | some previous,some current => current.startsAfter ≠ previous.nextCursor
  | _,_ => false

def sameSeries (first d : Disclosure α) : Prop :=
  d.baseline = first.baseline ∧ d.scopeSubjectRef = first.scopeSubjectRef ∧
    d.observerActorId = first.observerActorId ∧ d.audienceActorId = first.audienceActorId

instance (first d : Disclosure α) : Decidable (sameSeries first d) := by
  unfold sameSeries
  infer_instance

def issueList (ds : List (Disclosure α)) : List String :=
  (if duplicates ds ≠ [] then ["duplicate-series-sequence"] else []) ++
  (if missing ds ≠ [] then ["missing-series-sequence"] else []) ++
  (if ∃ first ∈ ds.head?, ∃ d ∈ ds, ¬ sameSeries first d then ["series-metadata-mismatch"] else []) ++
  (if ((upTo ds).filter fun i => 1 ≤ i).any (brokenLink ds) then ["series-cursor-link-mismatch"]
    else [])

/-- `_analyze_series`. -/
def analyzeSeries (received : Received α) : SeriesReport :=
  let ds := ordered received
  ⟨if issueList ds = [] then "proven-continuous" else "gap-detected",missing ds,duplicates ds,
    issueList ds⟩

end SeriesReport

/-- A page was made under the terms of a schedule. -/
structure Disclosure.Under {α : Type} (d : Disclosure α) (s : DisclosureSchedule α) : Prop where
  observer : d.observerActorId = s.observerActorId
  audience : d.audienceActorId = s.audienceActorId
  series : d.seriesId = s.seriesId
  scope : d.scopeSubjectRef = s.subjectRef
  baseline : d.baseline = s.baseline

open ActivityFeed

/-- The pages of a series from a schedule's cursor on, and the events read for them. -/
inductive Series {α : Type} (s : DisclosureSchedule α) :
    List (Disclosure α) → List BookEvent → Prop
  | start : Series s [] []
  | page (pages : List (Disclosure α)) (seen new : List BookEvent) (d : Disclosure α)
      (hbefore : Series s pages seen) (hunder : d.Under s) (hsequence : d.sequence = pages.length)
      (hstarts : d.startsAfter = cursorBehind seen s.cursor)
      (hnext : d.nextCursor = cursorBehind (seen ++ new) s.cursor)
      (hactivities : d.activities.map FeedActivity.eventId =
        (new.filter (inScope s.subjectRef)).map BookEvent.eventId) :
      Series s (pages ++ [d]) (seen ++ new)

namespace Series

variable {α : Type} {s : DisclosureSchedule α} {pages : List (Disclosure α)}
  {seen : List BookEvent}

theorem sequences (h : Series s pages seen) :
    pages.map Disclosure.sequence = List.range pages.length := by
  induction h with
  | start => rfl
  | page pages seen new d _ _ hsequence _ _ _ ih => simp [ih,hsequence,List.range_succ]

theorem under (h : Series s pages seen) : ∀ d ∈ pages, d.Under s := by
  induction h with
  | start => simp
  | page pages seen new d _ hunder _ _ _ _ ih =>
    intro d' hd'
    rcases List.mem_append.mp hd' with hd' | hd'
    · exact ih d' hd'
    · rwa [List.mem_singleton.mp hd']

/-- The activities of the pages are those of the events in scope, one for one. -/
theorem covers (h : Series s pages seen) :
    pages.flatMap (fun d => d.activities.map FeedActivity.eventId) =
      (seen.filter (inScope s.subjectRef)).map BookEvent.eventId := by
  induction h with
  | start => rfl
  | page pages seen new d _ _ _ _ _ hactivities ih => simp [ih,hactivities]

theorem lt_length (h : Series s pages seen) {d : Disclosure α} (hd : d ∈ pages) :
    d.sequence < pages.length := by
  have hmem : d.sequence ∈ pages.map Disclosure.sequence := List.mem_map_of_mem hd
  rw [h.sequences] at hmem
  exact List.mem_range.mp hmem

theorem eq_of_sequence (h : Series s pages seen) {d e : Disclosure α} (hd : d ∈ pages)
    (he : e ∈ pages) (hsequence : d.sequence = e.sequence) : d = e := by
  have hnodup : (pages.map Disclosure.sequence).Nodup := by
    rw [h.sequences]
    exact List.nodup_range
  exact List.inj_on_of_nodup_map hnodup hd he hsequence

/-- The last page ends behind the events read so far. -/
theorem last_cursor (h : Series s pages seen) {d : Disclosure α} (hd : d ∈ pages.getLast?) :
    d.nextCursor = cursorBehind seen s.cursor := by
  cases h with
  | start => simp at hd
  | page pages seen new e _ _ _ _ hnext _ =>
    simp only [List.getLast?_append,List.getLast?_singleton,Option.some_or,Option.mem_some_iff]
      at hd
    rw [← hd,hnext]

theorem last_of_sequence (h : Series s pages seen) {d : Disclosure α} (hd : d ∈ pages)
    (hlast : d.sequence + 1 = pages.length) : d ∈ pages.getLast? := by
  cases h with
  | start => simp at hd
  | page pages seen new e hbefore _ _ _ _ _ =>
    rcases List.mem_append.mp hd with hd | hd
    · have hlt := hbefore.lt_length hd
      simp only [List.length_append,List.length_singleton] at hlast
      omega
    · simp [List.mem_singleton.mp hd]

theorem first_starts (h : Series s pages seen) : ∀ d ∈ pages, d.sequence = 0 →
    d.startsAfter = s.cursor := by
  induction h with
  | start => simp
  | page pages seen new d hbefore _ hsequence hstarts _ _ ih =>
    intro e he hzero
    rcases List.mem_append.mp he with he | he
    · exact ih e he hzero
    · rw [List.mem_singleton.mp he] at hzero ⊢
      cases hbefore with
      | start => simpa [cursorBehind] using hstarts
      | page => simp [hsequence] at hzero

/-- Each page starts where the one before it ends. -/
theorem links (h : Series s pages seen) : ∀ d ∈ pages, ∀ e ∈ pages,
    e.sequence = d.sequence + 1 → e.startsAfter = d.nextCursor := by
  induction h with
  | start => simp
  | page pages seen new p hbefore _ hsequence hstarts _ _ ih =>
    intro d hd e he hnext
    rcases List.mem_append.mp he with he | he
    · have hlt := hbefore.lt_length he
      rcases List.mem_append.mp hd with hd | hd
      · exact ih d hd e he hnext
      · rw [List.mem_singleton.mp hd] at hnext
        omega
    · rw [List.mem_singleton.mp he] at hnext ⊢
      rcases List.mem_append.mp hd with hd | hd
      · rw [hstarts,hbefore.last_cursor (hbefore.last_of_sequence hd (by omega))]
      · rw [List.mem_singleton.mp hd] at hnext
        omega

end Series

namespace SeriesReport

variable {α : Type}

theorem mem_ordered {received : Received α} {d : Disclosure α} :
    d ∈ ordered received ↔ ∃ r ∈ received, r.2 = d := by
  unfold ordered
  rw [(List.perm_insertionSort _ _).mem_iff,List.mem_map]

theorem mem_upTo {ds : List (Disclosure α)} {i : ℕ} :
    i ∈ upTo ds ↔ ∃ d ∈ ds, i ≤ d.sequence := by
  unfold upTo
  rw [List.mem_range]
  induction ds with
  | nil => simp
  | cons d ds ih =>
    simp only [List.foldr_cons,List.exists_mem_cons_iff,← ih]
    omega

theorem mem_missing {received : Received α} {i : ℕ} : i ∈ missing (ordered received) ↔
    (∀ r ∈ received, r.2.sequence ≠ i) ∧ ∃ r ∈ received, i < r.2.sequence := by
  simp only [missing,List.mem_filter,mem_upTo,mem_ordered,decide_eq_true_eq,List.mem_map,not_exists,
    not_and]
  constructor
  · rintro ⟨⟨d,⟨r,hr,rfl⟩,hle⟩,habsent⟩
    have hne : ∀ r ∈ received, r.2.sequence ≠ i := fun r hr => habsent r.2 ⟨r,hr,rfl⟩
    exact ⟨hne,r,hr,lt_of_le_of_ne hle (Ne.symm (hne r hr))⟩
  · rintro ⟨hne,r,hr,hlt⟩
    refine ⟨⟨r.2,⟨r,hr,rfl⟩,hlt.le⟩,?_⟩
    rintro d ⟨r',hr',rfl⟩
    exact hne r' hr'

/-- No gap below the highest page, as a prefix of the numbers. -/
theorem missing_eq_nil {received : Received α} : missing (ordered received) = [] ↔
    ∃ n, ∀ i, (∃ r ∈ received, r.2.sequence = i) ↔ i < n := by
  constructor
  · intro hnil
    refine ⟨(ordered received).foldr (fun d n => max (d.sequence + 1) n) 0,fun i => ?_⟩
    have hupTo : i < (ordered received).foldr (fun d n => max (d.sequence + 1) n) 0 ↔
        ∃ d ∈ ordered received, i ≤ d.sequence := by
      rw [← mem_upTo,upTo,List.mem_range]
    rw [hupTo]
    constructor
    · rintro ⟨r,hr,rfl⟩
      exact ⟨r.2,mem_ordered.mpr ⟨r,hr,rfl⟩,le_rfl⟩
    · rintro ⟨d,hd,hle⟩
      obtain ⟨r,hr,rfl⟩ := mem_ordered.mp hd
      by_contra habsent
      have hne : ∀ r ∈ received, r.2.sequence ≠ i := fun r hr heq => habsent ⟨r,hr,heq⟩
      have hmissing := mem_missing.mpr ⟨hne,r,hr,lt_of_le_of_ne hle (Ne.symm (hne r hr))⟩
      rw [hnil] at hmissing
      cases hmissing
  · rintro ⟨n,hn⟩
    refine List.eq_nil_iff_forall_not_mem.mpr fun i hi => ?_
    obtain ⟨hne,r,hr,hlt⟩ := mem_missing.mp hi
    have hrn := (hn _).mp ⟨r,hr,rfl⟩
    obtain ⟨r',hr',heq⟩ := (hn i).mpr (hlt.trans hrn)
    exact hne r' hr' heq

variable {s : DisclosureSchedule α} {pages : List (Disclosure α)} {seen : List BookEvent}
  {received : Received α}

theorem ordered_pages (hpages : ∀ r ∈ received, r.2 ∈ pages) {d : Disclosure α}
    (hd : d ∈ ordered received) : d ∈ pages := by
  obtain ⟨r,hr,rfl⟩ := mem_ordered.mp hd
  exact hpages r hr

section

variable (hseries : Series s pages seen) (hpages : ∀ r ∈ received, r.2 ∈ pages)

include hseries hpages

/-- Pages kept under different disclosure ids have different numbers. -/
theorem duplicates_nil (hdistinct : (received.map fun r => r.2.disclosureId).Nodup) :
    duplicates (ordered received) = [] := by
  have hids : ((ordered received).map Disclosure.disclosureId).Nodup := by
    refine ((List.perm_insertionSort _ _).map _).nodup_iff.mpr ?_
    simpa [Function.comp_def] using hdistinct
  have hnodup : ((ordered received).map Disclosure.sequence).Nodup :=
    (List.Nodup.of_map _ hids).map_on fun d hd e he heq =>
      hseries.eq_of_sequence (ordered_pages hpages hd) (ordered_pages hpages he) heq
  refine List.filter_eq_nil_iff.mpr fun i _ => ?_
  simpa using List.nodup_iff_count_le_one.mp hnodup i

theorem sameSeries_all {first d : Disclosure α} (hfirst : first ∈ ordered received)
    (hd : d ∈ ordered received) : sameSeries first d := by
  have h := hseries.under first (ordered_pages hpages hfirst)
  have h' := hseries.under d (ordered_pages hpages hd)
  exact ⟨h'.baseline.trans h.baseline.symm,h'.scope.trans h.scope.symm,
    h'.observer.trans h.observer.symm,h'.audience.trans h.audience.symm⟩

theorem no_brokenLink {i : ℕ} (hi : 1 ≤ i) : brokenLink (ordered received) i = false := by
  unfold brokenLink
  cases hprevious : bySequence (ordered received) (i - 1) with
  | none => rfl
  | some previous =>
    cases hcurrent : bySequence (ordered received) i with
    | none => rfl
    | some current =>
      have hp := List.mem_of_find?_eq_some hprevious
      have hc := List.mem_of_find?_eq_some hcurrent
      have hpi := List.find?_some hprevious
      have hci := List.find?_some hcurrent
      simp only [decide_eq_true_eq] at hpi hci
      have hlink := hseries.links previous (ordered_pages hpages (List.mem_reverse.mp hp))
        current (ordered_pages hpages (List.mem_reverse.mp hc)) (by omega)
      simp [hlink]

/-- The one issue that pages of one series can have is a gap. -/
theorem issueList_pages (hdistinct : (received.map fun r => r.2.disclosureId).Nodup) :
    issueList (ordered received) =
      if missing (ordered received) ≠ [] then ["missing-series-sequence"] else [] := by
  have hsame : ¬ ∃ first ∈ (ordered received).head?,∃ d ∈ ordered received,
      ¬ sameSeries first d := by
    rintro ⟨first,hfirst,d,hd,hne⟩
    exact hne (sameSeries_all hseries hpages (List.mem_of_mem_head? hfirst) hd)
  have hlinks : (((upTo (ordered received)).filter fun i => 1 ≤ i).any
      (brokenLink (ordered received))) = false := by
    refine List.any_eq_false.mpr fun i hi => ?_
    simp only [List.mem_filter,decide_eq_true_eq] at hi
    simp [no_brokenLink hseries hpages hi.2]
  unfold issueList
  rw [duplicates_nil hseries hpages hdistinct,if_neg hsame,hlinks]
  simp

/-- A report names a gap exactly where one is. -/
theorem continuity_pages (hdistinct : (received.map fun r => r.2.disclosureId).Nodup) :
    (analyzeSeries received).continuity = "proven-continuous" ↔
      ∃ n, ∀ i, (∃ r ∈ received, r.2.sequence = i) ↔ i < n := by
  rw [← missing_eq_nil]
  simp only [analyzeSeries,issueList_pages hseries hpages hdistinct]
  by_cases hmissing : missing (ordered received) = []
  · simp [hmissing]
  · simp [hmissing]

end

theorem add_cases (packetId : String) (d : Disclosure α) (received : Received α) :
    (add packetId d received = received ∧
        ∃ r ∈ received, r.1 = packetId ∨ r.2.disclosureId = d.disclosureId) ∨
      (add packetId d received = received ++ [(packetId,d)] ∧
        ∀ r ∈ received, r.2.disclosureId ≠ d.disclosureId) := by
  unfold add
  split
  · next h =>
    refine .inl ⟨rfl,?_⟩
    rcases h with ⟨r,hr,heq⟩ | ⟨r,hr,heq⟩
    · exact ⟨r,hr,.inl heq⟩
    · exact ⟨r,hr,.inr heq⟩
  · next h =>
    rw [not_or] at h
    exact .inr ⟨rfl,fun r hr heq => h.2 ⟨r,hr,heq⟩⟩

end SeriesReport

end Anet
