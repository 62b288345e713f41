import Anet.DisclosureSeries
import Anet.Keyed
import Mathlib.Data.List.Dedup

/-! The books around a disclosure series: the schedules of an observer, the archive of the pages
it has sent, and the gap notices of an audience with the retransmission they allow. -/
namespace Anet

deriving instance DecidableEq for FeedActivity
deriving instance DecidableEq for Disclosure

/-- The schedules of a node by their ids. -/
abbrev ScheduleBook (α : Type) := Keyed String (DisclosureSchedule α)

/-- The ids of the schedules in the order of `all`, the newest first. -/
def ScheduleBook.all {α : Type} (b : ScheduleBook α) : List String :=
  (b.entries.insertionSort fun x y =>
    y.2.createdMs < x.2.createdMs ∨ (y.2.createdMs = x.2.createdMs ∧ y.1 ≤ x.1)).map Prod.fst

structure ArchivedDisclosure (α : Type) where
  scheduleId : String
  packetId : String
  archivedMs : ℤ
  disclosure : Disclosure α

/-- The pages kept for a retransmission, one for each number of a series. -/
abbrev DisclosureArchive (α : Type) := List (ArchivedDisclosure α)

namespace DisclosureArchive

variable {α : Type}

def maxArchivedDisclosures : ℕ := 1000

def find (a : DisclosureArchive α) (seriesId : String) (sequence : ℕ) :
    Option (ArchivedDisclosure α) :=
  List.find? (fun e => e.disclosure.seriesId = seriesId ∧ e.disclosure.sequence = sequence) a

/-- The key of `min`: the time, then the series and the number. -/
def older (x y : ArchivedDisclosure α) : Prop :=
  x.archivedMs < y.archivedMs ∨ (x.archivedMs = y.archivedMs ∧
    (x.disclosure.seriesId < y.disclosure.seriesId ∨
      (x.disclosure.seriesId = y.disclosure.seriesId ∧
        x.disclosure.sequence ≤ y.disclosure.sequence)))

instance : DecidableRel (older (α := α)) := fun x y => by
  unfold older
  infer_instance

def add [DecidableEq α] (a : DisclosureArchive α) (item : ArchivedDisclosure α) :
    Result (DisclosureArchive α) :=
  match a.find item.disclosure.seriesId item.disclosure.sequence with
  | some previous => do
    raiseIf (previous.disclosure ≠ item.disclosure)
      (.value "archived disclosure sequence conflicts")
    return a
  | none =>
    if maxArchivedDisclosures < a.length + 1 then
      return ((a ++ [item]).insertionSort older).tail
    else return a ++ [item]

theorem find_cases {a : DisclosureArchive α} {seriesId : String} {sequence : ℕ}
    {e : ArchivedDisclosure α} (h : a.find seriesId sequence = some e) :
    e ∈ a ∧ e.disclosure.seriesId = seriesId ∧ e.disclosure.sequence = sequence := by
  have hkey := List.find?_some h
  simp only [decide_eq_true_eq] at hkey
  exact ⟨List.mem_of_find?_eq_some h,hkey⟩

/-- What the archive holds was there before, or is the page that is added. -/
theorem add_mem [DecidableEq α] {a a' : DisclosureArchive α} {item e : ArchivedDisclosure α}
    (h : a.add item = .ok a') (he : e ∈ a') : e ∈ a ∨ e = item := by
  have hboth : ∀ l : DisclosureArchive α, l ⊆ a ++ [item] → e ∈ l → e ∈ a ∨ e = item := by
    intro l hl he
    simpa using hl he
  unfold add at h
  split at h
  · simp only [bind_ok] at h
    obtain ⟨-,-,h⟩ := h
    cases h
    exact .inl he
  · split at h
    · cases h
      refine hboth _ (fun x hx => ?_) he
      exact (List.perm_insertionSort _ _).mem_iff.mp (List.mem_of_mem_tail hx)
    · cases h
      exact hboth _ (fun x hx => hx) he

end DisclosureArchive

structure GapNotice where
  noticeId : String
  reporterActorId : String
  observerActorId : String
  seriesId : String
  missingSequences : List ℕ
  detectedThroughSequence : ℕ
  issuedMs : ℤ

namespace GapNotice

def maxGapSequences : ℕ := 100

/-- `tuple(sorted(set(xs)))`. -/
def sortedSet (xs : List ℕ) : List ℕ := (xs.insertionSort (· ≤ ·)).dedup

/-- The checks of the constructor. -/
def check (n : GapNotice) : Result Unit := do
  raiseIf (n.reporterActorId = n.observerActorId)
    (.value "gap notice observer must be another Actor")
  raiseIf (n.missingSequences = [] ∨ maxGapSequences < n.missingSequences.length ∨
      (∃ i ∈ n.missingSequences, n.detectedThroughSequence < i) ∨
      sortedSet n.missingSequences ≠ n.missingSequences)
    (.value "invalid relationship disclosure gap sequences")
  raiseIf (n.issuedMs ≤ 0) (.value "invalid relationship disclosure gap notice time")

def create (digest : GapNotice → String) (reporter observer seriesId : String) (missing : List ℕ)
    (through : ℕ) (now : ℤ) : Result GapNotice := do
  let unsigned : GapNotice := ⟨"",reporter,observer,seriesId,sortedSet missing,through,now⟩
  check unsigned
  return { unsigned with noticeId := digest unsigned }

theorem check_ok {n : GapNotice} : n.check = .ok () ↔ n.reporterActorId ≠ n.observerActorId ∧
    n.missingSequences ≠ [] ∧ n.missingSequences.length ≤ maxGapSequences ∧
    (∀ i ∈ n.missingSequences, i ≤ n.detectedThroughSequence) ∧
    sortedSet n.missingSequences = n.missingSequences ∧ 0 < n.issuedMs := by
  simp only [check,bind_ok,raiseIf_ok,not_or,not_lt,not_exists,not_and,ne_eq,not_not,not_le,
    exists_const]
  tauto

theorem sortedSet_sorted {xs : List ℕ} (h : xs.Pairwise (· < ·)) : sortedSet xs = xs := by
  have hle : xs.Pairwise (· ≤ ·) := h.imp le_of_lt
  have hnodup : xs.Nodup := h.imp ne_of_lt
  rw [sortedSet,List.Pairwise.insertionSort_eq hle,hnodup.dedup]

end GapNotice

namespace SeriesReport

variable {α : Type}

/-- The pages of one series of one observer. -/
def group (received : Received α) (observer seriesId : String) : Received α :=
  received.filter fun r => r.2.observerActorId = observer ∧ r.2.seriesId = seriesId

/-- `analysis["last_sequence"]`. -/
def lastSequence (ds : List (Disclosure α)) : ℕ := ds.foldr (fun d n => max d.sequence n) 0

/-- No two pages have different content for one activity. -/
def Agree (ds : List (Disclosure α)) : Prop :=
  ∀ a ∈ ds.flatMap Disclosure.activities, ∀ b ∈ ds.flatMap Disclosure.activities,
    a.eventId = b.eventId → a = b

instance [DecidableEq α] (ds : List (Disclosure α)) : Decidable (Agree ds) := by
  unfold Agree
  infer_instance

/-- What `ReportedRelationshipViewProjector.project` says of a series. -/
def project [DecidableEq α] (received : Received α) (observer seriesId : String) :
    Result SeriesReport := do
  let pages := group received observer seriesId
  raiseIf (pages.isEmpty = true) (.key s!"unknown relationship disclosure series: {seriesId}")
  raiseIf (¬ Agree (ordered pages))
    (.value "reported relationship activity ID has conflicting bodies")
  return analyzeSeries pages

end SeriesReport

/-- `queue_relationship_disclosure_gap_notice`; `queue` sends to an Actor, or raises. -/
def queueGapNotice {α : Type} [DecidableEq α] (digest : GapNotice → String)
    (queue : GapNotice → Result String) (own : String) (received : SeriesReport.Received α)
    (observer seriesId : String) (now : ℤ) : Result (String × GapNotice) := do
  let report ← SeriesReport.project received observer seriesId
  raiseIf (report.missingSequences = [])
    (.value "relationship disclosure series has no visible gap")
  let notice ← GapNotice.create digest own observer seriesId report.missingSequences
    (SeriesReport.lastSequence
      (SeriesReport.ordered (SeriesReport.group received observer seriesId))) now
  let packetId ← queue notice
  return (packetId,notice)

/-- The one schedule that a notice is about, while it is active. -/
def scheduleFor {α : Type} (b : ScheduleBook α) (n : GapNotice) (now : ℤ) :
    Result (String × DisclosureSchedule α) :=
  match b.entries.filter fun e => e.2.seriesId = n.seriesId ∧ e.2.audienceActorId = n.reporterActorId with
  | [e] =>
    if e.2.state now = .active then return e
    else .error (.permission "gap retransmission requires the original active schedule")
  | _ => .error (.value "gap notice does not match one local disclosure schedule")

/-- The archived page of a number, for the reporter of the notice alone. -/
def archivedPage {α : Type} (a : DisclosureArchive α) (n : GapNotice) (scheduleId : String)
    (sequence : ℕ) : Option (Disclosure α) :=
  match a.find n.seriesId sequence with
  | none => none
  | some e =>
    if e.scheduleId = scheduleId ∧ e.disclosure.audienceActorId = n.reporterActorId then
      some e.disclosure
    else none

def archivedPages {α : Type} (a : DisclosureArchive α) (n : GapNotice) (scheduleId : String) :
    List (Disclosure α) := n.missingSequences.filterMap (archivedPage a n scheduleId)

/-- `retransmit_relationship_disclosure_gap`: the packets queued, and the numbers that the archive
has no page for. -/
def retransmitGap {α : Type} (queue : String → Disclosure α → Result String) (b : ScheduleBook α)
    (a : DisclosureArchive α) (n : GapNotice) (now : ℤ) :
    Result (List (String × Disclosure α) × List ℕ) := do
  let e ← scheduleFor b n now
  let sent ← (archivedPages a n e.1).mapM fun d => do
    let packetId ← queue n.reporterActorId d
    return (packetId,d)
  return (sent,n.missingSequences.filter fun i => (archivedPage a n e.1 i).isNone)

/-- A schedule is found only while it is in the book, active, and made for the reporter. -/
theorem scheduleFor_cases {α : Type} {b : ScheduleBook α} {n : GapNotice} {now : ℤ}
    {e : String × DisclosureSchedule α} (h : scheduleFor b n now = .ok e) :
    e ∈ b.entries ∧ e.2.state now = .active ∧ e.2.seriesId = n.seriesId ∧
      e.2.audienceActorId = n.reporterActorId := by
  unfold scheduleFor at h
  split at h
  · next e' hfilter =>
    split at h
    · next hactive =>
      cases h
      have hmem : e ∈ b.entries.filter fun e => e.2.seriesId = n.seriesId ∧
          e.2.audienceActorId = n.reporterActorId := by
        rw [hfilter]
        exact List.mem_singleton_self e
      simp only [List.mem_filter,decide_eq_true_eq] at hmem
      exact ⟨hmem.1,hactive,hmem.2⟩
    · cases h
  · cases h

theorem archivedPage_cases {α : Type} {a : DisclosureArchive α} {n : GapNotice}
    {scheduleId : String} {i : ℕ} {d : Disclosure α} (h : archivedPage a n scheduleId i = some d) :
    (∃ e ∈ a, e.disclosure = d) ∧ d.seriesId = n.seriesId ∧ d.sequence = i ∧
      d.audienceActorId = n.reporterActorId := by
  unfold archivedPage at h
  split at h
  · cases h
  · next e hfind =>
    split at h
    · next howner =>
      cases h
      obtain ⟨hmem,hseries,hsequence⟩ := DisclosureArchive.find_cases hfind
      exact ⟨⟨e,hmem,rfl⟩,hseries,hsequence,howner.2⟩
    · cases h

end Anet
