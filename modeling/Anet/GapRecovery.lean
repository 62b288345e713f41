import Anet.DisclosureRecovery
import Anet.DisclosureRuns

/-! A gap that the audience sees is reported to the observer, whose archive still has the pages:
they are queued again as they were, and the gap closes once they have arrived. -/
namespace Anet

open DisclosureSchedule

namespace DisclosureSchedule

variable {α : Type} {s t : DisclosureSchedule α}

theorem SameTerms.refl : SameTerms s s := ⟨rfl,rfl,rfl,rfl,rfl⟩

end DisclosureSchedule

namespace SeriesReport

variable {α : Type}

theorem le_lastSequence {ds : List (Disclosure α)} {d : Disclosure α} (hd : d ∈ ds) :
    d.sequence ≤ lastSequence ds := by
  unfold lastSequence
  induction ds with
  | nil => cases hd
  | cons x ds ih =>
    simp only [List.foldr_cons]
    rcases List.mem_cons.mp hd with rfl | hd
    · exact le_max_left _ _
    · exact (ih hd).trans (le_max_right _ _)

theorem missing_sorted (ds : List (Disclosure α)) : (missing ds).Pairwise (· < ·) :=
  List.pairwise_lt_range.filter _

/-- The pages of one series do not disagree about an activity. -/
theorem agree_pages {s : DisclosureSchedule α} {pages : List (Disclosure α)}
    {seen : List BookEvent} {received : Received α} (hseries : Series s pages seen)
    (hseen : (seen.map BookEvent.eventId).Nodup) (hpages : ∀ r ∈ received, r.2 ∈ pages) :
    Agree (ordered received) := by
  have hids : ((pages.flatMap Disclosure.activities).map FeedActivity.eventId).Nodup := by
    rw [List.map_flatMap,hseries.covers]
    exact hseen.sublist (List.filter_sublist.map _)
  have hmem : ∀ a ∈ (ordered received).flatMap Disclosure.activities,
      a ∈ pages.flatMap Disclosure.activities := by
    intro a ha
    obtain ⟨d,hd,had⟩ := List.mem_flatMap.mp ha
    exact List.mem_flatMap.mpr ⟨d,ordered_pages hpages hd,had⟩
  exact fun a ha b hb heq => List.inj_on_of_nodup_map hids (hmem a ha) (hmem b hb) heq

end SeriesReport

open SeriesReport

section

variable {α : Type} [DecidableEq α] {received : Received α} {observer seriesId : String}

/-- A notice that is queued names a gap of at most a hundred numbers, in pages that agree. -/
theorem queueGapNotice_cases {digest : GapNotice → String} {queue : GapNotice → Result String}
    {own : String} {now : ℤ} {r : String × GapNotice}
    (h : queueGapNotice digest queue own received observer seriesId now = .ok r) :
    Agree (ordered (group received observer seriesId)) ∧
      (missing (ordered (group received observer seriesId))).length ≤ GapNotice.maxGapSequences := by
  have hsorted := GapNotice.sortedSet_sorted
    (missing_sorted (ordered (group received observer seriesId)))
  simp only [queueGapNotice,project,bind_ok,raiseIf_ok] at h
  obtain ⟨report,⟨-,-,-,hagree,hreport⟩,-,-,notice,hnotice,-⟩ := h
  cases hreport
  refine ⟨not_not.mp hagree,?_⟩
  simp only [GapNotice.create,bind_ok] at hnotice
  obtain ⟨_,hcheck,-⟩ := hnotice
  obtain ⟨-,-,hbound,-⟩ := GapNotice.check_ok.mp hcheck
  change (GapNotice.sortedSet (missing _)).length ≤ _ at hbound
  rwa [hsorted] at hbound

/-- What the audience can report: a gap of at most a hundred numbers, in pages that agree. -/
theorem queueGapNotice_ok {digest : GapNotice → String} {queue : GapNotice → Result String}
    {own : String} {now : ℤ} (hqueue : ∀ n, ∃ packetId, queue n = .ok packetId)
    (hown : own ≠ observer) (hnow : 0 < now)
    (hgap : missing (ordered (group received observer seriesId)) ≠ []) :
    (∃ r, queueGapNotice digest queue own received observer seriesId now = .ok r ∧
        r.2.missingSequences = missing (ordered (group received observer seriesId))) ↔
      Agree (ordered (group received observer seriesId)) ∧
        (missing (ordered (group received observer seriesId))).length ≤
          GapNotice.maxGapSequences := by
  have hsorted := GapNotice.sortedSet_sorted
    (missing_sorted (ordered (group received observer seriesId)))
  have hthrough : ∀ i ∈ missing (ordered (group received observer seriesId)),
      i ≤ lastSequence (ordered (group received observer seriesId)) := by
    intro i hi
    obtain ⟨-,r,hr,hlt⟩ := mem_missing.mp hi
    have hle := le_lastSequence (mem_ordered.mpr ⟨r,hr,rfl⟩)
    omega
  have hheld : ¬ (group received observer seriesId).isEmpty = true := by
    intro hempty
    rw [List.isEmpty_iff] at hempty
    obtain ⟨i,hi⟩ := List.exists_mem_of_ne_nil _ hgap
    obtain ⟨-,r,hr,-⟩ := mem_missing.mp hi
    rw [hempty] at hr
    cases hr
  constructor
  · rintro ⟨r,hr,-⟩
    exact queueGapNotice_cases hr
  · rintro ⟨hagree,hbound⟩
    have hcreate : ∃ n, GapNotice.create digest own observer seriesId
        (missing (ordered (group received observer seriesId)))
        (lastSequence (ordered (group received observer seriesId))) now = .ok n ∧
        n.missingSequences = missing (ordered (group received observer seriesId)) := by
      simp only [GapNotice.create,hsorted]
      exact ⟨_,bind_ok.mpr ⟨(),GapNotice.check_ok.mpr ⟨hown,hgap,hbound,hthrough,hsorted,hnow⟩,rfl⟩,
        rfl⟩
    obtain ⟨n,hn,hmissing⟩ := hcreate
    obtain ⟨packetId,hpacket⟩ := hqueue n
    refine ⟨(packetId,n),?_,hmissing⟩
    have hproject : project received observer seriesId =
        .ok (analyzeSeries (group received observer seriesId)) :=
      bind_ok.mpr ⟨(),raiseIf_ok.mpr hheld,bind_ok.mpr ⟨(),raiseIf_ok.mpr (not_not.mpr hagree),rfl⟩⟩
    exact bind_ok.mpr ⟨_,hproject,bind_ok.mpr ⟨(),raiseIf_ok.mpr hgap,
      bind_ok.mpr ⟨n,hn,bind_ok.mpr ⟨packetId,hpacket,rfl⟩⟩⟩⟩

end

/-- A series with the other schedules of the observer and its archive. -/
structure RecoveryWorld (α : Type) where
  series : SeriesWorld α
  schedules : ScheduleBook α
  archive : DisclosureArchive α

namespace RecoveryWorld

variable {α : Type} [DecidableEq α]

def book (w : RecoveryWorld α) (scheduleId : String) : ScheduleBook α :=
  w.schedules.put scheduleId w.series.schedule

/-- The fates of a run in which its page is archived. -/
def archives : RunFate → Bool
  | .crashArchived | .completes => true
  | _ => false

/-- What can happen: the steps of the series, with the archive of what they send; changes of other
schedules and their archived pages; and pages retransmitted one by one. -/
inductive Step (lib : DisclosureLibrary α) (scheduleId : String) :
    RecoveryWorld α → RecoveryWorld α → Prop
  | quiet (w : RecoveryWorld α) (s : SeriesWorld α) (hstep : SeriesWorld.Step lib w.series s)
      (hqueue : s.queued = w.series.queued) : Step lib scheduleId w { w with series := s }
  | send (w : RecoveryWorld α) (force : Bool) (fate : RunFate) (packetId : String) (now : ℤ)
      (d : Disclosure α) (archive : DisclosureArchive α)
      (hpacket : packetId ∉ w.series.queued.map Prod.fst)
      (hlapsed : w.series.lapsed = true → w.series.schedule.expiresMs ≤ now)
      (hqueue : (w.series.runOnce lib force fate packetId now).queued =
        (packetId,d) :: w.series.queued)
      (harchive : if archives fate then w.archive.add ⟨scheduleId,packetId,now,d⟩ = .ok archive
        else archive = w.archive) :
      Step lib scheduleId w ⟨w.series.runOnce lib force fate packetId now,w.schedules,archive⟩
  | others (w : RecoveryWorld α) (schedules : ScheduleBook α)
      (hother : ∀ e ∈ schedules.entries, e.2.seriesId ≠ w.series.schedule.seriesId) :
      Step lib scheduleId w { w with schedules := schedules }
  | archiveOther (w : RecoveryWorld α) (item : ArchivedDisclosure α)
      (archive : DisclosureArchive α)
      (hother : item.disclosure.seriesId ≠ w.series.schedule.seriesId)
      (hadd : w.archive.add item = .ok archive) : Step lib scheduleId w { w with archive := archive }
  | retransmit (w : RecoveryWorld α) (n : GapNotice) (e : String × DisclosureSchedule α)
      (d : Disclosure α) (packetId : String) (now : ℤ)
      (hpacket : packetId ∉ w.series.queued.map Prod.fst)
      (hseries : n.seriesId = w.series.schedule.seriesId)
      (hschedule : scheduleFor (w.book scheduleId) n now = .ok e)
      (hpage : d ∈ archivedPages w.archive n e.1) :
      Step lib scheduleId w
        { w with series := { w.series with queued := (packetId,d) :: w.series.queued } }

/-- A schedule just created, with a series id of its own. -/
structure IsNew (w : RecoveryWorld α) : Prop where
  series : w.series.IsNew
  others : ∀ e ∈ w.schedules.entries, e.2.seriesId ≠ w.series.schedule.seriesId
  archive : ∀ a ∈ w.archive, a.disclosure.seriesId ≠ w.series.schedule.seriesId

end RecoveryWorld

namespace SeriesWorld

variable {α : Type} {lib : DisclosureLibrary α} {s0 : DisclosureSchedule α} {w w' : SeriesWorld α}
  {pages : List (Disclosure α)} {seen : List BookEvent}

theorem attempted_terms (s : DisclosureSchedule α) (d : Disclosure α) (now : ℤ) :
    SameTerms s (s.attempted (s.recordSuccess d now) now) := by
  rcases success_cases (s := s) d now with hplace | ⟨hterms,-⟩
  · exact hplace.toSameTerms
  · exact hterms

/-- A run leaves the terms of its schedule alone. -/
theorem finish_terms {s : DisclosureSchedule α} (hs : SameTerms w.schedule s) (d : Disclosure α)
    (fate : RunFate) (packetId : String) (now : ℤ) :
    SameTerms w.schedule (w.finish s d fate packetId now).schedule := by
  cases fate with
  | crashPrepared | crashQueued | crashArchived => exact hs
  | queueFails | archiveFails => exact hs.trans (failed_place now).toSameTerms
  | completes => exact hs.trans (attempted_terms s d now)

theorem runOnce_terms (force : Bool) (fate : RunFate) (packetId : String) (now : ℤ) :
    SameTerms w.schedule (w.runOnce lib force fate packetId now).schedule := by
  unfold runOnce
  split
  · exact .refl
  · exact ⟨rfl,rfl,rfl,rfl,rfl⟩
  · split
    · split
      · exact finish_terms .refl _ fate packetId now
      · unfold nextPage
        simp only
        split
        · exact (failed_place now).toSameTerms
        · split
          · exact (idle_place now).toSameTerms
          · split
            · exact (failed_place now).toSameTerms
            · next d _ =>
              have hs : SameTerms w.schedule { w.schedule with pending := some d } :=
                ⟨rfl,rfl,rfl,rfl,rfl⟩
              exact finish_terms hs d fate packetId now
    · exact .refl

theorem step_terms (h : Step lib w w') : SameTerms w.schedule w'.schedule := by
  cases h with
  | grow new subjects project hfresh => exact .refl
  | run force fate packetId now hpacket hlapsed => exact runOnce_terms force fate packetId now
  | revoke s now hnow hrevoked =>
    unfold DisclosureSchedule.revoke at hrevoked
    split at hrevoked
    · cases hrevoked
      exact .refl
    · rw [replaced_ok hrevoked]
      exact ⟨rfl,rfl,rfl,rfl,rfl⟩
  | deliver packetId d hqueued => exact .refl

/-- The audience keeps what it has received. -/
theorem step_received (h : Step lib w w') {r : String × Disclosure α} (hr : r ∈ w.received) :
    r ∈ w'.received := by
  cases h with
  | grow new subjects project hfresh => exact hr
  | run force fate packetId now hpacket hlapsed =>
    obtain ⟨-,-,hreceived,-⟩ := runOnce_frame (w := w) lib force fate packetId now
    rwa [hreceived]
  | revoke s now hnow hrevoked => exact hr
  | deliver packetId d hqueued =>
    change r ∈ add packetId d w.received
    rcases add_cases packetId d w.received with ⟨hsame,-⟩ | ⟨hnew,-⟩
    · rwa [hsame]
    · rw [hnew]
      exact List.mem_append_left _ hr

/-- A page that is in the queue may be queued again. -/
theorem Open.resend (h : Open s0 w pages seen) {d : Disclosure α}
    (hd : d ∈ w.queued.map Prod.snd) (packetId : String) :
    Open s0 { w with queued := (packetId,d) :: w.queued } pages seen := by
  refine ⟨h.series,h.reached,h.terms,h.cursor,h.sequence,h.pending,fun e he => ?_,fun e he => ?_⟩
  · simp [h.kept e he]
  · rw [List.map_cons,List.mem_cons] at he
    rcases he with rfl | he
    · exact h.only e hd
    · exact h.only e he

theorem Sent.resend (h : Sent s0 w pages seen) {d : Disclosure α}
    (hd : d ∈ w.queued.map Prod.snd) (packetId : String) :
    Sent s0 { w with queued := (packetId,d) :: w.queued } pages seen := by
  refine ⟨h.series,h.reached,fun e => ?_⟩
  rw [← h.queued e,List.map_cons,List.mem_cons]
  constructor
  · rintro (rfl | he)
    · exact hd
    · exact he
  · exact .inr

theorem Kept.resend (h : Kept s0 w) {d : Disclosure α} (hd : d ∈ w.queued.map Prod.snd)
    (packetId : String) : Kept s0 { w with queued := (packetId,d) :: w.queued } := by
  refine ⟨h.nodup,?_⟩
  rcases h.place with ⟨pages,seen,hopen⟩ | ⟨hclosed,pages,seen,hsent⟩
  · exact .inl ⟨pages,seen,hopen.resend hd packetId⟩
  · exact .inr ⟨hclosed,pages,seen,hsent.resend hd packetId⟩

end SeriesWorld

namespace RecoveryWorld

variable {α : Type} [DecidableEq α] {lib : DisclosureLibrary α} {k : String}
  {s0 : DisclosureSchedule α} {w w' : RecoveryWorld α}

/-- What every state keeps: the series, and an archive that has sent pages of it only. -/
structure Kept (k : String) (s0 : DisclosureSchedule α) (w : RecoveryWorld α) : Prop where
  series : SeriesWorld.Kept s0 w.series
  mailed : SeriesWorld.Mailed w.series
  terms : SameTerms s0 w.series.schedule
  others : ∀ e ∈ w.schedules.entries, e.2.seriesId ≠ s0.seriesId
  archive : ∀ a ∈ w.archive, a.disclosure.seriesId = s0.seriesId →
    a.scheduleId = k ∧ a.disclosure ∈ w.series.queued.map Prod.snd

omit [DecidableEq α] in
theorem Kept.start (h : IsNew w) : Kept k w.series.schedule w :=
  ⟨.start h.series,.start h.series,.refl,h.others,fun a ha heq => absurd heq (h.archive a ha)⟩

omit [DecidableEq α] in
/-- The page that an archive gives out for the series is in the queue. -/
theorem Kept.archived (h : Kept k s0 w) {n : GapNotice} {scheduleId : String} {d : Disclosure α}
    (hseries : n.seriesId = s0.seriesId) (hpage : d ∈ archivedPages w.archive n scheduleId) :
    d ∈ w.series.queued.map Prod.snd := by
  obtain ⟨i,-,hi⟩ := List.mem_filterMap.mp hpage
  obtain ⟨⟨a,ha,rfl⟩,hd,-,-⟩ := archivedPage_cases hi
  exact (h.archive a ha (hd.trans hseries)).2

theorem kept_step (h : Kept k s0 w) (hstep : Step lib k w w') : Kept k s0 w' := by
  cases hstep with
  | quiet s hs hqueue =>
    obtain ⟨hkept,hmailed⟩ := SeriesWorld.kept_step _ _ ⟨h.series,h.mailed⟩ hs
    refine ⟨hkept,hmailed,h.terms.trans (SeriesWorld.step_terms hs),h.others,?_⟩
    rw [hqueue]
    exact h.archive
  | send force fate packetId now d archive hpacket hlapsed hqueue harchive =>
    have hs : SeriesWorld.Step lib w.series (w.series.runOnce lib force fate packetId now) :=
      .run w.series force fate packetId now hpacket hlapsed
    obtain ⟨hkept,hmailed⟩ := SeriesWorld.kept_step _ _ ⟨h.series,h.mailed⟩ hs
    refine ⟨hkept,hmailed,h.terms.trans (SeriesWorld.step_terms hs),h.others,fun a ha heq => ?_⟩
    rw [hqueue,List.map_cons]
    have hold : a ∈ w.archive → a.scheduleId = k ∧ a.disclosure ∈ d :: w.series.queued.map Prod.snd :=
      fun ha => ⟨(h.archive a ha heq).1,List.mem_cons_of_mem _ (h.archive a ha heq).2⟩
    split at harchive
    · rcases DisclosureArchive.add_mem harchive ha with ha | rfl
      · exact hold ha
      · exact ⟨rfl,List.mem_cons_self ..⟩
    · exact hold (harchive ▸ ha)
  | others schedules hother =>
    refine ⟨h.series,h.mailed,h.terms,fun e he => ?_,h.archive⟩
    rw [← h.terms.series]
    exact hother e he
  | archiveOther item archive hother hadd =>
    refine ⟨h.series,h.mailed,h.terms,h.others,fun a ha heq => ?_⟩
    rcases DisclosureArchive.add_mem hadd ha with ha | rfl
    · exact h.archive a ha heq
    · exact absurd (heq.trans h.terms.series.symm) hother
  | retransmit n e d packetId now hpacket hseries hschedule hpage =>
    have hqueued := h.archived (hseries.trans h.terms.series) hpage
    have hfresh : ((packetId :: w.series.queued.map Prod.fst)).Nodup :=
      List.nodup_cons.mpr ⟨hpacket,h.mailed.packets⟩
    refine ⟨h.series.resend hqueued packetId,h.mailed.queue rfl rfl
      (fun a ha => List.mem_cons_of_mem _ ha) hfresh,h.terms,h.others,fun a ha heq => ?_⟩
    exact ⟨(h.archive a ha heq).1,List.mem_cons_of_mem _ (h.archive a ha heq).2⟩

/-- The audience keeps what it has received over a run. -/
theorem run_received (h : Reaches (Step lib k) w w') {r : String × Disclosure α}
    (hr : r ∈ w.series.received) : r ∈ w'.series.received := by
  refine h.invariant (I := fun w => r ∈ w.series.received) (fun s t hs hstep => ?_) hr
  cases hstep with
  | quiet s hs' hqueue => exact SeriesWorld.step_received hs' hs
  | send force fate packetId now d archive hpacket hlapsed hqueue harchive =>
    have hrun : SeriesWorld.Step lib _ _ := .run _ force fate packetId now hpacket hlapsed
    exact SeriesWorld.step_received hrun hs
  | others schedules hother => exact hs
  | archiveOther item archive hother hadd => exact hs
  | retransmit n e d packetId now hpacket hseries hschedule hpage => exact hs

end RecoveryWorld

theorem filterMap_keys {β γ δ : Type} {f : β → Option γ} {g : γ → δ} {key : β → δ} {l : List β}
    (h : ∀ b ∈ l, ∃ c, f b = some c ∧ g c = key b) : (l.filterMap f).map g = l.map key := by
  induction l with
  | nil => rfl
  | cons b l ih =>
    obtain ⟨c,hc,hkey⟩ := h b (List.mem_cons_self ..)
    have hrest := ih fun b hb => h b (List.mem_cons_of_mem _ hb)
    rw [List.filterMap_cons_some hc,List.map_cons,List.map_cons,hkey,hrest]

/-- Queueing that never raises queues every page. -/
theorem queueAll_ok {α : Type} {queue : Disclosure α → Result String}
    (hqueue : ∀ d, ∃ packetId, queue d = .ok packetId) (pages : List (Disclosure α)) :
    ∃ sent, (pages.mapM fun d => do
      let packetId ← queue d
      return (packetId,d)) = (.ok sent : Result (List (String × Disclosure α))) ∧
      sent.map Prod.snd = pages := by
  induction pages with
  | nil => exact ⟨[],rfl,rfl⟩
  | cons d pages ih =>
    obtain ⟨sent,hsent,hpages⟩ := ih
    obtain ⟨packetId,hpacket⟩ := hqueue d
    refine ⟨(packetId,d) :: sent,?_,by rw [List.map_cons,hpages]⟩
    rw [List.mapM_cons]
    exact bind_ok.mpr ⟨(packetId,d),bind_ok.mpr ⟨packetId,hpacket,rfl⟩,bind_ok.mpr ⟨sent,hsent,rfl⟩⟩

namespace RecoveryWorld

variable {α : Type} [DecidableEq α] {lib : DisclosureLibrary α} {k : String}
  {s0 : DisclosureSchedule α} {w : RecoveryWorld α}

omit [DecidableEq α] in
/-- The schedule of the series is the one that a notice about it finds. -/
theorem Kept.scheduleFor_eq (h : Kept k s0 w) {n : GapNotice} {now : ℤ}
    (hactive : w.series.schedule.state now = .active) (hseries : n.seriesId = s0.seriesId)
    (hreporter : n.reporterActorId = s0.audienceActorId) :
    scheduleFor (w.book k) n now = .ok (k,w.series.schedule) := by
  have hothers : (w.schedules.entries.filter fun e => e.1 ≠ k).filter (fun e =>
      e.2.seriesId = n.seriesId ∧ e.2.audienceActorId = n.reporterActorId) = [] := by
    refine List.filter_eq_nil_iff.mpr fun e he => ?_
    have hne := h.others e (List.mem_of_mem_filter he)
    simp [hseries,hne]
  have hown : w.series.schedule.seriesId = n.seriesId ∧
      w.series.schedule.audienceActorId = n.reporterActorId :=
    ⟨h.terms.series.trans hseries.symm,h.terms.audience.trans hreporter.symm⟩
  unfold scheduleFor book Keyed.put
  rw [List.filter_cons_of_pos (by simpa using hown),hothers]
  exact if_pos hactive

/-- What holds of gaps in a state: a gap is reported exactly if it has at most a hundred numbers
and the pages agree, as those of one series do; the pages still archived are retransmitted as they
were queued, to the audience; and once they have arrived the gap is closed. -/
structure GapRecovery (lib : DisclosureLibrary α) (k : String) (w : RecoveryWorld α) : Prop where
  notices : ∀ (received : Received α) (observer seriesId own : String) (now : ℤ)
    (digest : GapNotice → String) (queue : GapNotice → Result String),
    (∀ n, ∃ packetId, queue n = .ok packetId) → own ≠ observer → 0 < now →
    missing (ordered (group received observer seriesId)) ≠ [] →
    ((∃ r, queueGapNotice digest queue own received observer seriesId now = .ok r ∧
        r.2.missingSequences = missing (ordered (group received observer seriesId))) ↔
      Agree (ordered (group received observer seriesId)) ∧
        (missing (ordered (group received observer seriesId))).length ≤ GapNotice.maxGapSequences)
  agree : Agree (ordered w.series.received)
  retransmits : ∀ (queue : String → Disclosure α → Result String) (n : GapNotice) (now : ℤ),
    (∀ destination d, ∃ packetId, queue destination d = .ok packetId) →
    w.series.schedule.state now = .active → n.seriesId = w.series.schedule.seriesId →
    n.reporterActorId = w.series.schedule.audienceActorId →
    (∀ i ∈ n.missingSequences, (w.archive.find n.seriesId i).isSome) →
    ∃ sent, retransmitGap queue (w.book k) w.archive n now = .ok (sent,[]) ∧
      sent.map (fun p => p.2.sequence) = n.missingSequences ∧
      ∀ p ∈ sent, p.2 ∈ w.series.queued.map Prod.snd ∧
        p.2.audienceActorId = w.series.schedule.audienceActorId
  closes : ∀ w' : RecoveryWorld α, Reaches (Step lib k) w w' →
    (∀ p ∈ w'.series.queued, ∀ q ∈ w'.series.queued,
      p.2.disclosureId = q.2.disclosureId → p.2 = q.2) →
    (∀ i ∈ missing (ordered w.series.received), ∃ a ∈ w'.series.arrived, a.2.sequence = i) →
    ∀ i, (∃ r ∈ w.series.received, i ≤ r.2.sequence) →
      ∃ r ∈ w'.series.received, r.2.sequence = i

omit [DecidableEq α] in
theorem Kept.agree (h : Kept k s0 w) : Agree (ordered w.series.received) := by
  obtain ⟨pages,seen,hsent⟩ := h.series.sent
  obtain ⟨rest,hrest⟩ := hsent.reached
  have hseen : ((seen ++ rest).map BookEvent.eventId).Nodup :=
    h.series.nodup.sublist ((ActivityFeed.eventsAfter_suffix hrest).sublist.map _)
  rw [List.map_append] at hseen
  exact agree_pages hsent.series hseen.of_append_left fun r hr =>
    (hsent.queued r.2).mp (List.mem_map_of_mem (h.mailed.arrived r (h.mailed.received r hr)))

omit [DecidableEq α] in
theorem Kept.retransmits (h : Kept k s0 w) {queue : String → Disclosure α → Result String}
    {n : GapNotice} {now : ℤ} (hqueue : ∀ a d, ∃ packetId, queue a d = .ok packetId)
    (hactive : w.series.schedule.state now = .active) (hseries : n.seriesId = s0.seriesId)
    (hreporter : n.reporterActorId = s0.audienceActorId)
    (harchive : ∀ i ∈ n.missingSequences, (w.archive.find n.seriesId i).isSome) :
    ∃ sent, retransmitGap queue (w.book k) w.archive n now = .ok (sent,[]) ∧
      sent.map (fun p => p.2.sequence) = n.missingSequences ∧
      ∀ p ∈ sent, p.2 ∈ w.series.queued.map Prod.snd ∧
        p.2.audienceActorId = w.series.schedule.audienceActorId := by
  have hpage : ∀ i ∈ n.missingSequences, ∃ d, archivedPage w.archive n k i = some d ∧
      d.sequence = i := by
    intro i hi
    obtain ⟨a,ha⟩ := Option.isSome_iff_exists.mp (harchive i hi)
    obtain ⟨hmem,hsame,hsequence⟩ := DisclosureArchive.find_cases ha
    obtain ⟨howner,hqueued⟩ := h.archive a hmem (hsame.trans hseries)
    obtain ⟨pages,seen,hsent⟩ := h.series.sent
    have hunder := hsent.series.under _ ((hsent.queued _).mp hqueued)
    refine ⟨a.disclosure,?_,hsequence⟩
    simp only [archivedPage,ha]
    exact if_pos ⟨howner,hunder.audience.trans hreporter.symm⟩
  obtain ⟨sent,hsent,hpages⟩ := queueAll_ok (hqueue n.reporterActorId) (archivedPages w.archive n k)
  have hall : n.missingSequences.filter (fun i => (archivedPage w.archive n k i).isNone) = [] := by
    refine List.filter_eq_nil_iff.mpr fun i hi => ?_
    obtain ⟨d,hd,-⟩ := hpage i hi
    simp [hd]
  refine ⟨sent,?_,?_,fun p hp => ?_⟩
  · refine bind_ok.mpr ⟨_,h.scheduleFor_eq hactive hseries hreporter,bind_ok.mpr ⟨sent,hsent,?_⟩⟩
    rw [hall]
    rfl
  · have hkeys : (archivedPages w.archive n k).map Disclosure.sequence =
        n.missingSequences.map fun i => i := filterMap_keys hpage
    rw [List.map_id'] at hkeys
    rw [← hkeys,← hpages,List.map_map]
    rfl
  · have hmem : p.2 ∈ archivedPages w.archive n k := hpages ▸ List.mem_map_of_mem hp
    refine ⟨h.archived hseries hmem,?_⟩
    obtain ⟨i,-,hi⟩ := List.mem_filterMap.mp hmem
    obtain ⟨-,-,-,haudience⟩ := archivedPage_cases hi
    exact haudience.trans (hreporter.trans h.terms.audience.symm)

/-- In every state of every run, the gaps of a series can be recovered. -/
theorem gaps_recovered {w0 : RecoveryWorld α} (hnew : IsNew w0)
    (hrun : Reaches (Step lib k) w0 w) : GapRecovery lib k w := by
  have hkept : ∀ s t : RecoveryWorld α, Kept k w0.series.schedule s → Step lib k s t →
      Kept k w0.series.schedule t := fun s t hs hstep => kept_step hs hstep
  have h := Reaches.invariant hkept (.start hnew) hrun
  refine ⟨fun received observer seriesId own now digest queue hqueue hown hnow hgap =>
    queueGapNotice_ok hqueue hown hnow hgap,h.agree,
    fun queue n now hqueue hactive hseries hreporter harchive =>
      h.retransmits hqueue hactive (hseries.trans h.terms.series)
        (hreporter.trans h.terms.audience) harchive,fun w' hrun' hids harrived i hi => ?_⟩
  have h' := Reaches.invariant hkept h hrun'
  by_cases hheld : ∃ r ∈ w.series.received, r.2.sequence = i
  · obtain ⟨r,hr,heq⟩ := hheld
    exact ⟨r,run_received hrun' hr,heq⟩
  · obtain ⟨r,hr,hle⟩ := hi
    have hne : ∀ r ∈ w.series.received, r.2.sequence ≠ i := fun r hr heq => hheld ⟨r,hr,heq⟩
    have hmissing := mem_missing.mpr ⟨hne,r,hr,lt_of_le_of_ne hle (hne r hr).symm⟩
    obtain ⟨a,ha,heq⟩ := harrived i hmissing
    obtain ⟨r',hr',hsame⟩ := (h'.mailed.arrivals hids a.2).mp ⟨a,ha,rfl⟩
    exact ⟨r',hr',by rw [hsame,heq]⟩

/-- A second page arrives, the first one does not. -/
def sampleNew : RecoveryWorld Unit := ⟨SeriesWorld.sampleSeries,.empty,[]⟩

def samplePages : List (Disclosure Unit) :=
  [⟨"rdis_0_1","observer","audience",10,[⟨"revt_1",()⟩],some "revt_1",false,"rdsr_1",0,none,"",
      "history-start"⟩,
    ⟨"rdis_1_1","observer","audience",50,[⟨"revt_2",()⟩],some "revt_2",false,"rdsr_1",1,
      some "revt_1","","history-start"⟩]

def sampleFirst : RecoveryWorld Unit :=
  ⟨sampleNew.series.runOnce SeriesWorld.sampleLibrary false .completes "p1" 10,.empty,
    [⟨"rdsc_1","p1",10,samplePages[0]⟩]⟩

def sampleGrown : RecoveryWorld Unit :=
  { sampleFirst with series := sampleFirst.series.grow [⟨"revt_2",""⟩] [] fun _ => .ok () }

def sampleSecond : RecoveryWorld Unit :=
  ⟨sampleGrown.series.runOnce SeriesWorld.sampleLibrary true .completes "p2" 50,.empty,
    [⟨"rdsc_1","p1",10,samplePages[0]⟩,⟨"rdsc_1","p2",50,samplePages[1]⟩]⟩

def sampleGap : RecoveryWorld Unit :=
  { sampleSecond with series := sampleSecond.series.deliver "p2" samplePages[1] }

theorem gaps_recovered_sample :
    (analyzeSeries sampleGap.series.received).missingSequences = [0] ∧
      GapRecovery SeriesWorld.sampleLibrary "rdsc_1" sampleGap := by
  have hnew : IsNew sampleNew :=
    ⟨SeriesWorld.sampleSeries_new,fun e he => (List.not_mem_nil he).elim,fun a ha =>
      (List.not_mem_nil ha).elim⟩
  have hfirst : Reaches (Step SeriesWorld.sampleLibrary "rdsc_1") sampleNew sampleFirst :=
    .single (.send sampleNew false .completes "p1" 10 samplePages[0] _ (by decide) (by decide)
      (by decide) rfl)
  have hgrown := hfirst.tail (.quiet sampleFirst sampleGrown.series
    (.grow _ [⟨"revt_2",""⟩] [] (fun _ => .ok ()) (by decide)) rfl)
  have hsecond := hgrown.tail (.send sampleGrown true .completes "p2" 50 samplePages[1]
    sampleSecond.archive (by decide) (by decide) (by decide) rfl)
  have hgap := hsecond.tail (.quiet sampleSecond sampleGap.series
    (.deliver _ "p2" samplePages[1] (by decide)) rfl)
  exact ⟨by decide,gaps_recovered hnew hgap⟩

/-- A gap of a hundred and one numbers, before the first page that arrives. -/
def widePages : Received Unit :=
  [("p1",⟨"rdis_101_1","observer","audience",10,[⟨"revt_1",()⟩],some "revt_1",false,"rdsr_1",101,
    some "revt_0","","history-start"⟩)]

theorem wide_gap_unreported :
    missing (ordered (group widePages "observer" "rdsr_1")) ≠ [] ∧
    Agree (ordered (group widePages "observer" "rdsr_1")) ∧
    ¬ ∃ r, queueGapNotice (fun _ => "rgap_1") (fun _ => .ok "p2") "audience" widePages "observer"
      "rdsr_1" 20 = .ok r := by
  have hlength : (missing (ordered (group widePages "observer" "rdsr_1"))).length = 101 := by
    decide +kernel
  refine ⟨fun hnil => ?_,by decide,?_⟩
  · rw [hnil] at hlength
    cases hlength
  · rintro ⟨r,hr⟩
    obtain ⟨-,hbound⟩ := queueGapNotice_cases hr
    rw [hlength] at hbound
    exact absurd hbound (by decide)

end RecoveryWorld
end Anet
