import Anet.GatewayRuns
import Anet.PagedLog

/-! The event log of a gateway task along every run: its numbers, its hashes, the state it
adds up to, what a repeated or a refused batch does to it, and what a reader sees of it. -/
namespace Anet

open PacketStore A2AProtocol A2AEvent

/-- msgpack gives back the JSON value it packed. -/
def PacksJson (rt : Runtime) : Prop :=
  ∀ (v w : Value) raw, v.json rt = some w → rt.packb w = .ok raw → rt.unpackb raw = .ok w

/-- The state a stored event reports. -/
def storedState (rt : Runtime) (e : A2AEvent) : Option ReportState :=
  (rt.unpack e.event).toOption.bind eventState

/-- The state of a task after one more stored event. -/
def stateAfter (rt : Runtime) (state : ReportState) (e : A2AEvent) : Option ReportState :=
  match storedState rt e with
  | none => some state
  | some next => if permits state next then some next else none

/-- What a page shows of a stored event. -/
def storedItem (rt : Runtime) (e : A2AEvent) : EventItem :=
  ⟨e.sequence,e.sourceAnetTaskId,(rt.unpack e.event).toOption.getD .nil,e.createdMs⟩

/-- The rows of a task, in the order of their insertion, are numbered from 1 and lead from
`submitted` to the state of the task. -/
structure LogOf (rt : Runtime) (t : A2AEvents) (principalId a2aTaskId : String) (last : ℕ)
    (state : ReportState) : Prop where
  numbered : (t.select (ofTask principalId a2aTaskId)).map sequence = List.range' 1 last
  decoded : ∀ e ∈ t.select (ofTask principalId a2aTaskId), ∃ v, rt.unpack e.event = .ok v
  folded : (t.select (ofTask principalId a2aTaskId)).foldlM (stateAfter rt) .submitted = some state

/-- What the first loop knows of a record. -/
structure EventRecord.Sound (rt : Runtime) (record : EventRecord) : Prop where
  unpacks : rt.unpack record.encoded = .ok record.event.value
  reports : eventState record.event.value = record.event.state

section Records

variable {rt : Runtime} {task : A2ATask} {source : String} {now : ℤ}

theorem eventRecords_sound (hcodec : PacksJson rt) {a2aTaskId contextId : String} {total : ℕ}
    {events : List Value} {records : List EventRecord}
    (h : eventRecords rt a2aTaskId contextId source total events = .ok records) :
    ∀ record ∈ records, record.Sound rt := by
  induction events generalizing total records with
  | nil =>
    cases h
    simp
  | cons event events ih =>
    simp only [eventRecords,bind_ok,raiseIf_ok] at h
    obtain ⟨normalized,hvalid,encoded,hpack,_,hsize,hashed,-,rest,hrest,hval⟩ := h
    cases hval
    obtain ⟨hjson,hstate⟩ := validateStreamEvent_ok hvalid
    intro record hrecord
    rcases List.mem_cons.mp hrecord with rfl | hrecord
    · refine ⟨?_,hstate⟩
      have hlen : ¬ maxWireBytes < encoded.length := by omega
      simp only [Runtime.unpack,hlen,if_false]
      exact hcodec _ _ _ hjson hpack
    · exact ih hrest record hrecord

/-- The log already holds the content of a record. -/
def Holds (t : A2AEvents) (task : A2ATask) (record : EventRecord) : Prop :=
  ∃ e ∈ t.select (ofTask task.principalId task.a2aTaskId), e.eventHash = record.eventHash

theorem first_holds {t : A2AEvents} {record : EventRecord} :
    (t.first fun e => e.ofTask task.principalId task.a2aTaskId ∧
      e.eventHash = record.eventHash).isSome ↔ Holds t task record := by
  simp only [Table.first,List.find?_isSome,Holds,Table.select,List.mem_filter,decide_eq_true_eq]
  constructor
  · rintro ⟨e,he,hof,hhash⟩
    exact ⟨e,⟨he,hof⟩,hhash⟩
  · rintro ⟨e,⟨he,hof⟩,hhash⟩
    exact ⟨e,he,hof,hhash⟩

instance (t : A2AEvents) (record : EventRecord) : Decidable (Holds t task record) :=
  decidable_of_iff _ first_holds

/-- The row of a new event. -/
def eventRow (task : A2ATask) (source : String) (now : ℤ) (log : AppendLoop)
    (record : EventRecord) : A2AEvent :=
  ⟨task.principalId,task.a2aTaskId,log.sequence + 1,source,record.eventHash,record.encoded,now⟩

/-- One turn of the append loop skips a known event or numbers and inserts a new one. -/
theorem appendRecord_cases {log log' : AppendLoop} {record : EventRecord}
    (h : appendRecord task source now log record = .ok log') :
    (Holds log.events task record ∧ log' = { log with duplicates := log.duplicates + 1 }) ∨
      (¬ Holds log.events task record ∧ task.latestAnetTaskId = source ∧
        nextState log.state record.event = .ok log'.state ∧
        log.events.insert (eventRow task source now log record) = some log'.events ∧
        log'.sequence = log.sequence + 1 ∧ log'.appended = log.appended + 1 ∧
        log'.duplicates = log.duplicates) := by
  unfold appendRecord at h
  split at h
  · rename_i hholds
    cases h
    exact Or.inl ⟨first_holds.mp hholds,rfl⟩
  · rename_i hholds
    simp only [bind_ok,raiseIf_ok,not_not] at h
    obtain ⟨_,hsource,state,hstate,events,hins,hval⟩ := h
    cases hval
    exact Or.inr ⟨fun hh => hholds (first_holds.mpr hh),hsource,hstate,integrity_ok.mp hins,
      rfl,rfl,rfl⟩

theorem appendRecords_cons {log log' : AppendLoop} {record : EventRecord}
    {records : List EventRecord} :
    appendRecords task source now log (record :: records) = .ok log' ↔
      ∃ log₁, appendRecord task source now log record = .ok log₁ ∧
        appendRecords task source now log₁ records = .ok log' := by
  simp [appendRecords,bind_ok]

/-- Every task of the store agrees with its log, and no events stand under unknown tasks. -/
structure LogSound (rt : Runtime) (s : PacketStore) : Prop where
  log : ∀ k t, s.a2aTasks.get k = some t →
    LogOf rt s.a2aEvents t.principalId t.a2aTaskId t.lastSequence t.state
  unknown : ∀ principalId a2aTaskId, s.a2aTasks.get (principalId,a2aTaskId) = none →
    s.a2aEvents.select (ofTask principalId a2aTaskId) = []

theorem select_insert {t t' : A2AEvents} {e : A2AEvent} (h : t.insert e = some t')
    (principalId a2aTaskId : String) : t'.select (ofTask principalId a2aTaskId) =
      t.select (ofTask principalId a2aTaskId) ++
        if e.ofTask principalId a2aTaskId then [e] else [] := by
  rw [Table.select,(Table.insert_eq_some h).2.2,List.filter_append]
  by_cases he : e.ofTask principalId a2aTaskId <;> simp [he,Table.select]

/-- The rows of a task only grow. -/
theorem appendRecord_grows {log log' : AppendLoop} {record : EventRecord}
    (h : appendRecord task source now log record = .ok log') (principalId a2aTaskId : String) :
    log.events.select (ofTask principalId a2aTaskId) <+:
      log'.events.select (ofTask principalId a2aTaskId) := by
  rcases appendRecord_cases h with ⟨-,rfl⟩ | ⟨-,-,-,hins,-⟩
  · exact List.prefix_refl _
  · rw [select_insert hins]
    exact List.prefix_append _ _

theorem appendRecords_grows {log log' : AppendLoop} {records : List EventRecord}
    (h : appendRecords task source now log records = .ok log') (principalId a2aTaskId : String) :
    log.events.select (ofTask principalId a2aTaskId) <+:
      log'.events.select (ofTask principalId a2aTaskId) := by
  induction records generalizing log with
  | nil =>
    cases h
    exact List.prefix_refl _
  | cons record records ih =>
    obtain ⟨log₁,hrecord,hrest⟩ := appendRecords_cons.mp h
    exact (appendRecord_grows hrecord principalId a2aTaskId).trans (ih hrest)

/-- Other tasks are left alone. -/
theorem appendRecords_frame {log log' : AppendLoop} {records : List EventRecord}
    (h : appendRecords task source now log records = .ok log') {principalId a2aTaskId : String}
    (hother : (principalId,a2aTaskId) ≠ task.key) :
    log'.events.select (ofTask principalId a2aTaskId) =
      log.events.select (ofTask principalId a2aTaskId) := by
  induction records generalizing log with
  | nil =>
    cases h
    rfl
  | cons record records ih =>
    obtain ⟨log₁,hrecord,hrest⟩ := appendRecords_cons.mp h
    rw [ih hrest]
    rcases appendRecord_cases hrecord with ⟨-,rfl⟩ | ⟨-,-,-,hins,-⟩
    · rfl
    · have hnot : ¬ (eventRow task source now log record).ofTask principalId a2aTaskId := by
        rintro ⟨hp,ht⟩
        apply hother
        rw [A2ATask.key,← hp,← ht]
        rfl
      rw [select_insert hins,if_neg hnot,List.append_nil]

theorem stateAfter_record {log : AppendLoop} {record : EventRecord}
    {state : ReportState} (hsound : record.Sound rt)
    (hnext : nextState log.state record.event = .ok state) :
    stateAfter rt log.state (eventRow task source now log record) = some state := by
  have hstored : storedState rt (eventRow task source now log record) = record.event.state := by
    simp [storedState,eventRow,hsound.unpacks,Except.toOption,hsound.reports]
  unfold nextState at hnext
  rw [stateAfter,hstored]
  split at hnext
  · rename_i next hstate
    rw [hstate]
    split at hnext
    · rename_i hpermits
      cases hnext
      simp [hpermits]
    · cases hnext
  · rename_i hstate
    rw [hstate]
    split at hnext
    · cases hnext
    · cases hnext
      rfl

theorem appendRecord_log {log log' : AppendLoop} {record : EventRecord}
    (hsound : record.Sound rt)
    (hlog : LogOf rt log.events task.principalId task.a2aTaskId log.sequence log.state)
    (h : appendRecord task source now log record = .ok log') :
    LogOf rt log'.events task.principalId task.a2aTaskId log'.sequence log'.state := by
  rcases appendRecord_cases h with ⟨-,rfl⟩ | ⟨-,-,hnext,hins,hseq,-,-⟩
  · exact hlog
  · have hrow : (eventRow task source now log record).ofTask task.principalId task.a2aTaskId :=
      ⟨rfl,rfl⟩
    have hselect := select_insert hins task.principalId task.a2aTaskId
    rw [if_pos hrow] at hselect
    refine ⟨?_,?_,?_⟩
    · rw [hselect,hseq,List.map_append,hlog.numbered,List.range'_1_concat]
      simp [eventRow,Nat.add_comm]
    · intro e he
      rw [hselect,List.mem_append,List.mem_singleton] at he
      rcases he with he | rfl
      · exact hlog.decoded e he
      · exact ⟨_,hsound.unpacks⟩
    · rw [hselect,List.foldlM_append,hlog.folded]
      simp [stateAfter_record hsound hnext]

theorem appendRecords_log {log log' : AppendLoop} {records : List EventRecord}
    (hsound : ∀ record ∈ records, record.Sound rt)
    (hlog : LogOf rt log.events task.principalId task.a2aTaskId log.sequence log.state)
    (h : appendRecords task source now log records = .ok log') :
    LogOf rt log'.events task.principalId task.a2aTaskId log'.sequence log'.state := by
  induction records generalizing log with
  | nil =>
    cases h
    exact hlog
  | cons record records ih =>
    obtain ⟨log₁,hrecord,hrest⟩ := appendRecords_cons.mp h
    exact ih (fun r hr => hsound r (by simp [hr]))
      (appendRecord_log (hsound record (by simp)) hlog hrecord) hrest

/-- The loop adds as many numbers as rows, and a loop without new rows changes nothing. -/
theorem appendRecords_count {log log' : AppendLoop} {records : List EventRecord}
    (h : appendRecords task source now log records = .ok log') :
    log'.sequence = log.sequence + (log'.appended - log.appended) ∧ log.appended ≤ log'.appended ∧
      (log'.appended = log.appended → log'.events = log.events ∧ log'.state = log.state) := by
  induction records generalizing log with
  | nil =>
    cases h
    simp
  | cons record records ih =>
    obtain ⟨log₁,hrecord,hrest⟩ := appendRecords_cons.mp h
    obtain ⟨hseq,hle,hsame⟩ := ih hrest
    rcases appendRecord_cases hrecord with ⟨-,rfl⟩ | ⟨-,-,-,-,hseq₁,happ₁,-⟩
    · exact ⟨hseq,hle,hsame⟩
    · exact ⟨by omega,by omega,fun heq => by omega⟩

/-- Nothing is appended in a terminal state. -/
theorem appendRecords_terminal {log log' : AppendLoop} {records : List EventRecord}
    (hterm : log.state.terminal) (h : appendRecords task source now log records = .ok log') :
    log'.appended = log.appended := by
  induction records generalizing log with
  | nil =>
    cases h
    rfl
  | cons record records ih =>
    obtain ⟨log₁,hrecord,hrest⟩ := appendRecords_cons.mp h
    rcases appendRecord_cases hrecord with ⟨-,rfl⟩ | ⟨-,-,hnext,-⟩
    · exact @ih { log with duplicates := log.duplicates + 1 } hterm hrest
    · exfalso
      unfold nextState at hnext
      split at hnext
      · rename_i next hstate
        have hnone : permits log.state next = false := by
          revert hterm
          cases log.state <;> simp [permits,ReportState.terminal]
        simp [hnone] at hnext
      · simp [hterm] at hnext

/-- Everything the loop went through is in the log afterwards. -/
theorem appendRecords_holds {log log' : AppendLoop} {records : List EventRecord}
    (h : appendRecords task source now log records = .ok log') :
    ∀ record ∈ records, Holds log'.events task record := by
  induction records generalizing log with
  | nil => simp
  | cons record records ih =>
    obtain ⟨log₁,hrecord,hrest⟩ := appendRecords_cons.mp h
    intro r hr
    rcases List.mem_cons.mp hr with rfl | hr
    · have hheld : Holds log₁.events task r := by
        rcases appendRecord_cases hrecord with ⟨hheld,rfl⟩ | ⟨-,-,-,hins,-⟩
        · exact hheld
        · refine ⟨eventRow task source now log r,?_,rfl⟩
          rw [select_insert hins,if_pos ⟨rfl,rfl⟩]
          simp
      obtain ⟨e,he,hhash⟩ := hheld
      exact ⟨e,(appendRecords_grows hrest _ _).subset he,hhash⟩
    · exact ih hrest r hr

/-- A loop over events the log holds only counts them. -/
theorem appendRecords_repeat {log : AppendLoop} {records : List EventRecord}
    (h : ∀ record ∈ records, Holds log.events task record) :
    appendRecords task source now log records =
      .ok { log with duplicates := log.duplicates + records.length } := by
  induction records generalizing log with
  | nil => rfl
  | cons record records ih =>
    have hfirst : appendRecord task source now log record =
        .ok { log with duplicates := log.duplicates + 1 } := by
      simp only [appendRecord,first_holds,if_pos (h record (by simp))]
    refine appendRecords_cons.mpr ⟨_,hfirst,?_⟩
    refine (@ih { log with duplicates := log.duplicates + 1 } fun r hr =>
      h r (by simp [hr])).trans ?_
    have hlen : log.duplicates + 1 + records.length = log.duplicates + (records.length + 1) := by
      omega
    simp [hlen]

end Records

section Steps

variable {rt : Runtime} {s s' : PacketStore}

theorem logSound_empty : LogSound rt .empty where
  log _ _ ht := by cases ht
  unknown _ _ _ := rfl

theorem LogOf.congr {t t' : A2AEvents} {principalId a2aTaskId : String} {last : ℕ}
    {state : ReportState} (h : LogOf rt t principalId a2aTaskId last state)
    (hsame : t'.select (ofTask principalId a2aTaskId) = t.select (ofTask principalId a2aTaskId)) :
    LogOf rt t' principalId a2aTaskId last state :=
  ⟨by rw [hsame]; exact h.numbered,by rw [hsame]; exact h.decoded,by rw [hsame]; exact h.folded⟩

theorem logOf_nil (rt : Runtime) {t : A2AEvents} {principalId a2aTaskId : String}
    (h : t.select (ofTask principalId a2aTaskId) = []) :
    LogOf rt t principalId a2aTaskId 0 .submitted := by
  refine ⟨?_,?_,?_⟩ <;> simp [h]

/-- The row of a task after a delivery. -/
theorem appendStep_task {task : A2ATask} {source : String} {events : List Value}
    {records : List EventRecord} {log : AppendLoop} {now : ℤ}
    (h : AppendStep rt task source events records log now s s') {t' : A2ATask}
    (ht : s'.a2aTasks.get task.key = some t') :
    t'.state = log.state ∧ t'.lastSequence = log.sequence := by
  rw [h.tasks] at ht
  split at ht
  · cases ht
    exact ⟨rfl,rfl⟩
  · rename_i hsame
    have hzero : log.appended = 0 := by
      by_contra hne
      exact hsame ⟨rfl,hne⟩
    rw [h.known] at ht
    cases ht
    obtain ⟨hseq,-,hsame⟩ := appendRecords_count h.looped
    exact ⟨(hsame hzero).2.symm,by simp only at hseq; omega⟩

theorem appendStep_events {task : A2ATask} {source : String} {events : List Value}
    {records : List EventRecord} {log : AppendLoop} {now : ℤ}
    (h : AppendStep rt task source events records log now s s') (principalId a2aTaskId : String) :
    s.a2aEvents.select (ofTask principalId a2aTaskId) <+:
      s'.a2aEvents.select (ofTask principalId a2aTaskId) := by
  rw [h.events]
  exact appendRecords_grows h.looped principalId a2aTaskId

theorem appendStep_log (hcodec : PacksJson rt) (hs : LogSound rt s) {task : A2ATask}
    {source : String} {events : List Value} {records : List EventRecord} {log : AppendLoop}
    {now : ℤ} (h : AppendStep rt task source events records log now s s') : LogSound rt s' := by
  have hframe {principalId a2aTaskId : String} (hne : (principalId,a2aTaskId) ≠ task.key) :
      s'.a2aEvents.select (ofTask principalId a2aTaskId) =
        s.a2aEvents.select (ofTask principalId a2aTaskId) := by
    rw [h.events]
    exact appendRecords_frame h.looped hne
  constructor
  · intro k t' ht
    have hkey := Table.get_key ht
    by_cases hk : k = task.key
    · rw [hk] at ht hkey
      obtain ⟨hstate,hseq⟩ := appendStep_task h ht
      have hfinal := appendRecords_log (eventRecords_sound hcodec h.recorded)
        (hs.log _ _ h.known) h.looped
      simp only [A2ATask.key,Prod.mk.injEq] at hkey
      rw [hstate,hseq,hkey.1,hkey.2,h.events]
      exact hfinal
    · have hold : s.a2aTasks.get k = some t' := by
        rw [h.tasks,if_neg fun hh => hk hh.1] at ht
        exact ht
      exact (hs.log k t' hold).congr (hframe fun hh => hk (hkey.symm.trans hh))
  · intro principalId a2aTaskId hnone
    have hne : (principalId,a2aTaskId) ≠ task.key := by
      intro heq
      have hget := h.tasks (principalId,a2aTaskId)
      rw [hnone,heq] at hget
      split at hget
      · cases hget
      · rw [h.known] at hget
        cases hget
    rw [hframe hne]
    refine hs.unknown principalId a2aTaskId ?_
    have hget := h.tasks (principalId,a2aTaskId)
    rw [if_neg fun hh => hne hh.1,hnone] at hget
    exact hget.symm

theorem logSound_step (hcodec : PacksJson rt) (hs : LogSound rt s) (h : GatewayStep rt s s') :
    LogSound rt s' := by
  have hchange := gatewayStep_change h
  rcases gatewayChange_log hchange with ⟨hevents,htasks⟩ | ⟨_,_,_,_,_,_,happend⟩
  · constructor
    · intro k t' ht
      rw [hevents]
      have hkey := Table.get_key ht
      rcases htasks k t' ht with ⟨t,hold,hstate,hseq⟩ | ⟨hnone,hstate,hseq⟩
      · have hkey' := (Table.get_key hold).trans hkey.symm
        simp only [A2ATask.key,Prod.mk.injEq] at hkey'
        rw [hstate,hseq,← hkey'.1,← hkey'.2]
        exact hs.log k t hold
      · rw [hstate,hseq]
        rw [← hkey] at hnone
        exact logOf_nil rt (hs.unknown _ _ hnone)
    · intro principalId a2aTaskId hnone
      rw [hevents]
      refine hs.unknown principalId a2aTaskId ?_
      cases hold : s.a2aTasks.get (principalId,a2aTaskId) with
      | none => rfl
      | some t =>
        obtain ⟨t',ht',-⟩ := gatewayChange_tasks hchange hold
        rw [hnone] at ht'
        cases ht'
  · exact appendStep_log hcodec hs happend

/-- A step only adds rows to the log of a task. -/
theorem log_grows (h : GatewayStep rt s s') (principalId a2aTaskId : String) :
    s.a2aEvents.select (ofTask principalId a2aTaskId) <+:
      s'.a2aEvents.select (ofTask principalId a2aTaskId) := by
  rcases gatewayChange_log (gatewayStep_change h) with ⟨hevents,-⟩ | ⟨_,_,_,_,_,_,happend⟩
  · rw [hevents]
  · exact appendStep_events happend principalId a2aTaskId

/-- A task in a terminal state stays there and its log is closed. -/
theorem terminal_step (h : GatewayStep rt s s') {k : String × String} {t : A2ATask}
    (ht : s.a2aTasks.get k = some t) (hterm : t.state.terminal) :
    ∃ t', s'.a2aTasks.get k = some t' ∧ t'.state = t.state ∧
      s'.a2aEvents.select (ofTask k.1 k.2) = s.a2aEvents.select (ofTask k.1 k.2) := by
  have hchange := gatewayStep_change h
  obtain ⟨t',ht',-⟩ := gatewayChange_tasks hchange ht
  refine ⟨t',ht',?_⟩
  rcases gatewayChange_log hchange with ⟨hevents,htasks⟩ | ⟨task,_,_,_,log,_,happend⟩
  · rcases htasks k t' ht' with ⟨t₀,hold,hstate,-⟩ | ⟨hnone,-⟩
    · rw [ht] at hold
      cases hold
      exact ⟨hstate,by rw [hevents]⟩
    · rw [ht] at hnone
      cases hnone
  · by_cases hk : k = task.key
    · subst hk
      have hknown := happend.known
      rw [ht] at hknown
      cases hknown
      obtain ⟨-,-,hsame⟩ := appendRecords_count happend.looped
      obtain ⟨hevents,hstate⟩ := hsame (appendRecords_terminal hterm happend.looped)
      rw [(appendStep_task happend ht').1,hstate,happend.events,hevents]
      exact ⟨rfl,rfl⟩
    · rw [happend.tasks,if_neg fun hh => hk hh.1,ht] at ht'
      cases ht'
      rw [happend.events,appendRecords_frame happend.looped hk]
      exact ⟨rfl,rfl⟩

end Steps

section Runs

variable {rt : Runtime} {s s' : PacketStore}

theorem run_log (hcodec : PacksJson rt) (hs : LogSound rt s) (h : Reaches (GatewayStep rt) s s') :
    LogSound rt s' :=
  Reaches.invariant (I := LogSound rt) (fun _ _ hs hstep => logSound_step hcodec hs hstep) hs h

theorem run_grows (h : Reaches (GatewayStep rt) s s') (principalId a2aTaskId : String) :
    s.a2aEvents.select (ofTask principalId a2aTaskId) <+:
      s'.a2aEvents.select (ofTask principalId a2aTaskId) := by
  refine Reaches.invariant (I := fun s' => s.a2aEvents.select (ofTask principalId a2aTaskId) <+:
    s'.a2aEvents.select (ofTask principalId a2aTaskId)) ?_ (List.prefix_refl _) h
  intro s₁ s₂ hrows hstep
  exact hrows.trans (log_grows hstep principalId a2aTaskId)

theorem run_terminal {k : String × String} {t : A2ATask} (ht : s.a2aTasks.get k = some t)
    (hterm : t.state.terminal) (h : Reaches (GatewayStep rt) s s') :
    ∃ t', s'.a2aTasks.get k = some t' ∧ t'.state = t.state ∧
      s'.a2aEvents.select (ofTask k.1 k.2) = s.a2aEvents.select (ofTask k.1 k.2) := by
  refine Reaches.invariant (I := fun s' => ∃ t', s'.a2aTasks.get k = some t' ∧
    t'.state = t.state ∧ s'.a2aEvents.select (ofTask k.1 k.2) =
      s.a2aEvents.select (ofTask k.1 k.2)) ?_ ⟨t,ht,rfl,rfl⟩ h
  rintro s₁ s₂ ⟨t₁,ht₁,hstate₁,hrows₁⟩ hstep
  obtain ⟨t₂,ht₂,hstate₂,hrows₂⟩ := terminal_step hstep ht₁ (by rw [hstate₁]; exact hterm)
  exact ⟨t₂,ht₂,hstate₂.trans hstate₁,hrows₂.trans hrows₁⟩

theorem run_tasks {k : String × String} {t : A2ATask} (ht : s.a2aTasks.get k = some t)
    (h : Reaches (GatewayStep rt) s s') :
    ∃ t', s'.a2aTasks.get k = some t' ∧ t'.shape = t.shape :=
  Reaches.keeps (g := fun s => s.a2aTasks.get k) (f := A2ATask.shape)
    (fun _ _ _ hstep => gatewayChange_tasks (gatewayStep_change hstep)) ht h

theorem run_principals {k : String} {r : A2APrincipal} (hr : s.a2aPrincipals.get k = some r)
    (h : Reaches (GatewayStep rt) s s') :
    ∃ r', s'.a2aPrincipals.get k = some r' ∧ r'.senderNodeId = r.senderNodeId :=
  Reaches.keeps (g := fun s => s.a2aPrincipals.get k) (f := A2APrincipal.senderNodeId)
    (fun _ _ _ hstep => gatewayChange_principals (gatewayStep_change hstep)) hr h

theorem run_messages {k : String × String} {m : A2AMessage} (hm : s.a2aMessages.get k = some m)
    (h : Reaches (GatewayStep rt) s s') :
    ∃ m', s'.a2aMessages.get k = some m' ∧ m'.binding = m.binding :=
  Reaches.keeps (g := fun s => s.a2aMessages.get k) (f := A2AMessage.binding)
    (fun _ _ _ hstep => gatewayChange_messages (gatewayStep_change hstep)) hm h

end Runs

section Repeat

variable {rt : Runtime} {s s₁ s' : PacketStore} {now : ℤ}

/-- A batch that was delivered is skipped as a whole at any later time. -/
theorem appendEvents_again {principalId senderId a2aTaskId source : String} {events : List Value}
    {result : AppendResult}
    (h : s.appendEvents rt principalId senderId a2aTaskId source events now = .ok (result,s₁))
    (hrun : Reaches (GatewayStep rt) s₁ s') (now' : ℤ) : ∃ result',
      s'.appendEvents rt principalId senderId a2aTaskId source events now' = .ok (result',s') ∧
        result'.appended = 0 := by
  obtain ⟨task,records,log,howned,-,hstep⟩ := appendEvents_spec h
  have hchange : GatewayChange rt s s₁ := .appended task source events records log now hstep
  simp only [appendEvents,bind_ok,raiseIf_ok] at h
  obtain ⟨_,hbounds,_,-,_,hsource,-⟩ := h
  obtain ⟨htask,hkey⟩ := ownedTask_found howned
  simp only [ownedTask,bind_ok,fetched_ok,raiseIf_ok] at howned
  obtain ⟨_,-,principal,hprincipal,_,hsender,-⟩ := howned
  obtain ⟨t₁,ht₁,hshape₁⟩ := gatewayChange_tasks hchange htask
  obtain ⟨t',ht',hshape'⟩ := run_tasks ht₁ hrun
  obtain ⟨r₁,hr₁,hsender₁⟩ := gatewayChange_principals hchange hprincipal
  obtain ⟨r',hr',hsender'⟩ := run_principals hr₁ hrun
  have howned' : s'.ownedTask principalId a2aTaskId senderId = .ok t' := by
    simp only [ownedTask,bind_ok,fetched_ok,raiseIf_ok]
    exact ⟨t',ht',r',hr',(),by rw [hsender',hsender₁]; exact hsender,rfl⟩
  have hsource' : (s'.a2aMessages.first fun r => r.principalId = principalId ∧
      r.a2aTaskId = a2aTaskId ∧ r.anetTaskId = source).isSome := by
    obtain ⟨m,hm⟩ := Option.ne_none_iff_exists'.mp (by simpa using hsource)
    obtain ⟨hget,hp,ha,ht⟩ := Table.first_some hm
    obtain ⟨m₁,hm₁,hbinding₁⟩ := gatewayChange_messages hchange hget
    obtain ⟨m',hm',hbinding'⟩ := run_messages hm₁ hrun
    have hkey' := Table.get_key hm'
    have hbinding := hbinding'.trans hbinding₁
    simp only [A2AMessage.key,A2AMessage.binding,Prod.mk.injEq] at hkey' hbinding
    refine List.find?_isSome.mpr ⟨m',(Table.get_eq_some.mp hm').1,?_⟩
    simp [hkey'.1,hbinding.1,hbinding.2.1,hp,ha,ht]
  have hkey' := Table.get_key ht'
  have hcontext : t'.contextId = task.contextId := by
    have hshape := hshape'.trans hshape₁
    simp only [A2ATask.shape,Prod.mk.injEq] at hshape
    exact hshape.1
  have hid : task.a2aTaskId = a2aTaskId := congrArg Prod.snd hkey
  have hheld : ∀ record ∈ records, Holds s'.a2aEvents t' record := by
    intro record hrecord
    obtain ⟨e,he,hhash⟩ := appendRecords_holds hstep.looped record hrecord
    rw [← hstep.events] at he
    have hsame := hkey'.trans hkey.symm
    simp only [A2ATask.key,Prod.mk.injEq] at hsame
    refine ⟨e,?_,hhash⟩
    rw [hsame.1,hsame.2]
    exact (run_grows hrun _ _).subset he
  have hloop : appendRecords t' source now' ⟨s'.a2aEvents,t'.state,t'.lastSequence,0,0⟩ records =
      .ok ⟨s'.a2aEvents,t'.state,t'.lastSequence,0,0 + records.length⟩ :=
    appendRecords_repeat hheld
  refine ⟨⟨t'.state,t'.lastSequence,0,0 + records.length⟩,?_,rfl⟩
  simp only [appendEvents,bind_ok,raiseIf_ok]
  have hbound : ¬ (s'.a2aMessages.first fun r => r.principalId = principalId ∧
      r.a2aTaskId = a2aTaskId ∧ r.anetTaskId = source).isNone := by
    intro hnone
    rw [Option.isNone_iff_eq_none.mp hnone] at hsource'
    cases hsource'
  refine ⟨(),hbounds,t',howned',(),hbound,records,?_,_,hloop,rfl⟩
  rw [hcontext,← hid]
  exact hstep.recorded

end Repeat

section Pages

variable {rt : Runtime} {s s' : PacketStore}

/-- The log of a task as its pages show it. -/
def loggedItems (rt : Runtime) (s : PacketStore) (principalId a2aTaskId : String) :
    List EventItem :=
  (eventsOf s.a2aEvents principalId a2aTaskId).map (storedItem rt)

theorem LogOf.sorted {t : A2AEvents} {principalId a2aTaskId : String} {last : ℕ}
    {state : ReportState} (h : LogOf rt t principalId a2aTaskId last state) :
    eventsOf t principalId a2aTaskId = t.select (ofTask principalId a2aTaskId) := by
  refine List.Pairwise.insertionSort_eq ?_
  have hnumbers : ((t.select (ofTask principalId a2aTaskId)).map sequence).Pairwise (· ≤ ·) := by
    rw [h.numbered]
    exact List.pairwise_le_range'
  exact List.pairwise_map.mp hnumbers

theorem LogSound.sorted (hs : LogSound rt s) (principalId a2aTaskId : String) :
    eventsOf s.a2aEvents principalId a2aTaskId =
      s.a2aEvents.select (ofTask principalId a2aTaskId) := by
  cases ht : s.a2aTasks.get (principalId,a2aTaskId) with
  | none => exact (logOf_nil rt (hs.unknown _ _ ht)).sorted
  | some t =>
    have hkey := Table.get_key ht
    simp only [A2ATask.key,Prod.mk.injEq] at hkey
    have hlog := (hs.log _ t ht).sorted
    rw [hkey.1,hkey.2] at hlog
    exact hlog

theorem eventItems_map {rows : List A2AEvent}
    (h : ∀ e ∈ rows, ∃ v, rt.unpack e.event = .ok v) :
    eventItems rt rows = .ok (rows.map (storedItem rt)) := by
  induction rows with
  | nil => rfl
  | cons e rows ih =>
    obtain ⟨v,hv⟩ := h e (by simp)
    rw [eventItems,ih fun x hx => h x (by simp [hx])]
    simp [eventItem,storedItem,hv,bind,Except.bind,pure,Except.pure,Except.toOption]

/-- The rows after a cursor are those that follow the rows it counts. -/
theorem filter_numbered {rows : List A2AEvent} {a n c : ℕ}
    (h : rows.map sequence = List.range' a n) :
    rows.filter (fun e : A2AEvent => a + c ≤ e.sequence) = rows.drop c := by
  induction rows generalizing a n c with
  | nil => simp
  | cons e rows ih =>
    cases n with
    | zero => simp at h
    | succ n =>
      rw [List.range'_succ,List.map_cons,List.cons.injEq] at h
      obtain ⟨he,hrest⟩ := h
      cases c with
      | zero =>
        have hall := ih (c := 0) hrest
        rw [List.drop_zero] at hall ⊢
        rw [List.filter_cons,if_pos (by simp [he])]
        congr 1
        refine (List.filter_congr ?_).trans hall
        intro x hx
        have hmem : x.sequence ∈ List.range' (a + 1) n := by
          rw [← hrest]
          exact List.mem_map_of_mem hx
        rw [List.mem_range'_1] at hmem
        simp only [decide_eq_decide]
        omega
      | succ c =>
        rw [List.drop_succ_cons,List.filter_cons,if_neg (by simp [he])]
        rw [← ih (c := c) hrest]
        refine List.filter_congr ?_
        intro x _
        simp only [decide_eq_decide]
        omega

theorem take_numbers (a n k : ℕ) : (List.range' a n).take k = List.range' a (min k n) := by
  rcases le_total n k with h | h
  · rw [List.take_range'_of_length_le h,min_eq_right h]
  · rw [List.take_range'_of_length_ge h,min_eq_left h]

/-- The number a page ends at. -/
theorem page_end (rt : Runtime) {rows : List A2AEvent} {cursor n : ℕ}
    (h : rows.map sequence = List.range' (1 + cursor) n) :
    (((rows.map (storedItem rt)).getLast?).map EventItem.sequence).getD cursor = cursor + n := by
  have hmap : ((rows.map (storedItem rt)).getLast?).map EventItem.sequence =
      (rows.map sequence).getLast? := by
    rw [← List.getLast?_map,List.map_map]
    rfl
  rw [hmap,h,List.getLast?_range']
  cases n with
  | zero => simp
  | succ n =>
    simp
    omega

/-- Reading for the owner of a task always succeeds, and shows the next page of the log. -/
theorem read_spec (hs : LogSound rt s) {principalId : ConsumerId} {a2aTaskId : ExternalId}
    {sender : A2ANodeId} {t : A2ATask} {r : A2APrincipal}
    (ht : s.a2aTasks.get (principalId.val,a2aTaskId.val) = some t)
    (hr : s.a2aPrincipals.get principalId.val = some r) (howner : r.senderNodeId = sender.val)
    {cursor : ℕ} (hcursor : cursor ≤ t.lastSequence) {limit : ℤ} (hlow : 1 ≤ limit)
    (hhigh : limit ≤ 1000) :
    readA2ATaskEvents rt principalId a2aTaskId sender cursor limit s =
      .ok ⟨t.state,cursor,min (cursor + limit.toNat) t.lastSequence,t.lastSequence,
        decide (t.lastSequence ≤ min (cursor + limit.toNat) t.lastSequence),
        logPage (loggedItems rt s principalId.val a2aTaskId.val) cursor limit.toNat⟩ := by
  have hkey := Table.get_key ht
  simp only [A2ATask.key,Prod.mk.injEq] at hkey
  have hlog := hs.log _ t ht
  rw [hkey.1,hkey.2] at hlog
  have hrows : (eventsOf s.a2aEvents principalId.val a2aTaskId.val).filter
      (fun e : A2AEvent => (cursor : ℤ) < e.sequence) =
        (eventsOf s.a2aEvents principalId.val a2aTaskId.val).drop cursor := by
    rw [hlog.sorted,← filter_numbered hlog.numbered]
    refine List.filter_congr ?_
    intro x _
    simp only [decide_eq_decide]
    omega
  have howned : s.ownedTask principalId.val a2aTaskId.val sender.val = .ok t := by
    simp only [ownedTask,bind_ok,fetched_ok,raiseIf_ok]
    exact ⟨t,ht,r,hr,(),by simp [howner],rfl⟩
  have hitems : eventItems rt (((eventsOf s.a2aEvents principalId.val a2aTaskId.val).drop
      cursor).take limit.toNat) = .ok ((((eventsOf s.a2aEvents principalId.val
        a2aTaskId.val).drop cursor).take limit.toNat).map (storedItem rt)) := by
    refine eventItems_map fun e he => hlog.decoded e ?_
    rw [← hlog.sorted]
    exact List.mem_of_mem_drop (List.mem_of_mem_take he)
  have hnumbers : (((eventsOf s.a2aEvents principalId.val a2aTaskId.val).drop cursor).take
      limit.toNat).map sequence =
        List.range' (1 + cursor) (min limit.toNat (t.lastSequence - cursor)) := by
    rw [List.map_take,List.map_drop,hlog.sorted,hlog.numbered]
    simp [List.drop_range',take_numbers]
  have hend := page_end rt hnumbers
  have hmin : cursor + min limit.toNat (t.lastSequence - cursor) =
      min (cursor + limit.toNat) t.lastSequence := by omega
  simp only [readA2ATaskEvents,bind_ok,raiseIf_ok]
  refine ⟨(),by omega,(),by simp [hlow,hhigh],t,howned,_,by rw [hrows]; exact hitems,?_⟩
  rw [List.map_take,List.map_drop] at hend ⊢
  simp only [Int.toNat_natCast,hend,hmin,pure,Except.pure,logPage,loggedItems]

/-- A reader that started at cursor 0 and went on from each page's `next_sequence`, with
the gateway running between its pages. -/
inductive ReadsTo (rt : Runtime) (principalId : ConsumerId) (a2aTaskId : ExternalId)
    (sender : A2ANodeId) : PacketStore → ℕ → List EventItem → Prop
  | start {s : PacketStore} (h : Reaches (GatewayStep rt) .empty s) :
    ReadsTo rt principalId a2aTaskId sender s 0 []
  | page {s s' : PacketStore} {cursor : ℕ} {items : List EventItem} {limit : ℤ} {page : EventPage}
    (h : ReadsTo rt principalId a2aTaskId sender s cursor items)
    (hrun : Reaches (GatewayStep rt) s s')
    (hread : readA2ATaskEvents rt principalId a2aTaskId sender cursor limit s' = .ok page) :
    ReadsTo rt principalId a2aTaskId sender s' page.nextSequence (items ++ page.events)

theorem loggedItems_length (hs : LogSound rt s) {principalId a2aTaskId : String} {t : A2ATask}
    (ht : s.a2aTasks.get (principalId,a2aTaskId) = some t) :
    (loggedItems rt s principalId a2aTaskId).length = t.lastSequence := by
  have hkey := Table.get_key ht
  simp only [A2ATask.key,Prod.mk.injEq] at hkey
  have hlog := hs.log _ t ht
  rw [hkey.1,hkey.2] at hlog
  have hlen := congrArg List.length hlog.numbered
  simpa [loggedItems,hlog.sorted] using hlen

/-- A read that returns was made by the owner of a task, with a legal limit. -/
theorem read_owned {principalId : ConsumerId} {a2aTaskId : ExternalId} {sender : A2ANodeId}
    {cursor limit : ℤ} {page : EventPage}
    (h : readA2ATaskEvents rt principalId a2aTaskId sender cursor limit s = .ok page) :
    1 ≤ limit ∧ limit ≤ 1000 ∧ ∃ t r, s.a2aTasks.get (principalId.val,a2aTaskId.val) = some t ∧
      s.a2aPrincipals.get principalId.val = some r ∧ r.senderNodeId = sender.val := by
  simp only [readA2ATaskEvents,ownedTask,bind_ok,fetched_ok,raiseIf_ok,not_not] at h
  obtain ⟨_,-,_,hlimit,t,⟨_,ht,r,hr,_,howner,-⟩,-⟩ := h
  exact ⟨hlimit.1,hlimit.2,_,r,ht,hr,howner⟩

theorem loggedItems_grows (hs : LogSound rt s) (hs' : LogSound rt s')
    (h : Reaches (GatewayStep rt) s s') (principalId a2aTaskId : String) :
    loggedItems rt s principalId a2aTaskId <+: loggedItems rt s' principalId a2aTaskId := by
  have hrows := run_grows h principalId a2aTaskId
  rw [← hs.sorted,← hs'.sorted] at hrows
  exact hrows.map _

/-- A reader holds a prefix of the log, and its cursor counts what it holds. -/
theorem reads_prefix (hcodec : PacksJson rt) {principalId : ConsumerId} {a2aTaskId : ExternalId}
    {sender : A2ANodeId} {cursor : ℕ} {items : List EventItem}
    (h : ReadsTo rt principalId a2aTaskId sender s cursor items) :
    Reaches (GatewayStep rt) .empty s ∧ cursor = items.length ∧
      items <+: loggedItems rt s principalId.val a2aTaskId.val := by
  induction h with
  | start hreach => exact ⟨hreach,rfl,List.nil_prefix⟩
  | @page s s' cursor items limit page hreads hrun hread ih =>
    obtain ⟨hreach,hcursor,hheld⟩ := ih
    have hreach' := hreach.trans hrun
    have hs := run_log hcodec logSound_empty hreach
    have hs' := run_log hcodec logSound_empty hreach'
    have hgrow := loggedItems_grows hs hs' hrun principalId.val a2aTaskId.val
    obtain ⟨hlow,hhigh,t,r,ht,hr,howner⟩ := read_owned hread
    have hlen := loggedItems_length hs' ht
    have hle : cursor ≤ t.lastSequence := by
      rw [hcursor,← hlen]
      exact (hheld.trans hgrow).length_le
    rw [read_spec hs' ht hr howner hle hlow hhigh] at hread
    obtain rfl := Except.ok.inj hread
    rw [hcursor]
    refine ⟨hreach',?_,prefix_page hheld hgrow _⟩
    rw [length_append_logPage (hheld.trans hgrow),hlen]

end Pages

section Claims

variable {rt : Runtime} {s : PacketStore}

/-- The rows of a task carry different hashes. -/
theorem eventHash_nodup (t : A2AEvents) (principalId a2aTaskId : String) :
    ((eventsOf t principalId a2aTaskId).map eventHash).Nodup := by
  have hrows : ((t.select (ofTask principalId a2aTaskId)).map eventHash).Nodup := by
    rw [List.nodup_iff_pairwise_ne,List.pairwise_map]
    have hunique := t.unique.filter fun e => decide (e.ofTask principalId a2aTaskId)
    refine hunique.imp_of_mem ?_
    intro e e' he he' hdisjoint hsame
    have hof : e.ofTask principalId a2aTaskId := by simpa using (List.mem_filter.mp he).2
    have hof' : e'.ofTask principalId a2aTaskId := by simpa using (List.mem_filter.mp he').2
    refine hdisjoint (a := (principalId,a2aTaskId,e.eventHash)) ?_ ?_
    · simp [A2AEvent.marks,hof.1,hof.2]
    · simp [A2AEvent.marks,hof'.1,hof'.2,hsame]
  exact ((List.perm_insertionSort _ _).map eventHash).nodup_iff.mpr hrows

/-- The event log of a task is numbered without gap or duplicate and adds up to its state;
a terminal state closes it; a batch that raises leaves it, a repeated batch too; and pages
read from its start concatenate to it, caught up exactly at its end. -/
theorem a2a_event_log_holds (rt : Runtime) (hcodec : PacksJson rt) {s : PacketStore}
    (h : Reaches (GatewayStep rt) .empty s) :
    (∀ t ∈ s.a2aTasks.rows,
      (eventsOf s.a2aEvents t.principalId t.a2aTaskId).map sequence =
        List.range' 1 t.lastSequence ∧
      ((eventsOf s.a2aEvents t.principalId t.a2aTaskId).map eventHash).Nodup ∧
      (∀ e ∈ eventsOf s.a2aEvents t.principalId t.a2aTaskId, ∃ v, rt.unpack e.event = .ok v) ∧
      (eventsOf s.a2aEvents t.principalId t.a2aTaskId).foldlM (stateAfter rt) .submitted =
        some t.state) ∧
    (∀ t ∈ s.a2aTasks.rows, t.state.terminal → ∀ s', Reaches (GatewayStep rt) s s' →
      (∃ t' ∈ s'.a2aTasks.rows, t'.key = t.key ∧ t'.state = t.state) ∧
      eventsOf s'.a2aEvents t.principalId t.a2aTaskId =
        eventsOf s.a2aEvents t.principalId t.a2aTaskId) ∧
    (∀ principalId sender a2aTaskId source events now result,
      (appendA2ATaskEvents rt principalId sender a2aTaskId source events now s).1 = .ok result →
      ∀ s', Reaches (GatewayStep rt)
          (appendA2ATaskEvents rt principalId sender a2aTaskId source events now s).2 s' →
        ∀ now', (appendA2ATaskEvents rt principalId sender a2aTaskId source events now' s').2 = s' ∧
          ∃ result', (appendA2ATaskEvents rt principalId sender a2aTaskId source events now'
            s').1 = .ok result' ∧ result'.appended = 0) ∧
    (∀ principalId sender a2aTaskId source events now e,
      (appendA2ATaskEvents rt principalId sender a2aTaskId source events now s).1 = .error e →
        (appendA2ATaskEvents rt principalId sender a2aTaskId source events now s).2 = s) ∧
    ∀ principalId a2aTaskId sender cursor items,
      ReadsTo rt principalId a2aTaskId sender s cursor items →
      ∀ t r limit, s.a2aTasks.get (principalId.val,a2aTaskId.val) = some t →
        s.a2aPrincipals.get principalId.val = some r → r.senderNodeId = sender.val →
        1 ≤ limit → limit ≤ 1000 →
        ∃ page, readA2ATaskEvents rt principalId a2aTaskId sender cursor limit s = .ok page ∧
          items ++ page.events =
            (loggedItems rt s principalId.val a2aTaskId.val).take (cursor + limit.toNat) ∧
          (page.caughtUp ↔
            items ++ page.events = loggedItems rt s principalId.val a2aTaskId.val) := by
  have hs := run_log hcodec logSound_empty h
  refine ⟨?_,?_,?_,fun _ _ _ _ _ _ _ => transaction_error,?_⟩
  · intro t ht
    have hlog := hs.log _ t (Table.mem_rows.mp ht)
    rw [hlog.sorted]
    refine ⟨hlog.numbered,?_,hlog.decoded,hlog.folded⟩
    rw [← hlog.sorted]
    exact eventHash_nodup s.a2aEvents t.principalId t.a2aTaskId
  · intro t ht hterm s' hrun
    obtain ⟨t',ht',hstate,hrows⟩ := run_terminal (Table.mem_rows.mp ht) hterm hrun
    obtain ⟨hrow,hkey⟩ := Table.get_eq_some.mp ht'
    refine ⟨⟨t',hrow,hkey,hstate⟩,?_⟩
    rw [(run_log hcodec hs hrun).sorted,hs.sorted]
    exact hrows
  · intro principalId sender a2aTaskId source events now result hok s' hrun now'
    obtain ⟨result',hagain,hzero⟩ := appendEvents_again (transaction_ok hok) hrun now'
    have hrun' : appendA2ATaskEvents rt principalId sender a2aTaskId source events now' s' =
        (.ok result',s') := by
      simp only [appendA2ATaskEvents,transaction,hagain]
    rw [hrun']
    exact ⟨rfl,result',rfl,hzero⟩
  · intro principalId a2aTaskId sender cursor items hreads t r limit ht hr howner hlow hhigh
    obtain ⟨-,hcursor,hheld⟩ := reads_prefix hcodec hreads
    have hlen := loggedItems_length hs ht
    have hle : cursor ≤ t.lastSequence := by
      rw [hcursor,← hlen]
      exact hheld.length_le
    refine ⟨_,read_spec hs ht hr howner hle hlow hhigh,?_,?_⟩
    · rw [hcursor]
      exact append_logPage hheld _
    · have hend := caughtUp_iff (prefix_page hheld (List.prefix_refl _) limit.toNat)
      rw [length_append_logPage hheld,hlen] at hend
      rw [decide_eq_true_iff,hcursor]
      exact hend

end Claims

section Sample

def workingReport : Value :=
  .map [(.str "statusUpdate",.map [(.str "taskId",.str gatewayTaskId.val),
    (.str "contextId",.str sampleContext.val),
    (.str "status",.map [(.str "state",.str "TASK_STATE_WORKING")])])]

def appendOp (event : Value) : GatewayOp :=
  .append samplePrincipal gatewayNode gatewayTaskId gatewayTaskId [event] 2000

def workingSample : PacketStore := (appendOp workingReport).exec .msgpack registeredSample

theorem msgpack_packsJson : PacksJson .msgpack :=
  fun _ _ _ _ hpack => unpackValue_packValue hpack

/-- One report was delivered; delivering it again changes nothing. -/
theorem a2a_event_log_holds_sample :
    (∃ result, (appendA2ATaskEvents .msgpack samplePrincipal gatewayNode gatewayTaskId gatewayTaskId
      [workingReport] 2000 registeredSample).1 = .ok result ∧ result.appended = 1) ∧
    (appendA2ATaskEvents .msgpack samplePrincipal gatewayNode gatewayTaskId gatewayTaskId
      [workingReport] 3000 workingSample).2 = workingSample := by
  have hok : (appendA2ATaskEvents .msgpack samplePrincipal gatewayNode gatewayTaskId gatewayTaskId
      [workingReport] 2000 registeredSample).1.toOption = some ⟨.working,1,1,0⟩ := by
    decide +kernel
  have hrun : Reaches (GatewayStep .msgpack) (appendA2ATaskEvents .msgpack samplePrincipal
      gatewayNode gatewayTaskId gatewayTaskId [workingReport] 2000 registeredSample).2
      workingSample := by
    rw [workingSample,appendOp,GatewayOp.exec]
  refine ⟨⟨_,toOption_eq_some.mp hok,rfl⟩,?_⟩
  exact ((a2a_event_log_holds .msgpack msgpack_packsJson registeredSample_reachable).2.2.1
    samplePrincipal gatewayNode gatewayTaskId gatewayTaskId [workingReport] 2000 _
    (toOption_eq_some.mp hok) workingSample hrun 3000).1

end Sample
end Anet
