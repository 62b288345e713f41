import Anet.GatewayLog
import Anet.KnownFold

/-! State reports of the agent on their way into the event log of a gateway task: what one
delivery does to the state of the task, and when a sequence of reports arrives whole. -/
namespace Anet

open PacketStore A2AProtocol A2AEvent AgentProtocol

/-- The hashes of the events a task holds. -/
def knownHashes (t : A2AEvents) (principalId a2aTaskId : String) : Finset String :=
  ((t.select (ofTask principalId a2aTaskId)).map eventHash).toFinset

/-- The state after a record the log does not hold. -/
def nextRecord (state : ReportState) (record : EventRecord) : Option ReportState :=
  (nextState state record.event).toOption

/-- What a report puts into the log: its events, in order. -/
def reportRecords (rt : Runtime) (a2aTaskId contextId source kind : String) (body : Value) :
    Result (List EventRecord) := do
  let events ← taskEventToStreamEvents rt kind body contextId a2aTaskId
  eventRecords rt a2aTaskId contextId source 0 events

/-- The records of a report: artifacts first, then one status. -/
def ReportBatch (state : ReportState) (records : List EventRecord) : Prop :=
  ∃ artifacts status, records = artifacts ++ [status] ∧
    (∀ a ∈ artifacts, a.event.state = none) ∧ status.event.state = some state

section Shape

variable {rt : Runtime}

theorem anetState_a2aState (state : ReportState) :
    (anetState (.str (a2aState state))).toOption = some state := by
  cases state <;> decide

/-- The JSON form of a status event reports its state. -/
theorem statusEvent_state {a2aTaskId contextId : String} {report : TaskReport} {v : Value}
    (h : (statusEvent rt a2aTaskId contextId report).json rt = some v) :
    eventState v = some report.state := by
  have hstate := anetState_a2aState report.state
  simp only [statusEvent,List.cons_append,List.nil_append,statusEntries,json_map,jsonEntries_cons,
    json_str,jsonEntries_nil] at h
  obtain ⟨_,⟨_,_,⟨_,⟨_,_,rfl,⟨_,_,rfl,⟨_,metadata,⟨_,⟨_,message,rfl,hmessage,rfl⟩,rfl⟩,hmetadata,
    rfl⟩,rfl⟩,rfl⟩,rfl⟩,rfl,rfl⟩,rfl⟩ := h
  have htext : message = [] ∨ ∃ w, message = [("message",w)] := by
    split at hmessage
    · exact Or.inl (jsonEntries_nil.mp hmessage)
    · obtain ⟨w,_,-,hnil,rfl⟩ := jsonEntries_cons.mp hmessage
      rw [jsonEntries_nil.mp hnil]
      exact Or.inr ⟨w,rfl⟩
  have hprogress : metadata = [] ∨ ∃ w, metadata = [("metadata",w)] := by
    cases hp : report.progress with
    | none =>
      rw [hp] at hmetadata
      exact Or.inl (jsonEntries_nil.mp hmetadata)
    | some progress =>
      rw [hp] at hmetadata
      obtain ⟨w,_,-,hnil,rfl⟩ := jsonEntries_cons.mp hmetadata
      rw [jsonEntries_nil.mp hnil]
      exact Or.inr ⟨w,rfl⟩
  rcases htext with rfl | ⟨w,rfl⟩ <;> rcases hprogress with rfl | ⟨w',rfl⟩ <;>
    simp [dictOf,dictPut,textEntries,eventState,wrapper,Value.fieldOr,hstate]

theorem artifactEvent_state {a2aTaskId contextId : String} {part v : Value}
    (h : (artifactEvent a2aTaskId contextId part).json rt = some v) : eventState v = none := by
  simp only [artifactEvent] at h
  obtain ⟨_,hes,rfl⟩ := json_map.mp h
  obtain ⟨update,_,-,hnil,rfl⟩ := jsonEntries_cons.mp hes
  rw [jsonEntries_nil.mp hnil]
  simp [dictOf,dictPut,textEntries,eventState,wrapper]

theorem eventRecords_cons {a2aTaskId contextId source : String} {total : ℕ} {event : Value}
    {events : List Value} {records : List EventRecord}
    (h : eventRecords rt a2aTaskId contextId source total (event :: events) = .ok records) :
    ∃ record rest total', records = record :: rest ∧
      validateStreamEvent rt event a2aTaskId contextId = .ok record.event ∧
      eventRecords rt a2aTaskId contextId source total' events = .ok rest := by
  simp only [eventRecords,bind_ok] at h
  obtain ⟨normalized,hvalid,encoded,-,_,-,hashed,-,rest,hrest,hval⟩ := h
  cases hval
  exact ⟨_,rest,_,rfl,hvalid,hrest⟩

/-- The records of a status event alone. -/
theorem statusRecord {a2aTaskId contextId source : String} {total : ℕ} {report : TaskReport}
    {records : List EventRecord} (h : eventRecords rt a2aTaskId contextId source total
      [statusEvent rt a2aTaskId contextId report] = .ok records) :
    ∃ record, records = [record] ∧ record.event.state = some report.state := by
  obtain ⟨record,rest,_,rfl,hvalid,hrest⟩ := eventRecords_cons h
  obtain ⟨hjson,hstate⟩ := validateStreamEvent_ok hvalid
  cases hrest
  exact ⟨record,rfl,by rw [← hstate]; exact statusEvent_state hjson⟩

/-- A report that converts has become one batch with its state. -/
theorem reportRecords_batch {a2aTaskId contextId source kind : String} {body : Value}
    {report : TaskReport} {records : List EventRecord} (hnamed : a2aTaskId ≠ "")
    (htrim : strip a2aTaskId = a2aTaskId) (hcontext : strip contextId = contextId)
    (hreport : taskReport rt kind body = .ok report)
    (h : reportRecords rt a2aTaskId contextId source kind body = .ok records) :
    ReportBatch report.state records := by
  simp only [reportRecords,taskEventToStreamEvents,bind_ok] at h
  obtain ⟨events,⟨_,-,context,hcontext',found,hfound,id,hid,artifacts,hartifacts,hval⟩,hrecords⟩ := h
  rw [hreport] at hfound
  obtain rfl := Except.ok.inj hfound
  have hids : id = a2aTaskId ∧ context = contextId := by
    constructor
    · simp only [streamTaskId,hnamed,if_false,requiredString,htrim] at hid
      split at hid
      · cases hid
      · exact (Except.ok.inj hid).symm
    · simp only [requiredString,hcontext] at hcontext'
      split_ifs at hcontext'
      exact (Except.ok.inj hcontext').symm
  rw [hids.1,hids.2] at hartifacts hval
  cases hval
  unfold artifactEvents at hartifacts
  split at hartifacts
  · cases hartifacts
    obtain ⟨record,rfl,hstate⟩ := statusRecord hrecords
    exact ⟨[],record,rfl,by simp,hstate⟩
  · obtain ⟨part,-,hpart⟩ := bind_ok.mp hartifacts
    cases hpart
    obtain ⟨record,rest,_,rfl,hvalid,hrest⟩ := eventRecords_cons hrecords
    obtain ⟨hjson,hnone⟩ := validateStreamEvent_ok hvalid
    obtain ⟨status,rfl,hstate⟩ := statusRecord hrest
    refine ⟨[record],status,rfl,?_,hstate⟩
    intro a ha
    rw [List.mem_singleton.mp ha,← hnone]
    exact artifactEvent_state hjson

end Shape
section Loop

variable {rt : Runtime} {task : A2ATask} {source : String} {now : ℤ}

theorem mem_knownHashes {t : A2AEvents} {record : EventRecord} :
    record.eventHash ∈ knownHashes t task.principalId task.a2aTaskId ↔ Holds t task record := by
  simp [knownHashes,Holds]

theorem knownHashes_insert (task : A2ATask) {t t' : A2AEvents} {e : A2AEvent}
    (h : t.insert e = some t') (hof : e.ofTask task.principalId task.a2aTaskId) :
    knownHashes t' task.principalId task.a2aTaskId =
      insert e.eventHash (knownHashes t task.principalId task.a2aTaskId) := by
  ext x
  simp only [knownHashes,select_insert h,if_pos hof,List.map_append,List.toFinset_append,
    Finset.mem_union,Finset.mem_insert]
  simp [or_comm]

/-- A new record goes in under the next number. -/
theorem insert_eventRow (source : String) (now : ℤ) {log : AppendLoop} {record : EventRecord}
    (hlog : LogOf rt log.events task.principalId task.a2aTaskId log.sequence log.state)
    (hnew : ¬ Holds log.events task record) :
    ∃ t', log.events.insert (eventRow task source now log record) = some t' := by
  have hmem {e : A2AEvent} (he : e ∈ log.events.rows) (hp : e.principalId = task.principalId)
      (ha : e.a2aTaskId = task.a2aTaskId) :
      e ∈ log.events.select (ofTask task.principalId task.a2aTaskId) := by
    refine List.mem_filter.mpr ⟨he,?_⟩
    simp [ofTask,hp,ha]
  have hkeys : ∀ e ∈ log.events.rows, e.key ≠ (eventRow task source now log record).key := by
    intro e he hkey
    simp only [A2AEvent.key,eventRow,Prod.mk.injEq] at hkey
    have hseq : e.sequence ∈ List.range' 1 log.sequence := by
      rw [← hlog.numbered]
      exact List.mem_map_of_mem (hmem he hkey.1 hkey.2.1)
    rw [List.mem_range'_1] at hseq
    omega
  have hmarks : ∀ e ∈ log.events.rows, ∀ m ∈ e.marks,
      m ∉ (eventRow task source now log record).marks := by
    intro e he m hm hm'
    simp only [A2AEvent.marks,List.mem_singleton,eventRow] at hm hm'
    rw [hm,Prod.mk.injEq,Prod.mk.injEq] at hm'
    exact hnew ⟨e,hmem he hm'.1 hm'.2.1,hm'.2.2⟩
  refine ⟨_,dif_pos ⟨hkeys,hmarks⟩⟩

/-- The append loop is the fold that skips the hashes of the log. -/
theorem appendRecords_fold (log : AppendLoop) {records : List EventRecord}
    (hlog : LogOf rt log.events task.principalId task.a2aTaskId log.sequence log.state)
    (hsound : ∀ record ∈ records, record.Sound rt) (hlatest : task.latestAnetTaskId = source)
    (last : ReportState) :
    (∃ log', appendRecords task source now log records = .ok log' ∧ log'.state = last) ↔
      foldNew EventRecord.eventHash nextRecord
        (knownHashes log.events task.principalId task.a2aTaskId) log.state records = some last := by
  induction records generalizing log with
  | nil => simp [appendRecords,foldNew]
  | cons record records ih =>
    have hrest : ∀ r ∈ records, r.Sound rt := fun r hr => hsound r (by simp [hr])
    have hfirst := hsound record (by simp)
    simp only [appendRecords_cons]
    by_cases hheld : Holds log.events task record
    · have hskip : appendRecord task source now log record =
          .ok { log with duplicates := log.duplicates + 1 } := by
        simp only [appendRecord,first_holds,if_pos hheld]
      have hknown := mem_knownHashes.mpr hheld
      simp only [foldNew,hknown,if_true,hskip,Except.ok.injEq]
      have hlater := @ih { log with duplicates := log.duplicates + 1 } hlog hrest
      rw [← hlater]
      constructor
      · rintro ⟨log',⟨_,rfl,hrun⟩,hlast⟩
        exact ⟨log',hrun,hlast⟩
      · rintro ⟨log',hrun,hlast⟩
        exact ⟨log',⟨_,rfl,hrun⟩,hlast⟩
    · have hknown : record.eventHash ∉ knownHashes log.events task.principalId task.a2aTaskId :=
        fun hmem => hheld (mem_knownHashes.mp hmem)
      simp only [foldNew,hknown,if_false,nextRecord]
      constructor
      · rintro ⟨log',⟨log₁,hrecord,hrun⟩,hlast⟩
        have hlog₁ := appendRecord_log hfirst hlog hrecord
        rcases appendRecord_cases hrecord with ⟨hh,-⟩ | ⟨-,-,hnext,hins,-⟩
        · exact absurd hh hheld
        · have hhashes := knownHashes_insert task hins ⟨rfl,rfl⟩
          rw [hnext]
          have hlater := (ih _ hlog₁ hrest).mp ⟨log',hrun,hlast⟩
          rw [hhashes] at hlater
          exact hlater
      · intro hfold
        obtain ⟨state,hstate,hlater⟩ := Option.bind_eq_some_iff.mp hfold
        obtain ⟨t',hins⟩ := insert_eventRow source now hlog hheld
        have hhashes := knownHashes_insert task hins ⟨rfl,rfl⟩
        have hrecord : appendRecord task source now log record =
            .ok ⟨t',state,log.sequence + 1,log.appended + 1,log.duplicates⟩ := by
          have hnot : ¬ (log.events.first fun e => e.ofTask task.principalId task.a2aTaskId ∧
              e.eventHash = record.eventHash).isSome := fun hh => hheld (first_holds.mp hh)
          simp only [appendRecord,if_neg hnot,bind_ok,raiseIf_ok,not_not]
          exact ⟨(),hlatest,state,toOption_eq_some.mp hstate,t',integrity_ok.mpr hins,rfl⟩
        have hlog₁ := appendRecord_log hfirst hlog hrecord
        have hhashes' : insert record.eventHash
            (knownHashes log.events task.principalId task.a2aTaskId) =
              knownHashes t' task.principalId task.a2aTaskId := hhashes.symm
        rw [hhashes'] at hlater
        obtain ⟨log',hrun,hlast⟩ := (ih _ hlog₁ hrest).mpr hlater
        exact ⟨log',⟨_,hrecord,hrun⟩,hlast⟩

/-- The loop adds the hashes it went through. -/
theorem appendRecords_hashes {log log' : AppendLoop} {records : List EventRecord}
    (h : appendRecords task source now log records = .ok log') :
    knownHashes log'.events task.principalId task.a2aTaskId =
      knownHashes log.events task.principalId task.a2aTaskId ∪
        (records.map EventRecord.eventHash).toFinset := by
  induction records generalizing log with
  | nil =>
    cases h
    simp only [List.map_nil,List.toFinset_nil,Finset.union_empty]
  | cons record records ih =>
    obtain ⟨log₁,hrecord,hrun⟩ := appendRecords_cons.mp h
    rw [ih hrun,List.map_cons,List.toFinset_cons,Finset.union_insert]
    rcases appendRecord_cases hrecord with ⟨hheld,rfl⟩ | ⟨-,-,-,hins,-⟩
    · have hknown := mem_knownHashes.mpr hheld
      rw [Finset.insert_eq_of_mem (Finset.mem_union_left _ hknown)]
    · rw [knownHashes_insert task hins ⟨rfl,rfl⟩,Finset.insert_union]
      rfl

end Loop
section Batches

/-- The states that reach the log: those of the status records under a new hash. -/
def freshStates (known : Finset String) (records : List EventRecord) : List ReportState :=
  (freshItems EventRecord.eventHash known records).filterMap fun record => record.event.state

theorem permits_live {state next : ReportState} (h : permits state next) : ¬ state.terminal := by
  cases state <;> simp_all [permits,ReportState.terminal]

theorem nextRecord_artifact {state : ReportState} {record : EventRecord}
    (hlive : ¬ state.terminal) (hnone : record.event.state = none) :
    nextRecord state record = some state := by
  simp [nextRecord,nextState,hnone,hlive,Except.toOption]

theorem nextRecord_status {state next : ReportState} {record : EventRecord}
    (hsome : record.event.state = some next) :
    nextRecord state record = moveTo permits state next := by
  simp only [nextRecord,nextState,hsome,moveTo]
  split
  · rfl
  · rfl

theorem artifacts_stay {state : ReportState} (records : List EventRecord)
    (hlive : ¬ state.terminal) (h : ∀ a ∈ records, a.event.state = none) :
    records.foldlM nextRecord state = some state ∧
      records.filterMap (fun record => record.event.state) = [] := by
  induction records with
  | nil => exact ⟨rfl,rfl⟩
  | cons a records ih =>
    obtain ⟨hfold,hnone⟩ := ih fun b hb => h b (by simp [hb])
    have ha := h a (by simp)
    refine ⟨?_,by simp [ha,hnone]⟩
    rw [List.foldlM_cons,nextRecord_artifact hlive ha]
    exact hfold

/-- Over the batches of reports that follow each other, the fold of the records is the
fold of the states that are new. -/
theorem foldlM_batches {states : List ReportState} {batches : List (List EventRecord)}
    (hbatches : List.Forall₂ ReportBatch states batches)
    (hchain : states.IsChain fun a b => permits a b) {state : ReportState}
    (hlive : states ≠ [] → ¬ state.terminal) (known : Finset String) :
    (freshItems EventRecord.eventHash known batches.flatten).foldlM nextRecord state =
      (freshStates known batches.flatten).foldlM (moveTo permits) state := by
  induction hbatches generalizing state known with
  | nil => simp [freshItems,freshStates]
  | @cons next records states batches hbatch hrest ih =>
    obtain ⟨artifacts,status,rfl,hartifacts,hstatus⟩ := hbatch
    have hlive₀ := hlive (by simp)
    obtain ⟨hstay,hquiet⟩ := artifacts_stay (freshItems EventRecord.eventHash known artifacts)
      hlive₀ fun a ha => hartifacts a (mem_of_mem_fresh ha)
    have hnext : states ≠ [] → ¬ next.terminal := by
      intro hne
      obtain ⟨after,rest,rfl⟩ := List.exists_cons_of_ne_nil hne
      exact permits_live (List.isChain_cons_cons.mp hchain).1
    have htail : states.IsChain fun a b => permits a b := hchain.tail
    simp only [freshStates,List.flatten_cons,fresh_append,List.foldlM_append,List.filterMap_append,
      hstay,hquiet]
    by_cases hmem : status.eventHash ∈
        known ∪ (artifacts.map EventRecord.eventHash).toFinset
    · simpa [freshItems,hmem,freshStates] using ih htail (fun _ => hlive₀) _
    · have hfresh : freshItems EventRecord.eventHash
          (known ∪ (artifacts.map EventRecord.eventHash).toFinset) [status] = [status] := by
        simp [freshItems,hmem]
      rw [hfresh]
      simp only [List.filterMap_cons,hstatus,List.filterMap_nil,List.foldlM_cons,
        List.foldlM_nil,nextRecord_status hstatus]
      by_cases hpermits : permits state next
      · simpa [moveTo,hpermits,freshStates] using ih htail hnext _
      · simp [moveTo,hpermits]

end Batches
/-- What a delivery finds: the task's context is trimmed and its current source is bound. -/
structure ReportReady (s : PacketStore) (t : A2ATask) : Prop where
  context : strip t.contextId = t.contextId
  bound : ∃ k m, s.a2aMessages.get k = some m ∧ m.principalId = t.principalId ∧
    m.a2aTaskId = t.a2aTaskId ∧ m.anetTaskId = t.latestAnetTaskId

section Ready

variable {rt : Runtime} {s s' : PacketStore}

/-- The current source of a task changes by a registration only. -/
theorem gatewayChange_latest (h : GatewayChange rt s s') {k : String × String} {t' : A2ATask}
    (ht' : s'.a2aTasks.get k = some t') :
    (∃ t, s.a2aTasks.get k = some t ∧ t'.latestAnetTaskId = t.latestAnetTaskId) ∨
      ∃ intent drawn now base, RegisterStep intent drawn now base s s' ∧
        k = (intent.principalId,intent.a2aTaskId) ∧ t'.latestAnetTaskId = intent.anetTaskId := by
  cases h with
  | worker h => exact Or.inl ⟨t',by rw [← h.tasks]; exact ht',rfl⟩
  | principal h =>
    rw [h.rest] at ht'
    exact Or.inl ⟨t',ht',rfl⟩
  | repeated intent drawn now message task h =>
    rw [h.next] at ht'
    exact Or.inl ⟨t',ht',rfl⟩
  | registered registration drawnTask intent drawn now base hintent h =>
    have hget := ht'
    rw [h.tasks] at hget
    split at hget
    · rename_i hk
      cases hget
      exact Or.inr ⟨intent,drawn,now,base,h,hk,rfl⟩
    · exact Or.inl ⟨t',hget,rfl⟩
  | canceled task draws now h =>
    rw [h.tasks] at ht'
    split at ht'
    · rename_i hk
      cases ht'
      exact Or.inl ⟨task,by rw [hk]; exact h.known,rfl⟩
    · exact Or.inl ⟨t',ht',rfl⟩
  | appended task source events records log now h =>
    rw [h.tasks] at ht'
    split at ht'
    · rename_i hk
      cases ht'
      exact Or.inl ⟨task,by rw [hk.1]; exact h.known,rfl⟩
    · exact Or.inl ⟨t',ht',rfl⟩
  | dispatched dispatch packet now h =>
    rw [h.tasks,get_dispatchCancellation] at ht'
    obtain ⟨t,hold,rfl⟩ := Option.map_eq_some_iff.mp ht'
    refine Or.inl ⟨t,hold,?_⟩
    split
    · rfl
    · rfl

theorem ready_step (hs : ∀ k t, s.a2aTasks.get k = some t → ReportReady s t)
    (h : GatewayStep rt s s') {k : String × String} {t' : A2ATask}
    (ht' : s'.a2aTasks.get k = some t') : ReportReady s' t' := by
  have hchange := gatewayStep_change h
  have hkey := Table.get_key ht'
  constructor
  · cases ht : s.a2aTasks.get k with
    | some t =>
      obtain ⟨t₁,ht₁,hshape⟩ := gatewayChange_tasks hchange ht
      rw [ht'] at ht₁
      obtain rfl := Option.some.inj ht₁
      simp only [A2ATask.shape,Prod.mk.injEq] at hshape
      rw [hshape.1]
      exact (hs k t ht).context
    | none =>
      obtain ⟨registration,_,intent,drawn,now,base,hintent,-,rfl,rfl⟩ :=
        gatewayChange_new hchange ht' ht
      obtain ⟨-,-,-,-,hcontext⟩ := registrationIntent_ids hintent
      have htrim := registration.contextId.trimmed
      rw [← hcontext] at htrim
      exact htrim
  · rcases gatewayChange_latest hchange ht' with ⟨t,ht,hlatest⟩ |
      ⟨intent,drawn,now,base,hstep,rfl,hlatest⟩
    · obtain ⟨k',m,hm,hprincipal,htask,hsource⟩ := (hs k t ht).bound
      obtain ⟨m',hm',hbinding⟩ := gatewayChange_messages hchange hm
      simp only [A2AMessage.binding,Prod.mk.injEq] at hbinding
      have hkeys : t'.key = t.key := hkey.trans (Table.get_key ht).symm
      have hrow : m'.key = m.key := (Table.get_key hm').trans (Table.get_key hm).symm
      simp only [A2ATask.key,A2AMessage.key,Prod.mk.injEq] at hkeys hrow
      refine ⟨k',m',hm',?_,?_,?_⟩
      · rw [hrow.1,hprincipal,hkeys.1]
      · rw [hbinding.1,htask,hkeys.2]
      · rw [hbinding.2.1,hsource,hlatest]
    · simp only [A2ATask.key,Prod.mk.injEq] at hkey
      have hnew : s'.a2aMessages.get (intent.messageRow now).key = some (intent.messageRow now) :=
        (Table.get_insert hstep.messages _).trans (if_pos rfl)
      exact ⟨_,_,hnew,hkey.1.symm,hkey.2.symm,hlatest.symm⟩

theorem run_ready (h : Reaches (GatewayStep rt) .empty s) :
    ∀ k t, s.a2aTasks.get k = some t → ReportReady s t := by
  refine Reaches.invariant (I := fun s => ∀ k t, s.a2aTasks.get k = some t → ReportReady s t) ?_ ?_ h
  · intro s₁ s₂ hs hstep k t ht
    exact ready_step hs hstep ht
  · intro k t ht
    cases ht

end Ready
/-- A status or result message of the agent for one internal task. -/
structure SourceReport (rt : Runtime) (source : String) where
  kind : String
  body : Value
  report : TaskReport
  valid : taskReport rt kind body = .ok report
  named : report.taskId = source

/-- One delivery: the message is converted, and its events are appended. -/
def deliverReport (rt : Runtime) (principalId : ConsumerId) (sender : A2ANodeId)
    (a2aTaskId source : ExternalId) (contextId : String) (s : PacketStore)
    (d : SourceReport rt source.val × ℤ) : Result PacketStore := do
  let events ← taskEventToStreamEvents rt d.1.kind d.1.body contextId a2aTaskId.val
  let _ ← (appendA2ATaskEvents rt principalId sender a2aTaskId source events d.2 s).1
  return (appendA2ATaskEvents rt principalId sender a2aTaskId source events d.2 s).2

/-- A reachable store with a task of the sender and its current source. -/
structure Receiving (rt : Runtime) (principalId : ConsumerId) (sender : A2ANodeId)
    (a2aTaskId source : ExternalId) (s : PacketStore) (t : A2ATask) : Prop where
  reach : Reaches (GatewayStep rt) .empty s
  task : s.a2aTasks.get (principalId.val,a2aTaskId.val) = some t
  owner : ∃ r, s.a2aPrincipals.get principalId.val = some r ∧ r.senderNodeId = sender.val
  latest : t.latestAnetTaskId = source.val

/-- The append loop of one delivery. -/
def deliverLoop (t : A2ATask) (source : String) (s : PacketStore) (now : ℤ)
    (records : List EventRecord) : Result AppendLoop :=
  appendRecords t source now ⟨s.a2aEvents,t.state,t.lastSequence,0,0⟩ records

section Deliveries

variable {rt : Runtime} {principalId : ConsumerId} {sender : A2ANodeId}
  {a2aTaskId source : ExternalId} {s s' : PacketStore} {t : A2ATask}

theorem streamEvents_length {kind contextId : String} {body : Value} {events : List Value}
    (h : taskEventToStreamEvents rt kind body contextId a2aTaskId.val = .ok events) :
    events ≠ [] ∧ events.length ≤ 64 := by
  simp only [taskEventToStreamEvents,bind_ok] at h
  obtain ⟨_,-,_,-,report,-,id,-,artifacts,hartifacts,hval⟩ := h
  cases hval
  have hlen : artifacts.length ≤ 1 := by
    unfold artifactEvents at hartifacts
    split at hartifacts
    · cases hartifacts
      simp
    · obtain ⟨part,-,hpart⟩ := bind_ok.mp hartifacts
      cases hpart
      simp
  refine ⟨by simp,?_⟩
  simp only [List.length_append,List.length_singleton]
  omega

theorem deliver_append {contextId : String} {d : SourceReport rt source.val × ℤ}
    (h : deliverReport rt principalId sender a2aTaskId source contextId s d = .ok s') :
    ∃ events result, taskEventToStreamEvents rt d.1.kind d.1.body contextId a2aTaskId.val =
        .ok events ∧
      s.appendEvents rt principalId.val sender.val a2aTaskId.val source.val events d.2 =
        .ok (result,s') := by
  simp only [deliverReport,bind_ok] at h
  obtain ⟨events,hevents,result,hresult,hval⟩ := h
  obtain rfl := Except.ok.inj hval
  exact ⟨events,result,hevents,transaction_ok hresult⟩

theorem deliver_step {contextId : String} {d : SourceReport rt source.val × ℤ}
    (h : deliverReport rt principalId sender a2aTaskId source contextId s d = .ok s') :
    GatewayStep rt s s' := by
  simp only [deliverReport,bind_ok] at h
  obtain ⟨events,-,result,-,hval⟩ := h
  obtain rfl := Except.ok.inj hval
  exact ⟨.append principalId sender a2aTaskId source events d.2,trivial,rfl⟩

/-- What a delivery that goes through has done. -/
theorem deliver_spec (hr : Receiving rt principalId sender a2aTaskId source s t)
    {d : SourceReport rt source.val × ℤ}
    (h : deliverReport rt principalId sender a2aTaskId source t.contextId s d = .ok s') :
    ∃ records log t', reportRecords rt a2aTaskId.val t.contextId source.val d.1.kind d.1.body =
        .ok records ∧
      deliverLoop t source.val s d.2 records = .ok log ∧
      Receiving rt principalId sender a2aTaskId source s' t' ∧ t'.contextId = t.contextId ∧
      t'.state = log.state ∧
      knownHashes s'.a2aEvents principalId.val a2aTaskId.val =
        knownHashes s.a2aEvents principalId.val a2aTaskId.val ∪
          (records.map EventRecord.eventHash).toFinset := by
  have hstep := deliver_step h
  obtain ⟨events,result,hevents,happend⟩ := deliver_append h
  obtain ⟨task,records,log,howned,-,hdone⟩ := appendEvents_spec happend
  obtain ⟨hfound,hkey⟩ := ownedTask_found howned
  rw [hr.task] at hfound
  obtain rfl := Option.some.inj hfound
  have hids := hkey
  simp only [A2ATask.key,Prod.mk.injEq] at hids
  obtain ⟨r,hprincipal,howner⟩ := hr.owner
  obtain ⟨r',hprincipal',hsender⟩ := gatewayChange_principals (gatewayStep_change hstep) hprincipal
  have hcount := appendRecords_count hdone.looped
  have hhashes := appendRecords_hashes hdone.looped
  rw [hids.1,hids.2,← hdone.events] at hhashes
  have hrecords : reportRecords rt a2aTaskId.val t.contextId source.val d.1.kind d.1.body =
      .ok records := by
    simp only [reportRecords,bind_ok]
    refine ⟨events,hevents,?_⟩
    rw [← hids.2]
    exact hdone.recorded
  have hget := hdone.tasks (principalId.val,a2aTaskId.val)
  have hreach := hr.reach.tail hstep
  have howner' : ∃ r, s'.a2aPrincipals.get principalId.val = some r ∧
      r.senderNodeId = sender.val := ⟨r',hprincipal',by rw [hsender,howner]⟩
  by_cases hzero : log.appended = 0
  · rw [if_neg (fun hk => hk.2 hzero),hr.task] at hget
    have hstate := (hcount.2.2 hzero).2
    exact ⟨records,log,t,hrecords,hdone.looped,⟨hreach,hget,howner',hr.latest⟩,rfl,
      hstate.symm,hhashes⟩
  · rw [if_pos ⟨hkey.symm,hzero⟩] at hget
    exact ⟨records,log,_,hrecords,hdone.looped,⟨hreach,hget,howner',hr.latest⟩,rfl,rfl,hhashes⟩

/-- A delivery whose records pass the append loop goes through. -/
theorem deliver_ok (hr : Receiving rt principalId sender a2aTaskId source s t)
    {d : SourceReport rt source.val × ℤ} {records : List EventRecord} {log : AppendLoop}
    (hrecords : reportRecords rt a2aTaskId.val t.contextId source.val d.1.kind d.1.body =
      .ok records)
    (hloop : deliverLoop t source.val s d.2 records = .ok log) :
    ∃ s', deliverReport rt principalId sender a2aTaskId source t.contextId s d = .ok s' := by
  simp only [reportRecords,bind_ok] at hrecords
  obtain ⟨events,hevents,hrecorded⟩ := hrecords
  obtain ⟨hne,hlen⟩ := streamEvents_length hevents
  obtain ⟨r,hprincipal,howner⟩ := hr.owner
  obtain ⟨k,m,hm,hmp,hma,hms⟩ := (run_ready hr.reach _ t hr.task).bound
  have hkey := Table.get_key hr.task
  simp only [A2ATask.key,Prod.mk.injEq] at hkey
  have howned : s.ownedTask principalId.val a2aTaskId.val sender.val = .ok t := by
    simp only [ownedTask,bind_ok,fetched_ok,raiseIf_ok]
    exact ⟨t,hr.task,r,hprincipal,(),by simp [howner],rfl⟩
  have hbound : (s.a2aMessages.first fun r => r.principalId = principalId.val ∧
      r.a2aTaskId = a2aTaskId.val ∧ r.anetTaskId = source.val).isSome := by
    refine List.find?_isSome.mpr ⟨m,(Table.get_eq_some.mp hm).1,?_⟩
    simp [hmp,hma,hms,hkey.1,hkey.2,hr.latest]
  have hsize : ¬ (events = [] ∨ 64 < events.length) := by
    rintro (h | h)
    · exact hne h
    · omega
  have happend : ∃ result, s.appendEvents rt principalId.val sender.val a2aTaskId.val source.val
      events d.2 = .ok result := by
    simp only [appendEvents,bind_ok,raiseIf_ok]
    by_cases hzero : log.appended = 0
    · refine ⟨?same,(),hsize,t,howned,(),by simp [Option.isSome_iff_ne_none.mp hbound],records,
        hrecorded,log,hloop,?last⟩
      case last =>
        rw [if_pos hzero]
        rfl
    · refine ⟨?grown,(),hsize,t,howned,(),by simp [Option.isSome_iff_ne_none.mp hbound],records,
        hrecorded,log,hloop,?next⟩
      case next =>
        rw [if_neg hzero]
        rfl
  obtain ⟨⟨result,s'⟩,happend⟩ := happend
  have hrun : appendA2ATaskEvents rt principalId sender a2aTaskId source events d.2 s =
      (.ok result,s') := by
    simp only [appendA2ATaskEvents,transaction,happend]
  refine ⟨s',?_⟩
  simp only [deliverReport,bind_ok]
  refine ⟨events,hevents,?_⟩
  rw [hrun]
  exact ⟨result,rfl,rfl⟩

/-- The records of one message of a sequence. -/
def batchOf (rt : Runtime) (a2aTaskId : String) (contextId source : String)
    (d : SourceReport rt source × ℤ) : Result (List EventRecord) :=
  reportRecords rt a2aTaskId contextId source d.1.kind d.1.body

/-- A sequence of deliveries goes through and ends in a state exactly when every message
converts and the fold over the new records of all of them ends there. -/
theorem deliveries_fold (hcodec : PacksJson rt)
    (hr : Receiving rt principalId sender a2aTaskId source s t)
    (ds : List (SourceReport rt source.val × ℤ)) (last : ReportState) :
    (∃ s' t', ds.foldlM (deliverReport rt principalId sender a2aTaskId source t.contextId) s = .ok s' ∧
      s'.a2aTasks.get (principalId.val,a2aTaskId.val) = some t' ∧ t'.state = last) ↔
    ∃ batches, ds.mapM (batchOf rt a2aTaskId.val t.contextId source.val) = .ok batches ∧
      foldNew EventRecord.eventHash nextRecord
        (knownHashes s.a2aEvents principalId.val a2aTaskId.val) t.state batches.flatten =
          some last := by
  obtain ⟨contextId,hcontext⟩ : ∃ c, t.contextId = c := ⟨_,rfl⟩
  rw [hcontext]
  induction ds generalizing s t with
  | nil =>
    simp only [List.foldlM_nil,List.mapM_nil]
    constructor
    · rintro ⟨_,t',hs,ht',hlast⟩
      obtain rfl := Except.ok.inj hs
      rw [hr.task] at ht'
      obtain rfl := Option.some.inj ht'
      exact ⟨[],rfl,congrArg some hlast⟩
    · rintro ⟨batches,hbatches,hfold⟩
      obtain rfl := Except.ok.inj hbatches
      exact ⟨s,t,rfl,hr.task,Option.some.inj hfold⟩
  | cons d ds ih =>
    have hlog := (run_log hcodec logSound_empty hr.reach).log _ t hr.task
    have hkey := Table.get_key hr.task
    simp only [A2ATask.key,Prod.mk.injEq] at hkey
    simp only [List.foldlM_cons,List.mapM_cons,bind_ok]
    constructor
    · rintro ⟨s',t',⟨s₁,hfirst,hrest⟩,ht',hlast⟩
      rw [← hcontext] at hfirst
      obtain ⟨records,log,t₁,hrecords,hloop,hr₁,hcontext₁,hstate,hhashes⟩ := deliver_spec hr hfirst
      rw [hcontext] at hrecords
      obtain ⟨batches,hbatches,hfold⟩ := (ih hr₁ (hcontext₁.trans hcontext)).mp
        ⟨s',t',hrest,ht',hlast⟩
      refine ⟨records :: batches,⟨records,hrecords,batches,hbatches,rfl⟩,?_⟩
      have hsound : ∀ record ∈ records, record.Sound rt := by
        obtain ⟨events,-,hevents⟩ := bind_ok.mp hrecords
        exact eventRecords_sound hcodec hevents
      have hone := (appendRecords_fold ⟨s.a2aEvents,t.state,t.lastSequence,0,0⟩
        hlog hsound hr.latest log.state).mp ⟨log,hloop,rfl⟩
      rw [hkey.1,hkey.2] at hone
      rw [List.flatten_cons,foldNew_append,hone,Option.bind_some,← hhashes,← hstate]
      exact hfold
    · rintro ⟨_,⟨records,hrecords,batches,hbatches,hval⟩,hfold⟩
      obtain rfl := Except.ok.inj hval
      rw [List.flatten_cons,foldNew_append] at hfold
      obtain ⟨state,hone,hrest⟩ := Option.bind_eq_some_iff.mp hfold
      have hsound : ∀ record ∈ records, record.Sound rt := by
        obtain ⟨events,-,hevents⟩ := bind_ok.mp hrecords
        exact eventRecords_sound hcodec hevents
      rw [← hkey.1,← hkey.2] at hone
      obtain ⟨log,hloop,hstate⟩ := (appendRecords_fold ⟨s.a2aEvents,t.state,
        t.lastSequence,0,0⟩ hlog hsound hr.latest state).mpr hone
      rw [← hcontext] at hrecords
      obtain ⟨s₁,hfirst⟩ := deliver_ok hr hrecords hloop
      obtain ⟨records',log',t₁,hrecords',hloop',hr₁,hcontext₁,hstate₁,hhashes⟩ :=
        deliver_spec hr hfirst
      have hsame : records' = records := Except.ok.inj (hrecords'.symm.trans hrecords)
      rw [hsame] at hloop' hhashes
      have hloops : log' = log := Except.ok.inj (hloop'.symm.trans hloop)
      rw [hloops,hstate] at hstate₁
      rw [← hstate₁,← hhashes] at hrest
      obtain ⟨s',t',hgo,ht',hlast⟩ := (ih hr₁ (hcontext₁.trans hcontext)).mpr
        ⟨batches,hbatches,hrest⟩
      rw [hcontext] at hfirst
      exact ⟨s',t',⟨s₁,hfirst,hgo⟩,ht',hlast⟩

/-- The batches of a sequence of messages carry their states. -/
theorem batches_shape (hr : Receiving rt principalId sender a2aTaskId source s t)
    {ds : List (SourceReport rt source.val × ℤ)} {batches : List (List EventRecord)}
    (h : ds.mapM (batchOf rt a2aTaskId.val t.contextId source.val) = .ok batches) :
    List.Forall₂ ReportBatch (ds.map fun d => d.1.report.state) batches := by
  have hready := run_ready hr.reach _ t hr.task
  induction ds generalizing batches with
  | nil =>
    rw [List.mapM_nil] at h
    obtain rfl := Except.ok.inj h
    exact .nil
  | cons d ds ih =>
    simp only [List.mapM_cons,bind_ok] at h
    obtain ⟨records,hrecords,rest,hrest,hval⟩ := h
    obtain rfl := Except.ok.inj hval
    exact .cons (reportRecords_batch a2aTaskId.nonempty a2aTaskId.trimmed hready.context d.1.valid
      hrecords) (ih hrest)

/-- Reports in a permitted order arrive whole, with the task in the state of the last one,
exactly when every report converts and the states of those that are new to the log are
themselves a permitted order that ends in that state. -/
theorem a2a_reports_arrive (rt : Runtime) (hcodec : PacksJson rt) {principalId : ConsumerId}
    {sender : A2ANodeId} {a2aTaskId source : ExternalId} {s : PacketStore} {t : A2ATask}
    (hr : Receiving rt principalId sender a2aTaskId source s t)
    (ds : List (SourceReport rt source.val × ℤ))
    (hpermitted : (t.state :: ds.map fun d => d.1.report.state).IsChain
      fun a b => permits a b) :
    (∃ s' t', ds.foldlM (deliverReport rt principalId sender a2aTaskId source t.contextId) s = .ok s' ∧
      s'.a2aTasks.get (principalId.val,a2aTaskId.val) = some t' ∧
      t'.state = (ds.map fun d => d.1.report.state).getLastD t.state) ↔
    ∃ batches, ds.mapM (batchOf rt a2aTaskId.val t.contextId source.val) = .ok batches ∧
      (t.state :: freshStates (knownHashes s.a2aEvents principalId.val a2aTaskId.val)
        batches.flatten).IsChain (fun a b => permits a b) ∧
      (freshStates (knownHashes s.a2aEvents principalId.val a2aTaskId.val)
        batches.flatten).getLastD t.state =
          (ds.map fun d => d.1.report.state).getLastD t.state := by
  rw [deliveries_fold hcodec hr]
  refine exists_congr fun batches => and_congr_right fun hbatches => ?_
  have hlive : (ds.map fun d => d.1.report.state) ≠ [] → ¬ t.state.terminal := by
    intro hne
    obtain ⟨next,rest,hcons⟩ := List.exists_cons_of_ne_nil hne
    rw [hcons,List.isChain_cons_cons] at hpermitted
    exact permits_live hpermitted.1
  rw [foldNew_eq,foldlM_batches (batches_shape hr hbatches) hpermitted.tail hlive,foldlM_moveTo]

end Deliveries
section Sample

/-- A message of the agent for the first task of the sample. -/
def sampleReport (kind : String) (body : Value)
    (h : (taskReport .msgpack kind body).toOption.map TaskReport.taskId =
      some gatewayTaskId.val) : SourceReport .msgpack gatewayTaskId.val :=
  match hreport : taskReport .msgpack kind body with
  | .ok report => ⟨kind,body,report,hreport,by simpa [hreport,Except.toOption] using h⟩
  | .error e => absurd h (by simp [hreport,Except.toOption])

def reportBody (state : ReportState) : Value :=
  .map (baseEntries gatewayTaskId.val ++ [(.str "state",.str (stateText state))])

def workingStatus : SourceReport .msgpack gatewayTaskId.val :=
  sampleReport statusKind (reportBody .working) (by decide)

def inputStatus : SourceReport .msgpack gatewayTaskId.val :=
  sampleReport statusKind (reportBody .inputRequired) (by decide)

def completedResult : SourceReport .msgpack gatewayTaskId.val :=
  sampleReport resultKind (reportBody .completed) (by decide)

/-- Work, a question, the same work again, and the result. -/
def resumedReports : List (SourceReport .msgpack gatewayTaskId.val × ℤ) :=
  [(workingStatus,2000),(inputStatus,3000),(workingStatus,4000),(completedResult,5000)]

theorem receiving_sample : ∃ t, Receiving .msgpack samplePrincipal gatewayNode gatewayTaskId
    gatewayTaskId registeredSample t ∧ t.state = .submitted ∧ t.contextId = "context" := by
  have hfound : (registeredSample.a2aTasks.get (samplePrincipal.val,gatewayTaskId.val)).map
      (fun t => (t.state,t.contextId,t.latestAnetTaskId)) =
        some (.submitted,"context",gatewayTaskId.val) ∧
      (registeredSample.a2aPrincipals.get samplePrincipal.val).map A2APrincipal.senderNodeId =
        some gatewayNode.val := by decide +kernel
  obtain ⟨htask,hprincipal⟩ := hfound
  obtain ⟨t,ht,hfields⟩ := Option.map_eq_some_iff.mp htask
  obtain ⟨r,hr,howner⟩ := Option.map_eq_some_iff.mp hprincipal
  simp only [Prod.mk.injEq] at hfields
  exact ⟨t,⟨registeredSample_reachable,ht,⟨r,hr,howner⟩,hfields.2.2⟩,hfields.1,hfields.2.1⟩

/-- The first report arrives, and the four do not. -/
theorem resumedReports_arrive :
    (([(workingStatus,2000)].foldlM (deliverReport .msgpack samplePrincipal gatewayNode
      gatewayTaskId gatewayTaskId "context") registeredSample).toOption.bind fun s' =>
        (s'.a2aTasks.get (samplePrincipal.val,gatewayTaskId.val)).map A2ATask.state) =
          some workingStatus.report.state ∧
    (resumedReports.foldlM (deliverReport .msgpack samplePrincipal gatewayNode gatewayTaskId
      gatewayTaskId "context") registeredSample).toOption.isNone := by decide +kernel

/-- One report converts, and its state is new to the log. -/
theorem a2a_reports_arrive_sample : ∃ (t : A2ATask) (batches : List (List EventRecord)),
    [(workingStatus,2000)].mapM (batchOf .msgpack gatewayTaskId.val t.contextId
      gatewayTaskId.val) = .ok batches ∧
    (freshStates (knownHashes registeredSample.a2aEvents samplePrincipal.val gatewayTaskId.val)
      batches.flatten).getLastD t.state = .working := by
  obtain ⟨t,hr,hstate,hcontext⟩ := receiving_sample
  obtain ⟨s',hs',hlast⟩ := Option.bind_eq_some_iff.mp resumedReports_arrive.1
  obtain ⟨t',ht',hstate'⟩ := Option.map_eq_some_iff.mp hlast
  have hpermitted : (t.state :: [(workingStatus,(2000 : ℤ))].map fun d => d.1.report.state).IsChain
      fun a b => permits a b := by
    rw [hstate]
    decide +kernel
  rw [← hcontext] at hs'
  obtain ⟨batches,hbatches,-,hend⟩ := (a2a_reports_arrive .msgpack msgpack_packsJson hr
    [(workingStatus,2000)] hpermitted).mp ⟨s',t',toOption_eq_some.mp hs',ht',hstate'⟩
  refine ⟨t,batches,hbatches,?_⟩
  have hlast : workingStatus.report.state = .working := by decide
  rw [hend]
  exact hlast

/-- The second report of work is a duplicate of the first, the task stays in the question,
and its result is refused. -/
theorem a2a_report_lost : ∃ t, Receiving .msgpack samplePrincipal gatewayNode gatewayTaskId
      gatewayTaskId registeredSample t ∧
    ((t.state :: resumedReports.map fun d => d.1.report.state).IsChain
      fun a b => permits a b) ∧
    ∀ s', resumedReports.foldlM (deliverReport .msgpack samplePrincipal gatewayNode gatewayTaskId
      gatewayTaskId t.contextId) registeredSample ≠ .ok s' := by
  obtain ⟨t,hr,hstate,hcontext⟩ := receiving_sample
  refine ⟨t,hr,?_,?_⟩
  · rw [hstate]
    decide +kernel
  · rw [hcontext]
    intro s' hs'
    have hraises := resumedReports_arrive.2
    rw [hs'] at hraises
    cases hraises

end Sample
end Anet
