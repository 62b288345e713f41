import Anet.GatewayStore
import Anet.TableViews

/-! What a principal sees of the gateway: the rows under its own name. An operation for a principal
reads and writes its own rows only, so it works on these alone as it does on the whole store. -/
namespace Anet

/-- Two steps and then a map are the first step and then the rest with the map. -/
theorem map_after {α β γ : Type} {x : Result α} {f : α → Result β} {g : β → γ} :
    (x >>= f).map g = x >>= fun a => (f a).map g := by
  cases x <;> rfl

theorem after_map {α β γ : Type} {x : Result α} {h : α → β} {f : β → Result γ} :
    x.map h >>= f = x >>= fun a => f (h a) := by
  cases x <;> rfl

/-- The rest of a computation may use what its first step returned. -/
theorem after_congr {α β : Type} {x : Result α} {f g : α → Result β}
    (h : ∀ a, x = .ok a → f a = g a) : (x >>= f) = x >>= g := by
  cases x with
  | error e => rfl
  | ok a => exact h a rfl

theorem integrity_map {α β : Type} {t : Option α} {f : α → β} :
    integrity (t.map f) = (integrity t).map f := by
  cases t <;> rfl

open A2AProtocol

/-- The log over the events of a principal. -/
def AppendLoop.seen (principalId : String) (log : AppendLoop) : AppendLoop :=
  { log with events := log.events.only fun e => e.principalId = principalId }

namespace PacketStore

/-- The gateway rows of a principal. -/
def seen (principalId : String) (s : PacketStore) : PacketStore :=
  { empty with
    a2aPrincipals := s.a2aPrincipals.only fun r => r.principalId = principalId
    a2aTasks := s.a2aTasks.only fun r => r.principalId = principalId
    a2aMessages := s.a2aMessages.only fun r => r.principalId = principalId
    a2aEvents := s.a2aEvents.only fun r => r.principalId = principalId
    a2aDispatches := s.a2aDispatches.only fun r => r.principalId = principalId }

variable {α : Type}

/-- The body of a transaction works on the rows of a principal as it does on all. -/
def Sees (principalId : String) (body : PacketStore → Result (α × PacketStore)) : Prop :=
  ∀ s, body (s.seen principalId) = (body s).map fun r => (r.1,r.2.seen principalId)

theorem Sees.transaction {principalId : String} {body : PacketStore → Result (α × PacketStore)}
    (h : Sees principalId body) (s : PacketStore) :
    PacketStore.transaction body (s.seen principalId) =
      ((PacketStore.transaction body s).1,(PacketStore.transaction body s).2.seen principalId) := by
  have hs := h s
  unfold PacketStore.transaction
  cases hb : body s with
  | error e =>
    rw [hb] at hs
    rw [hs]
    rfl
  | ok r =>
    rw [hb] at hs
    rw [hs]
    rfl

theorem only_task (t : A2ATasks) (principalId id : String) :
    (t.only fun r => r.principalId = principalId).get (principalId,id) = t.get (principalId,id) :=
  Table.get_only fun _ h => congrArg Prod.fst h

section Reads

variable (s : PacketStore) (principalId id : String)

@[simp] theorem seen_principal :
    (s.seen principalId).a2aPrincipals.get principalId = s.a2aPrincipals.get principalId :=
  Table.get_only fun _ h => h

@[simp] theorem seen_task :
    (s.seen principalId).a2aTasks.get (principalId,id) = s.a2aTasks.get (principalId,id) :=
  only_task s.a2aTasks principalId id

@[simp] theorem seen_message :
    (s.seen principalId).a2aMessages.get (principalId,id) = s.a2aMessages.get (principalId,id) :=
  Table.get_only fun _ h => congrArg Prod.fst h

@[simp] theorem seen_messages_first (p : A2AMessage → Prop) [DecidablePred p] :
    ((s.seen principalId).a2aMessages.first fun r => r.principalId = principalId ∧ p r) =
      s.a2aMessages.first fun r => r.principalId = principalId ∧ p r :=
  Table.first_only fun _ h => h.1

end Reads

theorem bindA2APrincipal_sees (principal : ConsumerId) (senderNodeId : A2ANodeId)
    (allowedSenderNodes : List A2ANodeId) (now : ℤ) (s : PacketStore) :
    bindA2APrincipal principal senderNodeId allowedSenderNodes now (s.seen principal.val) =
      ((bindA2APrincipal principal senderNodeId allowedSenderNodes now s).1,
        (bindA2APrincipal principal senderNodeId allowedSenderNodes now s).2.seen principal.val) := by
  refine Sees.transaction (fun s => ?_) s
  rw [map_after]
  refine after_congr fun _ _ => ?_
  rw [seen_principal]
  cases s.a2aPrincipals.get principal.val with
  | none =>
    have hinsert := Table.insert_only (t := s.a2aPrincipals)
      (p := fun r => r.principalId = principal.val) (r := ⟨principal.val,senderNodeId.val,now,now⟩) rfl
      (fun _ h => h) (by simp [noMarks])
    change (integrity (Table.insert (Table.only _ s.a2aPrincipals) _) >>= _) = _
    simp only
    rw [hinsert,integrity_map,after_map,map_after]
    refine after_congr fun _ _ => ?_
    rfl
  | some existing =>
    simp only
    rw [map_after]
    refine after_congr fun _ _ => ?_
    have hupdate := Table.only_update (t := s.a2aPrincipals)
      (p := fun r => r.principalId = principal.val) (q := fun r => r.principalId = principal.val)
      (f := fun r => { r with updatedMs := now }) (fun _ => rfl)
      (noMarks_subset _) fun _ => Iff.rfl
    exact congrArg (fun t => Except.ok (_,{ s.seen principal.val with a2aPrincipals := t }))
      hupdate.symm

theorem openTask_sees (intent : A2AIntent) (now : ℤ) (s : PacketStore) :
    (s.seen intent.principalId).openTask intent now =
      (s.openTask intent now).map fun t => t.only fun r => r.principalId = intent.principalId := by
  unfold openTask
  rw [seen_task]
  cases s.a2aTasks.get (intent.principalId,intent.a2aTaskId) with
  | none =>
    have hinsert := Table.insert_only (t := s.a2aTasks)
      (p := fun r => r.principalId = intent.principalId) (r := intent.taskRow now) rfl
      (fun _ h => congrArg Prod.fst h) (by simp [noMarks])
    simp only
    rw [map_after]
    refine after_congr fun _ _ => ?_
    exact (congrArg integrity hinsert).trans integrity_map
  | some task =>
    simp only
    rw [map_after]
    refine after_congr fun _ _ => ?_
    rw [map_after]
    refine after_congr fun _ _ => ?_
    rw [map_after]
    exact after_congr fun _ _ => rfl

/-- A new dispatch is refused by rows of its own principal only. -/
theorem insertDispatch_sees (principalId : String) (t : Dispatches) (r : A2ADispatch)
    (hprincipal : r.principalId = principalId) (hfresh : r.claimToken = "") :
    (t.only fun x => x.principalId = principalId).insert r =
      (t.insert r).map fun t => t.only fun x => x.principalId = principalId := by
  subst hprincipal
  refine Table.insert_only rfl (fun x h => congrArg Prod.fst h) fun x m hm hr => ?_
  have htoken : textMark r.claimToken = [] := by rw [hfresh]; rfl
  rw [A2ADispatch.marks,htoken,List.map_nil,List.mem_singleton] at hr
  subst hr
  rw [A2ADispatch.marks,List.mem_cons] at hm
  rcases hm with hm | hm
  · exact (congrArg Prod.fst (Sum.inl.inj hm)).symm
  · obtain ⟨_,-,hm⟩ := List.mem_map.mp hm
    cases hm

theorem repeatRegistration_sees (intent : A2AIntent) (message : A2AMessage) (sender : String)
    (drawn : Token) (now : ℤ) : Sees intent.principalId
      fun s => s.repeatRegistration intent message sender drawn now := by
  intro s
  change (s.seen intent.principalId).repeatRegistration intent message sender drawn now =
    (s.repeatRegistration intent message sender drawn now).map _
  unfold repeatRegistration
  rw [seen_task,map_after]
  refine after_congr fun _ _ => ?_
  rw [map_after]
  refine after_congr fun task _ => ?_
  have hmessages := Table.only_update (t := s.a2aMessages)
    (p := fun r => r.principalId = intent.principalId)
    (q := fun r => r.key = (intent.principalId,intent.messageId) ∧ r.requestBody = none)
    (f := fun r => { r with requestBody := some intent.encodedRequest })
    (fun _ => rfl) (fun _ => List.Subset.refl _) fun _ => Iff.rfl
  have hdispatches : (s.a2aDispatches.only fun x => x.principalId = intent.principalId).insertOrIgnore
      (intent.dispatchRow task.destinationPeerId drawn now) =
        (s.a2aDispatches.insertOrIgnore (intent.dispatchRow task.destinationPeerId drawn now)).only
          fun x => x.principalId = intent.principalId := by
    unfold Table.insertOrIgnore
    rw [insertDispatch_sees intent.principalId s.a2aDispatches
      (intent.dispatchRow task.destinationPeerId drawn now) rfl rfl]
    cases s.a2aDispatches.insert (intent.dispatchRow task.destinationPeerId drawn now) <;> rfl
  have hget : ∀ t : Dispatches,
      (t.only fun x => x.principalId = intent.principalId).get (intent.principalId,intent.messageId) =
        t.get (intent.principalId,intent.messageId) :=
    fun t => Table.get_only fun _ h => congrArg Prod.fst h
  refine (congrArg₂ (fun ms (ds : Dispatches) => Except.ok
    (((⟨task,sender⟩ : A2ATaskItem),message,ds.get (intent.principalId,intent.messageId),true),
      { s.seen intent.principalId with a2aMessages := ms, a2aDispatches := ds }))
    hmessages.symm hdispatches).trans ?_
  simp only
  rw [hget]
  rfl

theorem firstRegistration_sees (intent : A2AIntent) (sender : String) (drawn : Token) (now : ℤ) :
    Sees intent.principalId fun s => s.firstRegistration intent sender drawn now := by
  intro s
  change (s.seen intent.principalId).firstRegistration intent sender drawn now =
    (s.firstRegistration intent sender drawn now).map _
  unfold firstRegistration
  rw [openTask_sees,after_map,map_after]
  refine after_congr fun tasks _ => ?_
  rw [seen_messages_first,map_after]
  refine after_congr fun _ _ => ?_
  have hmessages := Table.insert_only (t := s.a2aMessages)
    (p := fun r => r.principalId = intent.principalId) (r := intent.messageRow now) rfl
    (fun _ h => congrArg Prod.fst h) fun x m hm hr => by
      rw [A2AMessage.marks,List.mem_singleton] at hm hr
      exact congrArg Prod.fst (hm.symm.trans hr)
  change (integrity (Table.insert (Table.only _ s.a2aMessages) _) >>= _) = _
  rw [hmessages,integrity_map,after_map,map_after]
  refine after_congr fun messages _ => ?_
  have hdispatches := insertDispatch_sees intent.principalId s.a2aDispatches
    (intent.dispatchRow intent.destinationPeerId drawn now) rfl rfl
  change (integrity (Table.insert (Table.only _ s.a2aDispatches) _) >>= _) = _
  simp only
  rw [hdispatches,integrity_map,after_map,map_after]
  refine after_congr fun dispatches _ => ?_
  have htasks := Table.only_update (t := tasks) (p := fun r => r.principalId = intent.principalId)
    (q := fun r => r.key = (intent.principalId,intent.a2aTaskId))
    (f := A2ATask.follow intent.anetTaskId now)
    (fun _ => rfl) (noMarks_subset _) fun _ => Iff.rfl
  rw [← htasks,only_task,map_after]
  exact after_congr fun _ _ => rfl

theorem registerIntent_sees (intent : A2AIntent) (drawn : Token) (now : ℤ) :
    Sees intent.principalId fun s => s.registerIntent intent drawn now := by
  intro s
  change (s.seen intent.principalId).registerIntent intent drawn now =
    (s.registerIntent intent drawn now).map _
  unfold registerIntent
  rw [seen_principal,seen_message,map_after]
  refine after_congr fun principal _ => ?_
  rw [map_after]
  refine after_congr fun _ _ => ?_
  cases s.a2aMessages.get (intent.principalId,intent.messageId) with
  | some message => exact repeatRegistration_sees intent message _ drawn now s
  | none => exact firstRegistration_sees intent _ drawn now s

theorem cancelDispatches_sees (s : PacketStore) (principalId id : String) :
    (s.seen principalId).cancelDispatches principalId id = s.cancelDispatches principalId id := by
  unfold cancelDispatches
  congr 1
  exact Table.select_only fun _ h => h.1

theorem taskMessages_sees (s : PacketStore) (principalId id : String) :
    (s.seen principalId).taskMessages principalId id = s.taskMessages principalId id := by
  unfold taskMessages
  congr 1
  exact Table.select_only fun _ h => h.1

theorem insertCancels_sees (rt : Runtime) (task : A2ATask) (now : ℤ) (targets : List A2AMessage) :
    ∀ (draws : ℕ → Token) (t : Dispatches),
      insertCancels rt task now targets draws (t.only fun r => r.principalId = task.principalId) =
        (insertCancels rt task now targets draws t).map
          fun t => t.only fun r => r.principalId = task.principalId := by
  induction targets with
  | nil => exact fun _ _ => rfl
  | cons target targets ih =>
    intro draws t
    unfold insertCancels
    rw [map_after]
    refine after_congr fun dispatch hdispatch => ?_
    have hrow : dispatch.principalId = task.principalId ∧ dispatch.claimToken = "" := by
      simp only [cancelDispatch,bind_ok] at hdispatch
      obtain ⟨_,-,_,-,_,-,hval⟩ := hdispatch
      cases hval
      exact ⟨rfl,rfl⟩
    rw [insertDispatch_sees task.principalId t dispatch hrow.1 hrow.2,integrity_map,after_map,
      map_after]
    exact after_congr fun t' _ => ih _ t'

theorem cancelTarget_sees (rt : Runtime) (principalId : String) (request : Value) (s : PacketStore) :
    (s.seen principalId).cancelTarget rt principalId request =
      s.cancelTarget rt principalId request := by
  unfold cancelTarget
  simp only [seen_task,seen_principal]

theorem requestCancellation_sees (rt : Runtime) (principalId : String) (request : Value)
    (senderId : String) (draws : ℕ → Token) (now : ℤ) :
    Sees principalId (requestCancellation rt principalId request senderId draws now) := by
  intro s
  unfold requestCancellation
  rw [cancelTarget_sees,map_after]
  refine after_congr fun item hitem => ?_
  have howner : item.task.principalId = principalId := by
    unfold cancelTarget at hitem
    simp only [bind_ok,fetched_ok] at hitem
    obtain ⟨_,-,_,htask,_,-,hval⟩ := hitem
    cases hval
    exact congrArg Prod.fst (Table.get_key htask)
  rw [map_after]
  refine after_congr fun _ _ => ?_
  rw [map_after]
  refine after_congr fun _ _ => ?_
  split
  · rw [cancelDispatches_sees]
    rfl
  · simp only
    rw [taskMessages_sees,map_after]
    refine after_congr fun _ _ => ?_
    have hcancels := insertCancels_sees rt item.task now
      (s.taskMessages principalId item.task.a2aTaskId) draws s.a2aDispatches
    rw [howner] at hcancels
    change (insertCancels rt item.task now _ draws (Table.only _ s.a2aDispatches) >>= _) = _
    rw [hcancels,after_map,map_after]
    refine after_congr fun dispatches _ => ?_
    have htasks := Table.only_update (t := s.a2aTasks) (p := fun r => r.principalId = principalId)
      (q := fun r => r.key = (principalId,item.task.a2aTaskId)) (f := A2ATask.requestCancel now)
      (fun _ => rfl) (noMarks_subset _) fun _ => Iff.rfl
    refine (congrArg (fun t => fetched (Table.get t (principalId,item.task.a2aTaskId))
      (.type "'NoneType' object is not subscriptable") >>= fun task => Except.ok
        ((⟨⟨task,item.senderNodeId⟩,cancelDispatches { s.seen principalId with
            a2aDispatches := dispatches.only fun r => r.principalId = principalId
            a2aTasks := t } principalId item.task.a2aTaskId,false⟩ : CancelResult),
          { s.seen principalId with
            a2aDispatches := dispatches.only fun r => r.principalId = principalId
            a2aTasks := t })) htasks.symm).trans ?_
    simp only
    rw [only_task,map_after]
    refine after_congr fun task _ => ?_
    have hcancels' := cancelDispatches_sees { s with a2aDispatches := dispatches } principalId
      item.task.a2aTaskId
    exact congrArg (fun l => Except.ok ((⟨⟨task,item.senderNodeId⟩,l,false⟩ : CancelResult),_)) hcancels'

theorem ownedTask_sees (principalId id senderId : String) (s : PacketStore) :
    (s.seen principalId).ownedTask principalId id senderId = s.ownedTask principalId id senderId := by
  unfold ownedTask
  simp only [seen_task,seen_principal]

theorem appendRecord_sees (task : A2ATask) (source : String) (now : ℤ) (log : AppendLoop)
    (record : EventRecord) : appendRecord task source now (AppendLoop.seen task.principalId log) record =
      (appendRecord task source now log record).map (AppendLoop.seen task.principalId) := by
  have hfirst : ((AppendLoop.seen task.principalId log).events.first fun e =>
      e.ofTask task.principalId task.a2aTaskId ∧ e.eventHash = record.eventHash) =
        log.events.first fun e => e.ofTask task.principalId task.a2aTaskId ∧
          e.eventHash = record.eventHash :=
    Table.first_only fun _ h => h.1.1
  unfold appendRecord
  rw [hfirst]
  split
  · rfl
  · rw [map_after]
    refine after_congr fun _ _ => ?_
    rw [map_after]
    refine after_congr fun state _ => ?_
    have hinsert := Table.insert_only (t := log.events)
      (p := fun e => e.principalId = task.principalId)
      (r := ⟨task.principalId,task.a2aTaskId,log.sequence + 1,source,record.eventHash,record.encoded,now⟩)
      rfl (fun _ h => congrArg Prod.fst h) fun x m hm hr => by
        rw [A2AEvent.marks,List.mem_singleton] at hm hr
        exact congrArg Prod.fst (hm.symm.trans hr)
    change (integrity (Table.insert (Table.only _ log.events) _) >>= _) = _
    simp only [AppendLoop.seen]
    rw [hinsert,integrity_map,after_map,map_after]
    exact after_congr fun _ _ => rfl

theorem appendRecords_sees (task : A2ATask) (source : String) (now : ℤ) (records : List EventRecord) :
    ∀ log : AppendLoop, appendRecords task source now (AppendLoop.seen task.principalId log) records =
      (appendRecords task source now log records).map (AppendLoop.seen task.principalId) := by
  induction records with
  | nil => exact fun _ => rfl
  | cons record records ih =>
    intro log
    unfold appendRecords
    rw [appendRecord_sees,after_map,map_after]
    exact after_congr fun log' _ => ih log'

theorem appendEvents_sees (rt : Runtime) (principalId senderId a2aTaskId source : String)
    (events : List Value) (now : ℤ) :
    Sees principalId (appendEvents rt principalId senderId a2aTaskId source events now) := by
  intro s
  unfold appendEvents
  rw [map_after]
  refine after_congr fun _ _ => ?_
  rw [ownedTask_sees,map_after]
  refine after_congr fun task htask => ?_
  have howner : task.principalId = principalId := by
    simp only [ownedTask,bind_ok,fetched_ok] at htask
    obtain ⟨_,htask,_,-,_,-,hval⟩ := htask
    cases hval
    exact congrArg Prod.fst (Table.get_key htask)
  rw [seen_messages_first,map_after]
  refine after_congr fun _ _ => ?_
  rw [map_after]
  refine after_congr fun records _ => ?_
  have hrecords := appendRecords_sees task source now records
    ⟨s.a2aEvents,task.state,task.lastSequence,0,0⟩
  rw [howner] at hrecords
  have hstart : (⟨(s.seen principalId).a2aEvents,task.state,task.lastSequence,0,0⟩ : AppendLoop) =
      AppendLoop.seen principalId ⟨s.a2aEvents,task.state,task.lastSequence,0,0⟩ := rfl
  rw [hstart,hrecords,after_map,map_after]
  refine after_congr fun log _ => ?_
  simp only [AppendLoop.seen]
  by_cases hnone : log.appended = 0
  · rw [if_pos hnone]
    exact (if_pos hnone).trans rfl
  · have htasks := Table.only_update (t := s.a2aTasks) (p := fun r => r.principalId = principalId)
      (q := fun r => r.key = (principalId,a2aTaskId))
      (f := A2ATask.advance log.state log.sequence
        (A2ATask.settledCancel task.cancelState log.state) now)
      (fun _ => rfl) (noMarks_subset _) fun _ => Iff.rfl
    rw [if_neg hnone]
    refine (if_neg hnone).trans ?_
    exact congrArg (fun t => Except.ok
      ((⟨log.state,log.sequence,log.appended,log.duplicates⟩ : AppendResult),
        ({ s.seen principalId with
          a2aEvents := log.events.only fun e => e.principalId = principalId
          a2aTasks := t } : PacketStore))) htasks.symm

theorem readA2ATaskEvents_sees (rt : Runtime) (principal : ConsumerId) (a2aTaskId : ExternalId)
    (sender : A2ANodeId) (afterSequence limit : ℤ) (s : PacketStore) :
    readA2ATaskEvents rt principal a2aTaskId sender afterSequence limit (s.seen principal.val) =
      readA2ATaskEvents rt principal a2aTaskId sender afterSequence limit s := by
  have hevents : eventsOf (s.seen principal.val).a2aEvents principal.val a2aTaskId.val =
      eventsOf s.a2aEvents principal.val a2aTaskId.val := by
    unfold eventsOf
    congr 1
    exact Table.select_only fun _ h => h.1
  unfold readA2ATaskEvents
  rw [ownedTask_sees,hevents]

end PacketStore
end Anet
