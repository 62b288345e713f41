import Anet.GatewayOutbox
import Anet.GatewayLog

/-! Cancellation of a gateway task along every run: the cancel dispatches cover its
messages one by one, the cancel state follows the dispatches and the events, and a cancel
request goes through unless an id it derives is taken. -/
namespace Anet

open PacketStore A2AProtocol AgentProtocol

/-- The messages of a task: their ids and the internal tasks they started. -/
def taskTargets (s : PacketStore) (principalId a2aTaskId : String) : Set (String × String) :=
  {x | ∃ m, s.a2aMessages.get (principalId,x.1) = some m ∧ m.a2aTaskId = a2aTaskId ∧
    m.anetTaskId = x.2}

/-- What the cancel dispatches of a task ask for. -/
def taskCancels (s : PacketStore) (principalId a2aTaskId : String) :
    Set (String × String × String × String × String × DispatchKind × Bytes) :=
  {i | ∃ k d, s.a2aDispatches.get k = some d ∧ d.principalId = principalId ∧
    d.a2aTaskId = a2aTaskId ∧ d.kind = .cancel ∧ d.intent = i}

/-- The cancel dispatch that names the internal task of a message. -/
def Cancels (rt : Runtime) (t : A2ATask) (x : String × String)
    (i : String × String × String × String × String × DispatchKind × Bytes) : Prop :=
  ∃ id body raw, cancelId rt t.principalId t.a2aTaskId x.2 = .ok id ∧
    taskCancel x.2 cancelReason = .ok body ∧ rt.pack body.toValue = .ok raw ∧
    i = (t.principalId,cancelMessageId id,t.a2aTaskId,id,t.destinationPeerId,.cancel,raw)

/-- Without a cancellation a task has no cancel dispatches; with one, they and the
messages of the task match one to one. -/
structure Coverage (rt : Runtime) (t : A2ATask) (messages : Set (String × String))
    (cancels : Set (String × String × String × String × String × DispatchKind × Bytes)) :
    Prop where
  quiet : t.cancelState = .none → cancels = ∅
  covered : t.cancelState ≠ .none → ∀ x ∈ messages, ∃ i ∈ cancels, Cancels rt t x i
  justified : t.cancelState ≠ .none → ∀ i ∈ cancels, ∃ x ∈ messages, Cancels rt t x i
  single : t.cancelState ≠ .none → ∀ x ∈ messages, ∀ y ∈ messages, ∀ i,
    Cancels rt t x i → Cancels rt t y i → x = y

/-- The cancel state agrees with the dispatches and with the state of the task. -/
structure PhaseSound (s : PacketStore) (t : A2ATask) : Prop where
  dispatched : t.cancelState = .dispatched → ∀ k d, s.a2aDispatches.get k = some d →
    d.principalId = t.principalId → d.a2aTaskId = t.a2aTaskId → d.kind = .cancel →
      d.state = .dispatched
  confirmed : t.cancelState = .confirmed → t.state = .canceled
  tooLate : t.cancelState = .tooLate → t.state.terminal ∧ t.state ≠ .canceled

/-- What registration has checked of a task. -/
structure TaskNamed (s : PacketStore) (t : A2ATask) : Prop where
  ids : ∃ (principalId : ConsumerId) (a2aTaskId : ExternalId),
    t.principalId = principalId.val ∧ t.a2aTaskId = a2aTaskId.val
  version : t.protocolVersion = a2aProtocolVersion
  begun : (taskTargets s t.principalId t.a2aTaskId).Nonempty

structure CancelSound (rt : Runtime) (s : PacketStore) : Prop where
  outbox : OutboxSound s
  named : ∀ k t, s.a2aTasks.get k = some t → TaskNamed s t
  targets : ∀ k m, s.a2aMessages.get k = some m → taskId m.anetTaskId = .ok m.anetTaskId
  coverage : ∀ k t, s.a2aTasks.get k = some t →
    Coverage rt t (taskTargets s k.1 k.2) (taskCancels s k.1 k.2)
  phase : ∀ k t, s.a2aTasks.get k = some t → PhaseSound s t

section Ids

variable {rt : Runtime} {task : A2ATask} {now : ℤ}

theorem cancelMessageId_injective : Function.Injective cancelMessageId := by
  intro a b h
  have hchars := congrArg String.toList h
  simp only [cancelMessageId,String.toList_append,List.append_cancel_left_eq] at hchars
  exact String.toList_inj.mp hchars

/-- No dispatch of the principal stands under the ids that a cancellation derives. -/
def IdFree (t : Dispatches) (principalId id : String) : Prop :=
  ∀ k d, t.get k = some d → d.principalId = principalId →
    d.messageId ≠ cancelMessageId id ∧ d.anetTaskId ≠ id

/-- A cancel dispatch is inserted exactly when its ids are free. -/
theorem insert_idFree {t : Dispatches} {d : A2ADispatch} {id : String}
    (hmessage : d.messageId = cancelMessageId id) (htask : d.anetTaskId = id)
    (htoken : d.claimToken = "") : (∃ t', t.insert d = some t') ↔ IdFree t d.principalId id := by
  have hmarks : d.marks = [.inl (d.principalId,id)] := by
    simp [A2ADispatch.marks,htoken,textMark,htask]
  have hkey : d.key = (d.principalId,cancelMessageId id) := by
    rw [A2ADispatch.key,hmessage]
  rw [← Option.isSome_iff_exists,Table.insert]
  constructor
  · intro h k r hr hp
    split at h
    · rename_i hfree
      have hrow := (Table.get_eq_some.mp hr).1
      refine ⟨fun hm => hfree.1 r hrow ?_,fun ha => hfree.2 r hrow (.inl (r.principalId,r.anetTaskId))
        (by simp [A2ADispatch.marks]) ?_⟩
      · rw [hkey,A2ADispatch.key,hp,hm]
      · rw [hmarks,hp,ha]
        simp
    · cases h
  · intro h
    rw [dif_pos]
    · rfl
    · refine ⟨fun r hr hk => ?_,fun r hr m hm hmem => ?_⟩
      · rw [hkey,A2ADispatch.key,Prod.mk.injEq] at hk
        exact (h _ r (Table.mem_rows.mp hr) hk.1).1 hk.2
      · rw [hmarks,List.mem_singleton] at hmem
        rw [hmem,A2ADispatch.marks,List.mem_cons] at hm
        rcases hm with hm | hm
        · simp only [Sum.inl.injEq,Prod.mk.injEq] at hm
          exact (h _ r (Table.mem_rows.mp hr) hm.1.symm).2 hm.2.symm
        · simp at hm

/-- After the insertion one more id is taken. -/
theorem idFree_insert {t t' : Dispatches} {d : A2ADispatch} {id id' : String}
    (hmessage : d.messageId = cancelMessageId id) (htask : d.anetTaskId = id)
    (h : t.insert d = some t') :
    IdFree t' d.principalId id' ↔ IdFree t d.principalId id' ∧ id ≠ id' := by
  have hget := Table.get_insert h
  have hnone := (Table.insert_eq_some h).1
  constructor
  · intro hfree
    refine ⟨fun k r hr hp => hfree k r ?_ hp,?_⟩
    · rw [hget,if_neg,hr]
      rintro rfl
      rw [hnone] at hr
      cases hr
    · have hnew := (hfree d.key d (by rw [hget,if_pos rfl]) rfl).2
      rwa [htask] at hnew
  · rintro ⟨hfree,hne⟩ k r hr hp
    rw [hget] at hr
    split at hr
    · cases hr
      rw [hmessage,htask]
      exact ⟨fun hsame => hne (cancelMessageId_injective hsame),hne⟩
    · exact hfree k r hr hp

/-- A cancel dispatch for the target can be made. -/
def Cancelable (rt : Runtime) (task : A2ATask) (target : String) : Prop :=
  ∃ id body raw, cancelId rt task.principalId task.a2aTaskId target = .ok id ∧
    taskCancel target cancelReason = .ok body ∧ rt.pack body.toValue = .ok raw

/-- The cancel loop goes through exactly when the ids it derives are free and different. -/
theorem insertCancels_iff {targets : List A2AMessage} {draws : ℕ → Token} {t : Dispatches}
    (hcan : ∀ m ∈ targets, Cancelable rt task m.anetTaskId) :
    (∃ t', insertCancels rt task now targets draws t = .ok t') ↔
      (∀ m ∈ targets, ∀ id, cancelId rt task.principalId task.a2aTaskId m.anetTaskId = .ok id →
        IdFree t task.principalId id) ∧
      targets.Pairwise fun m m' => ∀ id,
        cancelId rt task.principalId task.a2aTaskId m.anetTaskId = .ok id →
          cancelId rt task.principalId task.a2aTaskId m'.anetTaskId ≠ .ok id := by
  induction targets generalizing draws t with
  | nil => simp [insertCancels]
  | cons m targets ih =>
    obtain ⟨id,body,raw,hid,hbody,hraw⟩ := hcan m (by simp)
    obtain ⟨d,hd⟩ : ∃ d, cancelDispatch rt task m.anetTaskId (draws 0) now = .ok d := by
      simp only [cancelDispatch,bind_ok]
      exact ⟨_,id,hid,body,hbody,raw,hraw,rfl⟩
    have hfields : d.principalId = task.principalId ∧ d.messageId = cancelMessageId id ∧
        d.anetTaskId = id ∧ d.claimToken = "" := by
      simp only [cancelDispatch,bind_ok,hid,hbody,Except.ok.injEq] at hd
      obtain ⟨_,rfl,_,-,_,-,hval⟩ := hd
      cases hval
      exact ⟨rfl,rfl,rfl,rfl⟩
    obtain ⟨hprincipal,hmessage,htask,htoken⟩ := hfields
    have hfirst := insert_idFree (t := t) hmessage htask htoken
    rw [hprincipal] at hfirst
    have hloop : (∃ t', insertCancels rt task now (m :: targets) draws t = .ok t') ↔
        ∃ t₁, t.insert d = some t₁ ∧ ∃ t',
          insertCancels rt task now targets (fun i => draws (i + 1)) t₁ = .ok t' := by
      simp only [insertCancels,bind_ok,hd,Except.ok.injEq,integrity_ok]
      constructor
      · rintro ⟨t',_,rfl,t₁,hins,hrest⟩
        exact ⟨t₁,hins,t',hrest⟩
      · rintro ⟨t₁,hins,t',hrest⟩
        exact ⟨t',d,rfl,t₁,hins,hrest⟩
    have hafter {t₁ : Dispatches} (hins : t.insert d = some t₁) (id' : String) :
        IdFree t₁ task.principalId id' ↔ IdFree t task.principalId id' ∧ id ≠ id' := by
      rw [← hprincipal]
      exact idFree_insert hmessage htask hins
    rw [hloop,List.pairwise_cons]
    constructor
    · rintro ⟨t₁,hins,hrest⟩
      obtain ⟨hfree,hpair⟩ := (ih fun m' hm => hcan m' (by simp [hm])).mp hrest
      refine ⟨?_,?_,hpair⟩
      · intro m' hm' id' hid'
        rcases List.mem_cons.mp hm' with rfl | hm'
        · rw [hid] at hid'
          cases hid'
          exact hfirst.mp ⟨t₁,hins⟩
        · exact ((hafter hins id').mp (hfree m' hm' id' hid')).1
      · intro m' hm' id' hid' hsame
        rw [hid] at hid'
        cases hid'
        exact ((hafter hins id).mp (hfree m' hm' id hsame)).2 rfl
    · rintro ⟨hfree,hne,hpair⟩
      obtain ⟨t₁,hins⟩ := hfirst.mpr (hfree m (by simp) id hid)
      refine ⟨t₁,hins,(ih fun m' hm => hcan m' (by simp [hm])).mpr ⟨?_,hpair⟩⟩
      intro m' hm' id' hid'
      refine (hafter hins id').mpr ⟨hfree m' (by simp [hm']) id' hid',?_⟩
      rintro rfl
      exact hne m' hm' id hid hid'

end Ids

theorem mem_taskMessages {s : PacketStore} {principalId a2aTaskId : String} {m : A2AMessage} :
    m ∈ s.taskMessages principalId a2aTaskId ↔
      s.a2aMessages.get m.key = some m ∧ m.principalId = principalId ∧
        m.a2aTaskId = a2aTaskId := by
  simp [taskMessages,List.mem_insertionSort,Table.mem_select]

section Changes

variable {rt : Runtime} {s s' : PacketStore}

/-- A cancel row after a step was there before with the same request, or the step
inserted it for a message of the task. -/
theorem gatewayChange_cancel (h : GatewayChange rt s s') {k : String × String} {d' : A2ADispatch}
    (hd : s'.a2aDispatches.get k = some d') (hkind : d'.kind = .cancel) :
    (∃ d, s.a2aDispatches.get k = some d ∧ d'.intent = d.intent) ∨
      ∃ task draws now, CancelStep rt task draws now s s' ∧ d'.principalId = task.principalId ∧
        d'.a2aTaskId = task.a2aTaskId ∧
        ∃ target ∈ s.taskMessages task.principalId task.a2aTaskId, ∃ drawn,
          cancelDispatch rt task target.anetTaskId drawn now = .ok d' := by
  have hinsert {r : A2ADispatch} (hrequest : r.kind = .request)
      (hins : s.a2aDispatches.insert r = some s'.a2aDispatches) :
      s.a2aDispatches.get k = some d' := by
    rw [Table.get_insert hins] at hd
    split at hd
    · cases hd
      rw [hrequest] at hkind
      cases hkind
    · exact hd
  cases h with
  | worker h =>
    obtain ⟨f,hget,hf⟩ := h.dispatches
    rw [hget] at hd
    obtain ⟨d,hold,rfl⟩ := Option.map_eq_some_iff.mp hd
    exact Or.inl ⟨d,hold,(hf k d hold).intent⟩
  | principal h =>
    rw [h.rest] at hd
    exact Or.inl ⟨d',hd,rfl⟩
  | repeated intent drawn now message task h =>
    rcases Table.insertOrIgnore_cases s.a2aDispatches
      (intent.dispatchRow task.destinationPeerId drawn now) with hkeep | hins
    · rw [h.next] at hd
      change (s.a2aDispatches.insertOrIgnore _).get k = some d' at hd
      rw [hkeep] at hd
      exact Or.inl ⟨d',hd,rfl⟩
    · have hsame : s'.a2aDispatches = s.a2aDispatches.insertOrIgnore
          (intent.dispatchRow task.destinationPeerId drawn now) := by rw [h.next]
      rw [← hsame] at hins
      exact Or.inl ⟨d',hinsert rfl hins,rfl⟩
  | registered registration drawnTask intent drawn now base hintent h =>
    exact Or.inl ⟨d',hinsert rfl h.dispatches,rfl⟩
  | canceled task draws now h =>
    rcases (insertCancels_spec h.dispatches).2.1 k d' hd with hold | ⟨-,m,hm,drawn,hnew⟩
    · exact Or.inl ⟨d',hold,rfl⟩
    · obtain ⟨id,body,-,-,-,hprincipal,-,htask,-⟩ := cancelDispatch_spec hnew
      exact Or.inr ⟨task,draws,now,h,hprincipal,htask,m,hm,drawn,hnew⟩
  | appended task source events records log now h =>
    rw [h.rest] at hd
    exact Or.inl ⟨d',hd,rfl⟩
  | dispatched dispatch packet now h =>
    rw [h.dispatches] at hd
    split at hd
    · rename_i hk
      cases hd
      rw [hk]
      exact Or.inl ⟨dispatch,h.known,rfl⟩
    · exact Or.inl ⟨d',hd,rfl⟩

/-- Where the cancel state of a task comes from. -/
theorem gatewayChange_phase (h : GatewayChange rt s s') {k : String × String} {t' : A2ATask}
    (ht : s'.a2aTasks.get k = some t') :
    (∃ t, s.a2aTasks.get k = some t ∧ t'.cancelState = t.cancelState ∧ t'.state = t.state) ∨
      (s.a2aTasks.get k = none ∧ t'.cancelState = .none) ∨
      (∃ t draws now, s.a2aTasks.get k = some t ∧ CancelStep rt t draws now s s' ∧
        t' = t.requestCancel now) ∨
      (∃ t source events records log now, s.a2aTasks.get k = some t ∧
        AppendStep rt t source events records log now s s' ∧ log.appended ≠ 0 ∧
        t' = t.advance log.state log.sequence (A2ATask.settledCancel t.cancelState log.state)
          now) ∨
      ∃ t, s.a2aTasks.get k = some t ∧ t.cancelState = .requested ∧
        t'.cancelState = .dispatched ∧ pendingCancels s'.a2aDispatches k.1 k.2 = 0 := by
  have hsame (hget : s.a2aTasks.get k = some t') : ∃ t, s.a2aTasks.get k = some t ∧
      t'.cancelState = t.cancelState ∧ t'.state = t.state := ⟨t',hget,rfl,rfl⟩
  cases h with
  | worker h => exact Or.inl (hsame (by rw [← h.tasks]; exact ht))
  | principal h =>
    rw [h.rest] at ht
    exact Or.inl (hsame ht)
  | repeated intent drawn now message task h =>
    rw [h.next] at ht
    exact Or.inl (hsame ht)
  | registered registration drawnTask intent drawn now base hintent h =>
    rw [h.tasks] at ht
    split at ht
    · rename_i hk
      cases ht
      rcases h.joins.found with hfound | ⟨hnone,hbase,-⟩
      · exact Or.inl ⟨base,by rw [hk]; exact hfound,rfl,rfl⟩
      · exact Or.inr (Or.inl ⟨by rw [hk]; exact hnone,by rw [hbase]; rfl⟩)
    · exact Or.inl (hsame ht)
  | canceled task draws now h =>
    have hget := ht
    rw [h.tasks] at hget
    split at hget
    · rename_i hk
      cases hget
      exact Or.inr (Or.inr (Or.inl ⟨task,draws,now,by rw [hk]; exact h.known,h,rfl⟩))
    · exact Or.inl (hsame hget)
  | appended task source events records log now h =>
    have hget := ht
    rw [h.tasks] at hget
    split at hget
    · rename_i hk
      cases hget
      exact Or.inr (Or.inr (Or.inr (Or.inl ⟨task,source,events,records,log,now,
        by rw [hk.1]; exact h.known,h,hk.2,rfl⟩)))
    · exact Or.inl (hsame hget)
  | dispatched dispatch packet now h =>
    rw [h.tasks,get_dispatchCancellation] at ht
    obtain ⟨t,hold,rfl⟩ := Option.map_eq_some_iff.mp ht
    have hkey := Table.get_key hold
    split
    · rename_i hlast
      obtain ⟨⟨-,hzero⟩,hprincipal,htask,hrequested⟩ := hlast
      refine Or.inr (Or.inr (Or.inr (Or.inr ⟨t,hold,hrequested,rfl,?_⟩)))
      rw [← hkey,A2ATask.key,hprincipal,htask]
      exact hzero
    · exact Or.inl ⟨t,hold,rfl,rfl⟩

/-- The fields that identify a task do not change. -/
theorem gatewayChange_named (h : GatewayChange rt s s') {k : String × String} {t t' : A2ATask}
    (ht : s.a2aTasks.get k = some t) (ht' : s'.a2aTasks.get k = some t') :
    t'.principalId = t.principalId ∧ t'.a2aTaskId = t.a2aTaskId ∧
      t'.destinationPeerId = t.destinationPeerId ∧ t'.protocolVersion = t.protocolVersion := by
  obtain ⟨t₁,ht₁,hshape⟩ := gatewayChange_tasks h ht
  rw [ht'] at ht₁
  obtain rfl := Option.some.inj ht₁
  have hkey : t'.key = t.key := (Table.get_key ht').trans (Table.get_key ht).symm
  simp only [A2ATask.shape,Prod.mk.injEq] at hshape
  simp only [A2ATask.key,Prod.mk.injEq] at hkey
  exact ⟨hkey.1,hkey.2,hshape.2.1,hshape.2.2.2.2⟩

theorem taskTargets_grow (h : GatewayChange rt s s') (principalId a2aTaskId : String) :
    taskTargets s principalId a2aTaskId ⊆ taskTargets s' principalId a2aTaskId := by
  rintro x ⟨m,hm,htask,htarget⟩
  obtain ⟨m',hm',hbinding⟩ := gatewayChange_messages h hm
  simp only [A2AMessage.binding,Prod.mk.injEq] at hbinding
  exact ⟨m',hm',hbinding.1.trans htask,hbinding.2.1.trans htarget⟩

/-- A message a step adds to a task leaves the task uncanceled. -/
theorem taskTargets_back (h : GatewayChange rt s s') {k : String × String} {x : String × String}
    (hx : x ∈ taskTargets s' k.1 k.2) : x ∈ taskTargets s k.1 k.2 ∨
      ∃ t', s'.a2aTasks.get k = some t' ∧ t'.cancelState = .none := by
  obtain ⟨m',hm',htask,htarget⟩ := hx
  rcases gatewayChange_message h hm' with ⟨m,hm,hbinding⟩ |
    ⟨registration,drawnTask,intent,drawn,now,base,-,hstep,rfl⟩
  · simp only [A2AMessage.binding,Prod.mk.injEq] at hbinding
    exact Or.inl ⟨m,hm,hbinding.1.symm.trans htask,hbinding.2.1.symm.trans htarget⟩
  · have hkey := Table.get_key hm'
    simp only [A2AMessage.key,A2AIntent.messageRow,Prod.mk.injEq] at hkey htask
    refine Or.inr ⟨base.follow intent.anetTaskId now,?_,hstep.joins.uncanceled⟩
    rw [hstep.tasks,hkey.1,htask]
    exact if_pos rfl

theorem taskCancels_grow (h : GatewayChange rt s s') (principalId a2aTaskId : String) :
    taskCancels s principalId a2aTaskId ⊆ taskCancels s' principalId a2aTaskId := by
  rintro i ⟨k,d,hd,hprincipal,htask,hkind,rfl⟩
  obtain ⟨d',hd',hintent,-⟩ := gatewayChange_kept h hd
  have hfields := hintent
  simp only [A2ADispatch.intent,Prod.mk.injEq] at hfields
  exact ⟨k,d',hd',hfields.1.trans hprincipal,hfields.2.2.1.trans htask,
    hfields.2.2.2.2.2.1.trans hkind,hintent⟩

/-- A cancel dispatch a step adds comes from the first cancel request of the task, for
one of its messages. -/
theorem taskCancels_back (h : GatewayChange rt s s') {k : String × String}
    {i : String × String × String × String × String × DispatchKind × Bytes}
    (hi : i ∈ taskCancels s' k.1 k.2) : i ∈ taskCancels s k.1 k.2 ∨
      ∃ task draws now, CancelStep rt task draws now s s' ∧ task.key = k ∧
        ∃ x ∈ taskTargets s k.1 k.2, Cancels rt task x i := by
  obtain ⟨k',d',hd',hprincipal,htask,hkind,rfl⟩ := hi
  rcases gatewayChange_cancel h hd' hkind with ⟨d,hd,hintent⟩ |
    ⟨task,draws,now,hstep,hprincipal',htask',m,hm,drawn,hnew⟩
  · have hfields := hintent
    simp only [A2ADispatch.intent,Prod.mk.injEq] at hfields
    exact Or.inl ⟨k',d,hd,hfields.1.symm.trans hprincipal,hfields.2.2.1.symm.trans htask,
      hfields.2.2.2.2.2.1.symm.trans hkind,hintent.symm⟩
  · have hkey : task.key = k := by
      rw [A2ATask.key,← hprincipal',← htask',hprincipal,htask]
    obtain ⟨id,body,hid,hbody,hraw,-,hmessage,-,hanet,hdest,-⟩ := cancelDispatch_spec hnew
    obtain ⟨hrow,hof⟩ := mem_taskMessages.mp hm
    refine Or.inr ⟨task,draws,now,hstep,hkey,(m.messageId,m.anetTaskId),
      ⟨m,?_,?_,rfl⟩,id,body,d'.body,hid,hbody,hraw,?_⟩
    · rw [← hprincipal,hprincipal',← hof.1]
      exact hrow
    · rw [hof.2,← htask',htask]
    · rw [A2ADispatch.intent,hprincipal',hmessage,htask',hanet,hdest,hkind]

end Changes
section Steps

variable {rt : Runtime} {s s' : PacketStore}

theorem Cancels.congr {t t' : A2ATask} {x : String × String}
    {i : String × String × String × String × String × DispatchKind × Bytes}
    (hprincipal : t'.principalId = t.principalId) (htask : t'.a2aTaskId = t.a2aTaskId)
    (hdest : t'.destinationPeerId = t.destinationPeerId) (h : Cancels rt t x i) :
    Cancels rt t' x i := by
  rw [Cancels,hprincipal,htask,hdest]
  exact h

theorem settledCancel_none {phase : CancelPhase} {state : ReportState} :
    A2ATask.settledCancel phase state = .none ↔ phase = .none := by
  unfold A2ATask.settledCancel
  cases phase <;> cases state <;> simp [ReportState.terminal]

/-- A task with a cancellation had it before the step, or the step requests it. -/
theorem phase_origin (h : GatewayChange rt s s') {k : String × String} {t' : A2ATask}
    (ht : s'.a2aTasks.get k = some t') (hcancel : t'.cancelState ≠ .none) :
    (∃ t, s.a2aTasks.get k = some t ∧ t.cancelState ≠ .none) ∨
      ∃ t draws now, s.a2aTasks.get k = some t ∧ CancelStep rt t draws now s s' ∧
        t' = t.requestCancel now := by
  rcases gatewayChange_phase h ht with ⟨t,hold,hsame,-⟩ | ⟨-,hnone⟩ | hstep |
    ⟨t,_,_,_,log,now,hold,-,-,rfl⟩ | ⟨t,hold,hrequested,-⟩
  · exact Or.inl ⟨t,hold,by rw [← hsame]; exact hcancel⟩
  · exact absurd hnone hcancel
  · exact Or.inr hstep
  · exact Or.inl ⟨t,hold,fun hnone => hcancel (settledCancel_none.mpr hnone)⟩
  · exact Or.inl ⟨t,hold,by simp [hrequested]⟩

theorem phase_kept (h : GatewayChange rt s s') {k : String × String} {t t' : A2ATask}
    (ht : s.a2aTasks.get k = some t) (ht' : s'.a2aTasks.get k = some t')
    (hcancel : t.cancelState ≠ .none) : t'.cancelState ≠ .none := by
  rcases gatewayChange_phase h ht' with ⟨t₁,hold,hsame,-⟩ | ⟨hnone,-⟩ | ⟨t₁,_,_,-,-,rfl⟩ |
    ⟨t₁,_,_,_,log,now,hold,-,-,rfl⟩ | ⟨t₁,-,-,hdispatched,-⟩
  · rw [ht] at hold
    obtain rfl := Option.some.inj hold
    rw [hsame]
    exact hcancel
  · rw [ht] at hnone
    cases hnone
  · simp [A2ATask.requestCancel]
  · rw [ht] at hold
    obtain rfl := Option.some.inj hold
    exact fun hnone => hcancel (settledCancel_none.mp hnone)
  · simp [hdispatched]

/-- The messages and the cancel dispatches of a canceled task do not change. -/
theorem canceled_frozen (h : GatewayChange rt s s') {k : String × String} {t t' : A2ATask}
    (ht : s.a2aTasks.get k = some t) (ht' : s'.a2aTasks.get k = some t')
    (hcancel : t.cancelState ≠ .none) : taskTargets s' k.1 k.2 = taskTargets s k.1 k.2 ∧
      taskCancels s' k.1 k.2 = taskCancels s k.1 k.2 := by
  constructor
  · refine Set.Subset.antisymm (fun x hx => ?_) (taskTargets_grow h _ _)
    rcases taskTargets_back h hx with hold | ⟨t₁,ht₁,hnone⟩
    · exact hold
    · rw [ht'] at ht₁
      obtain rfl := Option.some.inj ht₁
      exact absurd hnone (phase_kept h ht ht' hcancel)
  · refine Set.Subset.antisymm (fun i hi => ?_) (taskCancels_grow h _ _)
    rcases taskCancels_back h hi with hold | ⟨task,draws,now,hstep,rfl,-⟩
    · exact hold
    · have hknown := hstep.known
      rw [ht] at hknown
      obtain rfl := Option.some.inj hknown
      exact absurd hstep.uncanceled hcancel

/-- The first cancel request makes a dispatch for every message, each under ids of its own. -/
theorem cancelStep_coverage {t : A2ATask} {draws : ℕ → Token} {now : ℤ}
    (hquiet : taskCancels s t.principalId t.a2aTaskId = ∅)
    (hstep : CancelStep rt t draws now s s') :
    Coverage rt (t.requestCancel now) (taskTargets s' t.principalId t.a2aTaskId)
      (taskCancels s' t.principalId t.a2aTaskId) := by
  have htargets : taskTargets s' t.principalId t.a2aTaskId =
      taskTargets s t.principalId t.a2aTaskId := by
    rw [hstep.rest]
    rfl
  obtain ⟨-,-,hmade⟩ := insertCancels_spec hstep.dispatches
  have hmessage {x : String × String} (hx : x ∈ taskTargets s t.principalId t.a2aTaskId) :
      ∃ m ∈ s.taskMessages t.principalId t.a2aTaskId, m.messageId = x.1 ∧ m.anetTaskId = x.2 := by
    obtain ⟨m,hm,htask,htarget⟩ := hx
    have hkey := Table.get_key hm
    simp only [A2AMessage.key,Prod.mk.injEq] at hkey
    refine ⟨m,mem_taskMessages.mpr ⟨?_,hkey.1,htask⟩,hkey.2,htarget⟩
    rw [A2AMessage.key,hkey.1,hkey.2]
    exact hm
  have hcan : ∀ m ∈ s.taskMessages t.principalId t.a2aTaskId, Cancelable rt t m.anetTaskId := by
    intro m hm
    obtain ⟨drawn,d,hd,-⟩ := hmade m hm
    obtain ⟨id,body,hid,hbody,hraw,-⟩ := cancelDispatch_spec hd
    exact ⟨id,body,d.body,hid,hbody,hraw⟩
  refine ⟨fun hnone => ?_,fun _ x hx => ?_,fun _ i hi => ?_,fun _ x hx y hy i hxi hyi => ?_⟩
  · simp [A2ATask.requestCancel] at hnone
  · rw [htargets] at hx
    obtain ⟨m,hm,-,htarget⟩ := hmessage hx
    obtain ⟨drawn,d,hd,hget⟩ := hmade m hm
    obtain ⟨id,body,hid,hbody,hraw,hprincipal,hmsg,htask,hanet,hdest,hkind,-⟩ :=
      cancelDispatch_spec hd
    refine ⟨d.intent,⟨d.key,d,hget,hprincipal,htask,hkind,rfl⟩,id,body,d.body,?_,?_,hraw,?_⟩
    · rw [← htarget]
      exact hid
    · rw [← htarget]
      exact hbody
    · rw [A2ADispatch.intent,hprincipal,hmsg,htask,hanet,hdest,hkind]
      rfl
  · have hchange : GatewayChange rt s s' := .canceled t draws now hstep
    rcases taskCancels_back (k := t.key) hchange hi with hold | ⟨task,_,_,hstep',hkey,x,hx,hxi⟩
    · rw [A2ATask.key,hquiet] at hold
      exact absurd hold (Set.notMem_empty i)
    · have hknown := hstep'.known
      rw [hkey,hstep.known] at hknown
      obtain rfl := Option.some.inj hknown
      exact ⟨x,by rw [htargets]; exact hx,hxi⟩
  · rw [htargets] at hx hy
    obtain ⟨m,hm,hmx,hmx'⟩ := hmessage hx
    obtain ⟨m',hm',hmy,hmy'⟩ := hmessage hy
    obtain ⟨-,hpair⟩ := (insertCancels_iff hcan).mp ⟨_,hstep.dispatches⟩
    obtain ⟨id,_,_,hid,-,-,rfl⟩ := hxi
    obtain ⟨id',_,_,hid',-,-,hsame⟩ := hyi
    simp only [Prod.mk.injEq] at hsame
    have hids : id = id' := hsame.2.2.2.1
    have hrows : m = m' := by
      by_contra hne
      have : Std.Symm fun a b : A2AMessage => ∀ id,
          cancelId rt t.principalId t.a2aTaskId a.anetTaskId = .ok id →
            cancelId rt t.principalId t.a2aTaskId b.anetTaskId ≠ .ok id :=
        ⟨fun _ _ hab id hb ha => hab id ha hb⟩
      refine hpair.forall hm hm' hne id ?_ ?_
      · rw [hmx']
        exact hid
      · rw [hmy',hids]
        exact hid'
    rw [← hrows] at hmy hmy'
    exact Prod.ext (hmx.symm.trans hmy) (hmx'.symm.trans hmy')

theorem coverage_step (hs : CancelSound rt s) (h : GatewayChange rt s s')
    {k : String × String} {t' : A2ATask} (ht' : s'.a2aTasks.get k = some t') :
    Coverage rt t' (taskTargets s' k.1 k.2) (taskCancels s' k.1 k.2) := by
  by_cases hcancel : t'.cancelState = .none
  · -- no cancellation yet, so none before: every cancel dispatch would need one
    refine ⟨fun _ => Set.eq_empty_of_forall_notMem fun i hi => ?_,fun hne => absurd hcancel hne,
      fun hne => absurd hcancel hne,fun hne => absurd hcancel hne⟩
    rcases taskCancels_back h hi with hold | ⟨task,draws,now,hstep,rfl,-⟩
    · have hmem := hold
      obtain ⟨k',d,hd,hprincipal,htask,-⟩ := hmem
      obtain ⟨t,ht,-⟩ := hs.outbox.task k' d hd
      rw [hprincipal,htask] at ht
      have hnone : t.cancelState = .none := by
        by_contra hne
        exact phase_kept h ht ht' hne hcancel
      have hempty := (hs.coverage k t ht).quiet hnone
      rw [hempty] at hold
      exact absurd hold (Set.notMem_empty i)
    · rw [hstep.tasks,if_pos rfl] at ht'
      cases ht'
      cases hcancel
  · rcases phase_origin h ht' hcancel with ⟨t,ht,hold⟩ | ⟨t,draws,now,ht,hstep,rfl⟩
    · obtain ⟨htargets,hcancels⟩ := canceled_frozen h ht ht' hold
      obtain ⟨hprincipal,htask,hdest,-⟩ := gatewayChange_named h ht ht'
      have hcov := hs.coverage k t ht
      rw [htargets,hcancels]
      have hto {x i} (hxi : Cancels rt t x i) : Cancels rt t' x i :=
        hxi.congr hprincipal htask hdest
      have hfrom {x i} (hxi : Cancels rt t' x i) : Cancels rt t x i :=
        hxi.congr hprincipal.symm htask.symm hdest.symm
      refine ⟨fun hne => absurd hne hcancel,fun _ x hx => ?_,fun _ i hi => ?_,
        fun _ x hx y hy i hxi hyi => hcov.single hold x hx y hy i (hfrom hxi) (hfrom hyi)⟩
      · obtain ⟨i,hi,hxi⟩ := hcov.covered hold x hx
        exact ⟨i,hi,hto hxi⟩
      · obtain ⟨x,hx,hxi⟩ := hcov.justified hold i hi
        exact ⟨x,hx,hto hxi⟩
    · have hquiet := (hs.coverage k t ht).quiet hstep.uncanceled
      have hkey : t.key = k := Table.get_key ht
      subst hkey
      exact cancelStep_coverage hquiet hstep

theorem phase_step (hs : CancelSound rt s) (h : GatewayChange rt s s') {k : String × String}
    {t' : A2ATask} (ht' : s'.a2aTasks.get k = some t') : PhaseSound s' t' := by
  have hkey := Table.get_key ht'
  -- the cancel dispatches of a task that was canceled before are those it had
  have hrows {t : A2ATask} (ht : s.a2aTasks.get k = some t) (hcancel : t.cancelState ≠ .none)
      {k' : String × String} {d' : A2ADispatch} (hd : s'.a2aDispatches.get k' = some d')
      (hprincipal : d'.principalId = t'.principalId) (htask : d'.a2aTaskId = t'.a2aTaskId)
      (hkind : d'.kind = .cancel) : ∃ d, s.a2aDispatches.get k' = some d ∧
        d'.intent = d.intent := by
    rcases gatewayChange_cancel h hd hkind with hold |
      ⟨task,draws,now,hstep,hprincipal',htask',-⟩
    · exact hold
    · have hsame : task.key = k := by
        rw [← hkey,A2ATask.key,A2ATask.key,← hprincipal',← htask',hprincipal,htask]
      have hknown := hstep.known
      rw [hsame,ht] at hknown
      obtain rfl := Option.some.inj hknown
      exact absurd hstep.uncanceled hcancel
  have hdone {t : A2ATask} (ht : s.a2aTasks.get k = some t) (hold : t.cancelState = .dispatched) :
      ∀ k' d', s'.a2aDispatches.get k' = some d' → d'.principalId = t'.principalId →
        d'.a2aTaskId = t'.a2aTaskId → d'.kind = .cancel → d'.state = .dispatched := by
    intro k' d' hd hprincipal htask hkind
    obtain ⟨d,hget,hintent⟩ := hrows ht (by simp [hold]) hd hprincipal htask hkind
    obtain ⟨hp,ht₁,-,-⟩ := gatewayChange_named h ht ht'
    have hfields := hintent
    simp only [A2ADispatch.intent,Prod.mk.injEq] at hfields
    have hsettled := (hs.phase k t ht).dispatched hold k' d hget
      (hfields.1.symm.trans (hprincipal.trans hp)) (hfields.2.2.1.symm.trans (htask.trans ht₁))
      (hfields.2.2.2.2.2.1.symm.trans hkind)
    obtain ⟨d₁,hd₁,-,hsame⟩ := gatewayChange_kept h hget
    rw [hsame hsettled,hd] at hd₁
    rw [Option.some.inj hd₁]
    exact hsettled
  rcases gatewayChange_phase h ht' with ⟨t,ht,hsame,hstate⟩ | ⟨-,hnone⟩ | ⟨t,_,_,-,-,rfl⟩ |
    ⟨t,source,events,records,log,now,ht,hstep,happended,rfl⟩ | ⟨t,ht,hrequested,hdispatched,hzero⟩
  · have hphase := hs.phase k t ht
    refine ⟨fun hd => hdone ht (by rw [← hsame]; exact hd),?_,?_⟩
    · rw [hsame,hstate]
      exact hphase.confirmed
    · rw [hsame,hstate]
      exact hphase.tooLate
  · refine ⟨?_,?_,?_⟩ <;> simp [hnone]
  · refine ⟨?_,?_,?_⟩ <;> simp [A2ATask.requestCancel]
  · have hphase := hs.phase k t ht
    have hlive : ¬ t.state.terminal := fun hterm =>
      happended (appendRecords_terminal hterm hstep.looped)
    have hunsettled : t.cancelState ≠ .confirmed ∧ t.cancelState ≠ .tooLate := by
      refine ⟨fun hc => hlive ?_,fun hc => hlive (hphase.tooLate hc).1⟩
      rw [hphase.confirmed hc]
      rfl
    refine ⟨fun hd => hdone ht ?_,fun hc => ?_,fun hc => ?_⟩ <;>
      simp only [A2ATask.advance,A2ATask.settledCancel] at *
    · split_ifs at hd
      exact hd
    · split_ifs at hc with h₁ h₂ h₃
      · exact h₂
      · exact absurd hc hunsettled.1
    · split_ifs at hc with h₁ h₂ h₃
      · exact ⟨h₃,h₂⟩
      · exact absurd hc hunsettled.2
  · refine ⟨fun _ k' d' hd hprincipal htask hkind => ?_,?_,?_⟩
    · by_contra hne
      refine Table.count_eq_zero.mp hzero d' (Table.get_eq_some.mp hd).1 ⟨?_,?_,hkind,hne⟩
      · rw [hprincipal,← hkey]
        rfl
      · rw [htask,← hkey]
        rfl
    · simp [hdispatched]
    · simp [hdispatched]

theorem named_step (hs : CancelSound rt s) (h : GatewayChange rt s s') {k : String × String}
    {t' : A2ATask} (ht' : s'.a2aTasks.get k = some t') : TaskNamed s' t' := by
  cases ht : s.a2aTasks.get k with
  | some t =>
    obtain ⟨hprincipal,htask,-,hversion⟩ := gatewayChange_named h ht ht'
    have hnamed := hs.named k t ht
    refine ⟨?_,by rw [hversion]; exact hnamed.version,?_⟩
    · rw [hprincipal,htask]
      exact hnamed.ids
    · rw [hprincipal,htask]
      exact hnamed.begun.mono (taskTargets_grow h _ _)
  | none =>
    obtain ⟨registration,_,intent,drawn,now,base,hintent,hstep,rfl,rfl⟩ :=
      gatewayChange_new h ht' ht
    obtain ⟨-,hversion,hprincipal,htask,-⟩ := registrationIntent_ids hintent
    refine ⟨⟨registration.principalId,registration.a2aTaskId,hprincipal,htask⟩,hversion,
      (intent.messageId,intent.anetTaskId),intent.messageRow now,?_,rfl,rfl⟩
    exact (Table.get_insert hstep.messages _).trans (if_pos rfl)

theorem cancelSound_empty : CancelSound rt .empty where
  outbox := outbox_empty
  named _ _ ht := by cases ht
  targets _ _ hm := by cases hm
  coverage _ _ ht := by cases ht
  phase _ _ ht := by cases ht

theorem cancelSound_step (hs : CancelSound rt s) (h : GatewayStep rt s s') :
    CancelSound rt s' where
  outbox := outbox_step hs.outbox h
  named _ _ ht := named_step hs (gatewayStep_change h) ht
  targets k m hm := by
    rcases gatewayChange_message (gatewayStep_change h) hm with ⟨m₀,hold,hbinding⟩ |
      ⟨_,_,intent,_,_,_,hintent,-,rfl⟩
    · simp only [A2AMessage.binding,Prod.mk.injEq] at hbinding
      rw [hbinding.2.1]
      exact hs.targets k m₀ hold
    · exact (registrationIntent_ids hintent).1
  coverage _ _ ht := coverage_step hs (gatewayStep_change h) ht
  phase _ _ ht := phase_step hs (gatewayStep_change h) ht

theorem run_cancelSound (h : Reaches (GatewayStep rt) .empty s) : CancelSound rt s :=
  Reaches.invariant (I := CancelSound rt) (fun _ _ hs hstep => cancelSound_step hs hstep)
    cancelSound_empty h

end Steps
section Requests

variable {rt : Runtime} {s s' : PacketStore}

theorem taskCancel_ok {target : String} (h : taskId target = .ok target) :
    taskCancel target cancelReason = .ok ⟨target,strip cancelReason⟩ := by
  have hreason : strip cancelReason ≠ "" ∧
      ¬ (strip cancelReason).toList.length > maxMessageChars := by decide
  simp only [taskCancel,bind_ok,raiseIf_ok]
  exact ⟨(),hreason.1,(),hreason.2,target,h,rfl⟩

/-- Every cancel dispatch of a named task can be made: its ids and texts are short. -/
theorem cancelable_named (hpack : PacksFlat rt) {t : A2ATask} (hnamed : TaskNamed s t)
    {target : String} (htarget : taskId target = .ok target) : Cancelable rt t target := by
  obtain ⟨principalId,a2aTaskId,hprincipal,htask⟩ := hnamed.ids
  have hlong (s : String) (h : s.toList.length ≤ 1024) : (Value.str s).fits := by
    have hle := utf8_length_le s
    simp only [Value.fits,decide_eq_true_eq]
    omega
  have hp : (Value.str t.principalId).fits := by
    refine hlong _ ?_
    rw [hprincipal]
    have hle := matchesWord_length principalId.valid
    omega
  have ha : (Value.str t.a2aTaskId).fits := by
    refine hlong _ ?_
    have hplain := a2aTaskId.plain
    simp only [isPlainText,Bool.and_eq_true,decide_eq_true_eq] at hplain
    rw [htask]
    exact hplain.1
  have ht : (Value.str target).fits := by
    refine hlong _ ?_
    have hhex := taskId_hex htarget
    simp only [isHex,Bool.and_eq_true,decide_eq_true_eq] at hhex
    omega
  obtain ⟨packed,hpacked⟩ := hpack (.list [.str t.principalId,.str t.a2aTaskId,.str target])
    (by simp [Value.fits,itemsFit] at hp ha ht ⊢; exact ⟨hp,ha,ht⟩) (by rfl)
  have hfits : (TaskCancel.toValue ⟨target,strip cancelReason⟩).fits := by
    have hwords : (Value.str "protocol").fits ∧ (Value.str agentProtocol).fits ∧
        (Value.str "version").fits ∧ (Value.int agentProtocolVersion).fits ∧
        (Value.str "task_id").fits ∧ (Value.str "reason").fits ∧
        (Value.str (strip cancelReason)).fits := by decide
    obtain ⟨h₁,h₂,h₃,h₄,h₅,h₆,h₇⟩ := hwords
    rw [TaskCancel.toValue,Value.fits]
    simp only [baseEntries,List.cons_append,List.nil_append,entriesFit,Bool.and_eq_true]
    exact ⟨by simp,⟨h₁,h₂⟩,⟨h₃,h₄⟩,⟨h₅,ht⟩,⟨h₆,h₇⟩,trivial⟩
  obtain ⟨raw,hraw⟩ := hpack _ hfits (by rfl)
  refine ⟨rt.blake2s "a2acxl1" 16 packed,_,raw,?_,taskCancel_ok htarget,hraw⟩
  have hcanonical : rt.canonicalPack (.list [.str t.principalId,.str t.a2aTaskId,.str target]) =
      .ok packed := by
    simpa [Runtime.canonicalPack,Value.canonical,canonicalItems] using hpacked
  simp only [cancelId,hcanonical,bind,Except.bind,pure,Except.pure]

/-- The ids that a cancellation of the task derives are free and different. -/
structure CancelIdsFree (rt : Runtime) (s : PacketStore) (t : A2ATask) : Prop where
  free : ∀ m ∈ s.taskMessages t.principalId t.a2aTaskId, ∀ id,
    cancelId rt t.principalId t.a2aTaskId m.anetTaskId = .ok id →
      IdFree s.a2aDispatches t.principalId id
  distinct : ∀ m ∈ s.taskMessages t.principalId t.a2aTaskId,
    ∀ m' ∈ s.taskMessages t.principalId t.a2aTaskId, ∀ id,
      cancelId rt t.principalId t.a2aTaskId m.anetTaskId = .ok id →
        cancelId rt t.principalId t.a2aTaskId m'.anetTaskId = .ok id → m = m'

theorem taskMessages_nodup (s : PacketStore) (principalId a2aTaskId : String) :
    (s.taskMessages principalId a2aTaskId).Nodup := by
  have hrows : s.a2aMessages.rows.Nodup := s.a2aMessages.keys.of_map
  exact (List.perm_insertionSort _ _).nodup_iff.mpr (hrows.filter _)

theorem insertCancels_free {t : A2ATask} (draws : ℕ → Token) (now : ℤ)
    (hcan : ∀ m ∈ s.taskMessages t.principalId t.a2aTaskId, Cancelable rt t m.anetTaskId) :
    (∃ t', insertCancels rt t now (s.taskMessages t.principalId t.a2aTaskId) draws
      s.a2aDispatches = .ok t') ↔ CancelIdsFree rt s t := by
  rw [insertCancels_iff hcan]
  constructor
  · rintro ⟨hfree,hpair⟩
    refine ⟨hfree,fun m hm m' hm' id hid hid' => ?_⟩
    by_contra hne
    have : Std.Symm fun a b : A2AMessage => ∀ id,
        cancelId rt t.principalId t.a2aTaskId a.anetTaskId = .ok id →
          cancelId rt t.principalId t.a2aTaskId b.anetTaskId ≠ .ok id :=
      ⟨fun _ _ hab id hb ha => hab id ha hb⟩
    exact hpair.forall hm hm' hne id hid hid'
  · rintro ⟨hfree,hdistinct⟩
    refine ⟨hfree,(taskMessages_nodup s _ _).pairwise_of_forall_ne ?_⟩
    exact fun m hm m' hm' hne id hid hid' => hne (hdistinct m hm m' hm' id hid hid')

/-- A cancel request for the task, in the form the gateway accepts. -/
structure CancelRequestFor (rt : Runtime) (t : A2ATask) (entries : List (Value × Value)) :
    Prop where
  known : unknownFields entries ["tenant","id","metadata"] = []
  id : strip (rt.str (Value.fieldOr entries "id" (.str ""))) = t.a2aTaskId
  json : ∃ copy metadata, jsonClone rt "A2A CancelTaskRequest" (.map entries) = .ok (.map copy) ∧
    rt.str (Value.fieldOr copy "tenant" (.str "")) = t.tenant ∧
    requiredString "A2A task ID" maxIdChars (Value.fieldOr copy "id" .nil) = .ok t.a2aTaskId ∧
    jsonMap rt "A2A CancelTaskRequest.metadata" (Value.fieldOr copy "metadata" .nil) =
      .ok metadata

theorem cancelTarget_ok {t : A2ATask} {r : A2APrincipal} {entries : List (Value × Value)}
    (hnamed : TaskNamed s t) (ht : s.a2aTasks.get t.key = some t)
    (hr : s.a2aPrincipals.get t.principalId = some r) (hrequest : CancelRequestFor rt t entries) :
    s.cancelTarget rt t.principalId (.map entries) = .ok ⟨t,r.senderNodeId⟩ := by
  obtain ⟨_,a2aTaskId,-,htask⟩ := hnamed.ids
  have hid : a2aExternalId "A2A task ID" t.a2aTaskId = .ok a2aTaskId := by
    rw [a2aExternalId,htask,dif_pos]
    · congr 1
      cases a2aTaskId
      simp_all
    · rw [a2aTaskId.trimmed]
      exact ⟨a2aTaskId.nonempty,a2aTaskId.plain⟩
  unfold cancelTarget
  simp only [hrequest.id,bind_ok,fetched_ok]
  exact ⟨a2aTaskId,hid,t,by rw [← htask]; exact ht,r,hr,rfl⟩

theorem normalizeCancel_ok (sender : String) {t : A2ATask} {entries : List (Value × Value)}
    (hnamed : TaskNamed s t) (hlive : ¬ t.state.terminal)
    (hrequest : CancelRequestFor rt t entries) :
    ∃ c, normalizeCancelTaskRequest rt (.map entries) sender t sender = .ok c := by
  obtain ⟨copy,metadata,hcopy,htenant,hid,hmetadata⟩ := hrequest.json
  simp only [normalizeCancelTaskRequest,bind_ok,fetched_ok,raiseIf_ok]
  exact ⟨_,entries,rfl,(),by simp [hrequest.known],_,hcopy,copy,rfl,(),by simp [htenant],_,hid,(),
    by simp,(),by simp,(),by simp [hnamed.version],(),fun hterm => hlive hterm.1,_,hmetadata,rfl⟩

/-- The owner's request for a live task goes through exactly when the task has a
cancellation already or the ids a cancellation derives are free. -/
theorem cancel_succeeds_iff (hs : CancelSound rt s) (hpack : PacksFlat rt)
    {principalId : ConsumerId} {sender : A2ANodeId} {a2aTaskId : String} {t : A2ATask}
    {r : A2APrincipal} (ht : s.a2aTasks.get (principalId.val,a2aTaskId) = some t)
    (hr : s.a2aPrincipals.get principalId.val = some r) (howner : r.senderNodeId = sender.val)
    (hlive : ¬ t.state.terminal) {entries : List (Value × Value)}
    (hrequest : CancelRequestFor rt t entries) (draws : ℕ → Token) (now : ℤ) :
    (∃ result, (requestA2ATaskCancellation rt principalId (.map entries) sender draws now s).1 =
      .ok result) ↔ t.cancelState ≠ .none ∨ CancelIdsFree rt s t := by
  have hnamed := hs.named _ t ht
  have hkey := Table.get_key ht
  simp only [A2ATask.key,Prod.mk.injEq] at hkey
  obtain ⟨hprincipal,htask⟩ := hkey
  rw [← hprincipal,← htask] at ht
  rw [← hprincipal] at hr
  have htarget := cancelTarget_ok hnamed ht hr hrequest
  obtain ⟨c,hnormal⟩ := normalizeCancel_ok sender.val hnamed hlive hrequest
  have hcan : ∀ m ∈ s.taskMessages t.principalId t.a2aTaskId, Cancelable rt t m.anetTaskId := by
    intro m hm
    exact cancelable_named hpack hnamed (hs.targets _ m (mem_taskMessages.mp hm).1)
  have hbegun : s.taskMessages t.principalId t.a2aTaskId ≠ [] := by
    obtain ⟨x,m,hm,hof,-⟩ := hnamed.begun
    have hkey := Table.get_key hm
    simp only [A2AMessage.key,Prod.mk.injEq] at hkey
    refine List.ne_nil_of_mem (mem_taskMessages.mpr ⟨?_,hkey.1,hof⟩)
    rw [A2AMessage.key,hkey.1,hkey.2]
    exact hm
  rw [← insertCancels_free draws now hcan]
  have hrun : (∃ result, (requestA2ATaskCancellation rt principalId (.map entries) sender draws
      now s).1 = .ok result) ↔ ∃ result s', requestCancellation rt principalId.val (.map entries)
        sender.val draws now s = .ok (result,s') := by
    unfold requestA2ATaskCancellation
    rcases transaction_cases (requestCancellation rt principalId.val (.map entries) sender.val draws
      now) s with ⟨a,s',hb,hrun⟩ | ⟨e,hb,hrun⟩
    · rw [hrun,hb]
      simp
    · rw [hrun,hb]
      simp
  rw [hrun,← hprincipal]
  simp only [requestCancellation,bind_ok,htarget,Except.ok.injEq,raiseIf_ok]
  constructor
  · rintro ⟨result,s',_,rfl,_,-,_,-,hrest⟩
    dsimp only at hrest
    split at hrest
    · rename_i hcancel
      exact Or.inl hcancel
    · simp only [bind_ok,raiseIf_ok] at hrest
      obtain ⟨_,-,dispatches,hdispatches,-⟩ := hrest
      exact Or.inr ⟨dispatches,hdispatches⟩
  · intro h
    by_cases hcancel : t.cancelState = .none
    · obtain ⟨dispatches,hdispatches⟩ := h.resolve_left (not_not.mpr hcancel)
      have hupdated : (s.a2aTasks.update (fun r => r.key = (t.principalId,t.a2aTaskId))
          (A2ATask.requestCancel now) (fun _ => rfl) (noMarks_subset _)).get
            (t.principalId,t.a2aTaskId) = some (t.requestCancel now) := by
        refine (get_updateTask s.a2aTasks _ _ (A2ATask.requestCancel now) fun _ => rfl).trans ?_
        rw [if_pos rfl]
        exact congrArg (Option.map (A2ATask.requestCancel now)) ht
      refine ⟨?newResult,?newStore,⟨t,r.senderNodeId⟩,rfl,c,by rw [howner]; exact hnormal,(),
        by simp [howner],?first⟩
      case first =>
        rw [if_neg (not_not.mpr hcancel)]
        simp only [bind_ok,raiseIf_ok,fetched_ok]
        refine ⟨(),hbegun,dispatches,hdispatches,_,hupdated,?_⟩
        rfl
    · refine ⟨?oldResult,?oldStore,⟨t,r.senderNodeId⟩,rfl,c,by rw [howner]; exact hnormal,(),
        by simp [howner],?again⟩
      case again =>
        rw [if_pos hcancel]
        rfl

end Requests
section Claims

variable {rt : Runtime} {s s' : PacketStore}

/-- The cancel dispatch is the one for the message. -/
def Names (rt : Runtime) (t : A2ATask) (m : A2AMessage) (d : A2ADispatch) : Prop :=
  Cancels rt t (m.messageId,m.anetTaskId) d.intent

theorem mem_cancelDispatches {principalId a2aTaskId : String} {d : A2ADispatch} :
    d ∈ s.cancelDispatches principalId a2aTaskId ↔ s.a2aDispatches.get d.key = some d ∧
      d.principalId = principalId ∧ d.a2aTaskId = a2aTaskId ∧ d.kind = .cancel := by
  simp [cancelDispatches,List.mem_insertionSort,Table.mem_select]

/-- A canceled task stays canceled, with the messages it has. -/
theorem run_frozen {k : String × String} {t : A2ATask} (ht : s.a2aTasks.get k = some t)
    (hcancel : t.cancelState ≠ .none) (h : Reaches (GatewayStep rt) s s') :
    taskTargets s' k.1 k.2 = taskTargets s k.1 k.2 := by
  have hrun : (∃ t', s'.a2aTasks.get k = some t' ∧ t'.cancelState ≠ .none) ∧
      taskTargets s' k.1 k.2 = taskTargets s k.1 k.2 := by
    refine Reaches.invariant (I := fun s' => (∃ t', s'.a2aTasks.get k = some t' ∧
      t'.cancelState ≠ .none) ∧ taskTargets s' k.1 k.2 = taskTargets s k.1 k.2) ?_
        ⟨⟨t,ht,hcancel⟩,rfl⟩ h
    rintro s₁ s₂ ⟨⟨t₁,ht₁,hne⟩,hsame⟩ hstep
    have hchange := gatewayStep_change hstep
    obtain ⟨t₂,ht₂,-⟩ := gatewayChange_tasks hchange ht₁
    refine ⟨⟨t₂,ht₂,phase_kept hchange ht₁ ht₂ hne⟩,?_⟩
    rw [(canceled_frozen hchange ht₁ ht₂ hne).1,hsame]
  exact hrun.2

/-- Messages of a task are told apart by their ids. -/
theorem taskMessages_ext {principalId a2aTaskId : String} {m m' : A2AMessage}
    (hm : m ∈ s.taskMessages principalId a2aTaskId)
    (hm' : m' ∈ s.taskMessages principalId a2aTaskId) (hid : m.messageId = m'.messageId) :
    m = m' := by
  obtain ⟨hget,hprincipal,-⟩ := mem_taskMessages.mp hm
  obtain ⟨hget',hprincipal',-⟩ := mem_taskMessages.mp hm'
  rw [A2AMessage.key,hprincipal,hid,← hprincipal'] at hget
  exact Option.some.inj (hget.symm.trans hget')

theorem taskTargets_mem {principalId a2aTaskId : String} {m : A2AMessage}
    (hm : m ∈ s.taskMessages principalId a2aTaskId) :
    (m.messageId,m.anetTaskId) ∈ taskTargets s principalId a2aTaskId := by
  obtain ⟨hget,hprincipal,htask⟩ := mem_taskMessages.mp hm
  rw [A2AMessage.key,hprincipal] at hget
  exact ⟨m,hget,htask,rfl⟩

/-- Every message of a canceled task has its one cancel dispatch. -/
theorem covered_once (hs : CancelSound rt s) {t : A2ATask} (ht : t ∈ s.a2aTasks.rows)
    (hcancel : t.cancelState ≠ .none) {m : A2AMessage}
    (hm : m ∈ s.taskMessages t.principalId t.a2aTaskId) :
    ∃! d, d ∈ s.cancelDispatches t.principalId t.a2aTaskId ∧ Names rt t m d := by
  have hcov := hs.coverage _ t (Table.mem_rows.mp ht)
  obtain ⟨i,⟨k,d,hd,hprincipal,htask,hkind,rfl⟩,hnames⟩ :=
    hcov.covered hcancel _ (taskTargets_mem hm)
  have hrow : s.a2aDispatches.get d.key = some d := by
    rw [Table.get_key hd]
    exact hd
  refine ⟨d,⟨mem_cancelDispatches.mpr ⟨hrow,hprincipal,htask,hkind⟩,hnames⟩,?_⟩
  rintro d' ⟨hd',hnames'⟩
  obtain ⟨hrow',-⟩ := mem_cancelDispatches.mp hd'
  obtain ⟨id,_,_,hid,-,-,hi⟩ := hnames
  obtain ⟨id',_,_,hid',-,-,hi'⟩ := hnames'
  rw [hid] at hid'
  obtain rfl := Except.ok.inj hid'
  simp only [A2ADispatch.intent,Prod.mk.injEq] at hi hi'
  have hkey : d'.key = d.key := by
    rw [A2ADispatch.key,A2ADispatch.key,hi.1,hi.2.1,hi'.1,hi'.2.1]
  rw [hkey,hrow] at hrow'
  exact (Option.some.inj hrow').symm

/-- Every cancel dispatch of a canceled task is for one of its messages. -/
theorem justified_once (hs : CancelSound rt s) {t : A2ATask} (ht : t ∈ s.a2aTasks.rows)
    (hcancel : t.cancelState ≠ .none) {d : A2ADispatch}
    (hd : d ∈ s.cancelDispatches t.principalId t.a2aTaskId) :
    ∃! m, m ∈ s.taskMessages t.principalId t.a2aTaskId ∧ Names rt t m d := by
  have hcov := hs.coverage _ t (Table.mem_rows.mp ht)
  obtain ⟨hrow,hprincipal,htask,hkind⟩ := mem_cancelDispatches.mp hd
  obtain ⟨x,⟨m,hm,hof,htarget⟩,hnames⟩ :=
    hcov.justified hcancel d.intent ⟨d.key,d,hrow,hprincipal,htask,hkind,rfl⟩
  have hkey := Table.get_key hm
  simp only [A2AMessage.key,A2ATask.key,Prod.mk.injEq] at hkey hof
  have hx : x = (m.messageId,m.anetTaskId) := Prod.ext hkey.2.symm htarget.symm
  have hmem : m ∈ s.taskMessages t.principalId t.a2aTaskId := by
    refine mem_taskMessages.mpr ⟨?_,hkey.1,hof⟩
    rw [A2AMessage.key,hkey.1,hkey.2]
    exact hm
  rw [hx] at hnames
  refine ⟨m,⟨hmem,hnames⟩,?_⟩
  rintro m' ⟨hm',hnames'⟩
  have hsame := hcov.single hcancel _ (taskTargets_mem hm') _ (taskTargets_mem hmem) d.intent
    hnames' hnames
  exact taskMessages_ext hm' hmem (congrArg Prod.fst hsame)

/-- The cancel dispatches of a canceled task and its messages match one to one and it
takes no further message; the cancel state says what the dispatches and the task are in;
and the owner's request for a live task goes through exactly when the task is canceled
already or the ids that its cancel dispatches derive are free. -/
theorem a2a_cancellation_covers (rt : Runtime) (hpack : PacksFlat rt) {s : PacketStore}
    (h : Reaches (GatewayStep rt) .empty s) :
    (∀ t ∈ s.a2aTasks.rows, t.cancelState ≠ .none →
      (∀ m ∈ s.taskMessages t.principalId t.a2aTaskId,
        ∃! d, d ∈ s.cancelDispatches t.principalId t.a2aTaskId ∧ Names rt t m d) ∧
      (∀ d ∈ s.cancelDispatches t.principalId t.a2aTaskId,
        ∃! m, m ∈ s.taskMessages t.principalId t.a2aTaskId ∧ Names rt t m d) ∧
      ∀ s', Reaches (GatewayStep rt) s s' →
        taskTargets s' t.principalId t.a2aTaskId = taskTargets s t.principalId t.a2aTaskId) ∧
    (∀ t ∈ s.a2aTasks.rows,
      (t.cancelState = .dispatched → ∀ d ∈ s.cancelDispatches t.principalId t.a2aTaskId,
        d.state = .dispatched) ∧
      (t.cancelState = .confirmed → t.state = .canceled) ∧
      (t.cancelState = .tooLate → t.state.terminal ∧ t.state ≠ .canceled)) ∧
    ∀ (principalId : ConsumerId) (a2aTaskId : String) (t : A2ATask) (r : A2APrincipal)
      (sender : A2ANodeId) (entries : List (Value × Value)) (draws : ℕ → Token) (now : ℤ),
      s.a2aTasks.get (principalId.val,a2aTaskId) = some t →
      s.a2aPrincipals.get principalId.val = some r → r.senderNodeId = sender.val →
      ¬ t.state.terminal → CancelRequestFor rt t entries →
        ((∃ result, (requestA2ATaskCancellation rt principalId (.map entries) sender draws now
          s).1 = .ok result) ↔ t.cancelState ≠ .none ∨ CancelIdsFree rt s t) := by
  have hs := run_cancelSound h
  refine ⟨fun t ht hcancel => ⟨fun m hm => covered_once hs ht hcancel hm,
    fun d hd => justified_once hs ht hcancel hd,
    fun s' hrun => run_frozen (Table.mem_rows.mp ht) hcancel hrun⟩,fun t ht => ?_,?_⟩
  · have hphase := hs.phase _ t (Table.mem_rows.mp ht)
    refine ⟨fun hdispatched d hd => ?_,hphase.confirmed,hphase.tooLate⟩
    obtain ⟨hrow,hprincipal,htask,hkind⟩ := mem_cancelDispatches.mp hd
    exact hphase.dispatched hdispatched _ d hrow hprincipal htask hkind
  · intro principalId a2aTaskId t r sender entries draws now ht hr howner hlive hrequest
    exact cancel_succeeds_iff hs hpack ht hr howner hlive hrequest draws now

end Claims

section Sample

def cancelEntries : List (Value × Value) := [(.str "id",.str gatewayTaskId.val)]

/-- The cancel id of the first message of the sample task. -/
def firstCancelId : String :=
  ((cancelId .msgpack samplePrincipal.val gatewayTaskId.val gatewayTaskId.val).toOption).getD ""

def takenMessage : ExternalId :=
  ⟨cancelMessageId firstCancelId,by decide,by decide +kernel,by decide +kernel⟩

def followTask : String := "fedcba9876543210fedcba9876543210"

/-- A follow-up whose message id is the one the cancellation of the task derives. -/
def followOp : GatewayOp :=
  .register { sampleRegistration with
    messageId := takenMessage, requestBody := gatewayRequest takenMessage.val followTask }
    "" sampleToken 1500

def takenSample : PacketStore := followOp.exec .msgpack registeredSample

theorem cancelRequestFor_sample {t : A2ATask} (hid : t.a2aTaskId = gatewayTaskId.val)
    (htenant : t.tenant = "") : CancelRequestFor .msgpack t cancelEntries := by
  refine ⟨by decide,?_,cancelEntries,.map [],?_,?_,?_,rfl⟩
  · rw [hid]
    decide
  · exact jsonClone_ok.mpr ⟨rfl,by decide⟩
  · rw [htenant]
    rfl
  · rw [hid]
    rfl

/-- The task of the sample and its owner, and what becomes of the request for its cancellation: it
goes through, and it fails once a follow-up took the cancel id. -/
theorem cancel_answers :
    ((registeredSample.a2aTasks.get (samplePrincipal.val,gatewayTaskId.val)).map
      (fun t => (t.state,t.cancelState,t.a2aTaskId,t.tenant)) =
        some (.submitted,.none,gatewayTaskId.val,"") ∧
    (registeredSample.a2aPrincipals.get samplePrincipal.val).map A2APrincipal.senderNodeId =
      some gatewayNode.val ∧
    (requestA2ATaskCancellation .msgpack samplePrincipal (.map cancelEntries) gatewayNode
      (fun _ => sampleToken) 2000 registeredSample).1.toOption.isSome) ∧
    (takenSample.a2aTasks.get (samplePrincipal.val,gatewayTaskId.val)).map
      (fun t => (t.state,t.messageCount,t.a2aTaskId,t.tenant)) =
        some (.submitted,2,gatewayTaskId.val,"") ∧
    (takenSample.a2aPrincipals.get samplePrincipal.val).map A2APrincipal.senderNodeId =
      some gatewayNode.val ∧
    (requestA2ATaskCancellation .msgpack samplePrincipal (.map cancelEntries) gatewayNode
      (fun _ => sampleToken) 2000 takenSample).1.toOption.isNone := by
  decide +kernel

/-- The request for a task with one message goes through, so its cancel ids are free. -/
theorem a2a_cancellation_covers_sample : ∃ t,
    registeredSample.a2aTasks.get (samplePrincipal.val,gatewayTaskId.val) = some t ∧
      t.cancelState = .none ∧ (t.cancelState ≠ .none ∨
        CancelIdsFree .msgpack registeredSample t) := by
  obtain ⟨htask,hprincipal,hok⟩ := cancel_answers.1
  obtain ⟨t,ht,hfields⟩ := Option.map_eq_some_iff.mp htask
  obtain ⟨r,hr,howner⟩ := Option.map_eq_some_iff.mp hprincipal
  simp only [Prod.mk.injEq] at hfields
  obtain ⟨hstate,hcancel,hid,htenant⟩ := hfields
  obtain ⟨result,hresult⟩ := Option.isSome_iff_exists.mp hok
  exact ⟨t,ht,hcancel,((a2a_cancellation_covers .msgpack msgpack_packsFlat
    registeredSample_reachable).2.2 samplePrincipal gatewayTaskId.val t r gatewayNode cancelEntries
    (fun _ => sampleToken) 2000 ht hr howner (by rw [hstate]; decide)
    (cancelRequestFor_sample hid htenant)).mp ⟨result,toOption_eq_some.mp hresult⟩⟩

/-- A follow-up under the id the cancellation derives, and the task cannot be canceled. -/
theorem a2a_cancellation_blocked :
    Reaches (GatewayStep .msgpack) .empty takenSample ∧
    (∃ t r, takenSample.a2aTasks.get (samplePrincipal.val,gatewayTaskId.val) = some t ∧
      takenSample.a2aPrincipals.get samplePrincipal.val = some r ∧
      r.senderNodeId = gatewayNode.val ∧ t.state = .submitted ∧ t.messageCount = 2 ∧
      CancelRequestFor .msgpack t cancelEntries) ∧
    ∀ result, (requestA2ATaskCancellation .msgpack samplePrincipal (.map cancelEntries) gatewayNode
      (fun _ => sampleToken) 2000 takenSample).1 ≠ .ok result := by
  obtain ⟨htask,hprincipal,hraises⟩ := cancel_answers.2
  obtain ⟨t,ht,hfields⟩ := Option.map_eq_some_iff.mp htask
  obtain ⟨r,hr,howner⟩ := Option.map_eq_some_iff.mp hprincipal
  simp only [Prod.mk.injEq] at hfields
  obtain ⟨hstate,hcount,hid,htenant⟩ := hfields
  refine ⟨registeredSample_reachable.tail ⟨followOp,trivial,rfl⟩,⟨t,r,ht,hr,howner,hstate,hcount,
    cancelRequestFor_sample hid htenant⟩,fun result hresult => ?_⟩
  rw [hresult] at hraises
  cases hraises

end Sample
end Anet
