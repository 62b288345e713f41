import Anet.GatewayStore
import Anet.MsgPack
import Anet.PeerPrekeys

/-! Runs of the gateway: every operation on its tables by any number of workers, and what
a single step can do to the principals, tasks, messages, events, dispatches and packets. -/
namespace Anet

open PacketStore Packet A2AProtocol AgentProtocol

def gatewayOrigin : String := "a2a-gateway"

/-- The destination of a stored packet of the gateway. -/
def PacketStore.sentTo (s : PacketStore) (packetId : String) : Option String :=
  ((s.packets.get packetId).filter fun p => p.origin = gatewayOrigin).map PacketRow.destinationId

namespace A2ADispatch

/-- What a dispatch keeps from its insertion on. -/
def intent (r : A2ADispatch) : String × String × String × String × String × DispatchKind × Bytes :=
  (r.principalId,r.messageId,r.a2aTaskId,r.anetTaskId,r.destinationPeerId,r.kind,r.body)

/-- A worker took the row or gave it back: a dispatched row stays as it is, and no row
becomes dispatched. -/
structure Handles (r r' : A2ADispatch) : Prop where
  intent : r'.intent = r.intent
  named : r'.packetId = r.packetId
  settled : r.state = .dispatched → r' = r
  unsettled : r'.state = .dispatched → r' = r

theorem Handles.refl (r : A2ADispatch) : Handles r r :=
  ⟨rfl,rfl,fun _ => rfl,fun _ => rfl⟩

theorem Handles.trans {r r' r'' : A2ADispatch} (h : Handles r r') (h' : Handles r' r'') :
    Handles r r'' where
  intent := h'.intent.trans h.intent
  named := h'.named.trans h.named
  settled hs := by
    have hr := h.settled hs
    rw [hr] at h'
    exact h'.settled hs
  unsettled hs := by
    have hr := h'.unsettled hs
    rw [hr] at hs ⊢
    exact h.unsettled hs

end A2ADispatch

/-- The rows of `t'` are those of `t`, each as a worker left it. -/
def Handled (t t' : Dispatches) : Prop :=
  ∃ f : A2ADispatch → A2ADispatch, (∀ k, t'.get k = (t.get k).map f) ∧
    ∀ k r, t.get k = some r → r.Handles (f r)

theorem handled_refl (t : Dispatches) : Handled t t :=
  ⟨id,by simp,fun _ r _ => A2ADispatch.Handles.refl r⟩

theorem Handled.trans {t t' t'' : Dispatches} (h : Handled t t') (h' : Handled t' t'') :
    Handled t t'' := by
  obtain ⟨f,hget,hf⟩ := h
  obtain ⟨f',hget',hf'⟩ := h'
  refine ⟨f' ∘ f,fun k => by rw [hget',hget,Option.map_map],?_⟩
  intro k r hr
  exact (hf k r hr).trans (hf' k (f r) (by rw [hget,hr]; rfl))

theorem handled_update {t : Dispatches} {p : A2ADispatch → Prop} [DecidablePred p]
    {f : A2ADispatch → A2ADispatch} (h : ∀ r, p r → r.Handles (f r))
    (hkey : ∀ r, (f r).key = r.key) (hmarks : ∀ r, (f r).marks ⊆ r.marks) :
    Handled t (t.update p f hkey hmarks) := by
  refine ⟨fun r => if p r then f r else r,fun k => Table.get_update ..,?_⟩
  intro k r hr
  by_cases hp : p r
  · simpa [hp] using h r hp
  · simpa [hp] using A2ADispatch.Handles.refl r

/-- The part of a database the gateway reads and writes. -/
structure SameGateway (s s' : PacketStore) : Prop where
  principals : s'.a2aPrincipals = s.a2aPrincipals
  tasks : s'.a2aTasks = s.a2aTasks
  messages : s'.a2aMessages = s.a2aMessages
  events : s'.a2aEvents = s.a2aEvents
  dispatches : s'.a2aDispatches = s.a2aDispatches
  sent : ∀ k, s'.sentTo k = s.sentTo k

/-- Only the rows of dispatches a worker holds have changed. -/
structure WorkerStep (s s' : PacketStore) : Prop where
  principals : s'.a2aPrincipals = s.a2aPrincipals
  tasks : s'.a2aTasks = s.a2aTasks
  messages : s'.a2aMessages = s.a2aMessages
  events : s'.a2aEvents = s.a2aEvents
  dispatches : Handled s.a2aDispatches s'.a2aDispatches
  sent : ∀ k, s'.sentTo k = s.sentTo k

/-- A principal was bound, or bound again to the same node. -/
structure PrincipalStep (s s' : PacketStore) : Prop where
  kept : ∀ k r, s.a2aPrincipals.get k = some r → ∃ r', s'.a2aPrincipals.get k = some r' ∧
    r'.senderNodeId = r.senderNodeId
  rest : s' = { s with a2aPrincipals := s'.a2aPrincipals }

/-- A message was registered again: it may get the body an older row lacks. -/
structure RepeatStep (intent : A2AIntent) (drawn : Token) (now : ℤ) (message : A2AMessage)
    (task : A2ATask) (s s' : PacketStore) : Prop where
  registered : s.a2aMessages.get (intent.principalId,intent.messageId) = some message
  sameTask : message.a2aTaskId = intent.a2aTaskId
  known : s.a2aTasks.get (intent.principalId,intent.a2aTaskId) = some task
  next : s' = { s with
    a2aMessages := s.a2aMessages.update
      (fun r => r.key = (intent.principalId,intent.messageId) ∧ r.requestBody = none)
      (fun r => { r with requestBody := some intent.encodedRequest }) (fun _ => rfl)
      (fun _ => List.Subset.refl _)
    a2aDispatches := s.a2aDispatches.insertOrIgnore
      (intent.dispatchRow task.destinationPeerId drawn now) }

/-- The task a new message joins, as it stood or as the message opens it. -/
structure Joins (intent : A2AIntent) (now : ℤ) (base : A2ATask) (s : PacketStore) : Prop where
  found : s.a2aTasks.get (intent.principalId,intent.a2aTaskId) = some base ∨
    (s.a2aTasks.get (intent.principalId,intent.a2aTaskId) = none ∧ base = intent.taskRow now ∧
      intent.a2aTaskId = intent.anetTaskId)
  live : ¬ base.state.terminal
  uncanceled : base.cancelState = .none
  destination : base.destinationPeerId = intent.destinationPeerId
  version : base.protocolVersion = intent.protocolVersion

/-- A new message was registered. -/
structure RegisterStep (intent : A2AIntent) (drawn : Token) (now : ℤ) (base : A2ATask)
    (s s' : PacketStore) : Prop where
  joins : Joins intent now base s
  unbound : ∀ k m, s.a2aMessages.get k = some m → m.principalId = intent.principalId →
    m.anetTaskId ≠ intent.anetTaskId
  messages : s.a2aMessages.insert (intent.messageRow now) = some s'.a2aMessages
  dispatches : s.a2aDispatches.insert (intent.dispatchRow intent.destinationPeerId drawn now) =
    some s'.a2aDispatches
  tasks : ∀ k, s'.a2aTasks.get k = if k = (intent.principalId,intent.a2aTaskId)
    then some (base.follow intent.anetTaskId now) else s.a2aTasks.get k
  rest : s' = { s with
    a2aTasks := s'.a2aTasks, a2aMessages := s'.a2aMessages, a2aDispatches := s'.a2aDispatches }

/-- A cancellation of a task was requested for the first time. -/
structure CancelStep (rt : Runtime) (task : A2ATask) (draws : ℕ → Token) (now : ℤ)
    (s s' : PacketStore) : Prop where
  known : s.a2aTasks.get task.key = some task
  live : ¬ task.state.terminal
  uncanceled : task.cancelState = .none
  dispatches : insertCancels rt task now (s.taskMessages task.principalId task.a2aTaskId) draws
    s.a2aDispatches = .ok s'.a2aDispatches
  tasks : ∀ k, s'.a2aTasks.get k = if k = task.key then some (task.requestCancel now)
    else s.a2aTasks.get k
  rest : s' = { s with a2aTasks := s'.a2aTasks, a2aDispatches := s'.a2aDispatches }

/-- A batch of events was delivered to a task. -/
structure AppendStep (rt : Runtime) (task : A2ATask) (source : String) (events : List Value)
    (records : List EventRecord) (log : AppendLoop) (now : ℤ) (s s' : PacketStore) : Prop where
  known : s.a2aTasks.get task.key = some task
  recorded : eventRecords rt task.a2aTaskId task.contextId source 0 events = .ok records
  looped : appendRecords task source now ⟨s.a2aEvents,task.state,task.lastSequence,0,0⟩ records =
    .ok log
  events : s'.a2aEvents = log.events
  tasks : ∀ k, s'.a2aTasks.get k = if k = task.key ∧ log.appended ≠ 0
    then some (task.advance log.state log.sequence
      (A2ATask.settledCancel task.cancelState log.state) now) else s.a2aTasks.get k
  rest : s' = { s with a2aTasks := s'.a2aTasks, a2aEvents := s'.a2aEvents }

/-- A dispatch was settled with its packet. -/
structure CommitStep (dispatch : A2ADispatch) (packet : PacketRow) (now : ℤ)
    (s s' : PacketStore) : Prop where
  known : s.a2aDispatches.get dispatch.key = some dispatch
  leased : dispatch.state = .leased
  origin : packet.origin = gatewayOrigin
  destination : packet.destinationId = dispatch.destinationPeerId
  packets : s.packets.insert packet = some s'.packets
  dispatches : ∀ k, s'.a2aDispatches.get k = if k = dispatch.key
    then some (dispatch.dispatch packet.packetId now) else s.a2aDispatches.get k
  tasks : s'.a2aTasks = dispatchCancellation dispatch s'.a2aDispatches now s.a2aTasks
  rest : s' = { s with
    peerPrekeys := s'.peerPrekeys, packets := s'.packets, a2aDispatches := s'.a2aDispatches
    a2aTasks := s'.a2aTasks }

/-- What one operation does. -/
inductive GatewayChange (rt : Runtime) (s s' : PacketStore) : Prop
  | worker (h : WorkerStep s s')
  | principal (h : PrincipalStep s s')
  | repeated (intent : A2AIntent) (drawn : Token) (now : ℤ) (message : A2AMessage)
      (task : A2ATask) (h : RepeatStep intent drawn now message task s s')
  | registered (registration : A2ARegistration) (drawnTask : String) (intent : A2AIntent)
      (drawn : Token) (now : ℤ) (base : A2ATask)
      (hintent : registrationIntent rt drawnTask registration = .ok intent)
      (h : RegisterStep intent drawn now base s s')
  | canceled (task : A2ATask) (draws : ℕ → Token) (now : ℤ) (h : CancelStep rt task draws now s s')
  | appended (task : A2ATask) (source : String) (events : List Value)
      (records : List EventRecord) (log : AppendLoop) (now : ℤ)
      (h : AppendStep rt task source events records log now s s')
  | dispatched (dispatch : A2ADispatch) (packet : PacketRow) (now : ℤ)
      (h : CommitStep dispatch packet now s s')

section Operations

variable {rt : Runtime} {s s' : PacketStore} {now : ℤ}

theorem workerStep_refl (s : PacketStore) : WorkerStep s s :=
  ⟨rfl,rfl,rfl,rfl,handled_refl _,fun _ => rfl⟩

theorem unchanged (h : s' = s) : GatewayChange rt s s' := by
  rw [h]
  exact .worker (workerStep_refl s)

theorem get_updateTask (t : A2ATasks) (k k' : String × String) (f : A2ATask → A2ATask)
    (hkey : ∀ r, (f r).key = r.key) :
    (t.update (fun r => r.key = k) f hkey (noMarks_subset f)).get k' =
      if k' = k then (t.get k).map f else t.get k' :=
  Table.get_update_key ..

theorem bindA2APrincipal_change (principalId : ConsumerId) (senderNodeId : A2ANodeId)
    (allowedSenderNodes : List A2ANodeId) (now : ℤ) (s : PacketStore) :
    GatewayChange rt s (bindA2APrincipal principalId senderNodeId allowedSenderNodes now s).2 := by
  unfold bindA2APrincipal
  rcases transaction_cases _ s with ⟨a,s',hb,ht⟩ | ⟨e,-,ht⟩
  · rw [ht]
    obtain ⟨_,-,hb⟩ := bind_ok.mp hb
    split at hb
    · rename_i hnone
      obtain ⟨principals,hins,hval⟩ := bind_ok.mp hb
      cases hval
      refine .principal ⟨?_,rfl⟩
      intro k r hr
      have hins := integrity_ok.mp hins
      have hget := Table.get_insert hins k
      refine ⟨r,?_,rfl⟩
      rw [hget,if_neg,hr]
      rintro rfl
      rw [hnone] at hr
      cases hr
    · simp only [bind_ok,raiseIf_ok] at hb
      obtain ⟨_,_,hval⟩ := hb
      cases hval
      refine .principal ⟨?_,rfl⟩
      intro k r hr
      refine ⟨if r.principalId = principalId.val then { r with updatedMs := now } else r,
        by rw [Table.get_update,hr]; rfl,?_⟩
      split
      · rfl
      · rfl
  · rw [ht]
    exact unchanged rfl

theorem openTask_joins {intent : A2AIntent} {tasks : A2ATasks}
    (h : s.openTask intent now = .ok tasks) : ∃ base, Joins intent now base s ∧
      ∀ k, tasks.get k = if k = (intent.principalId,intent.a2aTaskId) then some base
        else s.a2aTasks.get k := by
  unfold openTask at h
  split at h
  · rename_i hnone
    simp only [bind_ok,raiseIf_ok,not_not] at h
    obtain ⟨_,hsame,hins⟩ := h
    refine ⟨intent.taskRow now,⟨Or.inr ⟨hnone,rfl,hsame⟩,by simp [A2AIntent.taskRow,
      ReportState.terminal],rfl,rfl,rfl⟩,?_⟩
    exact fun k => Table.get_insert (integrity_ok.mp hins) k
  · rename_i task hget
    simp only [bind_ok,raiseIf_ok,not_or,not_not] at h
    obtain ⟨_,hlive,_,hcancel,_,⟨-,hdest,-,-,hversion⟩,hval⟩ := h
    cases hval
    refine ⟨task,⟨Or.inl hget,hlive,hcancel,hdest,hversion⟩,?_⟩
    intro k
    split
    · rename_i hk
      rw [hk,hget]
    · rfl

theorem registerA2AMessage_change (rt : Runtime) (registration : A2ARegistration)
    (drawnTask : String) (drawn : Token) (now : ℤ) (s : PacketStore) :
    GatewayChange rt s (registerA2AMessage rt registration drawnTask drawn now s).2 := by
  simp only [registerA2AMessage,afterCommit]
  rcases transaction_cases _ s with ⟨a,s',hb,ht⟩ | ⟨e,-,ht⟩
  · rw [ht]
    obtain ⟨intent,hintent,hb⟩ := bind_ok.mp hb
    simp only [registerIntent,bind_ok,fetched_ok,raiseIf_ok] at hb
    obtain ⟨principal,hprincipal,_,hsender,hb⟩ := hb
    split at hb
    · rename_i message hmessage
      simp only [repeatRegistration,bind_ok,fetched_ok,raiseIf_ok,not_or,not_not] at hb
      obtain ⟨_,⟨htask,-,-⟩,task,hget,hval⟩ := hb
      cases hval
      exact .repeated intent drawn now message task ⟨hmessage,htask,hget,rfl⟩
    · simp only [firstRegistration,bind_ok,fetched_ok,raiseIf_ok] at hb
      obtain ⟨tasks,hopen,_,hfirst,messages,hmessages,dispatches,hdispatches,task,htask,hval⟩ := hb
      cases hval
      obtain ⟨base,hjoins,htasks⟩ := openTask_joins hopen
      refine .registered registration drawnTask intent drawn now base hintent
        ⟨hjoins,?_,integrity_ok.mp hmessages,integrity_ok.mp hdispatches,?_,rfl⟩
      · intro k m hm hprincipal htask
        have hnone := Option.not_isSome_iff_eq_none.mp hfirst
        exact Table.first_none hnone hm ⟨hprincipal,htask⟩
      · intro k
        refine (get_updateTask tasks _ k (A2ATask.follow intent.anetTaskId now) fun _ => rfl).trans
          ?_
        rw [htasks,if_pos rfl]
        split
        · rfl
        · rename_i hk
          rw [htasks,if_neg hk]
  · rw [ht]
    exact unchanged rfl

theorem cancelTarget_found {principalId : String} {request : Value} {item : A2ATaskItem}
    (h : s.cancelTarget rt principalId request = .ok item) :
    s.a2aTasks.get item.task.key = some item.task ∧ item.task.principalId = principalId := by
  unfold cancelTarget at h
  simp only [bind_ok,fetched_ok] at h
  obtain ⟨id,-,task,htask,principal,-,hval⟩ := h
  cases hval
  have hkey := Table.get_key htask
  exact ⟨by rw [hkey]; exact htask,congrArg Prod.fst hkey⟩

theorem normalizeCancel_live {request : Value} {senderId taskSender : String} {task : A2ATask}
    {c : CancelRequest} (h : normalizeCancelTaskRequest rt request senderId task taskSender = .ok c)
    (hcancel : task.cancelState = .none) : ¬ task.state.terminal := by
  simp only [normalizeCancelTaskRequest,bind_ok,fetched_ok,raiseIf_ok] at h
  obtain ⟨_,-,_,-,_,-,_,-,_,-,_,-,_,-,_,-,_,-,_,hlive,-⟩ := h
  intro hterm
  exact hlive ⟨hterm,by simp [hcancel]⟩

theorem requestA2ATaskCancellation_change (rt : Runtime) (principalId : ConsumerId)
    (request : Value) (sender : A2ANodeId) (draws : ℕ → Token) (now : ℤ) (s : PacketStore) :
    GatewayChange rt s
      (requestA2ATaskCancellation rt principalId request sender draws now s).2 := by
  unfold requestA2ATaskCancellation
  rcases transaction_cases _ s with ⟨a,s',hb,ht⟩ | ⟨e,-,ht⟩
  · rw [ht]
    simp only [requestCancellation,bind_ok,raiseIf_ok] at hb
    obtain ⟨item,htarget,c,hnormal,_,hsender,hb⟩ := hb
    obtain ⟨htask,hprincipal⟩ := cancelTarget_found htarget
    split at hb
    · cases hb
      exact unchanged rfl
    · rename_i hcancel
      have hcancel := not_not.mp hcancel
      simp only [bind_ok,raiseIf_ok,fetched_ok] at hb
      obtain ⟨_,hsome,dispatches,hdispatches,task,hupdated,hval⟩ := hb
      cases hval
      refine .canceled item.task draws now ⟨htask,normalizeCancel_live hnormal hcancel,hcancel,
        by rw [hprincipal]; exact hdispatches,?_,rfl⟩
      intro k
      have hkey : (principalId.val,item.task.a2aTaskId) = item.task.key := by
        rw [← hprincipal]
        rfl
      refine (get_updateTask s.a2aTasks _ k (A2ATask.requestCancel now) fun _ => rfl).trans ?_
      rw [hkey,htask]
      rfl
  · rw [ht]
    exact unchanged rfl

theorem ownedTask_found {principalId a2aTaskId senderId : String} {task : A2ATask}
    (h : s.ownedTask principalId a2aTaskId senderId = .ok task) :
    s.a2aTasks.get (principalId,a2aTaskId) = some task ∧ task.key = (principalId,a2aTaskId) := by
  simp only [ownedTask,bind_ok,fetched_ok,raiseIf_ok] at h
  obtain ⟨found,hfound,_,-,_,-,hval⟩ := h
  cases hval
  exact ⟨hfound,Table.get_key hfound⟩

/-- A delivery that goes through has recorded every event and run the append loop. -/
theorem appendEvents_spec {principalId senderId a2aTaskId source : String} {events : List Value}
    {result : AppendResult}
    (h : s.appendEvents rt principalId senderId a2aTaskId source events now = .ok (result,s')) :
    ∃ task records log, s.ownedTask principalId a2aTaskId senderId = .ok task ∧
      result = ⟨log.state,log.sequence,log.appended,log.duplicates⟩ ∧
      AppendStep rt task source events records log now s s' := by
  simp only [appendEvents,bind_ok,raiseIf_ok] at h
  obtain ⟨_,-,task,howned,_,-,records,hrecords,log,hlog,hval⟩ := h
  obtain ⟨htask,hkey⟩ := ownedTask_found howned
  have hid : task.a2aTaskId = a2aTaskId := congrArg Prod.snd hkey
  refine ⟨task,records,log,howned,?_⟩
  split at hval
  · rename_i hzero
    cases hval
    refine ⟨rfl,by rw [hkey]; exact htask,by rw [hid]; exact hrecords,hlog,rfl,?_,rfl⟩
    intro k
    rw [if_neg (fun hk => hk.2 hzero)]
  · rename_i hpos
    cases hval
    refine ⟨rfl,by rw [hkey]; exact htask,by rw [hid]; exact hrecords,hlog,rfl,?_,rfl⟩
    intro k
    refine (get_updateTask s.a2aTasks _ k (A2ATask.advance log.state log.sequence
      (A2ATask.settledCancel task.cancelState log.state) now) fun _ => rfl).trans ?_
    rw [htask,hkey]
    by_cases hk : k = (principalId,a2aTaskId) <;> simp [hk,hpos]

theorem appendA2ATaskEvents_change (rt : Runtime) (principalId : ConsumerId) (sender : A2ANodeId)
    (a2aTaskId source : ExternalId) (events : List Value) (now : ℤ) (s : PacketStore) :
    GatewayChange rt s
      (appendA2ATaskEvents rt principalId sender a2aTaskId source events now s).2 := by
  unfold appendA2ATaskEvents
  rcases transaction_cases _ s with ⟨a,s',hb,ht⟩ | ⟨e,-,ht⟩
  · rw [ht]
    obtain ⟨task,records,log,-,-,hstep⟩ := appendEvents_spec hb
    exact .appended task source.val events records log now hstep
  · rw [ht]
    exact unchanged rfl

/-- The claim loop takes rows that are not dispatched. -/
theorem claimDispatches_handled {owner : String} {leaseUntilMs : ℤ} {rows : List A2ADispatch}
    {draws : ℕ → Token} {t t' : Dispatches} {items : List DispatchItem}
    (h : claimDispatches rt owner leaseUntilMs now rows draws t = .ok (items,t')) :
    Handled t t' := by
  induction rows generalizing draws t items with
  | nil =>
    cases h
    exact handled_refl _
  | cons row rows ih =>
    simp only [claimDispatches,bind_ok,raiseIf_ok,fetched_ok] at h
    obtain ⟨_,hcount,t₁,hassign,claimed,_,body,_,rest,hrest,hval⟩ := h
    cases hval
    have hget := Table.get_assign (integrity_ok.mp hassign)
    have hfree : ∀ r, t.get row.key = some r → r.state ≠ .dispatched := by
      intro r hr hdone
      have hpos : 0 < t.count fun r => r.key = row.key ∧ (r.state = .pending ∨
          r.state = .retry ∨ (r.state = .leased ∧ r.leaseUntilMs ≤ now)) := by
        rw [not_not.mp hcount]
        exact Nat.one_pos
      obtain ⟨r',hr',hkey,hstate⟩ := Table.count_pos.mp hpos
      have hsame := Table.mem_rows.mp hr'
      rw [hkey,hr] at hsame
      obtain rfl := Option.some.inj hsame
      simp [hdone] at hstate
    refine Handled.trans ⟨fun r => if r.key = row.key
      then r.claim owner (draws 0).val leaseUntilMs now else r,?_,?_⟩ (ih hrest)
    · intro k
      rw [hget k]
      by_cases hk : k = row.key
      · rw [if_pos hk,hk]
        cases hg : t.get row.key with
        | none => rfl
        | some r => simp [Table.get_key hg]
      · rw [if_neg hk]
        cases hg : t.get k with
        | none => rfl
        | some r => simp [Table.get_key hg,hk]
    · intro k r hr
      by_cases hk : r.key = row.key
      · have hstate := hfree r (by rw [← hk,Table.get_key hr]; exact hr)
        simp only [hk,if_true]
        exact ⟨rfl,rfl,fun hdone => absurd hdone hstate,fun hdone => by
          simp [A2ADispatch.claim] at hdone⟩
      · simp only [hk,if_false]
        exact A2ADispatch.Handles.refl r

theorem claimA2ADispatches_handled (rt : Runtime) (owner : ConsumerId) (limit : ℤ)
    (lease : LeaseMs) (now : ℤ) (draws : ℕ → Token) (s : PacketStore) :
    WorkerStep s (claimA2ADispatches rt owner limit lease now draws s).2 := by
  unfold claimA2ADispatches
  rcases transaction_cases _ s with ⟨a,s',hb,ht⟩ | ⟨e,-,ht⟩
  · rw [ht]
    obtain ⟨claimed,hclaimed,hval⟩ := bind_ok.mp hb
    cases hval
    exact ⟨rfl,rfl,rfl,rfl,claimDispatches_handled hclaimed,fun _ => rfl⟩
  · rw [ht]
    exact workerStep_refl s

theorem retryA2ADispatch_handled (owner : ConsumerId) (claimToken : Token) (error : String)
    (retry : RetryMs) (drawn : Token) (now : ℤ) (s : PacketStore) :
    WorkerStep s (retryA2ADispatch owner claimToken error retry drawn now s).2 := by
  unfold retryA2ADispatch
  rcases transaction_cases _ s with ⟨a,s',hb,ht⟩ | ⟨e,-,ht⟩
  · rw [ht]
    simp only [bind_ok,raiseIf_ok] at hb
    obtain ⟨_,-,claimed,-,_,-,hval⟩ := hb
    cases hval
    have hrelease (r : A2ADispatch) (hclaimed : r.claimedBy owner.val claimToken.val) :
        r.Handles (r.release drawn.val (now + retry.val) now (cut 1000 (strip error))) := by
      refine ⟨rfl,rfl,fun hdone => ?_,fun hdone => ?_⟩
      · rw [hclaimed.2.2] at hdone
        cases hdone
      · simp [A2ADispatch.release] at hdone
    exact ⟨rfl,rfl,rfl,rfl,handled_update hrelease (fun _ => rfl) fun _ => by
      simp [A2ADispatch.marks,A2ADispatch.release],fun _ => rfl⟩
  · rw [ht]
    exact workerStep_refl s

/-- A commit raises, or stores the packet of the one dispatch its claim holds. -/
theorem commitA2ADispatchPacket_change (rt : Runtime) (owner : ConsumerId) (claimToken : Token)
    (raw : Bytes) (keyId reservationId : String) (now : ℤ) (s : PacketStore) :
    ((∃ e, (commitA2ADispatchPacket rt owner claimToken raw keyId reservationId now s).1 =
          .error e) ∧
        (commitA2ADispatchPacket rt owner claimToken raw keyId reservationId now s).2 = s) ∨
      ∃ dispatch packet, (commitA2ADispatchPacket rt owner claimToken raw keyId reservationId now
          s).1 = .ok (some (dispatch.dispatch packet.packetId now)) ∧
        CommitStep dispatch packet now s
          (commitA2ADispatchPacket rt owner claimToken raw keyId reservationId now s).2 := by
  unfold commitA2ADispatchPacket
  rcases transaction_cases _ s with ⟨a,s',hb,ht⟩ | ⟨e,-,ht⟩
  · right
    rw [ht]
    simp only [bind_ok,raiseIf_ok,fetched_ok,not_not] at hb
    obtain ⟨info,-,key,-,dispatch,hfirst,_,hdest,peerPrekeys,-,packets,hpackets,_,-,hval⟩ := hb
    obtain ⟨hget,⟨howner,htoken,hleased⟩,-⟩ := Table.first_some hfirst
    have hdispatches : ∀ k, (s.a2aDispatches.update (fun r => r.key = dispatch.key ∧
        r.claimedBy owner.val claimToken.val) (A2ADispatch.dispatch info.packetId now)
          (fun _ => rfl) (fun _ => by simp [A2ADispatch.marks,A2ADispatch.dispatch])).get k =
        if k = dispatch.key then some (dispatch.dispatch info.packetId now)
          else s.a2aDispatches.get k := by
      intro k
      refine (Table.get_update s.a2aDispatches _ (A2ADispatch.dispatch info.packetId now)
        (fun _ => rfl) _ k).trans ?_
      by_cases hk : k = dispatch.key
      · rw [if_pos hk,hk,hget]
        simp [A2ADispatch.claimedBy,howner,htoken,hleased]
      · rw [if_neg hk]
        cases hg : s.a2aDispatches.get k with
        | none => rfl
        | some r => simp [Table.get_key hg,hk]
    cases hval
    refine ⟨dispatch,_,?_,hget,hleased,rfl,hdest.symm,integrity_ok.mp hpackets,hdispatches,rfl,rfl⟩
    rw [hdispatches dispatch.key,if_pos rfl]
  · exact Or.inl ⟨⟨e,by rw [ht]⟩,by rw [ht]⟩

end Operations

/-- The operations of the gateway, and whatever else leaves its tables and its packets. -/
inductive GatewayOp
  | bindPrincipal (principalId : ConsumerId) (senderNodeId : A2ANodeId)
      (allowedSenderNodes : List A2ANodeId) (now : ℤ)
  | register (registration : A2ARegistration) (drawnTask : String) (drawn : Token) (now : ℤ)
  | cancel (principalId : ConsumerId) (request : Value) (sender : A2ANodeId) (draws : ℕ → Token)
      (now : ℤ)
  | append (principalId : ConsumerId) (sender : A2ANodeId) (a2aTaskId source : ExternalId)
      (events : List Value) (now : ℤ)
  | claim (owner : ConsumerId) (limit : ℤ) (lease : LeaseMs) (now : ℤ) (draws : ℕ → Token)
  | retry (owner : ConsumerId) (claimToken : Token) (error : String) (delay : RetryMs)
      (drawn : Token) (now : ℤ)
  | commit (owner : ConsumerId) (claimToken : Token) (raw : Bytes) (keyId reservationId : String)
      (now : ℤ)
  | elsewhere (s' : PacketStore)

namespace GatewayOp

def exec (rt : Runtime) : GatewayOp → PacketStore → PacketStore
  | .bindPrincipal principalId senderNodeId allowed now,s =>
    (bindA2APrincipal principalId senderNodeId allowed now s).2
  | .register registration drawnTask drawn now,s =>
    (registerA2AMessage rt registration drawnTask drawn now s).2
  | .cancel principalId request sender draws now,s =>
    (requestA2ATaskCancellation rt principalId request sender draws now s).2
  | .append principalId sender a2aTaskId source events now,s =>
    (appendA2ATaskEvents rt principalId sender a2aTaskId source events now s).2
  | .claim owner limit lease now draws,s =>
    (claimA2ADispatches rt owner limit lease now draws s).2
  | .retry owner claimToken error delay drawn now,s =>
    (retryA2ADispatch owner claimToken error delay drawn now s).2
  | .commit owner claimToken raw keyId reservationId now,s =>
    (commitA2ADispatchPacket rt owner claimToken raw keyId reservationId now s).2
  | .elsewhere s',_ => s'

def Allowed (s : PacketStore) : GatewayOp → Prop
  | .elsewhere s' => SameGateway s s'
  | _ => True

/-- Which packet a commit stores for which dispatch. -/
def sends (rt : Runtime) (s : PacketStore) : GatewayOp → Option ((String × String) × String)
  | .commit owner claimToken raw keyId reservationId now =>
    match (commitA2ADispatchPacket rt owner claimToken raw keyId reservationId now s).1 with
    | .ok (some row) => some (row.key,row.packetId)
    | _ => none
  | _ => none

end GatewayOp

def GatewayStep (rt : Runtime) (s s' : PacketStore) : Prop :=
  ∃ op : GatewayOp, op.Allowed s ∧ s' = op.exec rt s

theorem gatewayStep_change {rt : Runtime} {s s' : PacketStore} (h : GatewayStep rt s s') :
    GatewayChange rt s s' := by
  obtain ⟨op,hop,rfl⟩ := h
  cases op with
  | bindPrincipal principalId senderNodeId allowed now =>
    simp only [GatewayOp.exec]
    exact bindA2APrincipal_change principalId senderNodeId allowed now s
  | register registration drawnTask drawn now =>
    simp only [GatewayOp.exec]
    exact registerA2AMessage_change rt registration drawnTask drawn now s
  | cancel principalId request sender draws now =>
    simp only [GatewayOp.exec]
    exact requestA2ATaskCancellation_change rt principalId request sender draws now s
  | append principalId sender a2aTaskId source events now =>
    simp only [GatewayOp.exec]
    exact appendA2ATaskEvents_change rt principalId sender a2aTaskId source events now s
  | claim owner limit lease now draws =>
    simp only [GatewayOp.exec]
    exact .worker (claimA2ADispatches_handled rt owner limit lease now draws s)
  | retry owner claimToken error delay drawn now =>
    simp only [GatewayOp.exec]
    exact .worker (retryA2ADispatch_handled owner claimToken error delay drawn now s)
  | commit owner claimToken raw keyId reservationId now =>
    simp only [GatewayOp.exec]
    rcases commitA2ADispatchPacket_change rt owner claimToken raw keyId reservationId now s
      with ⟨-,hs⟩ | ⟨dispatch,packet,-,hstep⟩
    · exact unchanged hs
    · exact .dispatched dispatch packet now hstep
  | elsewhere s' =>
    simp only [GatewayOp.exec]
    exact .worker ⟨hop.principals,hop.tasks,hop.messages,hop.events,
      by rw [hop.dispatches]; exact handled_refl _,hop.sent⟩

section Changes

variable {rt : Runtime} {s s' : PacketStore}

/-- What the cancel loop inserts: one row for every target, under a new key. -/
theorem insertCancels_spec {task : A2ATask} {now : ℤ} {targets : List A2AMessage}
    {draws : ℕ → Token} {t t' : Dispatches}
    (h : insertCancels rt task now targets draws t = .ok t') :
    (∀ k d, t.get k = some d → t'.get k = some d) ∧
      (∀ k d, t'.get k = some d → t.get k = some d ∨ (t.get k = none ∧ ∃ target ∈ targets,
        ∃ drawn, cancelDispatch rt task target.anetTaskId drawn now = .ok d)) ∧
      ∀ target ∈ targets, ∃ drawn d, cancelDispatch rt task target.anetTaskId drawn now = .ok d ∧
        t'.get d.key = some d := by
  induction targets generalizing draws t with
  | nil =>
    cases h
    exact ⟨fun _ _ hd => hd,fun _ _ hd => Or.inl hd,by simp⟩
  | cons target targets ih =>
    simp only [insertCancels,bind_ok] at h
    obtain ⟨dispatch,hdispatch,t₁,hins,hrest⟩ := h
    have hins := integrity_ok.mp hins
    have hget := Table.get_insert hins
    have hnone := (Table.insert_eq_some hins).1
    have hkeep (k : String × String) (d : A2ADispatch) (hd : t.get k = some d) :
        t₁.get k = some d := by
      rw [hget,if_neg,hd]
      rintro rfl
      rw [hnone] at hd
      cases hd
    obtain ⟨hkept,hback,hall⟩ := ih hrest
    refine ⟨fun k d hd => hkept k d (hkeep k d hd),?_,?_⟩
    · intro k d hd
      rcases hback k d hd with hold | ⟨hfresh,x,hx,drawn,hnew⟩
      · rw [hget] at hold
        split at hold
        · rename_i hk
          cases hold
          exact Or.inr ⟨by rw [hk]; exact hnone,target,by simp,draws 0,hdispatch⟩
        · exact Or.inl hold
      · refine Or.inr ⟨?_,x,by simp [hx],drawn,hnew⟩
        cases hk : t.get k with
        | none => rfl
        | some r =>
          rw [hkeep k r hk] at hfresh
          cases hfresh
    · intro x hx
      rcases List.mem_cons.mp hx with rfl | hx
      · exact ⟨draws 0,dispatch,hdispatch,hkept _ _ (by rw [hget,if_pos rfl])⟩
      · exact hall x hx

/-- The fields of a cancel dispatch. -/
theorem cancelDispatch_spec {task : A2ATask} {target : String} {drawn : Token} {now : ℤ}
    {d : A2ADispatch} (h : cancelDispatch rt task target drawn now = .ok d) :
    ∃ id body, cancelId rt task.principalId task.a2aTaskId target = .ok id ∧
      AgentProtocol.taskCancel target cancelReason = .ok body ∧
      rt.pack body.toValue = .ok d.body ∧ d.principalId = task.principalId ∧
      d.messageId = cancelMessageId id ∧ d.a2aTaskId = task.a2aTaskId ∧ d.anetTaskId = id ∧
      d.destinationPeerId = task.destinationPeerId ∧ d.kind = .cancel ∧ d.state = .pending ∧
      d.packetId = "" := by
  simp only [cancelDispatch,bind_ok] at h
  obtain ⟨id,hid,body,hbody,encoded,hencoded,hval⟩ := h
  cases hval
  exact ⟨id,body,hid,hbody,hencoded,rfl,rfl,rfl,rfl,rfl,rfl,rfl,rfl⟩

/-- The fields a task keeps for ever. -/
def A2ATask.shape (r : A2ATask) : String × String × String × String × String :=
  (r.contextId,r.destinationPeerId,r.skillId,r.tenant,r.protocolVersion)

/-- The cancel dispatches of a task that are not out yet. -/
def pendingCancels (t : Dispatches) (principalId a2aTaskId : String) : ℕ :=
  t.count fun r => r.principalId = principalId ∧ r.a2aTaskId = a2aTaskId ∧ r.kind = .cancel ∧
    r.state ≠ .dispatched

/-- A commit touches a task only when it was the last cancel dispatch of a requested
cancellation. -/
theorem get_dispatchCancellation (dispatch : A2ADispatch) (dispatches : Dispatches) (now : ℤ)
    (tasks : A2ATasks) (k : String × String) :
    (dispatchCancellation dispatch dispatches now tasks).get k = (tasks.get k).map fun r =>
      if (dispatch.kind = .cancel ∧
          pendingCancels dispatches dispatch.principalId dispatch.a2aTaskId = 0) ∧
          r.principalId = dispatch.principalId ∧ r.a2aTaskId = dispatch.a2aTaskId ∧
          r.cancelState = .requested
        then { r with cancelState := .dispatched, updatedMs := now } else r := by
  unfold dispatchCancellation pendingCancels
  split
  · rename_i hlast
    refine (Table.get_update ..).trans ?_
    simp only [hlast,true_and]
  · rename_i hlast
    simp [hlast]

/-- Tasks are kept, with their shape. -/
theorem gatewayChange_tasks (h : GatewayChange rt s s') {k : String × String} {t : A2ATask}
    (ht : s.a2aTasks.get k = some t) :
    ∃ t', s'.a2aTasks.get k = some t' ∧ t'.shape = t.shape := by
  cases h with
  | worker h => exact ⟨t,by rw [h.tasks]; exact ht,rfl⟩
  | principal h => exact ⟨t,by rw [h.rest]; exact ht,rfl⟩
  | repeated intent drawn now message task h => exact ⟨t,by rw [h.next]; exact ht,rfl⟩
  | registered registration drawnTask intent drawn now base hintent h =>
    rw [h.tasks]
    split
    · rename_i hk
      subst hk
      refine ⟨_,rfl,?_⟩
      rcases h.joins.found with hfound | ⟨hnone,-⟩
      · rw [ht] at hfound
        cases hfound
        rfl
      · rw [ht] at hnone
        cases hnone
    · exact ⟨t,ht,rfl⟩
  | canceled task draws now h =>
    rw [h.tasks]
    split
    · rename_i hk
      subst hk
      rw [h.known] at ht
      cases ht
      exact ⟨_,rfl,rfl⟩
    · exact ⟨t,ht,rfl⟩
  | appended task source events records log now h =>
    rw [h.tasks]
    split
    · rename_i hk
      obtain ⟨rfl,-⟩ := hk
      rw [h.known] at ht
      cases ht
      exact ⟨_,rfl,rfl⟩
    · exact ⟨t,ht,rfl⟩
  | dispatched dispatch packet now h =>
    rw [h.tasks,get_dispatchCancellation,ht]
    refine ⟨_,rfl,?_⟩
    dsimp only
    split
    · rfl
    · rfl

theorem validateTaskRequest_id {drawn : String} {body : Value} {r : TaskRequest}
    (h : validateTaskRequest rt drawn body = .ok r) : taskId r.taskId = .ok r.taskId := by
  simp only [validateTaskRequest,bind_ok] at h
  obtain ⟨entries,-,_,-,_,-,id,hid,listed,-,required,-,context,-,hval⟩ := h
  cases hval
  exact taskId_again hid

/-- What a registration has checked of the ids it stores. -/
theorem registrationIntent_ids {drawnTask : String} {registration : A2ARegistration}
    {intent : A2AIntent} (h : registrationIntent rt drawnTask registration = .ok intent) :
    taskId intent.anetTaskId = .ok intent.anetTaskId ∧
      intent.protocolVersion = a2aProtocolVersion ∧
      intent.principalId = registration.principalId.val ∧
      intent.a2aTaskId = registration.a2aTaskId.val ∧
      intent.contextId = registration.contextId.val := by
  simp only [registrationIntent,bind_ok,raiseIf_ok,not_not] at h
  obtain ⟨_,-,_,hversion,normalized,hvalid,context,-,_,-,hashed,-,encoded,-,hval⟩ := h
  cases hval
  exact ⟨validateTaskRequest_id hvalid,hversion,rfl,rfl,rfl⟩

/-- A new task comes from a registration, with its first message. -/
theorem gatewayChange_new (h : GatewayChange rt s s') {k : String × String} {t' : A2ATask}
    (ht' : s'.a2aTasks.get k = some t') (hnone : s.a2aTasks.get k = none) :
    ∃ registration drawnTask intent drawn now base,
      registrationIntent rt drawnTask registration = .ok intent ∧
      RegisterStep intent drawn now base s s' ∧ t' = base.follow intent.anetTaskId now ∧
      base = intent.taskRow now := by
  have hold {t : A2ATask} (ht : s.a2aTasks.get k = some t) : False := by
    rw [ht] at hnone
    cases hnone
  cases h with
  | worker h => exact (hold (by rw [← h.tasks]; exact ht')).elim
  | principal h =>
    rw [h.rest] at ht'
    exact (hold ht').elim
  | repeated intent drawn now message task h =>
    rw [h.next] at ht'
    exact (hold ht').elim
  | registered registration drawnTask intent drawn now base hintent h =>
    have hget := ht'
    rw [h.tasks] at hget
    split at hget
    · rename_i hk
      cases hget
      rw [hk] at hnone
      rcases h.joins.found with hfound | ⟨-,hbase,-⟩
      · rw [hnone] at hfound
        cases hfound
      · exact ⟨registration,drawnTask,intent,drawn,now,base,hintent,h,rfl,hbase⟩
    · exact (hold hget).elim
  | canceled task draws now h =>
    rw [h.tasks] at ht'
    split at ht'
    · rename_i hk
      rw [hk,h.known] at hnone
      cases hnone
    · exact (hold ht').elim
  | appended task source events records log now h =>
    rw [h.tasks] at ht'
    split at ht'
    · rename_i hk
      rw [hk.1,h.known] at hnone
      cases hnone
    · exact (hold ht').elim
  | dispatched dispatch packet now h =>
    rw [h.tasks,get_dispatchCancellation,hnone] at ht'
    cases ht'

/-- Principals stay bound to their node. -/
theorem gatewayChange_principals (h : GatewayChange rt s s') {k : String} {r : A2APrincipal}
    (hr : s.a2aPrincipals.get k = some r) :
    ∃ r', s'.a2aPrincipals.get k = some r' ∧ r'.senderNodeId = r.senderNodeId := by
  cases h with
  | worker h => exact ⟨r,by rw [h.principals]; exact hr,rfl⟩
  | principal h => exact h.kept k r hr
  | repeated intent drawn now message task h => exact ⟨r,by rw [h.next]; exact hr,rfl⟩
  | registered registration drawnTask intent drawn now base hintent h =>
    exact ⟨r,by rw [h.rest]; exact hr,rfl⟩
  | canceled task draws now h => exact ⟨r,by rw [h.rest]; exact hr,rfl⟩
  | appended task source events records log now h => exact ⟨r,by rw [h.rest]; exact hr,rfl⟩
  | dispatched dispatch packet now h => exact ⟨r,by rw [h.rest]; exact hr,rfl⟩

/-- The fields of a message that identify it. -/
def A2AMessage.binding (r : A2AMessage) : String × String × String :=
  (r.a2aTaskId,r.anetTaskId,r.requestHash)

/-- A message after a step was there before, or the step registered it. -/
theorem gatewayChange_message (h : GatewayChange rt s s') {k : String × String} {m' : A2AMessage}
    (hm : s'.a2aMessages.get k = some m') :
    (∃ m, s.a2aMessages.get k = some m ∧ m'.binding = m.binding) ∨
      ∃ registration drawnTask intent drawn now base,
        registrationIntent rt drawnTask registration = .ok intent ∧
        RegisterStep intent drawn now base s s' ∧ m' = intent.messageRow now := by
  cases h with
  | worker h => exact Or.inl ⟨m',by rw [← h.messages]; exact hm,rfl⟩
  | principal h =>
    rw [h.rest] at hm
    exact Or.inl ⟨m',hm,rfl⟩
  | repeated intent drawn now message task h =>
    rw [h.next] at hm
    have hfill := (Table.get_update s.a2aMessages
      (fun r => r.key = (intent.principalId,intent.messageId) ∧ r.requestBody = none)
      (fun r => { r with requestBody := some intent.encodedRequest }) (fun _ => rfl)
      (fun _ => List.Subset.refl _) k).symm.trans hm
    obtain ⟨m,hold,rfl⟩ := Option.map_eq_some_iff.mp hfill
    refine Or.inl ⟨m,hold,?_⟩
    split
    · rfl
    · rfl
  | registered registration drawnTask intent drawn now base hintent h =>
    have hget := Table.get_insert h.messages k
    rw [hm] at hget
    split at hget
    · exact Or.inr ⟨registration,drawnTask,intent,drawn,now,base,hintent,h,Option.some.inj hget⟩
    · exact Or.inl ⟨m',hget.symm,rfl⟩
  | canceled task draws now h =>
    rw [h.rest] at hm
    exact Or.inl ⟨m',hm,rfl⟩
  | appended task source events records log now h =>
    rw [h.rest] at hm
    exact Or.inl ⟨m',hm,rfl⟩
  | dispatched dispatch packet now h =>
    rw [h.rest] at hm
    exact Or.inl ⟨m',hm,rfl⟩

/-- Messages are kept, with their binding. -/
theorem gatewayChange_messages (h : GatewayChange rt s s') {k : String × String} {m : A2AMessage}
    (hm : s.a2aMessages.get k = some m) :
    ∃ m', s'.a2aMessages.get k = some m' ∧ m'.binding = m.binding := by
  cases h with
  | worker h => exact ⟨m,by rw [h.messages]; exact hm,rfl⟩
  | principal h => exact ⟨m,by rw [h.rest]; exact hm,rfl⟩
  | repeated intent drawn now message task h =>
    rw [h.next]
    have hfill := Table.get_update s.a2aMessages
      (fun r => r.key = (intent.principalId,intent.messageId) ∧ r.requestBody = none)
      (fun r => { r with requestBody := some intent.encodedRequest }) (fun _ => rfl)
      (fun _ => List.Subset.refl _) k
    rw [hm] at hfill
    refine ⟨_,hfill,?_⟩
    dsimp only
    split
    · rfl
    · rfl
  | registered registration drawnTask intent drawn now base hintent h =>
    refine ⟨m,?_,rfl⟩
    rw [Table.get_insert h.messages,if_neg,hm]
    rintro rfl
    rw [(Table.insert_eq_some h.messages).1] at hm
    cases hm
  | canceled task draws now h => exact ⟨m,by rw [h.rest]; exact hm,rfl⟩
  | appended task source events records log now h => exact ⟨m,by rw [h.rest]; exact hm,rfl⟩
  | dispatched dispatch packet now h => exact ⟨m,by rw [h.rest]; exact hm,rfl⟩

/-- A step leaves the log and the state of every task, unless it delivers events. -/
theorem gatewayChange_log (h : GatewayChange rt s s') :
    (s'.a2aEvents = s.a2aEvents ∧ ∀ k t', s'.a2aTasks.get k = some t' →
      (∃ t, s.a2aTasks.get k = some t ∧ t'.state = t.state ∧ t'.lastSequence = t.lastSequence) ∨
        (s.a2aTasks.get k = none ∧ t'.state = .submitted ∧ t'.lastSequence = 0)) ∨
      ∃ task source events records log now,
        AppendStep rt task source events records log now s s' := by
  cases h with
  | worker h =>
    exact Or.inl ⟨h.events,fun k t' ht => Or.inl ⟨t',by rw [← h.tasks]; exact ht,rfl,rfl⟩⟩
  | principal h =>
    refine Or.inl ⟨by rw [h.rest],fun k t' ht => Or.inl ⟨t',?_,rfl,rfl⟩⟩
    rw [h.rest] at ht
    exact ht
  | repeated intent drawn now message task h =>
    refine Or.inl ⟨by rw [h.next],fun k t' ht => Or.inl ⟨t',?_,rfl,rfl⟩⟩
    rw [h.next] at ht
    exact ht
  | registered registration drawnTask intent drawn now base hintent h =>
    refine Or.inl ⟨by rw [h.rest],fun k t' ht => ?_⟩
    rw [h.tasks] at ht
    split at ht
    · rename_i hk
      cases ht
      rcases h.joins.found with hfound | ⟨hnone,hbase,-⟩
      · exact Or.inl ⟨base,by rw [hk]; exact hfound,rfl,rfl⟩
      · exact Or.inr ⟨by rw [hk]; exact hnone,by rw [hbase]; exact ⟨rfl,rfl⟩⟩
    · exact Or.inl ⟨t',ht,rfl,rfl⟩
  | canceled task draws now h =>
    refine Or.inl ⟨by rw [h.rest],fun k t' ht => Or.inl ?_⟩
    rw [h.tasks] at ht
    split at ht
    · rename_i hk
      cases ht
      exact ⟨task,by rw [hk]; exact h.known,rfl,rfl⟩
    · exact ⟨t',ht,rfl,rfl⟩
  | appended task source events records log now h =>
    exact Or.inr ⟨task,source,events,records,log,now,h⟩
  | dispatched dispatch packet now h =>
    refine Or.inl ⟨by rw [h.rest],fun k t' ht => Or.inl ?_⟩
    rw [h.tasks,get_dispatchCancellation] at ht
    obtain ⟨t,hold,rfl⟩ := Option.map_eq_some_iff.mp ht
    refine ⟨t,hold,?_⟩
    split
    · exact ⟨rfl,rfl⟩
    · exact ⟨rfl,rfl⟩

/-- Where a row of the outbox comes from: it was there, it is new, or it was just settled. -/
theorem gatewayChange_dispatch (h : GatewayChange rt s s') {k : String × String}
    {d' : A2ADispatch} (hd : s'.a2aDispatches.get k = some d') :
    (∃ d, s.a2aDispatches.get k = some d ∧ d.Handles d') ∨
      (s.a2aDispatches.get k = none ∧ d'.state = .pending ∧ d'.packetId = "" ∧
        ∃ t, s'.a2aTasks.get (d'.principalId,d'.a2aTaskId) = some t ∧
          t.destinationPeerId = d'.destinationPeerId) ∨
      ∃ d packet now, CommitStep d packet now s s' ∧ k = d.key ∧
        d' = d.dispatch packet.packetId now := by
  cases h with
  | worker h =>
    obtain ⟨f,hget,hf⟩ := h.dispatches
    rw [hget] at hd
    obtain ⟨d,hold,rfl⟩ := Option.map_eq_some_iff.mp hd
    exact Or.inl ⟨d,hold,hf k d hold⟩
  | principal h =>
    rw [h.rest] at hd
    exact Or.inl ⟨d',hd,A2ADispatch.Handles.refl d'⟩
  | repeated intent drawn now message task h =>
    have htasks : s'.a2aTasks = s.a2aTasks := by rw [h.next]
    rw [h.next] at hd
    rcases Table.insertOrIgnore_cases s.a2aDispatches
      (intent.dispatchRow task.destinationPeerId drawn now) with hsame | hins
    · change (s.a2aDispatches.insertOrIgnore _).get k = some d' at hd
      rw [hsame] at hd
      exact Or.inl ⟨d',hd,A2ADispatch.Handles.refl d'⟩
    · change (s.a2aDispatches.insertOrIgnore _).get k = some d' at hd
      rw [Table.get_insert hins] at hd
      split at hd
      · rename_i hk
        cases hd
        rw [hk]
        exact Or.inr (Or.inl ⟨(Table.insert_eq_some hins).1,rfl,rfl,task,
          by rw [htasks]; exact h.known,rfl⟩)
      · exact Or.inl ⟨d',hd,A2ADispatch.Handles.refl d'⟩
  | registered registration drawnTask intent drawn now base hintent h =>
    rw [Table.get_insert h.dispatches] at hd
    split at hd
    · rename_i hk
      cases hd
      rw [hk]
      refine Or.inr (Or.inl ⟨(Table.insert_eq_some h.dispatches).1,rfl,rfl,
        base.follow intent.anetTaskId now,?_,h.joins.destination⟩)
      exact (h.tasks _).trans (if_pos rfl)
    · exact Or.inl ⟨d',hd,A2ADispatch.Handles.refl d'⟩
  | canceled task draws now h =>
    rcases (insertCancels_spec h.dispatches).2.1 k d' hd with hold | ⟨hfresh,x,-,drawn,hnew⟩
    · exact Or.inl ⟨d',hold,A2ADispatch.Handles.refl d'⟩
    · obtain ⟨id,body,-,-,-,hprincipal,-,htask,-,hdest,-,hstate,hpacket⟩ :=
        cancelDispatch_spec hnew
      refine Or.inr (Or.inl ⟨hfresh,hstate,hpacket,task.requestCancel now,?_,hdest.symm⟩)
      rw [h.tasks,hprincipal,htask]
      exact if_pos rfl
  | appended task source events records log now h =>
    rw [h.rest] at hd
    exact Or.inl ⟨d',hd,A2ADispatch.Handles.refl d'⟩
  | dispatched dispatch packet now h =>
    rw [h.dispatches] at hd
    split at hd
    · rename_i hk
      cases hd
      exact Or.inr (Or.inr ⟨dispatch,packet,now,h,hk,rfl⟩)
    · exact Or.inl ⟨d',hd,A2ADispatch.Handles.refl d'⟩

/-- Rows of the outbox are kept with what they ask for, and a settled row as it is. -/
theorem gatewayChange_kept (h : GatewayChange rt s s') {k : String × String} {d : A2ADispatch}
    (hd : s.a2aDispatches.get k = some d) :
    ∃ d', s'.a2aDispatches.get k = some d' ∧ d'.intent = d.intent ∧
      (d.state = .dispatched → d' = d) := by
  have hsame : s'.a2aDispatches.get k = some d → ∃ d', s'.a2aDispatches.get k = some d' ∧
      d'.intent = d.intent ∧ (d.state = .dispatched → d' = d) :=
    fun hd => ⟨d,hd,rfl,fun _ => rfl⟩
  have hinsert {r : A2ADispatch} (hins : s.a2aDispatches.insert r = some s'.a2aDispatches) :
      s'.a2aDispatches.get k = some d := by
    rw [Table.get_insert hins,if_neg,hd]
    rintro rfl
    rw [(Table.insert_eq_some hins).1] at hd
    cases hd
  cases h with
  | worker h =>
    obtain ⟨f,hget,hf⟩ := h.dispatches
    exact ⟨f d,by rw [hget,hd]; rfl,(hf k d hd).intent,(hf k d hd).settled⟩
  | principal h => exact hsame (by rw [h.rest]; exact hd)
  | repeated intent drawn now message task h =>
    apply hsame
    rcases Table.insertOrIgnore_cases s.a2aDispatches
      (intent.dispatchRow task.destinationPeerId drawn now) with hkeep | hins
    · rw [h.next]
      change (s.a2aDispatches.insertOrIgnore _).get k = some d
      rw [hkeep]
      exact hd
    · exact hinsert (by rw [h.next]; exact hins)
  | registered registration drawnTask intent drawn now base hintent h =>
    exact hsame (hinsert h.dispatches)
  | canceled task draws now h => exact hsame ((insertCancels_spec h.dispatches).1 k d hd)
  | appended task source events records log now h => exact hsame (by rw [h.rest]; exact hd)
  | dispatched dispatch packet now h =>
    rw [h.dispatches]
    split
    · rename_i hk
      subst hk
      rw [h.known] at hd
      cases hd
      refine ⟨_,rfl,rfl,fun hdone => ?_⟩
      rw [h.leased] at hdone
      cases hdone
    · exact ⟨d,hd,rfl,fun _ => rfl⟩

/-- The packets of the gateway are those that were there and the one just committed. -/
theorem gatewayChange_sent (h : GatewayChange rt s s') :
    (∀ k, s'.sentTo k = s.sentTo k) ∨ ∃ d packet now, CommitStep d packet now s s' := by
  cases h with
  | worker h => exact Or.inl h.sent
  | principal h => exact Or.inl fun k => by rw [h.rest]; rfl
  | repeated intent drawn now message task h => exact Or.inl fun k => by rw [h.next]; rfl
  | registered registration drawnTask intent drawn now base hintent h =>
    exact Or.inl fun k => by rw [h.rest]; rfl
  | canceled task draws now h => exact Or.inl fun k => by rw [h.rest]; rfl
  | appended task source events records log now h => exact Or.inl fun k => by rw [h.rest]; rfl
  | dispatched dispatch packet now h => exact Or.inr ⟨dispatch,packet,now,h⟩

end Changes

section Sample

open AgentProtocol

def gatewayPeer : String := "an1gatewaygatewaygateway"

def samplePacketId : String := "00000000000000000000000000000001"

/-- The packet the worker seals for the sample dispatch. -/
def samplePacket : Value :=
  .map [(.str "v",.int 1),(.str "id",.str samplePacketId),(.str "dst",.str gatewayPeer),
    (.str "ts",.int 1000),(.str "exp",.int 90000),(.str "hops",.int 4),
    (.str "epk",.bin (List.replicate 32 0)),(.str "nonce",.bin (List.replicate 12 0)),
    (.str "ct",.bin (List.replicate 32 0))]

def samplePrincipal : ConsumerId := ⟨"principal",by decide⟩
def gatewayNode : A2ANodeId := ⟨gatewayPeer,by decide⟩
def gatewayTaskId : ExternalId :=
  ⟨"0123456789abcdef0123456789abcdef",by decide,by decide,by decide⟩
def sampleContext : ExternalId := ⟨"context",by decide,by decide,by decide⟩
def sampleMessage : ExternalId := ⟨"message",by decide,by decide,by decide⟩
def sampleSkill : ConsumerId := ⟨"skill",by decide⟩

def gatewayRequest (messageId anetTaskId : String) : Value :=
  .map [(.str "protocol",.str agentProtocol),(.str "version",.int 1),
    (.str "task_id",.str anetTaskId),(.str "objective",.str "work"),
    (.str "required_capabilities",.list []),
    (.str "context",.map [(.str "a2a",.map [(.str "protocolVersion",.str "1.0"),
      (.str "messageId",.str messageId),(.str "contextId",.str "context"),
      (.str "taskId",.str gatewayTaskId.val),(.str "skillId",.str "skill"),
      (.str "tenant",.str "")])])]

def sampleRegistration : A2ARegistration :=
  ⟨samplePrincipal,gatewayNode,gatewayTaskId,sampleContext,sampleMessage,gatewayNode,sampleSkill,
    "","1.0",gatewayRequest "message" gatewayTaskId.val⟩

def sampleToken : Token := .digit 'a' hexDigit_a

def bindOp : GatewayOp := .bindPrincipal samplePrincipal gatewayNode [gatewayNode] 1000
def registerOp : GatewayOp := .register sampleRegistration "" sampleToken 1000

def registeredSample : PacketStore :=
  registerOp.exec Runtime.msgpack (bindOp.exec Runtime.msgpack .empty)

theorem registeredSample_reachable :
    Reaches (GatewayStep .msgpack) .empty registeredSample :=
  .tail (.single ⟨bindOp,trivial,rfl⟩) ⟨registerOp,trivial,rfl⟩

end Sample
end Anet
