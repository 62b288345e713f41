import Anet.TaskRuns

/-! Exactly-once execution of agent tasks: the execution token is a fencing token
of the task, a terminal task is frozen, and a task keeps its first request. -/
namespace Anet

open PacketStore AgentProtocol AgentTaskExecution

section Moves

variable {rt : Runtime} {w : WorkWorld} {op : WorkOp} {k : TaskKey}
  {c c' : Option AgentTaskCancellation}

/-- An execution shows the token it had, or a new one, or none. -/
theorem executionToken_move {o o' : Option AgentTaskExecution} (hmove : TaskMove rt w op k o c o' c')
    {e' : AgentTaskExecution} (he' : o' = some e') (htoken : e'.executionToken ≠ "") :
    (∃ e, o = some e ∧ e.executionToken = e'.executionToken) ∨
      e'.executionToken ∉ w.executionTokens := by
  cases hmove with
  | same => exact Or.inl ⟨e',he',rfl⟩
  | start _ _ _ _ _ _ _ _ hfresh =>
    cases he'
    exact Or.inr hfresh
  | takeOver _ _ _ _ _ e _ _ hfresh =>
    cases he'
    exact Or.inr hfresh
  | ask _ _ _ _ _ _ _ _ heffect =>
    cases heffect with
    | absent => cases he'
    | waiting =>
      cases he'
      exact absurd rfl htoken
    | _ =>
      cases he'
      exact Or.inl ⟨_,rfl,rfl⟩
  | _ =>
    cases he'
    exact absurd rfl htoken

/-- No call changes a terminal execution. -/
theorem terminal_move {e : AgentTaskExecution} {o' : Option AgentTaskExecution}
    (hmove : TaskMove rt w op k (some e) c o' c') (hterminal : e.state.terminal) : o' = some e := by
  cases hmove with
  | same => rfl
  | finish _ _ _ _ hopen =>
    rcases hopen with h | ⟨h,-⟩ <;> simp [h,TaskState.terminal] at hterminal
  | takeOver _ _ _ _ _ _ _ hopen =>
    rcases hopen with ⟨h,-⟩ | h <;> simp [h,TaskState.terminal] at hterminal
  | settleRetry _ _ _ _ h => simp [h,TaskState.terminal] at hterminal
  | settle _ _ _ _ _ _ h =>
    cases hs : e.state <;> simp [hs,TaskState.terminal,TaskState.running] at h hterminal
  | ask _ _ _ _ _ _ _ _ heffect =>
    cases heffect with
    | ended => rfl
    | running _ _ _ _ h =>
      cases hs : e.state <;> simp [hs,TaskState.terminal,TaskState.running] at h hterminal
    | waiting _ _ _ _ h => simp [h,TaskState.terminal] at hterminal

/-- An execution stays, with the request it was registered for. -/
theorem requestHash_move {e : AgentTaskExecution} {o' : Option AgentTaskExecution}
    (hmove : TaskMove rt w op k (some e) c o' c') :
    ∃ e', o' = some e' ∧ e'.requestHash = e.requestHash := by
  cases hmove with
  | ask _ _ _ _ _ _ _ _ heffect => cases heffect <;> exact ⟨_,rfl,rfl⟩
  | _ => exact ⟨_,rfl,rfl⟩

end Moves

section Runs

variable {rt : Runtime} {w w' : WorkWorld} {k : TaskKey} {e : AgentTaskExecution}

theorem step_task (h : WorkStep rt w w') : ∃ op : WorkOp, op.Allowed w ∧ w' = w.after rt op ∧
    ∀ k, TaskMove rt w op k (w.store.agentTaskExecutions.get k)
      (w.store.agentTaskCancellations.get k) (w'.store.agentTaskExecutions.get k)
      (w'.store.agentTaskCancellations.get k) := by
  obtain ⟨op,hop,rfl⟩ := h
  exact ⟨op,hop,rfl,task_move hop (exec_work _ hop)⟩

/-- The execution tokens in force, as a fence over the tasks. -/
def executionFence (w : WorkWorld) : Fence TaskKey String :=
  tableFence AgentTaskExecution.executionToken w.store.agentTaskExecutions w.executionTokens

theorem executionToken_mark (r : AgentTaskExecution) (h : r.executionToken ≠ "") :
    r.executionToken ∈ r.marks :=
  mem_textMark.mpr ⟨rfl,h⟩

theorem executionFence_step (h : WorkStep rt w w') :
    (executionFence w).Step (executionFence w') := by
  obtain ⟨op,-,rfl,hmove⟩ := step_task h
  exact tableFence_step id executionToken_mark fun k e' he' htoken =>
    executionToken_move (hmove k) he' htoken

theorem executionFence_run (h : Reaches (WorkStep rt) w w') :
    Reaches Fence.Step (executionFence w) (executionFence w') :=
  Reaches.simulate (I := fun _ => True) (fun _ _ _ _ => trivial)
    (fun _ _ _ hstep => .single (executionFence_step hstep)) trivial h

theorem executionFence_sound (h : Reaches (WorkStep rt) .initial w) : (executionFence w).Sound :=
  Fence.Sound.run tableFence_empty_sound (executionFence_run h)

theorem terminal_run (he : w.store.agentTaskExecutions.get k = some e) (hterminal : e.state.terminal)
    (h : Reaches (WorkStep rt) w w') : w'.store.agentTaskExecutions.get k = some e := by
  refine Reaches.invariant (I := fun v : WorkWorld => v.store.agentTaskExecutions.get k = some e)
    ?_ he h
  intro v v' hv hstep
  obtain ⟨op,-,-,hmove⟩ := step_task hstep
  have hk := hmove k
  rw [hv] at hk
  exact terminal_move hk hterminal

theorem requestHash_run (he : w.store.agentTaskExecutions.get k = some e)
    (h : Reaches (WorkStep rt) w w') :
    ∃ e', w'.store.agentTaskExecutions.get k = some e' ∧ e'.requestHash = e.requestHash := by
  refine Reaches.invariant (I := fun v : WorkWorld => ∃ e',
    v.store.agentTaskExecutions.get k = some e' ∧ e'.requestHash = e.requestHash) ?_ ⟨e,he,rfl⟩ h
  rintro v v' ⟨e₁,he₁,hhash₁⟩ hstep
  obtain ⟨op,-,-,hmove⟩ := step_task hstep
  have hk := hmove k
  rw [he₁] at hk
  obtain ⟨e₂,he₂,hhash₂⟩ := requestHash_move hk
  exact ⟨e₂,he₂,hhash₂.trans hhash₁⟩

end Runs

section Calls

variable {rt : Runtime} {s : PacketStore} {groupId owner : ConsumerId}
  {claimToken executionToken drawn : Token} {allowedSenders allowedCapabilities : List String}
  {now : ℤ}

/-- A settlement that returns was made by the holder of the execution. -/
theorem settleAgentTask_held {state : String} {output : Value} {error : String} {retry : RetryMs}
    {settled : SettledTask} (h : (settleAgentTask rt groupId owner claimToken executionToken state
      output error retry now s).1 = .ok settled) :
    ∃ e, s.agentTaskExecutions.get settled.task.key = some e ∧
      e.heldBy groupId.val owner.val claimToken.val executionToken.val := by
  rcases settleAgentTask_cases rt groupId owner claimToken executionToken state output error retry
    now s with ⟨e,ht⟩ | ⟨kind,message,encoded,row,s',-,hsettle,ht⟩
  · rw [ht] at h
    cases h
  · rw [ht] at h
    obtain ⟨e,_,he,hheld,-,-,-,hrow,-⟩ := settleExecution_cases hsettle
    obtain ⟨e',he',hkey,-⟩ := settledTask_key h
    rw [hrow] at he'
    rw [hkey,Table.get_key he']
    exact ⟨e,he,hheld⟩

/-- A settlement whose execution token no task shows is refused and changes nothing. -/
theorem settle_refused {state : String} {output : Value} {error : String} {retry : RetryMs}
    (hnone : ∀ k, heldToken AgentTaskExecution.executionToken s.agentTaskExecutions k ≠
      some executionToken.val) :
    ∃ e, settleAgentTask rt groupId owner claimToken executionToken state output error retry now s =
      (.error e,s) := by
  rcases settleAgentTask_cases rt groupId owner claimToken executionToken state output error retry
    now s with h | ⟨kind,message,encoded,row,s',-,hsettle,-⟩
  · exact h
  · obtain ⟨e,_,he,hheld,-⟩ := settleExecution_cases hsettle
    exact absurd (heldToken_eq_some.mpr ⟨e,he,hheld.2.2.2.1,executionToken.ne_empty⟩) (hnone e.key)

/-- A begin that asks for execution either acquired the task or is repeated by its holder. -/
theorem beginAgentTask_execute {grant : TaskGrant}
    (h : (beginAgentTask rt groupId owner claimToken allowedSenders allowedCapabilities drawn
      executionToken now s).1 = .ok grant) (hexecute : grant.execute = true) :
    (grant.executionToken = executionToken.val ∧
      ∀ e, s.agentTaskExecutions.get grant.task.key = some e → ¬ e.state.terminal ∧
        e.state ≠ .canceling ∧ (e.state = .working → ¬ s.taskLeaseLive groupId.val e now)) ∨
    ∃ e, s.agentTaskExecutions.get grant.task.key = some e ∧ e.state = .working ∧
      e.owner = owner.val ∧ e.claimToken = claimToken.val ∧
      grant.executionToken = e.executionToken := by
  rcases beginAgentTask_cases rt groupId owner claimToken allowedSenders allowedCapabilities drawn
    executionToken now s with ⟨e,ht⟩ | ⟨task,o,s',-,heffect,ht⟩
  · rw [ht] at h
    cases h
  · rw [ht] at h
    obtain ⟨row,hrow,hkey,hexec,htoken⟩ := BeginOutcome.item_key h
    rw [hexec] at hexecute
    rw [hkey,htoken]
    cases heffect with
    | preCanceled => cases hexecute
    | start executions hnone hcancel hins =>
      left
      refine ⟨rfl,fun e he => ?_⟩
      have hrowkey : row.key = task.key := Table.get_key hrow
      rw [hrowkey,hnone] at he
      cases he
    | duplicate => cases hexecute
    | resume e he hhash hrunning hown =>
      right
      obtain rfl := Option.some.inj hrow
      refine ⟨e,?_,by simpa using hexecute,hown.1,hown.2,rfl⟩
      rw [Table.get_key he]
      exact he
    | finish => cases hexecute
    | takeOver e executions he hhash hopen hassign =>
      left
      refine ⟨rfl,fun e' he' => ?_⟩
      have hrowkey : row.key = task.key := Table.get_key hrow
      rw [hrowkey] at he'
      obtain rfl := Option.some.inj (he.symm.trans he')
      rcases hopen with ⟨hstate,-⟩ | ⟨hstate,-,hlive⟩
      · simp [hstate,TaskState.terminal]
      · simp [hstate,TaskState.terminal,hlive]

/-- The caller's live claim holds a request for the task with this canonical body. -/
def presentsRequest (rt : Runtime) (s : PacketStore) (groupId owner : ConsumerId)
    (claimToken drawn : Token) (now : ℤ) (k : TaskKey) (packed : Bytes) : Prop :=
  ∃ r i body request, s.liveClaim groupId.val owner.val claimToken.val now = some (r,i) ∧
    rt.unpack i.body = .ok body ∧ validateTaskRequest rt drawn.val body = .ok request ∧
    rt.canonicalPack request.toValue = .ok packed ∧
    k = ⟨groupId.val,i.senderId,request.taskId⟩

/-- `_agent_task_hash` of a packed request. -/
def requestDigest (rt : Runtime) (packed : Bytes) : String := rt.blake2s "anettsk1" 32 packed

theorem presentsRequest_intent {k : TaskKey} {packed : Bytes} {task : TaskIntent}
    (h : presentsRequest rt s groupId owner claimToken drawn now k packed)
    (hadmitted : s.admitTask rt groupId owner claimToken allowedSenders allowedCapabilities drawn now =
      .ok task) : task.key = k ∧ task.bodyHash = requestDigest rt packed := by
  obtain ⟨r,i,body,request,hclaim,hbody,hrequest,hpacked,rfl⟩ := h
  obtain ⟨r',i',body',request',packed',hclaim',-,-,hbody',hrequest',hpacked',rfl⟩ := admitTask_ok hadmitted
  rw [hclaim] at hclaim'
  cases hclaim'
  rw [hbody] at hbody'
  cases hbody'
  rw [hrequest] at hrequest'
  cases hrequest'
  rw [hpacked] at hpacked'
  cases hpacked'
  exact ⟨rfl,rfl⟩

/-- A begin with another body than the registered one is refused and changes nothing. -/
theorem begin_other_body {k : TaskKey} {packed : Bytes} {e : AgentTaskExecution}
    (he : s.agentTaskExecutions.get k = some e)
    (h : presentsRequest rt s groupId owner claimToken drawn now k packed)
    (hbody : e.requestHash ≠ requestDigest rt packed) :
    ∃ err, beginAgentTask rt groupId owner claimToken allowedSenders allowedCapabilities drawn
      executionToken now s = (.error err,s) := by
  rcases beginAgentTask_cases rt groupId owner claimToken allowedSenders allowedCapabilities drawn
    executionToken now s with ht | ⟨task,o,s',hadmitted,heffect,-⟩
  · exact ht
  · obtain ⟨rfl,hdigest⟩ := presentsRequest_intent h hadmitted
    rw [← hdigest] at hbody
    have hmatch (e' : AgentTaskExecution) (he' : s.agentTaskExecutions.get task.key = some e') :
        e'.requestHash ≠ task.bodyHash := by
      obtain rfl := Option.some.inj (he.symm.trans he')
      exact hbody
    cases heffect with
    | preCanceled _ _ hnone => rw [he] at hnone; cases hnone
    | start _ hnone => rw [he] at hnone; cases hnone
    | duplicate e' _ he' hhash => exact absurd hhash (hmatch e' he')
    | resume e' he' hhash => exact absurd hhash (hmatch e' he')
    | finish e' _ he' hhash => exact absurd hhash (hmatch e' he')
    | takeOver e' _ he' hhash => exact absurd hhash (hmatch e' he')

/-- The begin that registers a task records the digest of its body. -/
theorem begin_registers {k : TaskKey} {packed : Bytes} {e : AgentTaskExecution}
    (hnone : s.agentTaskExecutions.get k = none)
    (h : presentsRequest rt s groupId owner claimToken drawn now k packed)
    (he : (beginAgentTask rt groupId owner claimToken allowedSenders allowedCapabilities drawn
      executionToken now s).2.agentTaskExecutions.get k = some e) :
    e.requestHash = requestDigest rt packed := by
  rcases beginAgentTask_cases rt groupId owner claimToken allowedSenders allowedCapabilities drawn
    executionToken now s with ⟨err,ht⟩ | ⟨task,o,s',hadmitted,heffect,ht⟩
  · rw [ht] at he
    rw [hnone] at he
    cases he
  · rw [ht] at he
    obtain ⟨rfl,hdigest⟩ := presentsRequest_intent h hadmitted
    have hnew (e' : AgentTaskExecution) : s.agentTaskExecutions.get task.key ≠ some e' := by
      rw [hnone]
      exact fun h => by cases h
    cases heffect with
    | preCanceled c executions _ _ hins =>
      have hget := (Table.get_insert hins task.key).trans (if_pos rfl)
      dsimp only at he
      rw [hget] at he
      cases he
      exact hdigest
    | start executions _ _ hins =>
      have hget := (Table.get_insert hins task.key).trans (if_pos rfl)
      dsimp only at he
      rw [hget] at he
      cases he
      exact hdigest
    | duplicate e' _ he' => exact absurd he' (hnew e')
    | resume e' he' => exact absurd he' (hnew e')
    | finish e' _ he' => exact absurd he' (hnew e')
    | takeOver e' _ he' => exact absurd he' (hnew e')

end Calls

/-- In every run one worker at a time can settle a task, a task that was taken
over is lost to its former worker, a task is acquired only while it is open and
not held, a terminal task stays as it is, and a second body does not touch it. -/
theorem agent_tasks_hold (rt : Runtime) {w : WorkWorld}
    (h : Reaches (WorkStep rt) WorkWorld.initial w) :
    ((∀ (groupId groupId' owner owner' : ConsumerId)
        (claimToken claimToken' executionToken executionToken' : Token) state state' output output'
        error error' retry retry' now now' settled settled',
        (settleAgentTask rt groupId owner claimToken executionToken state output error retry now
          w.store).1 = .ok settled →
        (settleAgentTask rt groupId' owner' claimToken' executionToken' state' output' error' retry'
          now' w.store).1 = .ok settled' → settled.task.key = settled'.task.key →
          owner.val = owner'.val ∧ claimToken.val = claimToken'.val ∧
            executionToken.val = executionToken'.val) ∧
      ∀ w₁ w₂, Reaches (WorkStep rt) w w₁ → Reaches (WorkStep rt) w₁ w₂ →
        ∀ k e (executionToken : Token), w.store.agentTaskExecutions.get k = some e →
          e.executionToken = executionToken.val →
          (∀ e', w₁.store.agentTaskExecutions.get k = some e' →
            e'.executionToken ≠ executionToken.val) →
          ∀ groupId owner claimToken state output error retry now, ∃ err,
            settleAgentTask rt groupId owner claimToken executionToken state output error retry now
              w₂.store = (.error err,w₂.store)) ∧
    (∀ (groupId owner : ConsumerId) (claimToken : Token) allowedSenders allowedCapabilities
      (drawn executionToken : Token) now grant,
      (beginAgentTask rt groupId owner claimToken allowedSenders allowedCapabilities drawn
        executionToken now w.store).1 = .ok grant → grant.execute = true →
      (grant.executionToken = executionToken.val ∧
        ∀ e, w.store.agentTaskExecutions.get grant.task.key = some e → ¬ e.state.terminal ∧
          e.state ≠ .canceling ∧ (e.state = .working → ¬ w.store.taskLeaseLive groupId.val e now)) ∨
      ∃ e, w.store.agentTaskExecutions.get grant.task.key = some e ∧ e.state = .working ∧
        e.owner = owner.val ∧ e.claimToken = claimToken.val ∧
        grant.executionToken = e.executionToken) ∧
    (∀ k e, w.store.agentTaskExecutions.get k = some e → e.state.terminal →
      ∀ w', Reaches (WorkStep rt) w w' → w'.store.agentTaskExecutions.get k = some e ∧
        ∀ (groupId owner : ConsumerId) (claimToken : Token) allowedSenders allowedCapabilities
          (drawn executionToken : Token) now grant,
          (beginAgentTask rt groupId owner claimToken allowedSenders allowedCapabilities drawn
            executionToken now w'.store).1 = .ok grant → grant.task.key = k →
              grant.execute = false) ∧
    ∀ (groupId owner : ConsumerId) (claimToken : Token) allowedSenders allowedCapabilities
      (drawn executionToken : Token) now k packed w₁ e,
      w.store.agentTaskExecutions.get k = none →
      presentsRequest rt w.store groupId owner claimToken drawn now k packed →
      w₁ = w.after rt (.begin groupId owner claimToken allowedSenders allowedCapabilities drawn
        executionToken now) → w₁.store.agentTaskExecutions.get k = some e →
      ∀ w', Reaches (WorkStep rt) w₁ w' →
        ∀ (groupId' owner' : ConsumerId) (claimToken' : Token) allowedSenders' allowedCapabilities'
          (drawn' executionToken' : Token) now' packed',
          presentsRequest rt w'.store groupId' owner' claimToken' drawn' now' k packed' →
          packed' ≠ packed →
          (requestDigest rt packed' = requestDigest rt packed → packed' = packed) →
          ∃ err, beginAgentTask rt groupId' owner' claimToken' allowedSenders' allowedCapabilities'
            drawn' executionToken' now' w'.store = (.error err,w'.store) := by
  refine ⟨⟨?_,?_⟩,?_,?_,?_⟩
  · intro groupId groupId' owner owner' claimToken claimToken' executionToken executionToken' state
      state' output output' error error' retry retry' now now' settled settled' hs hs' hkey
    obtain ⟨e,he,hheld⟩ := settleAgentTask_held hs
    obtain ⟨e',he',hheld'⟩ := settleAgentTask_held hs'
    rw [← hkey] at he'
    obtain rfl := Option.some.inj (he.symm.trans he')
    exact ⟨hheld.2.1.symm.trans hheld'.2.1,hheld.2.2.1.symm.trans hheld'.2.2.1,
      hheld.2.2.2.1.symm.trans hheld'.2.2.2.1⟩
  · intro w₁ w₂ h₁ h₂ k e executionToken he htoken hlost groupId owner claimToken state output error
      retry now
    apply settle_refused
    apply Fence.stale (executionFence_sound h) (executionFence_run h₁) (executionFence_run h₂) (k := k)
    · exact heldToken_eq_some.mpr ⟨e,he,htoken,executionToken.ne_empty⟩
    · intro hheld
      obtain ⟨e',he',htoken',-⟩ := heldToken_eq_some.mp hheld
      exact hlost e' he' htoken'
  · intro groupId owner claimToken allowedSenders allowedCapabilities drawn executionToken now grant
      hbegin hexecute
    exact beginAgentTask_execute hbegin hexecute
  · intro k e he hterminal w' hrun
    have he' := terminal_run he hterminal hrun
    refine ⟨he',?_⟩
    rintro groupId owner claimToken allowedSenders allowedCapabilities drawn executionToken now grant
      hbegin rfl
    rw [← Bool.not_eq_true]
    intro hexecute
    rcases beginAgentTask_execute hbegin hexecute with ⟨-,hopen⟩ | ⟨e₁,he₁,hworking,-⟩
    · exact (hopen e he').1 hterminal
    · obtain rfl := Option.some.inj (he'.symm.trans he₁)
      simp [hworking,TaskState.terminal] at hterminal
  · rintro groupId owner claimToken allowedSenders allowedCapabilities drawn executionToken now k
      packed w₁ e hnone hpresents rfl he w' hrun groupId' owner' claimToken' allowedSenders'
      allowedCapabilities' drawn' executionToken' now' packed' hpresents' hne hcollision
    have hhash := begin_registers hnone hpresents he
    obtain ⟨e',he',hsame⟩ := requestHash_run he hrun
    refine begin_other_body he' hpresents' ?_
    rw [hsame,hhash]
    exact fun heq => hne (hcollision heq.symm)

section Sample

def sampleTaskId : String := "0123456789abcdef0123456789abcdef"

def requestBody : Value :=
  .map [(.str "protocol",.str agentProtocol),(.str "version",.int 1),
    (.str "task_id",.str sampleTaskId),(.str "objective",.str "sum"),(.str "input",.nil),
    (.str "required_capabilities",.list []),(.str "context",.map [])]

def cancelBody : Value :=
  .map [(.str "protocol",.str agentProtocol),(.str "version",.int 1),
    (.str "task_id",.str sampleTaskId),(.str "reason",.str "enough")]

def taskRuntime : Runtime :=
  Runtime.plain fun raw =>
    (([requestBody,cancelBody,.list []].find? fun v => v.wire = raw).map .ok).getD
      (.error (.value "unpackable"))

def requestMessage : OpenedMessage :=
  ⟨"q",noteSender,[],[],requestKind,1000,requestBody,[],"msgpack","","normal",.static,""⟩

def sampleKey : TaskKey := ⟨"notes",noteSender,sampleTaskId⟩

def beginTask (owner : ConsumerId) (claimToken executionToken : Token) (now : ℤ) : WorkOp :=
  .begin notesGroup owner claimToken ["*"] [] executionToken executionToken now

def requestedTask : WorkWorld :=
  (WorkWorld.initial.after taskRuntime (.addInbox requestMessage true true 1000)).after taskRuntime
    (.openGroup notesGroup "earliest" "" "" true false 1000)

def claimedTask : WorkWorld :=
  requestedTask.after taskRuntime (claimNote firstWorker firstToken 2000)

def begunTask : WorkWorld :=
  claimedTask.after taskRuntime (beginTask firstWorker firstToken firstToken 3000)

def completeTask : WorkOp :=
  .settle notesGroup firstWorker firstToken firstToken "completed" .nil "" ⟨0,retry_low,retry_high⟩
    4000

theorem requestedTask_unseen (x : String) :
    x ∉ requestedTask.claimTokens ∧ x ∉ requestedTask.executionTokens := by
  constructor
  · refine claimToken_unseen rfl (claimToken_unseen rfl (fun h => by cases h) ?_) ?_ <;>
      exact fun r hr => by cases hr
  · refine executionToken_unseen rfl (executionToken_unseen rfl (fun h => by cases h) ?_) ?_ <;>
      exact fun r hr => by cases hr

theorem claimedTask_reachable : Reaches (WorkStep taskRuntime) .initial claimedTask := by
  refine .tail (.tail (.single ⟨_,?_,rfl⟩) ⟨_,?_,rfl⟩)
    (workStep_after _ (claimNote_allowed _ _ (requestedTask_unseen _).1))
  · trivial
  · trivial

theorem begunTask_reachable : Reaches (WorkStep taskRuntime) .initial begunTask := by
  refine .tail claimedTask_reachable ⟨_,?_,rfl⟩
  exact executionToken_unseen rfl (requestedTask_unseen _).2 (by decide +kernel)

theorem agent_tasks_hold_sample : ∃ e,
    (begunTask.after taskRuntime completeTask).store.agentTaskExecutions.get sampleKey = some e ∧
      e.state = .completed ∧
      ∀ w', Reaches (WorkStep taskRuntime) (begunTask.after taskRuntime completeTask) w' →
        w'.store.agentTaskExecutions.get sampleKey = some e := by
  have hreach : Reaches (WorkStep taskRuntime) .initial
      (begunTask.after taskRuntime completeTask) :=
    .tail begunTask_reachable (workStep_after completeTask trivial)
  have hstate : ((begunTask.after taskRuntime completeTask).store.agentTaskExecutions.get
      sampleKey).map AgentTaskExecution.state = some .completed := by decide +kernel
  obtain ⟨e,he,hcompleted⟩ := Option.map_eq_some_iff.mp hstate
  refine ⟨e,he,hcompleted,fun w' hw' => ?_⟩
  exact ((agent_tasks_hold taskRuntime hreach).2.2.1 sampleKey e he
    (by rw [hcompleted]; decide) w' hw').1

end Sample
end Anet
