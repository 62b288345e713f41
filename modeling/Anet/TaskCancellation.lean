import Anet.TaskExecutions

/-! Cancellation of agent tasks. The execution and the cancellation of a task
stay in step, and a cancellation that reaches an open task closes it for good. -/
namespace Anet

open PacketStore AgentProtocol AgentTaskExecution AgentTaskCancellation

/-- What a cancellation row says about the execution beside it. -/
structure InStep (e : Option AgentTaskExecution) (c : Option AgentTaskCancellation) : Prop where
  unasked : c = none → ∀ e', e = some e' → e'.state ≠ .canceling
  requested : ∀ c', c = some c' → c'.state = .requested → ∀ e', e = some e' → e'.state = .canceling
  applied : ∀ c', c = some c' → c'.state = .applied → ∃ e', e = some e' ∧ e'.state = .canceled
  tooLate : ∀ c', c = some c' → c'.state = .tooLate →
    ∃ e', e = some e' ∧ e'.state.terminal ∧ e'.state ≠ .canceled

section Moves

variable {rt : Runtime} {w : WorkWorld} {op : WorkOp} {k : TaskKey}
  {e e' : Option AgentTaskExecution} {c c' : Option AgentTaskCancellation}

theorem InStep.of_requested {c₁ : AgentTaskCancellation} (hstate : c₁.state = .requested)
    (h : ∀ e', e = some e' → e'.state = .canceling) : InStep e (some c₁) where
  unasked hc := by cases hc
  requested _ _ _ := h
  applied c' hc hs := by
    cases hc
    simp [hstate] at hs
  tooLate c' hc hs := by
    cases hc
    simp [hstate] at hs

theorem InStep.of_applied {c₁ : AgentTaskCancellation} {e₁ : AgentTaskExecution}
    (hstate : c₁.state = .applied) (h : e₁.state = .canceled) : InStep (some e₁) (some c₁) where
  unasked hc := by cases hc
  requested c' hc hs := by
    cases hc
    simp [hstate] at hs
  applied _ _ _ := ⟨e₁,rfl,h⟩
  tooLate c' hc hs := by
    cases hc
    simp [hstate] at hs

theorem InStep.of_tooLate {c₁ : AgentTaskCancellation} {e₁ : AgentTaskExecution}
    (hstate : c₁.state = .tooLate) (h : e₁.state.terminal) (hne : e₁.state ≠ .canceled) :
    InStep (some e₁) (some c₁) where
  unasked hc := by cases hc
  requested c' hc hs := by
    cases hc
    simp [hstate] at hs
  applied c' hc hs := by
    cases hc
    simp [hstate] at hs
  tooLate _ _ _ := ⟨e₁,rfl,h,hne⟩

theorem InStep.of_unasked (h : ∀ e', e = some e' → e'.state ≠ .canceling) : InStep e none where
  unasked _ := h
  requested _ hc := by cases hc
  applied _ hc := by cases hc
  tooLate _ hc := by cases hc

/-- A task in step that works or waits has not been canceled. -/
theorem InStep.open_unasked {e₁ : AgentTaskExecution} (h : InStep (some e₁) c)
    (hopen : e₁.state = .working ∨ e₁.state = .retry) : c = none := by
  cases c with
  | none => rfl
  | some c₁ =>
    cases hs : c₁.state with
    | requested =>
      have := h.requested c₁ rfl hs e₁ rfl
      simp [this] at hopen
    | applied =>
      obtain ⟨e₂,he,hcanceled⟩ := h.applied c₁ rfl hs
      cases he
      simp [hcanceled] at hopen
    | tooLate =>
      obtain ⟨e₂,he,hterminal,-⟩ := h.tooLate c₁ rfl hs
      cases he
      rcases hopen with hopen | hopen <;> simp [hopen,TaskState.terminal] at hterminal

/-- A task in step that is canceling has a pending request. -/
theorem InStep.canceling_requested {e₁ : AgentTaskExecution} (h : InStep (some e₁) c)
    (hstate : e₁.state = .canceling) : ∃ c₁, c = some c₁ ∧ c₁.state = .requested := by
  cases c with
  | none => exact absurd hstate (h.unasked rfl e₁ rfl)
  | some c₁ =>
    refine ⟨c₁,rfl,?_⟩
    cases hs : c₁.state with
    | requested => rfl
    | applied =>
      obtain ⟨e₂,he,hcanceled⟩ := h.applied c₁ rfl hs
      cases he
      simp [hcanceled] at hstate
    | tooLate =>
      obtain ⟨e₂,he,hterminal,-⟩ := h.tooLate c₁ rfl hs
      cases he
      simp [hstate,TaskState.terminal] at hterminal

/-- A task in step without an execution has at most a pending request. -/
theorem InStep.absent_unheeded (h : InStep none c) (hc : heeded c = none) : c = none := by
  cases c with
  | none => rfl
  | some c₁ =>
    cases hs : c₁.state with
    | requested => simp [heeded,hs] at hc
    | applied => simp [heeded,hs] at hc
    | tooLate =>
      obtain ⟨e₂,he,-⟩ := h.tooLate c₁ rfl hs
      cases he

theorem inStep_ask {cancel : CancelIntent} {now : ℤ} (heffect : AskEffect cancel now e c e' c') :
    InStep e' c' := by
  cases heffect with
  | absent => exact .of_requested rfl fun e₁ he => by cases he
  | ended e₁ _ _ _ hterminal =>
    by_cases hcanceled : e₁.state = .canceled
    · exact .of_applied (by simp [record,hcanceled]) hcanceled
    · exact .of_tooLate (by simp [record,hcanceled]) hterminal hcanceled
  | running => exact .of_requested rfl fun e₁ he => by cases he; rfl
  | waiting => exact .of_applied rfl rfl

/-- Every call keeps the two rows in step. -/
theorem inStep_move (hmove : TaskMove rt w op k e c e' c') (h : InStep e c) : InStep e' c' := by
  cases hmove with
  | same => exact h
  | preCanceled => exact .of_applied rfl rfl
  | start _ _ _ _ _ _ _ hc =>
    obtain rfl := h.absent_unheeded hc
    exact .of_unasked fun e₁ he => by cases he; simp [begun]
  | finish e₁ _ _ _ hopen =>
    rcases hopen with hcanceling | ⟨hretry,hsome⟩
    · obtain ⟨c₁,rfl,-⟩ := h.canceling_requested hcanceling
      exact .of_applied rfl rfl
    · obtain rfl := h.open_unasked (Or.inr hretry)
      cases hsome
  | takeOver _ _ _ _ _ e₁ _ hopen =>
    obtain rfl := h.open_unasked (hopen.symm.imp id fun h => h.1)
    exact .of_unasked fun e₁ he => by cases he; simp [takeOver]
  | settleRetry e₁ _ _ _ hstate =>
    obtain rfl := h.open_unasked (Or.inl hstate)
    exact .of_unasked fun e₁ he => by cases he; simp [settleRetry]
  | settle e₁ _ state _ _ _ hrunning hcancel hterminal =>
    by_cases hcanceling : e₁.state = .canceling
    · obtain ⟨c₁,rfl,hrequested⟩ := h.canceling_requested hcanceling
      have hstate := hcancel hcanceling
      subst hstate
      simp only [if_true,Option.map_some,hrequested]
      exact .of_applied rfl rfl
    · have hworking : e₁.state = .working := by
        cases hs : e₁.state <;> simp [hs,TaskState.running] at hrunning hcanceling ⊢
      obtain rfl := h.open_unasked (Or.inl hworking)
      simp only [Option.map_none,ite_self]
      refine .of_unasked fun e₂ he => ?_
      cases he
      cases state <;> simp [settle,TaskState.terminal] at hterminal ⊢
  | ask _ _ _ _ _ _ _ _ heffect => exact inStep_ask heffect

/-- A heeded cancellation stays heeded. -/
theorem heeded_move (hmove : TaskMove rt w op k e c e' c') (h : InStep e c)
    (hc : (heeded c).isSome) : (heeded c').isSome := by
  cases hmove with
  | same => exact hc
  | preCanceled => rfl
  | start => exact hc
  | finish _ c =>
    cases c with
    | none => exact hc
    | some c => rfl
  | takeOver => exact hc
  | settleRetry => exact hc
  | settle _ c state =>
    cases c with
    | none => cases hc
    | some c₁ =>
      dsimp only [Option.map_some]
      split
      · split
        · rfl
        · exact hc
      · exact hc
  | ask _ _ _ _ _ _ _ _ heffect =>
    cases heffect with
    | absent => rfl
    | ended e₁ _ _ _ hterminal =>
      obtain ⟨c₂,hc₂⟩ := Option.isSome_iff_exists.mp hc
      obtain ⟨rfl,hstate⟩ := heeded_some.mp hc₂
      have hcanceled : e₁.state = .canceled := by
        rcases hstate with hs | hs
        · have hcanceling := h.requested _ rfl hs e₁ rfl
          simp [hcanceling,TaskState.terminal] at hterminal
        · obtain ⟨e₂,he,hcanceled⟩ := h.applied _ rfl hs
          cases he
          exact hcanceled
      simp [heeded,record,hcanceled]
    | running => rfl
    | waiting => rfl

/-- An application to an open task leaves a heeded cancellation. -/
theorem heeded_ask {cancel : CancelIntent} {now : ℤ} (heffect : AskEffect cancel now e c e' c')
    (hopen : ∀ e₁, e = some e₁ → ¬ e₁.state.terminal) : (heeded c').isSome := by
  cases heffect with
  | absent => rfl
  | ended e₁ _ _ _ hterminal => exact absurd hterminal (hopen e₁ rfl)
  | running => rfl
  | waiting => rfl

/-- A task whose cancellation is heeded is absent, canceling or canceled. -/
theorem InStep.closed (h : InStep e c) (hc : (heeded c).isSome) {e₁ : AgentTaskExecution}
    (he : e = some e₁) : e₁.state = .canceling ∨ e₁.state = .canceled := by
  obtain ⟨c₁,hc₁⟩ := Option.isSome_iff_exists.mp hc
  obtain ⟨rfl,hs | hs⟩ := heeded_some.mp hc₁
  · exact Or.inl (h.requested c₁ rfl hs e₁ he)
  · obtain ⟨e₂,he₂,hcanceled⟩ := h.applied c₁ rfl hs
    obtain rfl := Option.some.inj (he.symm.trans he₂)
    exact Or.inr hcanceled

end Moves

section Runs

variable {rt : Runtime} {w w' : WorkWorld} {k : TaskKey}

/-- The execution and the cancellation of a task. -/
def TaskInStep (w : WorkWorld) (k : TaskKey) : Prop :=
  InStep (w.store.agentTaskExecutions.get k) (w.store.agentTaskCancellations.get k)

/-- A cancellation of the task is pending or applied. -/
def TaskClosed (w : WorkWorld) (k : TaskKey) : Prop :=
  (heeded (w.store.agentTaskCancellations.get k)).isSome

theorem inStep_run (h : Reaches (WorkStep rt) w w') (hw : TaskInStep w k) : TaskInStep w' k := by
  refine Reaches.invariant (I := fun v => TaskInStep v k) ?_ hw h
  intro v v' hv hstep
  obtain ⟨op,-,-,hmove⟩ := step_task hstep
  exact inStep_move (hmove k) hv

theorem reachable_inStep (h : Reaches (WorkStep rt) .initial w) : TaskInStep w k :=
  inStep_run h (.of_unasked fun _ he => by cases he)

theorem closed_run (h : Reaches (WorkStep rt) w w') (hw : TaskInStep w k) (hc : TaskClosed w k) :
    TaskInStep w' k ∧ TaskClosed w' k := by
  refine Reaches.invariant (I := fun v => TaskInStep v k ∧ TaskClosed v k) ?_ ⟨hw,hc⟩ h
  rintro v v' ⟨hv,hvc⟩ hstep
  obtain ⟨op,-,-,hmove⟩ := step_task hstep
  exact ⟨inStep_move (hmove k) hv,heeded_move (hmove k) hv hvc⟩

theorem begin_closed {groupId owner : ConsumerId} {claimToken drawn executionToken : Token}
    {allowedSenders allowedCapabilities : List String} {now : ℤ} {grant : TaskGrant}
    (h : (beginAgentTask rt groupId owner claimToken allowedSenders allowedCapabilities drawn
      executionToken now w.store).1 = .ok grant) (hw : TaskInStep w grant.task.key)
    (hc : TaskClosed w grant.task.key) : grant.execute = false := by
  rcases beginAgentTask_cases rt groupId owner claimToken allowedSenders allowedCapabilities drawn
    executionToken now w.store with ⟨e,ht⟩ | ⟨task,o,s',-,heffect,ht⟩
  · rw [ht] at h
    cases h
  rw [ht] at h
  obtain ⟨row,hrow,hkey,hexec,-⟩ := BeginOutcome.item_key h
  rw [hkey] at hw hc
  rw [hexec]
  cases heffect with
  | preCanceled => rfl
  | start executions hnone hcancel hins =>
    have hrowkey : row.key = task.key := Table.get_key hrow
    rw [hrowkey,TaskClosed] at hc
    have hunheeded : heeded (w.store.agentTaskCancellations.get task.key) = none := hcancel
    rw [hunheeded] at hc
    cases hc
  | duplicate => rfl
  | resume e he hhash hrunning hown =>
    obtain rfl := Option.some.inj hrow
    rcases hw.closed hc (by rw [Table.get_key he]; exact he) with hs | hs <;> simp [hs]
  | finish => rfl
  | takeOver e executions he hhash hopen hassign =>
    have hrowkey : row.key = task.key := Table.get_key hrow
    rw [hrowkey] at hw hc
    rcases hw.closed hc he with hs | hs <;> simp [hs] at hopen

theorem settle_closed {groupId owner : ConsumerId} {claimToken executionToken : Token}
    {state : String} {output : Value} {error : String} {retry : RetryMs} {now : ℤ}
    {settled : SettledTask} (h : (settleAgentTask rt groupId owner claimToken executionToken state
      output error retry now w.store).1 = .ok settled) (hw : TaskInStep w settled.task.key)
    (hc : TaskClosed w settled.task.key) : settled.task.state = .canceled := by
  rcases settleAgentTask_cases rt groupId owner claimToken executionToken state output error retry
    now w.store with ⟨e,ht⟩ | ⟨kind,message,encoded,row,s',-,hsettle,ht⟩
  · rw [ht] at h
    cases h
  rw [ht] at h
  obtain ⟨e',he',hkey,hstate⟩ := settledTask_key h
  obtain ⟨e,_,he,hheld,-,-,hcancel,rfl,hdone⟩ := settleExecution_cases hsettle
  have hekey : e'.key = e.key := Table.get_key he'
  rw [hkey,hekey] at hw hc
  have hcanceling : e.state = .canceling := by
    rcases hw.closed hc he with hs | hs
    · exact hs
    · have hrunning := hheld.2.2.2.2
      simp [hs,TaskState.running] at hrunning
  have hkind := hcancel hcanceling
  subst hkind
  rw [hstate]
  rcases hdone with ⟨hretry,-⟩ | ⟨-,rfl⟩
  · cases hretry
  · have hget : (w.store.agentTaskExecutions.settleKey e.key .canceled now encoded
        (cut 8192 message)).get e.key = some e' := he'
    rw [get_settleKey,if_pos rfl,he] at hget
    cases hget
    rfl

/-- An application that returns recorded its cancellation. -/
theorem applyAgentTaskCancellation_ok {groupId owner : ConsumerId} {claimToken : Token}
    {allowedSenders : List String} {now : ℤ} {s : PacketStore} {item : CancellationItem}
    (h : (applyAgentTaskCancellation rt groupId owner claimToken allowedSenders now s).1 =
      .ok item) :
    ∃ cancel o, s.admitCancellation rt groupId owner claimToken allowedSenders now = .ok cancel ∧
      s.recordCancellation cancel groupId.val owner.val claimToken.val now =
        .ok (o,(applyAgentTaskCancellation rt groupId owner claimToken allowedSenders now s).2) ∧
      item.key = cancel.key := by
  rcases applyAgentTaskCancellation_cases rt groupId owner claimToken allowedSenders now s with
    ⟨e,ht⟩ | ⟨cancel,o,s',hadmitted,hrecord,ht⟩
  · rw [ht] at h
    cases h
  · rw [ht] at h ⊢
    refine ⟨cancel,o,hadmitted,hrecord,?_⟩
    obtain ⟨c,-,hrow,-⟩ := recordCancellation_cases hrecord
    cases hc : o.1 with
    | none =>
      rw [hc] at h
      cases h
    | some c' =>
      rw [hc] at h hrow
      cases h
      have hkey := Table.get_key hrow.symm
      exact hkey

/-- Another cancellation of the task under the same digest gives the same reason. -/
def Agrees (rt : Runtime) (cancel : CancelIntent) (w : WorkWorld) (op : WorkOp) : Prop :=
  ∀ cancel' now, Applies rt w op cancel' now → cancel'.key = cancel.key →
    cancel'.bodyHash = cancel.bodyHash → cancel'.reason = cancel.reason

/-- Steps in which no other body collides with the cancellation's. -/
def AgreeingStep (rt : Runtime) (cancel : CancelIntent) (w w' : WorkWorld) : Prop :=
  ∃ op : WorkOp, op.Allowed w ∧ Agrees rt cancel w op ∧ w' = w.after rt op

theorem AgreeingStep.work {cancel : CancelIntent} (h : AgreeingStep rt cancel w w') :
    WorkStep rt w w' := by
  obtain ⟨op,hop,-,rfl⟩ := h
  exact workStep_after op hop

theorem AgreeingStep.run {cancel : CancelIntent} (h : Reaches (AgreeingStep rt cancel) w w') :
    Reaches (WorkStep rt) w w' :=
  Relation.ReflTransGen.mono (fun _ _ => AgreeingStep.work) _ _ h

/-- The task carries the cancellation's digest, and its reason while it is canceling. -/
structure Told (cancel : CancelIntent) (e : Option AgentTaskExecution)
    (c : Option AgentTaskCancellation) : Prop where
  digest : ∃ c', c = some c' ∧ c'.cancelHash = cancel.bodyHash
  reason : ∀ e', e = some e' → e'.state = .canceling → e'.error = cancel.reason

section Told

variable {op : WorkOp} {cancel cancel' : CancelIntent} {now : ℤ} {e e' : Option AgentTaskExecution}
  {c c' : Option AgentTaskCancellation}

theorem asked_digest {c₁ : AgentTaskCancellation} (h : Asked cancel now c c₁) :
    c₁.cancelHash = cancel.bodyHash := by
  rcases h with ⟨-,rfl⟩ | ⟨-,hhash⟩
  · rfl
  · exact hhash

theorem told_ask (heffect : AskEffect cancel now e c e' c') : Told cancel e' c' := by
  cases heffect with
  | absent _ _ hasked =>
    have hdigest := asked_digest hasked
    exact ⟨⟨_,rfl,hdigest⟩,fun e₁ he => by cases he⟩
  | ended e₁ _ _ hasked hterminal =>
    have hdigest := asked_digest hasked
    refine ⟨⟨_,rfl,hdigest⟩,fun e₂ he hstate => ?_⟩
    cases he
    simp [hstate,TaskState.terminal] at hterminal
  | running e₁ _ _ hasked =>
    have hdigest := asked_digest hasked
    exact ⟨⟨_,rfl,hdigest⟩,fun e₂ he _ => by cases he; rfl⟩
  | waiting e₁ _ _ hasked =>
    have hdigest := asked_digest hasked
    refine ⟨⟨_,rfl,hdigest⟩,fun e₂ he hstate => ?_⟩
    cases he
    cases hstate

/-- The digest the cancellation row had is the digest of any cancellation it accepts. -/
theorem asked_same {c₁ c₂ : AgentTaskCancellation} (h : Asked cancel' now c c₁) (hc : c = some c₂) :
    c₂.cancelHash = cancel'.bodyHash := by
  rcases h with ⟨hnone,-⟩ | ⟨hsome,hhash⟩
  · rw [hc] at hnone
    cases hnone
  · rw [hc] at hsome
    cases hsome
    exact hhash

theorem ask_was {c₂ : AgentTaskCancellation} (heffect : AskEffect cancel' now e c e' c')
    (hc : c = some c₂) : c₂.cancelHash = cancel'.bodyHash := by
  cases heffect with
  | absent _ _ hasked => exact asked_same hasked hc
  | ended _ _ _ hasked => exact asked_same hasked hc
  | running _ _ _ hasked => exact asked_same hasked hc
  | waiting _ _ _ hasked => exact asked_same hasked hc

theorem told_move (hmove : TaskMove rt w op cancel.key e c e' c') (hagree : Agrees rt cancel w op)
    (h : Told cancel e c) : Told cancel e' c' := by
  obtain ⟨c₁,rfl,hdigest⟩ := h.digest
  cases hmove with
  | same => exact h
  | preCanceled => exact ⟨⟨_,rfl,hdigest⟩,fun e₁ he hs => by cases he; cases hs⟩
  | start => exact ⟨⟨_,rfl,hdigest⟩,fun e₁ he hs => by cases he; cases hs⟩
  | finish => exact ⟨⟨_,rfl,hdigest⟩,fun e₁ he hs => by cases he; cases hs⟩
  | takeOver => exact ⟨⟨_,rfl,hdigest⟩,fun e₁ he hs => by cases he; cases hs⟩
  | settleRetry => exact ⟨⟨_,rfl,hdigest⟩,fun e₁ he hs => by cases he; cases hs⟩
  | settle e₁ _ state _ _ _ _ _ hterminal =>
    have hsettled (now : ℤ) : (if c₁.state = .requested then c₁.apply now else c₁).cancelHash =
        cancel.bodyHash := by
      split <;> exact hdigest
    refine ⟨?_,fun e₂ he hs => ?_⟩
    · split
      · exact ⟨_,rfl,hsettled _⟩
      · exact ⟨c₁,rfl,hdigest⟩
    · cases he
      change state = .canceling at hs
      simp [hs,TaskState.terminal] at hterminal
  | ask cancel' now _ _ _ _ happly hkey heffect =>
    have hhash := (ask_was heffect rfl).symm.trans hdigest
    have htold := told_ask heffect
    have hreason := hagree cancel' now happly hkey hhash
    exact ⟨by rw [← hhash]; exact htold.digest,by rw [← hreason]; exact htold.reason⟩

end Told

theorem told_run {cancel : CancelIntent} (h : Reaches (AgreeingStep rt cancel) w w')
    (hw : Told cancel (w.store.agentTaskExecutions.get cancel.key)
      (w.store.agentTaskCancellations.get cancel.key)) :
    Told cancel (w'.store.agentTaskExecutions.get cancel.key)
      (w'.store.agentTaskCancellations.get cancel.key) := by
  refine Reaches.invariant (I := fun v : WorkWorld =>
    Told cancel (v.store.agentTaskExecutions.get cancel.key)
      (v.store.agentTaskCancellations.get cancel.key)) ?_ hw h
  rintro v v' hv ⟨op,hop,hagree,rfl⟩
  exact told_move (task_move hop (exec_work _ hop) cancel.key) hagree hv

/-- A repeated application changes the execution in its update time at most. -/
theorem ask_again {cancel cancel' : CancelIntent} {now : ℤ} {e e' : Option AgentTaskExecution}
    {c c' : Option AgentTaskCancellation} (h : InStep e c) (htold : Told cancel e c)
    (heffect : AskEffect cancel' now e c e' c') (hreason : cancel'.reason = cancel.reason) :
    e' = e ∨ ∃ e₁, e = some e₁ ∧ e₁.state = .canceling ∧
      e' = some { e₁ with updatedMs := now } := by
  obtain ⟨c₁,rfl,-⟩ := htold.digest
  cases heffect with
  | absent => exact Or.inl rfl
  | ended => exact Or.inl rfl
  | running e₁ _ _ _ hrunning =>
    right
    have hcanceling : e₁.state = .canceling := by
      cases hs : e₁.state with
      | working => cases h.open_unasked (Or.inl hs)
      | canceling => rfl
      | _ => simp [hs,TaskState.running] at hrunning
    have herror := htold.reason e₁ rfl hcanceling
    refine ⟨e₁,rfl,hcanceling,?_⟩
    rw [requestStop,hreason,← herror,← hcanceling]
  | waiting e₁ _ _ _ hretry => cases h.open_unasked (Or.inr hretry)

/-- A cancellation that is committed while its task is open closes the task: no
begin executes it any more, a settlement can only cancel it, and it stays absent,
canceling or canceled. The cancellation row is applied exactly when the execution
is canceled, and too late exactly when it ended otherwise. The same cancellation
again changes nothing of the execution but its update time. -/
theorem agent_task_cancellations_hold (rt : Runtime) {w : WorkWorld}
    (h : Reaches (WorkStep rt) WorkWorld.initial w) :
    (∀ (groupId owner : ConsumerId) (claimToken : Token) allowedSenders now item,
      (applyAgentTaskCancellation rt groupId owner claimToken allowedSenders now w.store).1 =
        .ok item →
      (∀ e, w.store.agentTaskExecutions.get item.key = some e → ¬ e.state.terminal) →
      ∀ w', Reaches (WorkStep rt)
        (w.after rt (.cancel groupId owner claimToken allowedSenders now)) w' →
        (∀ (groupId' owner' : ConsumerId) (claimToken' : Token) allowedSenders' allowedCapabilities
          (drawn executionToken : Token) now' grant,
          (beginAgentTask rt groupId' owner' claimToken' allowedSenders' allowedCapabilities drawn
            executionToken now' w'.store).1 = .ok grant → grant.task.key = item.key →
              grant.execute = false) ∧
        (∀ (groupId' owner' : ConsumerId) (claimToken' executionToken : Token) state output error
          retry now' settled,
          (settleAgentTask rt groupId' owner' claimToken' executionToken state output error retry
            now' w'.store).1 = .ok settled → settled.task.key = item.key →
              settled.task.state = .canceled) ∧
        ∀ e, w'.store.agentTaskExecutions.get item.key = some e →
          e.state = .canceling ∨ e.state = .canceled) ∧
    (∀ k c, w.store.agentTaskCancellations.get k = some c →
      (c.state = .applied ↔
        ∃ e, w.store.agentTaskExecutions.get k = some e ∧ e.state = .canceled) ∧
      (c.state = .tooLate ↔
        ∃ e, w.store.agentTaskExecutions.get k = some e ∧ e.state.terminal ∧
          e.state ≠ .canceled)) ∧
    ∀ (groupId owner groupId' owner' : ConsumerId) (claimToken claimToken' : Token) allowedSenders
      allowedSenders' now now' item item' cancel cancel' w',
      w.store.admitCancellation rt groupId owner claimToken allowedSenders now = .ok cancel →
      (applyAgentTaskCancellation rt groupId owner claimToken allowedSenders now w.store).1 =
        .ok item →
      Reaches (AgreeingStep rt cancel)
        (w.after rt (.cancel groupId owner claimToken allowedSenders now)) w' →
      w'.store.admitCancellation rt groupId' owner' claimToken' allowedSenders' now' =
        .ok cancel' →
      cancel'.key = cancel.key → cancel'.reason = cancel.reason →
      (applyAgentTaskCancellation rt groupId' owner' claimToken' allowedSenders' now' w'.store).1 =
        .ok item' →
      let again := (applyAgentTaskCancellation rt groupId' owner' claimToken' allowedSenders' now'
        w'.store).2.agentTaskExecutions.get cancel.key
      again = w'.store.agentTaskExecutions.get cancel.key ∨
        ∃ e, w'.store.agentTaskExecutions.get cancel.key = some e ∧ e.state = .canceling ∧
          again = some { e with updatedMs := now' } := by
  refine ⟨?_,?_,?_⟩
  · intro groupId owner claimToken allowedSenders now item hitem hopen w' hrun
    obtain ⟨cancel,o,hadmitted,hrecord,hkey⟩ := applyAgentTaskCancellation_ok hitem
    obtain ⟨heffect,-⟩ := recordCancellation_effect hrecord
    rw [hkey] at hopen ⊢
    have hafter : TaskInStep (w.after rt (.cancel groupId owner claimToken allowedSenders now))
        cancel.key := inStep_ask heffect
    have hclosed : TaskClosed (w.after rt (.cancel groupId owner claimToken allowedSenders now))
        cancel.key := heeded_ask heffect hopen
    obtain ⟨hstep,hheeded⟩ := closed_run hrun hafter hclosed
    refine ⟨?_,?_,fun e he => hstep.closed hheeded he⟩
    · intro groupId' owner' claimToken' allowedSenders' allowedCapabilities drawn executionToken now'
        grant hbegin hgrant
      rw [← hgrant] at hstep hheeded
      exact begin_closed hbegin hstep hheeded
    · intro groupId' owner' claimToken' executionToken state output error retry now' settled hsettle
        hsettled
      rw [← hsettled] at hstep hheeded
      exact settle_closed hsettle hstep hheeded
  · intro k c hc
    have hstep : TaskInStep w k := reachable_inStep h
    refine ⟨⟨hstep.applied c hc,?_⟩,⟨hstep.tooLate c hc,?_⟩⟩
    · rintro ⟨e,he,hcanceled⟩
      cases hs : c.state with
      | requested => simp [hstep.requested c hc hs e he] at hcanceled
      | applied => rfl
      | tooLate =>
        obtain ⟨e',he',-,hne⟩ := hstep.tooLate c hc hs
        obtain rfl := Option.some.inj (he.symm.trans he')
        exact absurd hcanceled hne
    · rintro ⟨e,he,hterminal,hne⟩
      cases hs : c.state with
      | requested => simp [hstep.requested c hc hs e he,TaskState.terminal] at hterminal
      | applied =>
        obtain ⟨e',he',hcanceled⟩ := hstep.applied c hc hs
        obtain rfl := Option.some.inj (he.symm.trans he')
        exact absurd hcanceled hne
      | tooLate => rfl
  · intro groupId owner groupId' owner' claimToken claimToken' allowedSenders allowedSenders' now now'
      item item' cancel cancel' w' hadmitted hitem hrun hadmitted' hkey hreason hitem'
    obtain ⟨cancel₁,o,hadmitted₁,hrecord,-⟩ := applyAgentTaskCancellation_ok hitem
    obtain rfl := Except.ok.inj (hadmitted.symm.trans hadmitted₁)
    obtain ⟨cancel₂,o',hadmitted₂,hrecord',-⟩ := applyAgentTaskCancellation_ok hitem'
    obtain rfl := Except.ok.inj (hadmitted'.symm.trans hadmitted₂)
    obtain ⟨heffect,-⟩ := recordCancellation_effect hrecord
    obtain ⟨heffect',-⟩ := recordCancellation_effect hrecord'
    rw [hkey] at heffect'
    have htold := told_run hrun (told_ask heffect)
    have hstep : TaskInStep w' cancel.key := inStep_run (AgreeingStep.run hrun) (inStep_ask heffect)
    exact ask_again hstep htold heffect' hreason

end Runs
section Sample

def cancelMessage (packetId : String) : OpenedMessage :=
  ⟨packetId,noteSender,[],[],cancelKind,3000,cancelBody,[],"msgpack","","normal",.static,""⟩

def thirdToken : Token := .digit 'c' hexDigit_c

def cancelDigest : String :=
  taskRuntime.blake2s "anetcxl1" 32 (cancelBody.canonical taskRuntime).wire

def cancelTask (claimToken : Token) (now : ℤ) : WorkOp :=
  .cancel notesGroup secondWorker claimToken ["*"] now

def cancelArrives (packetId : String) (now : ℤ) : WorkOp :=
  .addInbox (cancelMessage packetId) true true now

/-- The cancellation of the working task is claimed by another worker. -/
def cancelClaimed : WorkWorld :=
  (begunTask.after taskRuntime (cancelArrives "x" 3050)).after taskRuntime
    (claimNote secondWorker secondToken 3100)

def stoppedTask : WorkWorld := cancelClaimed.after taskRuntime (cancelTask secondToken 3200)

/-- The same cancellation came again in another packet. -/
def cancelRepeated : WorkWorld :=
  (stoppedTask.after taskRuntime (cancelArrives "y" 3250)).after taskRuntime
    (claimNote secondWorker thirdToken 3300)

/-- The second and the third token are new when they are drawn. -/
theorem cancelTokens_new :
    (∀ w ∈ [claimedTask,begunTask,begunTask.after taskRuntime (cancelArrives "x" 3050)],
      ∀ r ∈ w.store.consumerDeliveries.rows, r.claimToken ≠ secondToken.val) ∧
    ∀ w ∈ [claimedTask,begunTask,begunTask.after taskRuntime (cancelArrives "x" 3050),
        cancelClaimed,stoppedTask,stoppedTask.after taskRuntime (cancelArrives "y" 3250)],
      ∀ r ∈ w.store.consumerDeliveries.rows, r.claimToken ≠ thirdToken.val := by
  decide +kernel

theorem cancelClaimed_reachable : Reaches (WorkStep taskRuntime) .initial cancelClaimed := by
  have hnew := cancelTokens_new.1
  simp only [List.forall_mem_cons,List.not_mem_nil,false_implies,implies_true,and_true] at hnew
  obtain ⟨hclaimed,hbegun,harrived⟩ := hnew
  have hclaim : secondToken.val ∉ claimedTask.claimTokens :=
    claimToken_unseen rfl (requestedTask_unseen _).1 hclaimed
  have hbegin : secondToken.val ∉ begunTask.claimTokens := claimToken_unseen rfl hclaim hbegun
  have hunseen : secondToken.val ∉
      (begunTask.after taskRuntime (cancelArrives "x" 3050)).claimTokens :=
    claimToken_unseen rfl hbegin harrived
  exact .tail (.tail begunTask_reachable (workStep_after (cancelArrives "x" 3050) trivial))
    (workStep_after _ (claimNote_allowed _ _ hunseen))

theorem cancelRepeated_reachable : Reaches (WorkStep taskRuntime) .initial cancelRepeated := by
  have hnew := cancelTokens_new.2
  simp only [List.forall_mem_cons,List.not_mem_nil,false_implies,implies_true,and_true] at hnew
  obtain ⟨hclaimed,hbegun,harrived,hcancel,hstopped,hagain⟩ := hnew
  have hclaim : thirdToken.val ∉ claimedTask.claimTokens :=
    claimToken_unseen rfl (requestedTask_unseen _).1 hclaimed
  have hbegin : thirdToken.val ∉ begunTask.claimTokens := claimToken_unseen rfl hclaim hbegun
  have hask : thirdToken.val ∉ cancelClaimed.claimTokens :=
    claimToken_unseen rfl (claimToken_unseen rfl hbegin harrived) hcancel
  have hstop : thirdToken.val ∉ stoppedTask.claimTokens := claimToken_unseen rfl hask hstopped
  have hunseen : thirdToken.val ∉
      (stoppedTask.after taskRuntime (cancelArrives "y" 3250)).claimTokens :=
    claimToken_unseen rfl hstop hagain
  exact .tail (.tail (.tail cancelClaimed_reachable
    (workStep_after (cancelTask secondToken 3200) trivial))
      (workStep_after (cancelArrives "y" 3250) trivial))
        (workStep_after _ (claimNote_allowed _ _ hunseen))

/-- The cancellation meets a working task. -/
theorem cancelClaimed_stopped :
    (applyAgentTaskCancellation taskRuntime notesGroup secondWorker secondToken ["*"] 3200
        cancelClaimed.store).1.toOption.map CancellationItem.key = some sampleKey ∧
      (cancelClaimed.store.agentTaskExecutions.get sampleKey).map AgentTaskExecution.state =
        some .working ∧
      (stoppedTask.store.agentTaskExecutions.get sampleKey).isSome := by
  decide +kernel

theorem agent_task_cancellations_hold_sample :
    ∃ e, stoppedTask.store.agentTaskExecutions.get sampleKey = some e ∧
      (e.state = .canceling ∨ e.state = .canceled) := by
  obtain ⟨hitem,hopen,hfound⟩ := cancelClaimed_stopped
  obtain ⟨item,hok,hkey⟩ := Option.map_eq_some_iff.mp hitem
  have happlied := toOption_eq_some.mp hok
  obtain ⟨e,he⟩ := Option.isSome_iff_exists.mp hfound
  have hall := (agent_task_cancellations_hold taskRuntime cancelClaimed_reachable).1 notesGroup
    secondWorker secondToken ["*"] 3200 item happlied (by
      intro e he hterminal
      rw [hkey] at he
      rw [he] at hopen
      obtain hstate := Option.some.inj hopen
      simp [hstate,TaskState.terminal] at hterminal) stoppedTask .refl
  rw [hkey] at hall
  exact ⟨e,he,hall.2.2 e he⟩

/-- The cancellation that came again is admitted, its row is there, and it changes the task. -/
theorem cancelRepeated_applied :
    (cancelRepeated.store.admitCancellation taskRuntime notesGroup secondWorker thirdToken ["*"]
        3400).toOption = some ⟨"y",sampleKey,cancelDigest,"enough"⟩ ∧
      cancelRepeated.store.agentTaskCancellations.get sampleKey =
        some ⟨sampleKey,"x",cancelDigest,"enough",.requested,none,3200,3200,0⟩ ∧
      (applyAgentTaskCancellation taskRuntime notesGroup secondWorker thirdToken ["*"] 3400
        cancelRepeated.store).2.agentTaskExecutions.get sampleKey ≠
          cancelRepeated.store.agentTaskExecutions.get sampleKey := by
  decide +kernel

/-- The second application of the same cancellation renews `updated_ms`. -/
theorem repeated_cancellation_changes : ¬ ∀ (w : WorkWorld) (groupId owner : ConsumerId)
    (claimToken : Token) allowedSenders now cancel c,
    Reaches (WorkStep taskRuntime) WorkWorld.initial w →
    w.store.admitCancellation taskRuntime groupId owner claimToken allowedSenders now = .ok cancel →
    w.store.agentTaskCancellations.get cancel.key = some c → c.cancelHash = cancel.bodyHash →
    c.reason = cancel.reason →
      (applyAgentTaskCancellation taskRuntime groupId owner claimToken allowedSenders now
        w.store).2.agentTaskExecutions.get cancel.key =
          w.store.agentTaskExecutions.get cancel.key := by
  intro hclaim
  obtain ⟨hadmitted,hrow,hchanged⟩ := cancelRepeated_applied
  exact hchanged (hclaim cancelRepeated notesGroup secondWorker thirdToken ["*"] 3400
    ⟨"y",sampleKey,cancelDigest,"enough"⟩
    ⟨sampleKey,"x",cancelDigest,"enough",.requested,none,3200,3200,0⟩ cancelRepeated_reachable
    (toOption_eq_some.mp hadmitted) hrow rfl rfl)

end Sample
end Anet
