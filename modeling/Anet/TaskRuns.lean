import Anet.ConsumerLeases

/-! What one call does to the execution and the cancellation of a task, and the
facts about executions that follow for whole runs. -/
namespace Anet

open PacketStore AgentTaskExecution AgentTaskCancellation

/-- The cancellation a begin heeds. -/
def heeded (c : Option AgentTaskCancellation) : Option AgentTaskCancellation :=
  c.filter fun c => c.state = .requested ∨ c.state = .applied

theorem heeded_some {c : Option AgentTaskCancellation} {c' : AgentTaskCancellation} :
    heeded c = some c' ↔ c = some c' ∧ (c'.state = .requested ∨ c'.state = .applied) := by
  simp [heeded,Option.filter_eq_some_iff]

/-- The row the application of a cancellation works on: new, or one with this body. -/
def Asked (cancel : CancelIntent) (now : ℤ) (c : Option AgentTaskCancellation)
    (c' : AgentTaskCancellation) : Prop :=
  (c = none ∧ c' = asked cancel.key cancel.packetId cancel.bodyHash cancel.reason now) ∨
    (c = some c' ∧ c'.cancelHash = cancel.bodyHash)

/-- What the application of a cancellation does to the task's execution and cancellation. -/
inductive AskEffect (cancel : CancelIntent) (now : ℤ) :
    Option AgentTaskExecution → Option AgentTaskCancellation →
    Option AgentTaskExecution → Option AgentTaskCancellation → Prop
  | absent (c : Option AgentTaskCancellation) (c' : AgentTaskCancellation)
      (hasked : Asked cancel now c c') :
      AskEffect cancel now none c none (some (c'.record .requested none now))
  | ended (e : AgentTaskExecution) (c : Option AgentTaskCancellation) (c' : AgentTaskCancellation)
      (hasked : Asked cancel now c c') (hstate : e.state.terminal) :
      AskEffect cancel now (some e) c (some e)
        (some (c'.record (if e.state = .canceled then .applied else .tooLate) (some e.state) now))
  | running (e : AgentTaskExecution) (c : Option AgentTaskCancellation) (c' : AgentTaskCancellation)
      (hasked : Asked cancel now c c') (hstate : e.state.running) :
      AskEffect cancel now (some e) c (some (e.requestStop now cancel.reason))
        (some (c'.record .requested none now))
  | waiting (e : AgentTaskExecution) (c : Option AgentTaskCancellation) (c' : AgentTaskCancellation)
      (hasked : Asked cancel now c c') (hstate : e.state = .retry) :
      AskEffect cancel now (some e) c (some (e.cancel now cancel.reason))
        (some (c'.record .applied (some .canceled) now))

/-- The call is the application of this cancellation. -/
def Applies (rt : Runtime) (w : WorkWorld) (op : WorkOp) (cancel : CancelIntent) (now : ℤ) : Prop :=
  ∃ groupId owner claimToken allowedSenders,
    op = .cancel groupId owner claimToken allowedSenders now ∧
    w.store.admitCancellation rt groupId owner claimToken allowedSenders now = .ok cancel

/-- What one call can do to the execution and the cancellation at a key. -/
inductive TaskMove (rt : Runtime) (w : WorkWorld) (op : WorkOp) (k : TaskKey) :
    Option AgentTaskExecution → Option AgentTaskCancellation →
    Option AgentTaskExecution → Option AgentTaskCancellation → Prop
  | same (e : Option AgentTaskExecution) (c : Option AgentTaskCancellation) :
      TaskMove rt w op k e c e c
  | preCanceled (packetId requestHash : String) (now : ℤ) (c : AgentTaskCancellation)
      (hc : c.state = .requested ∨ c.state = .applied) :
      TaskMove rt w op k none (some c)
        (some (preCanceled k packetId requestHash now c.reason)) (some (c.apply now))
  | start (packetId requestHash owner claimToken executionToken : String) (now : ℤ)
      (c : Option AgentTaskCancellation) (hc : heeded c = none)
      (hfresh : executionToken ∉ w.executionTokens) (hbegins : op.begins) :
      TaskMove rt w op k none c
        (some (begun k packetId requestHash owner claimToken executionToken now)) c
  | finish (e : AgentTaskExecution) (c : Option AgentTaskCancellation) (now : ℤ) (reason : String)
      (hopen : e.state = .canceling ∨ (e.state = .retry ∧ (heeded c).isSome)) :
      TaskMove rt w op k (some e) c (some (e.cancel now reason)) (c.map (apply now))
  | takeOver (packetId owner claimToken executionToken : String) (now : ℤ)
      (e : AgentTaskExecution) (c : Option AgentTaskCancellation)
      (hopen : (e.state = .retry ∧ heeded c = none) ∨ e.state = .working)
      (hfresh : executionToken ∉ w.executionTokens) (hbegins : op.begins) :
      TaskMove rt w op k (some e) c
        (some (e.takeOver packetId owner claimToken executionToken now)) c
  | settleRetry (e : AgentTaskExecution) (c : Option AgentTaskCancellation) (now : ℤ)
      (error : String) (hstate : e.state = .working) :
      TaskMove rt w op k (some e) c (some (e.settleRetry now error)) c
  | settle (e : AgentTaskExecution) (c : Option AgentTaskCancellation) (state : TaskState)
      (now : ℤ) (output : Bytes) (error : String) (hrunning : e.state.running)
      (hcancel : e.state = .canceling → state = .canceled) (hterminal : state.terminal) :
      TaskMove rt w op k (some e) c (some (e.settle state now output error))
        (if state = .canceled then c.map fun c => if c.state = .requested then c.apply now else c
          else c)
  | ask (cancel : CancelIntent) (now : ℤ) (e : Option AgentTaskExecution)
      (c : Option AgentTaskCancellation) (e' : Option AgentTaskExecution)
      (c' : Option AgentTaskCancellation) (happly : Applies rt w op cancel now)
      (hkey : cancel.key = k) (heffect : AskEffect cancel now e c e' c') :
      TaskMove rt w op k e c e' c'

section Ask

variable {s s' : PacketStore} {cancel : CancelIntent} {now : ℤ}

theorem askedTable_get {c : Cancellations} (h : s.askedTable cancel now c) :
    ∃ c', c.get cancel.key = some c' ∧
      Asked cancel now (s.agentTaskCancellations.get cancel.key) c' ∧
      ∀ k, k ≠ cancel.key → c.get k = s.agentTaskCancellations.get k := by
  rcases h with ⟨hnone,hins⟩ | ⟨row,hrow,hhash,rfl⟩
  · have hget := Table.get_insert hins
    refine ⟨_,by rw [hget]; exact if_pos rfl,Or.inl ⟨hnone,rfl⟩,?_⟩
    intro k hk
    rw [hget]
    exact if_neg hk
  · exact ⟨row,hrow,Or.inr ⟨hrow,hhash⟩,fun _ _ => rfl⟩

theorem fence_others (groupId : String) {k : TaskKey} (hk : k ≠ cancel.key) :
    (s.fenceExecution cancel groupId now).executions.get k = s.agentTaskExecutions.get k := by
  unfold fenceExecution
  split
  · rfl
  split
  · rfl
  split
  · exact (get_stopKey ..).trans (if_neg hk)
  · exact (get_cancelKey ..).trans (if_neg hk)

/-- A recorded cancellation works on its own task only. -/
theorem recordCancellation_effect {groupId owner : String} {claimToken : Token}
    {o : Option AgentTaskCancellation × Bool}
    (h : s.recordCancellation cancel groupId owner claimToken.val now = .ok (o,s')) :
    AskEffect cancel now (s.agentTaskExecutions.get cancel.key)
        (s.agentTaskCancellations.get cancel.key) (s'.agentTaskExecutions.get cancel.key)
        (s'.agentTaskCancellations.get cancel.key) ∧
      ∀ k, k ≠ cancel.key → s'.agentTaskExecutions.get k = s.agentTaskExecutions.get k ∧
        s'.agentTaskCancellations.get k = s.agentTaskCancellations.get k := by
  obtain ⟨c,hasked,-,rfl⟩ := recordCancellation_cases h
  obtain ⟨c',hc',hask,hother⟩ := askedTable_get hasked
  constructor
  · dsimp only
    rw [get_recordKey,if_pos rfl,hc']
    unfold fenceExecution
    cases he : s.agentTaskExecutions.get cancel.key with
    | none =>
      dsimp only
      rw [he]
      exact .absent _ c' hask
    | some e =>
      dsimp only
      split
      · rename_i hterminal
        dsimp only
        rw [he]
        exact .ended e _ c' hask hterminal
      split
      · rename_i hrunning
        dsimp only
        rw [get_stopKey,if_pos rfl,he]
        exact .running e _ c' hask hrunning
      · rename_i hterminal hrunning
        have hretry : e.state = .retry := by
          cases hs : e.state <;>
            simp [hs,TaskState.terminal,TaskState.running] at hterminal hrunning ⊢
        dsimp only
        rw [get_cancelKey,if_pos rfl,he]
        exact .waiting e _ c' hask hretry
  · intro k hk
    refine ⟨fence_others groupId hk,?_⟩
    rw [← hother k hk]
    exact (get_recordKey ..).trans (if_neg hk)

end Ask

section Moves

variable {rt : Runtime} {w : WorkWorld} {op : WorkOp} {t : WorkTables}

theorem begin_move {task : TaskIntent} {groupId owner claimToken executionToken : String} {now : ℤ}
    {o : BeginOutcome} {s' : PacketStore} (hfresh : executionToken ∉ w.executionTokens)
    (hbegins : op.begins) (h : BeginEffect task groupId owner claimToken executionToken now w.store o s') (k : TaskKey) :
    TaskMove rt w op k (w.store.agentTaskExecutions.get k) (w.store.agentTaskCancellations.get k)
      (s'.agentTaskExecutions.get k) (s'.agentTaskCancellations.get k) := by
  cases h with
  | preCanceled c executions hnone hcancel hins =>
    have hget : executions.get k = if k = task.key then
        some (preCanceled task.key task.packetId task.bodyHash now c.reason)
          else w.store.agentTaskExecutions.get k := Table.get_insert hins k
    dsimp only
    rw [hget,get_applyKey]
    by_cases hk : k = task.key
    · subst hk
      obtain ⟨hc,hstate⟩ := heeded_some.mp hcancel
      rw [if_pos rfl,if_pos rfl,hnone,hc]
      exact .preCanceled task.packetId task.bodyHash now c hstate
    · rw [if_neg hk,if_neg hk]
      exact .same _ _
  | start executions hnone hcancel hins =>
    have hget : executions.get k = if k = task.key then
        some (begun task.key task.packetId task.bodyHash owner claimToken executionToken now)
          else w.store.agentTaskExecutions.get k := Table.get_insert hins k
    dsimp only
    rw [hget]
    by_cases hk : k = task.key
    · subst hk
      rw [if_pos rfl,hnone]
      exact .start task.packetId task.bodyHash owner claimToken executionToken now _ hcancel hfresh
        hbegins
    · rw [if_neg hk]
      exact .same _ _
  | duplicate => exact .same _ _
  | resume => exact .same _ _
  | finish e reason he hhash hopen =>
    dsimp only
    rw [get_cancelKey,get_applyKey]
    by_cases hk : k = task.key
    · subst hk
      rw [if_pos rfl,if_pos rfl,he]
      exact .finish e _ now reason (hopen.imp (fun h => h.1) id)
    · rw [if_neg hk,if_neg hk]
      exact .same _ _
  | takeOver e executions he hhash hopen hassign =>
    dsimp only
    rw [Table.get_assign hassign]
    by_cases hk : k = task.key
    · subst hk
      rw [if_pos rfl,he]
      exact .takeOver task.packetId owner claimToken executionToken now e _
        (hopen.imp id fun h => h.1) hfresh hbegins
    · rw [if_neg hk]
      exact .same _ _

theorem settle_move {groupId owner : String} {claimToken executionToken : Token} {state : TaskState}
    {error : String} {output : Bytes} {retryMs now : ℤ} {row : Option AgentTaskExecution}
    {s' : PacketStore} (hterminal : state.terminal ∨ state = .retry)
    (h : w.store.settleExecution groupId owner claimToken.val executionToken.val state error output
      retryMs now = .ok (row,s')) (k : TaskKey) :
    TaskMove rt w op k (w.store.agentTaskExecutions.get k) (w.store.agentTaskCancellations.get k)
      (s'.agentTaskExecutions.get k) (s'.agentTaskCancellations.get k) := by
  obtain ⟨e,r,he,hheld,-,-,hcancel,-,⟨hstate,rfl⟩ | ⟨hstate,rfl⟩⟩ := settleExecution_cases h
  · dsimp only
    rw [get_retryKey]
    by_cases hk : k = e.key
    · subst hk
      rw [if_pos rfl,he]
      have hworking : e.state = .working := by
        have hrunning := hheld.2.2.2.2
        cases hs : e.state with
        | working => rfl
        | canceling =>
          have := hcancel hs
          rw [hstate] at this
          cases this
        | _ => simp [hs,TaskState.running] at hrunning
      exact .settleRetry e _ now _ hworking
    · rw [if_neg hk]
      exact .same _ _
  · have hterm : state.terminal = true := hterminal.resolve_right hstate
    dsimp only
    rw [get_settleKey]
    by_cases hk : k = e.key
    · subst hk
      rw [if_pos rfl,he]
      have hcanc : (if state = .canceled then w.store.agentTaskCancellations.applyRequested e.key now
          else w.store.agentTaskCancellations).get e.key = if state = .canceled then
            (w.store.agentTaskCancellations.get e.key).map fun c =>
              if c.state = .requested then c.apply now else c
          else w.store.agentTaskCancellations.get e.key := by
        split
        · rw [get_applyRequested,if_pos rfl]
        · rfl
      rw [hcanc]
      exact .settle e _ state now output _ hheld.2.2.2.2 hcancel hterm
    · have hcanc : (if state = .canceled then w.store.agentTaskCancellations.applyRequested e.key now
          else w.store.agentTaskCancellations).get k = w.store.agentTaskCancellations.get k := by
        split
        · rw [get_applyRequested,if_neg hk]
        · rfl
      rw [if_neg hk,hcanc]
      exact .same _ _

/-- Every call moves every task in one of these ways, if at all. -/
theorem task_move (hallowed : op.Allowed w) (h : WorkChange rt w op t) (k : TaskKey) :
    TaskMove rt w op k (w.store.agentTaskExecutions.get k) (w.store.agentTaskCancellations.get k)
      (t.executions.get k) (t.cancellations.get k) := by
  cases h with
  | begin groupId owner claimToken _ _ _ executionToken now task o s' hop hadmitted heffect =>
    subst hop
    exact begin_move hallowed rfl heffect k
  | settle groupId owner claimToken executionToken _ _ _ _ now kind _ _ row s' hop hargs hsettle =>
    exact settle_move (settlementArguments_state hargs) hsettle k
  | cancel groupId owner claimToken allowedSenders now cancel o s' hop hadmitted hrecord =>
    obtain ⟨heffect,hother⟩ := recordCancellation_effect hrecord
    change TaskMove rt w op k _ _ (s'.agentTaskExecutions.get k) (s'.agentTaskCancellations.get k)
    by_cases hk : k = cancel.key
    · subst hk
      exact .ask cancel now _ _ _ _ ⟨groupId,owner,claimToken,allowedSenders,hop,hadmitted⟩ rfl heffect
    · rw [(hother k hk).1,(hother k hk).2]
      exact .same _ _
  | purge _ _ _ s' hop hpurge =>
    change TaskMove rt w op k _ _ (s'.agentTaskExecutions.get k) (s'.agentTaskCancellations.get k)
    rw [hpurge.executions,hpurge.cancellations]
    exact .same _ _
  | _ => exact .same _ _

end Moves
end Anet
