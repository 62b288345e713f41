import Anet.GatewayRuns
import Anet.GatewayViews

/-! The principals of the gateway are isolated from each other: an operation for one principal leaves
the rows of the others, and what it returns does not depend on them. -/
namespace Anet

open A2AProtocol

namespace PacketStore

/-- Same rows of a principal in all tables. -/
theorem seen_ext {q : String} {s s' : PacketStore}
    (hprincipals : (s'.a2aPrincipals.only fun r => r.principalId = q) =
      s.a2aPrincipals.only fun r => r.principalId = q)
    (htasks : (s'.a2aTasks.only fun r => r.principalId = q) =
      s.a2aTasks.only fun r => r.principalId = q)
    (hmessages : (s'.a2aMessages.only fun r => r.principalId = q) =
      s.a2aMessages.only fun r => r.principalId = q)
    (hevents : (s'.a2aEvents.only fun r => r.principalId = q) =
      s.a2aEvents.only fun r => r.principalId = q)
    (hdispatches : (s'.a2aDispatches.only fun r => r.principalId = q) =
      s.a2aDispatches.only fun r => r.principalId = q) : s'.seen q = s.seen q := by
  unfold seen
  rw [hprincipals,htasks,hmessages,hevents,hdispatches]

variable {q : String}

theorem bindA2APrincipal_spares (principal : ConsumerId) (hq : principal.val ≠ q)
    (senderNodeId : A2ANodeId) (allowedSenderNodes : List A2ANodeId) (now : ℤ) (s : PacketStore) :
    (bindA2APrincipal principal senderNodeId allowedSenderNodes now s).2.seen q = s.seen q := by
  unfold bindA2APrincipal
  rcases transaction_cases _ s with ⟨a,s',hb,ht⟩ | ⟨e,-,ht⟩
  · rw [ht]
    obtain ⟨_,-,hb⟩ := bind_ok.mp hb
    split at hb
    · obtain ⟨principals,hins,hval⟩ := bind_ok.mp hb
      cases hval
      exact seen_ext (Table.only_insert hq (integrity_ok.mp hins)) rfl rfl rfl rfl
    · obtain ⟨_,-,hval⟩ := bind_ok.mp hb
      cases hval
      refine seen_ext (Table.only_update_other (f := fun (r : A2APrincipal) => { r with updatedMs := now })
        (fun _ => rfl) (noMarks_subset _) (fun _ => Iff.rfl) fun r _ hr => ?_) rfl rfl rfl rfl
      exact fun h => hq (hr.symm.trans h)
  · rw [ht]

theorem openTask_spares {intent : A2AIntent} (hq : intent.principalId ≠ q) {now : ℤ}
    {s : PacketStore} {tasks : A2ATasks} (h : s.openTask intent now = .ok tasks) :
    (tasks.only fun r => r.principalId = q) = s.a2aTasks.only fun r => r.principalId = q := by
  unfold openTask at h
  split at h
  · obtain ⟨_,-,hins⟩ := bind_ok.mp h
    exact Table.only_insert hq (integrity_ok.mp hins)
  · simp only [bind_ok] at h
    obtain ⟨_,-,_,-,_,-,hval⟩ := h
    cases hval
    rfl

/-- An update of a row by its key leaves the rows of other principals. -/
theorem only_updateTask (t : A2ATasks) {principalId : String} (hq : principalId ≠ q) (id : String)
    (f : A2ATask → A2ATask) (hkey : ∀ r, (f r).key = r.key) :
    ((t.update (fun r => r.key = (principalId,id)) f hkey (noMarks_subset f)).only
      fun r => r.principalId = q) = t.only fun r => r.principalId = q := by
  refine Table.only_update_other hkey (noMarks_subset f) (fun r => ?_) fun r _ hr => ?_
  · have hsame : (f r).principalId = r.principalId := congrArg Prod.fst (hkey r)
    rw [hsame]
  · exact fun h => hq ((congrArg Prod.fst hr).symm.trans h)

theorem registerA2AMessage_spares (rt : Runtime) (registration : A2ARegistration)
    (hq : registration.principalId.val ≠ q) (drawnTask : String) (drawn : Token) (now : ℤ)
    (s : PacketStore) : (registerA2AMessage rt registration drawnTask drawn now s).2.seen q =
      s.seen q := by
  simp only [registerA2AMessage,afterCommit]
  rcases transaction_cases _ s with ⟨a,s',hb,ht⟩ | ⟨e,-,ht⟩
  · rw [ht]
    obtain ⟨intent,hintent,hb⟩ := bind_ok.mp hb
    have hother : intent.principalId ≠ q := by
      rw [(registrationIntent_ids hintent).2.2.1]
      exact hq
    simp only [registerIntent,bind_ok,fetched_ok,raiseIf_ok] at hb
    obtain ⟨principal,-,_,-,hb⟩ := hb
    split at hb
    · simp only [repeatRegistration,bind_ok,fetched_ok,raiseIf_ok] at hb
      obtain ⟨_,-,task,-,hval⟩ := hb
      cases hval
      refine seen_ext rfl rfl (Table.only_update_other
        (f := fun (r : A2AMessage) => { r with requestBody := some intent.encodedRequest })
        (fun _ => rfl)
        (fun _ => List.Subset.refl _) (fun _ => Iff.rfl) fun r _ hr => ?_) rfl
        (Table.only_insertOrIgnore hother)
      exact fun h => hother ((congrArg Prod.fst hr.1).symm.trans h)
    · simp only [firstRegistration,bind_ok,fetched_ok,raiseIf_ok] at hb
      obtain ⟨tasks,hopen,_,-,messages,hmessages,dispatches,hdispatches,task,-,hval⟩ := hb
      cases hval
      exact seen_ext rfl ((only_updateTask tasks hother _
        (A2ATask.follow intent.anetTaskId now) fun _ => rfl).trans
        (openTask_spares hother hopen)) (Table.only_insert hother (integrity_ok.mp hmessages)) rfl
        (Table.only_insert hother (integrity_ok.mp hdispatches))
  · rw [ht]

theorem insertCancels_spares {rt : Runtime} {task : A2ATask} (hq : task.principalId ≠ q) {now : ℤ}
    {targets : List A2AMessage} {draws : ℕ → Token} {t t' : Dispatches}
    (h : insertCancels rt task now targets draws t = .ok t') :
    (t'.only fun r => r.principalId = q) = t.only fun r => r.principalId = q := by
  induction targets generalizing draws t with
  | nil =>
    cases h
    rfl
  | cons target targets ih =>
    simp only [insertCancels,bind_ok] at h
    obtain ⟨dispatch,hdispatch,t₁,hins,hrest⟩ := h
    obtain ⟨_,_,-,-,-,hprincipal,-⟩ := cancelDispatch_spec hdispatch
    exact (ih hrest).trans (Table.only_insert (by rw [hprincipal]; exact hq) (integrity_ok.mp hins))

theorem requestA2ATaskCancellation_spares (rt : Runtime) (principal : ConsumerId)
    (hq : principal.val ≠ q) (request : Value) (sender : A2ANodeId) (draws : ℕ → Token) (now : ℤ)
    (s : PacketStore) : (requestA2ATaskCancellation rt principal request sender draws now s).2.seen q =
      s.seen q := by
  unfold requestA2ATaskCancellation
  rcases transaction_cases _ s with ⟨a,s',hb,ht⟩ | ⟨e,-,ht⟩
  · rw [ht]
    simp only [requestCancellation,bind_ok,raiseIf_ok] at hb
    obtain ⟨item,htarget,_,-,_,-,hb⟩ := hb
    have howner := (cancelTarget_found htarget).2
    split at hb
    · cases hb
      rfl
    · simp only [bind_ok,fetched_ok] at hb
      obtain ⟨_,-,dispatches,hcancels,task,-,hval⟩ := hb
      cases hval
      exact seen_ext rfl
        (only_updateTask s.a2aTasks hq _ (A2ATask.requestCancel now) fun _ => rfl) rfl rfl
        (insertCancels_spares (by rw [howner]; exact hq) hcancels)
  · rw [ht]

theorem appendRecord_spares {task : A2ATask} (hq : task.principalId ≠ q) {source : String} {now : ℤ}
    {log log' : AppendLoop} {record : EventRecord}
    (h : appendRecord task source now log record = .ok log') :
    (log'.events.only fun e => e.principalId = q) = log.events.only fun e => e.principalId = q := by
  unfold appendRecord at h
  split at h
  · cases h
    rfl
  · simp only [bind_ok] at h
    obtain ⟨_,-,state,-,events,hins,hval⟩ := h
    cases hval
    exact Table.only_insert hq (integrity_ok.mp hins)

theorem appendRecords_spares {task : A2ATask} (hq : task.principalId ≠ q) {source : String} {now : ℤ}
    {records : List EventRecord} {log log' : AppendLoop}
    (h : appendRecords task source now log records = .ok log') :
    (log'.events.only fun e => e.principalId = q) = log.events.only fun e => e.principalId = q := by
  induction records generalizing log with
  | nil =>
    cases h
    rfl
  | cons record records ih =>
    obtain ⟨log₁,hfirst,hrest⟩ := bind_ok.mp h
    exact (ih hrest).trans (appendRecord_spares hq hfirst)

theorem appendA2ATaskEvents_spares (rt : Runtime) (principal : ConsumerId) (hq : principal.val ≠ q)
    (sender : A2ANodeId) (a2aTaskId source : ExternalId) (events : List Value) (now : ℤ)
    (s : PacketStore) :
    (appendA2ATaskEvents rt principal sender a2aTaskId source events now s).2.seen q = s.seen q := by
  unfold appendA2ATaskEvents
  rcases transaction_cases _ s with ⟨a,s',hb,ht⟩ | ⟨e,-,ht⟩
  · rw [ht]
    simp only [appendEvents,bind_ok] at hb
    obtain ⟨_,-,task,htask,_,-,records,-,log,hlog,hval⟩ := hb
    have howner : task.principalId = principal.val := by
      simp only [ownedTask,bind_ok,fetched_ok] at htask
      obtain ⟨_,htask,_,-,_,-,hsame⟩ := htask
      cases hsame
      exact congrArg Prod.fst (Table.get_key htask)
    have hevents := appendRecords_spares (by rw [howner]; exact hq) hlog
    split at hval
    · cases hval
      exact seen_ext rfl rfl rfl hevents rfl
    · cases hval
      exact seen_ext rfl (only_updateTask s.a2aTasks hq _ (A2ATask.advance log.state log.sequence
        (A2ATask.settledCancel task.cancelState log.state) now) fun _ => rfl) rfl hevents rfl
  · rw [ht]

/-- A retry of a claim that is not on a dispatch of the principal. -/
theorem retryA2ADispatch_spares (owner : ConsumerId) (claimToken : Token) (error : String)
    (retry : RetryMs) (drawn : Token) (now : ℤ) (s : PacketStore)
    (hq : ∀ k r, s.a2aDispatches.get k = some r → r.claimedBy owner.val claimToken.val →
      r.principalId ≠ q) :
    (retryA2ADispatch owner claimToken error retry drawn now s).2.seen q = s.seen q := by
  unfold retryA2ADispatch
  rcases transaction_cases _ s with ⟨a,s',hb,ht⟩ | ⟨e,-,ht⟩
  · rw [ht]
    simp only [bind_ok] at hb
    obtain ⟨_,-,claimed,-,_,-,hval⟩ := hb
    cases hval
    refine seen_ext rfl rfl rfl rfl (Table.only_update_other
      (f := A2ADispatch.release drawn.val (now + retry.val) now (cut 1000 (strip error)))
      (fun _ => rfl) (fun _ => by simp [A2ADispatch.marks,A2ADispatch.release]) (fun _ => Iff.rfl) ?_)
    exact fun r hr hclaimed => hq r.key r (Table.mem_rows.mp hr) hclaimed
  · rw [ht]

theorem dispatchCancellation_spares {dispatch : A2ADispatch} (hq : dispatch.principalId ≠ q)
    (dispatches : Dispatches) (now : ℤ) (tasks : A2ATasks) :
    ((dispatchCancellation dispatch dispatches now tasks).only fun r => r.principalId = q) =
      tasks.only fun r => r.principalId = q := by
  unfold dispatchCancellation
  split
  · refine Table.only_update_other
      (f := fun (r : A2ATask) => { r with cancelState := .dispatched, updatedMs := now })
      (fun _ => rfl) (noMarks_subset _) (fun _ => Iff.rfl) fun r _ hr => ?_
    exact fun h => hq (hr.1.symm.trans h)
  · rfl

/-- A commit of a claim that is not on a dispatch of the principal. -/
theorem commitA2ADispatchPacket_spares (rt : Runtime) (owner : ConsumerId) (claimToken : Token)
    (raw : Bytes) (keyId reservationId : String) (now : ℤ) (s : PacketStore)
    (hq : ∀ k r, s.a2aDispatches.get k = some r → r.claimedBy owner.val claimToken.val →
      r.principalId ≠ q) :
    (commitA2ADispatchPacket rt owner claimToken raw keyId reservationId now s).2.seen q =
      s.seen q := by
  unfold commitA2ADispatchPacket
  rcases transaction_cases _ s with ⟨a,s',hb,ht⟩ | ⟨e,-,ht⟩
  · rw [ht]
    simp only [bind_ok,fetched_ok] at hb
    obtain ⟨info,-,key,-,dispatch,hfirst,_,-,peerPrekeys,-,packets,-,_,-,hval⟩ := hb
    obtain ⟨hget,hclaimed,-⟩ := Table.first_some hfirst
    have hother := hq _ dispatch hget hclaimed
    cases hval
    refine seen_ext rfl (dispatchCancellation_spares hother _ now _) rfl rfl
      (Table.only_update_other (f := A2ADispatch.dispatch info.packetId now) (fun _ => rfl)
        (fun _ => by simp [A2ADispatch.marks,A2ADispatch.dispatch]) (fun _ => Iff.rfl) ?_)
    exact fun r hr hclaimed => hq r.key r (Table.mem_rows.mp hr) hclaimed.2
  · rw [ht]

end PacketStore

namespace PacketStore

theorem registerA2AMessage_sees (rt : Runtime) (registration : A2ARegistration)
    (drawnTask : String) (drawn : Token) (now : ℤ) (s : PacketStore) :
    registerA2AMessage rt registration drawnTask drawn now (s.seen registration.principalId.val) =
      ((registerA2AMessage rt registration drawnTask drawn now s).1,
        (registerA2AMessage rt registration drawnTask drawn now s).2.seen
          registration.principalId.val) := by
  have hbody : Sees registration.principalId.val fun s => (do
      let intent ← registrationIntent rt drawnTask registration
      s.registerIntent intent drawn now) := by
    intro s
    simp only
    rw [map_after]
    refine after_congr fun intent hintent => ?_
    rw [← (registrationIntent_ids hintent).2.2.1]
    exact registerIntent_sees intent drawn now s
  have hall := hbody.transaction s
  unfold registerA2AMessage afterCommit
  rw [hall]

theorem requestA2ATaskCancellation_sees (rt : Runtime) (principal : ConsumerId) (request : Value)
    (sender : A2ANodeId) (draws : ℕ → Token) (now : ℤ) (s : PacketStore) :
    requestA2ATaskCancellation rt principal request sender draws now (s.seen principal.val) =
      ((requestA2ATaskCancellation rt principal request sender draws now s).1,
        (requestA2ATaskCancellation rt principal request sender draws now s).2.seen principal.val) :=
  (requestCancellation_sees rt principal.val request sender.val draws now).transaction s

theorem appendA2ATaskEvents_sees (rt : Runtime) (principal : ConsumerId) (sender : A2ANodeId)
    (a2aTaskId source : ExternalId) (events : List Value) (now : ℤ) (s : PacketStore) :
    appendA2ATaskEvents rt principal sender a2aTaskId source events now (s.seen principal.val) =
      ((appendA2ATaskEvents rt principal sender a2aTaskId source events now s).1,
        (appendA2ATaskEvents rt principal sender a2aTaskId source events now s).2.seen
          principal.val) :=
  (appendEvents_sees rt principal.val sender.val a2aTaskId.val source.val events now).transaction s

end PacketStore

/-- A call of a principal. -/
inductive PrincipalCall
  | bind (principal : ConsumerId) (senderNodeId : A2ANodeId) (allowed : List A2ANodeId) (now : ℤ)
  | register (registration : A2ARegistration) (drawnTask : String) (drawn : Token) (now : ℤ)
  | cancel (principal : ConsumerId) (request : Value) (sender : A2ANodeId) (draws : ℕ → Token)
      (now : ℤ)
  | append (principal : ConsumerId) (sender : A2ANodeId) (a2aTaskId source : ExternalId)
      (events : List Value) (now : ℤ)
  | read (principal : ConsumerId) (a2aTaskId : ExternalId) (sender : A2ANodeId)
      (afterSequence limit : ℤ)

/-- What a call returns or raises. -/
inductive CallReply
  | bound (r : Result PrincipalResult)
  | registered (r : Result RegisterResult)
  | canceled (r : Result CancelResult)
  | appended (r : Result AppendResult)
  | page (r : Result EventPage)

namespace PrincipalCall

open PacketStore

def caller : PrincipalCall → String
  | bind principal .. | cancel principal .. | append principal .. | read principal .. => principal.val
  | register registration .. => registration.principalId.val

def perform (rt : Runtime) (s : PacketStore) : PrincipalCall → CallReply × PacketStore
  | bind principal sender allowed now =>
    let r := bindA2APrincipal principal sender allowed now s
    (.bound r.1,r.2)
  | register registration drawnTask drawn now =>
    let r := registerA2AMessage rt registration drawnTask drawn now s
    (.registered r.1,r.2)
  | cancel principal request sender draws now =>
    let r := requestA2ATaskCancellation rt principal request sender draws now s
    (.canceled r.1,r.2)
  | append principal sender a2aTaskId source events now =>
    let r := appendA2ATaskEvents rt principal sender a2aTaskId source events now s
    (.appended r.1,r.2)
  | read principal a2aTaskId sender afterSequence limit =>
    (.page (readA2ATaskEvents rt principal a2aTaskId sender afterSequence limit s),s)

/-- A call works on the rows of its principal as it does on all. -/
theorem perform_sees (rt : Runtime) (call : PrincipalCall) (s : PacketStore) :
    call.perform rt (s.seen call.caller) =
      ((call.perform rt s).1,(call.perform rt s).2.seen call.caller) := by
  cases call with
  | bind principal sender allowed now =>
    simp only [perform,caller]
    rw [bindA2APrincipal_sees principal sender allowed now s]
  | register registration drawnTask drawn now =>
    simp only [perform,caller]
    rw [registerA2AMessage_sees rt registration drawnTask drawn now s]
  | cancel principal request sender draws now =>
    simp only [perform,caller]
    rw [requestA2ATaskCancellation_sees rt principal request sender draws now s]
  | append principal sender a2aTaskId source events now =>
    simp only [perform,caller]
    rw [appendA2ATaskEvents_sees rt principal sender a2aTaskId source events now s]
  | read principal a2aTaskId sender afterSequence limit =>
    simp only [perform,caller,
      readA2ATaskEvents_sees rt principal a2aTaskId sender afterSequence limit s]

/-- A call leaves the rows of the other principals. -/
theorem perform_spares (rt : Runtime) (call : PrincipalCall) {q : String} (hq : call.caller ≠ q)
    (s : PacketStore) : (call.perform rt s).2.seen q = s.seen q := by
  cases call with
  | bind principal sender allowed now =>
    simp only [perform]
    exact bindA2APrincipal_spares principal hq sender allowed now s
  | register registration drawnTask drawn now =>
    simp only [perform]
    exact registerA2AMessage_spares rt registration hq drawnTask drawn now s
  | cancel principal request sender draws now =>
    simp only [perform]
    exact requestA2ATaskCancellation_spares rt principal hq request sender draws now s
  | append principal sender a2aTaskId source events now =>
    simp only [perform]
    exact appendA2ATaskEvents_spares rt principal hq sender a2aTaskId source events now s
  | read principal a2aTaskId sender afterSequence limit => rfl

/-- What the calls of a list return to one principal. -/
def replies (rt : Runtime) (q : String) : List PrincipalCall → PacketStore → List CallReply
  | [],_ => []
  | call :: calls,s =>
    let r := call.perform rt s
    if call.caller = q then r.1 :: replies rt q calls r.2 else replies rt q calls r.2

/-- The replies to a principal depend on its own rows only. -/
theorem replies_seen (rt : Runtime) (q : String) (calls : List PrincipalCall) :
    ∀ s s' : PacketStore, s.seen q = s'.seen q → replies rt q calls s = replies rt q calls s' := by
  induction calls with
  | nil => exact fun _ _ _ => rfl
  | cons call calls ih =>
    intro s s' hsame
    unfold replies
    simp only
    by_cases hq : call.caller = q
    · subst hq
      have hs := perform_sees rt call s
      have hs' := perform_sees rt call s'
      rw [hsame] at hs
      have hboth := hs.symm.trans hs'
      rw [if_pos rfl,if_pos rfl,congrArg Prod.fst hboth,ih _ _ (congrArg Prod.snd hboth)]
    · rw [if_neg hq,if_neg hq]
      refine ih _ _ ?_
      rw [perform_spares rt call hq s,perform_spares rt call hq s',hsame]

/-- The calls of the other principals can be left out. -/
theorem replies_own (rt : Runtime) (q : String) (calls : List PrincipalCall) :
    ∀ s : PacketStore,
      replies rt q calls s = replies rt q (calls.filter fun call => call.caller = q) s := by
  induction calls with
  | nil => exact fun _ => rfl
  | cons call calls ih =>
    intro s
    by_cases hq : call.caller = q
    · rw [List.filter_cons_of_pos (by simpa using hq)]
      unfold replies
      simp only
      rw [if_pos hq,if_pos hq,ih]
    · have hother : replies rt q (call :: calls) s = replies rt q calls (call.perform rt s).2 :=
        if_neg hq
      rw [List.filter_cons_of_neg (by simpa using hq),← ih s,hother]
      exact replies_seen rt q calls _ _ (perform_spares rt call hq s)

end PrincipalCall
end Anet
