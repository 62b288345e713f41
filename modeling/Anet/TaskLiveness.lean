import Anet.TaskCancellation

/-! No open task is stranded: the request of a task that is working, canceling or
waiting for a retry stays deliverable, until the trust in its sender is revoked. -/
namespace Anet

open PacketStore AgentProtocol AgentTaskExecution

/-- The packed body carries a task id of its own. -/
def namesTask (rt : Runtime) (raw : Bytes) : Prop :=
  ∀ body entries, rt.unpack raw = .ok body → body.asMap = some entries →
    rt.str (Value.fieldOr entries "task_id" (.str "")) ≠ ""

/-- The message is a request for the task. -/
structure CarriesRequest (rt : Runtime) (i : InboxRow) (k : TaskKey) : Prop where
  kind : i.kind = requestKind
  sender : i.senderId = k.senderId
  body : ∃ body drawn request, rt.unpack i.body = .ok body ∧
    validateTaskRequest rt drawn body = .ok request ∧ request.taskId = k.taskId

section Requests

variable {rt : Runtime}

theorem validateTaskRequest_fields {drawn : String} {body : Value} {request : TaskRequest}
    (h : validateTaskRequest rt drawn body = .ok request) : ∃ entries, body.asMap = some entries ∧
      (Value.fieldOr entries "protocol" .nil).isStr agentProtocol ∧
      taskId (if rt.str (Value.fieldOr entries "task_id" (.str "")) = "" then drawn
        else rt.str (Value.fieldOr entries "task_id" (.str ""))) = .ok request.taskId := by
  unfold validateTaskRequest taskMessageBase at h
  simp only [bind_ok,fetched_ok,raiseIf_ok,not_not] at h
  obtain ⟨entries,⟨entries',hmap,-,hprotocol,-,-,-,-,hbase⟩,-,-,-,-,id,hid,_,-,_,-,_,-,hval⟩ := h
  cases hbase
  cases hval
  exact ⟨entries,hmap,hprotocol,hid⟩

/-- A request that names its task is a request for one task. -/
theorem CarriesRequest.unique {i : InboxRow} {k k' : TaskKey} (hnames : namesTask rt i.body)
    (h : CarriesRequest rt i k) (h' : CarriesRequest rt i k') (hgroup : k.groupId = k'.groupId) :
    k = k' := by
  obtain ⟨body,drawn,request,hbody,hrequest,hid⟩ := h.body
  obtain ⟨body',drawn',request',hbody',hrequest',hid'⟩ := h'.body
  rw [hbody] at hbody'
  cases hbody'
  obtain ⟨entries,hmap,-,htask⟩ := validateTaskRequest_fields hrequest
  obtain ⟨entries',hmap',-,htask'⟩ := validateTaskRequest_fields hrequest'
  rw [hmap] at hmap'
  cases hmap'
  have hgiven := hnames body entries hbody hmap
  rw [if_neg hgiven] at htask htask'
  have hsame : request.taskId = request'.taskId := Except.ok.inj (htask.symm.trans htask')
  cases k
  cases k'
  simp only at hid hid' hgroup
  have hsender := h.sender.symm.trans h'.sender
  simp only at hsender
  rw [hgroup,hsender,← hid,← hid',hsame]

end Requests

section Acks

variable {rt : Runtime} {w : WorkWorld} {op : WorkOp} {t : WorkTables} {groupId owner : String}
  {claimToken : Token} {now : ℤ} {kd : String × String} {r r' : ConsumerDelivery}

end Acks

section Steps

variable {rt : Runtime} {w : WorkWorld} {op : WorkOp} {t : WorkTables} {k : TaskKey}

/-- A message that is kept keeps its content and cannot regain trust. -/
structure Keeps (i i' : InboxRow) : Prop where
  content : i'.kind = i.kind ∧ i'.senderId = i.senderId ∧ i'.body = i.body
  trusted : i'.trusted → i.trusted

theorem CarriesRequest.keeps {i i' : InboxRow} (h : CarriesRequest rt i k) (hkeeps : Keeps i i') :
    CarriesRequest rt i' k where
  kind := hkeeps.content.1.trans h.kind
  sender := hkeeps.content.2.1.trans h.sender
  body := by
    rw [hkeeps.content.2.2]
    exact h.body

/-- The open execution was there before, on the same request and under the same claim. -/
structure Kept (e e' : AgentTaskExecution) : Prop where
  isOpen : ¬ e.state.terminal
  request : e'.requestPacketId = e.requestPacketId
  claim : e'.state.running → e.state.running ∧ e'.claimToken = e.claimToken

end Steps

section Sample

end Sample
end Anet
