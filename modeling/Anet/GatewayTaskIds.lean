import Anet.GatewayInbound
import Anet.GatewayIsolation
import Mathlib.Logic.Equiv.List

/-! Task ids over runs of the gateway: the id of a request names the sender node and the message, so
only messages of one node with one id share it. -/
namespace Anet

open A2AProtocol AgentProtocol PacketStore

/-- What the interpreter and the digest do with the values of a message. The digests are in
hexadecimal and do not collide. -/
structure TaskIdLaws (rt : Runtime) : Prop where
  str_text : ∀ s, rt.str (.str s) = s
  dict_map : ∀ e, rt.dict (.map e) = .ok e
  digest_ne : ∀ b, rt.blake2s "a2a-task" 16 b ≠ ""
  digest_inj : ∀ b b', lower (strip (rt.blake2s "a2a-task" 16 b)) =
    lower (strip (rt.blake2s "a2a-task" 16 b')) → b = b'

/-- The task id of a message of a node. -/
def messageTaskId (rt : Runtime) (senderNodeId messageId : String) : String :=
  lower (strip (rt.blake2s "a2a-task" 16 (idText (strip senderNodeId) messageId)))

section Ids

variable {rt : Runtime}

theorem split_at_last {α : Type*} {c : α} {l l' r r' : List α} (hr : c ∉ r) (hr' : c ∉ r')
    (h : l ++ c :: r = l' ++ c :: r') : l = l' ∧ r = r' := by
  rcases List.append_eq_append_iff.mp h with ⟨t,rfl,ht⟩ | ⟨t,rfl,ht⟩
  · cases t with
    | nil => exact ⟨by simp,(List.cons.inj ht).2⟩
    | cons x t =>
      obtain ⟨rfl,hrest⟩ := List.cons.inj ht
      exact absurd (by rw [hrest]; simp) hr
  · cases t with
    | nil => exact ⟨by simp,(List.cons.inj ht).2.symm⟩
    | cons x t =>
      obtain ⟨rfl,hrest⟩ := List.cons.inj ht
      exact absurd (by rw [hrest]; simp) hr'

theorem plain_no_nul {s : String} (h : isPlainText s = true) : '\x00' ∉ s.toList := by
  simp only [isPlainText,Bool.and_eq_true,List.all_eq_true,decide_eq_true_eq] at h
  intro hmem
  have hlow := h.2 _ hmem
  exact absurd hlow (by decide)

/-- What an id is derived from determines the sender and the message. -/
theorem idText_inj {s m s' m' : String} (hm : isPlainText m = true) (hm' : isPlainText m' = true)
    (h : idText s m = idText s' m') : s = s' ∧ m = m' := by
  have htext : s ++ "\x00" ++ m = s' ++ "\x00" ++ m' := by
    have hbytes := congrArg utf8Text h
    unfold idText at hbytes
    rw [utf8Text_utf8,utf8Text_utf8] at hbytes
    exact Option.some.inj hbytes
  have hlists := congrArg String.toList htext
  simp only [String.toList_append,List.append_assoc] at hlists
  obtain ⟨hs,hmessage⟩ := split_at_last (plain_no_nul hm) (plain_no_nul hm') hlists
  exact ⟨String.toList_injective hs,String.toList_injective hmessage⟩

theorem messageTaskId_inj (laws : TaskIdLaws rt) {s m s' m' : String} (hm : isPlainText m = true)
    (hm' : isPlainText m' = true) (h : messageTaskId rt s m = messageTaskId rt s' m') :
    strip s = strip s' ∧ m = m' :=
  idText_inj hm hm' (laws.digest_inj _ _ h)

theorem requiredString_ok {name : String} {limit : ℕ} {v : Value} {t : String}
    (h : requiredString name limit v = .ok t) : ∃ s, v = .str s ∧ t = strip s := by
  unfold requiredString at h
  split at h
  · next s =>
    simp only at h
    split at h
    · cases h
    · split at h
      · cases h
      · exact ⟨s,rfl,(Except.ok.inj h).symm⟩
  · cases h

theorem derivedId_ok {person sender external id : String}
    (h : derivedId rt person sender external = .ok id) :
    id = rt.blake2s person 16 (idText (strip sender) (strip external)) := by
  simp only [derivedId,bind_ok] at h
  obtain ⟨sender',hsender,external',hexternal,hval⟩ := h
  obtain ⟨_,hs,rfl⟩ := requiredString_ok hsender
  obtain ⟨_,he,rfl⟩ := requiredString_ok hexternal
  cases hs
  cases he
  exact (Except.ok.inj hval).symm

theorem normalizeMessage_trimmed {value : Value} {m : InboundMessage}
    (h : normalizeMessage rt value = .ok m) : strip m.messageId = m.messageId := by
  simp only [normalizeMessage,bind_ok] at h
  obtain ⟨_,-,_,-,messageId,hid,_,-,_,-,parts,-,context,-,metadata,-,extensions,-,references,-,hval⟩ := h
  cases hval
  obtain ⟨s,-,rfl⟩ := requiredString_ok hid
  exact strip_strip s

/-- The task request that a message becomes. -/
theorem inbound_request (laws : TaskIdLaws rt) {drawn sender tenant : String} {request : Value}
    {skill : A2ASkillBinding} {existing : Option A2ATaskItem} {t : A2AInboundTask}
    (h : inboundMessageToTask rt drawn request sender skill tenant existing = .ok t) :
    ∃ r : TaskRequest, t.body = r.toValue ∧ taskId r.taskId = .ok r.taskId ∧
      ∃ messageId context, r.taskId = messageTaskId rt sender messageId ∧
        r.context = [(.str "a2a",.map context)] ∧
          Value.fieldOr context "messageId" .nil = .str messageId := by
  simp only [inboundMessageToTask,bind_ok] at h
  obtain ⟨_,-,_,-,_,-,_,-,_,-,_,-,_,-,message,hmessage,id,hid,skillId,-,target,-,configuration,-,
    metadata,-,body,hbody,hval⟩ := h
  cases hval
  have htrimmed := normalizeMessage_trimmed hmessage
  have hderived := derivedId_ok hid
  rw [htrimmed] at hderived
  simp only [taskRequest,bind_ok] at hbody
  obtain ⟨_,-,_,-,normalized,htask,required,-,hval⟩ := hbody
  cases hval
  refine ⟨_,rfl,taskId_again htask,message.messageId,_,?_,rfl,rfl⟩
  rw [if_neg (by rw [hderived]; exact laws.digest_ne _),hderived] at htask
  unfold taskId at htask
  simp only at htask
  split at htask
  · exact (Except.ok.inj htask).symm
  · cases htask

/-- A registration with the body of a message stores the task id of the message. -/
theorem registrationIntent_task (laws : TaskIdLaws rt) {drawn drawnTask sender tenant : String}
    {request : Value} {skill : A2ASkillBinding} {existing : Option A2ATaskItem} {t : A2AInboundTask}
    (h : inboundMessageToTask rt drawn request sender skill tenant existing = .ok t)
    {registration : A2ARegistration} (hbody : registration.requestBody = t.body) {intent : A2AIntent}
    (hintent : registrationIntent rt drawnTask registration = .ok intent) :
    intent.anetTaskId = messageTaskId rt sender intent.messageId ∧
      intent.messageId = registration.messageId.val ∧
        intent.authenticatedSenderId = registration.authenticatedSenderId.val := by
  obtain ⟨r,hr,hid,messageId,context,htask,hcontext,hmessage⟩ := inbound_request laws h
  simp only [registrationIntent,bind_ok,raiseIf_ok,not_not] at hintent
  obtain ⟨_,-,_,-,normalized,hvalid,a2a,ha2a,_,hmatch,hashed,-,encoded,-,hval⟩ := hintent
  cases hval
  rw [hbody,hr] at hvalid
  simp only [validateTaskRequest,taskMessageBase,TaskRequest.toValue,bind_ok,fetched_ok] at hvalid
  obtain ⟨entries,⟨entries',hmap,_,-,_,-,_,-,hentries⟩,_,-,_,-,id,hgiven,listed,-,required,-,found,
    hfound,hnormalized⟩ := hvalid
  cases hnormalized
  cases hentries
  cases hmap
  have hgivenField : Value.fieldOr (baseEntries r.taskId ++ ([(.str "objective",.str r.objective),
      (.str "input",r.input),(.str "required_capabilities",.list (r.requiredCapabilities.map .str)),
      (.str "context",.map r.context)] : List (Value × Value))) "task_id" (.str "") = .str r.taskId := by
    simp [Value.fieldOr,baseEntries]
  have hcontextField : Value.fieldOr (baseEntries r.taskId ++ ([(.str "objective",.str r.objective),
      (.str "input",r.input),(.str "required_capabilities",.list (r.requiredCapabilities.map .str)),
      (.str "context",.map r.context)] : List (Value × Value))) "context" .nil = .map r.context := by
    simp [Value.fieldOr,baseEntries]
  have hne : r.taskId ≠ "" := by
    intro hempty
    have hhex := taskId_hex hid
    rw [hempty] at hhex
    exact absurd hhex (by decide)
  rw [hgivenField,laws.str_text,if_neg hne,hid] at hgiven
  rw [hcontextField,laws.dict_map] at hfound
  cases hgiven
  cases hfound
  have hfields : Value.fieldOr r.context "a2a" .nil = .map context := by
    rw [hcontext]
    simp [Value.fieldOr]
  have hsame : context = a2a := by
    have hmap := fetched_ok.mp ha2a
    simp only [hfields] at hmap
    exact Option.some.inj hmap
  have hnamed : messageId = registration.messageId.val := by
    have hall : ∀ e ∈ expectedContext registration (strip registration.tenant)
        (strip registration.protocolVersion), (Value.fieldOr a2a e.1 .nil).isStr e.2 = true := by
      intro e he
      by_contra hnot
      exact hmatch (List.any_eq_true.mpr ⟨e,he,by simpa using hnot⟩)
    have hid := hall ("messageId",registration.messageId.val) (by simp [expectedContext])
    rw [← hsame] at hid
    simp only [hmessage,Value.isStr,decide_eq_true_eq] at hid
    exact hid
  exact ⟨by rw [htask,hnamed],rfl,rfl⟩

end Ids

/-- A registration carries the task request of a message of its sender. -/
def FromMessage (rt : Runtime) : GatewayOp → Prop
  | .register registration .. => ∃ drawn request skill tenant existing t,
      inboundMessageToTask rt drawn request registration.authenticatedSenderId.val skill tenant
        existing = .ok t ∧ registration.requestBody = t.body
  | _ => True

/-- A step of the gateway whose registrations come from messages. -/
def InboundStep (rt : Runtime) (s s' : PacketStore) : Prop :=
  ∃ op : GatewayOp, op.Allowed s ∧ FromMessage rt op ∧ s' = op.exec rt s

/-- A request dispatch has the task id of its message and of the node of its principal. -/
def MessageNamed (rt : Runtime) (s : PacketStore) : Prop :=
  ∀ k r, s.a2aDispatches.get k = some r → r.kind = .request → isPlainText r.messageId = true ∧
    ∃ p, s.a2aPrincipals.get r.principalId = some p ∧
      r.anetTaskId = messageTaskId rt p.senderNodeId r.messageId

section Steps

variable {rt : Runtime} {s s' : PacketStore}

/-- The request dispatches are the old ones, as far as ids go. -/
def RequestsKept (s s' : PacketStore) : Prop :=
  ∀ k r', s'.a2aDispatches.get k = some r' → r'.kind = .request →
    ∃ r, s.a2aDispatches.get k = some r ∧ r.intent = r'.intent

theorem requestsKept_same (h : s'.a2aDispatches = s.a2aDispatches) : RequestsKept s s' :=
  fun _ r hr _ => ⟨r,h ▸ hr,rfl⟩

theorem requestsKept_handled (h : Handled s.a2aDispatches s'.a2aDispatches) : RequestsKept s s' := by
  obtain ⟨f,hget,hf⟩ := h
  intro k r' hr' _
  rw [hget] at hr'
  obtain ⟨r,hr,rfl⟩ := Option.map_eq_some_iff.mp hr'
  exact ⟨r,hr,(hf k r hr).intent.symm⟩

theorem bindA2APrincipal_requests (principalId : ConsumerId) (senderNodeId : A2ANodeId)
    (allowed : List A2ANodeId) (now : ℤ) (s : PacketStore) :
    RequestsKept s (bindA2APrincipal principalId senderNodeId allowed now s).2 := by
  unfold bindA2APrincipal
  rcases transaction_cases _ s with ⟨a,s',hb,ht⟩ | ⟨e,-,ht⟩
  · rw [ht]
    obtain ⟨_,-,hb⟩ := bind_ok.mp hb
    split at hb
    · obtain ⟨principals,-,hval⟩ := bind_ok.mp hb
      cases hval
      exact requestsKept_same rfl
    · obtain ⟨_,-,hval⟩ := bind_ok.mp hb
      cases hval
      exact requestsKept_same rfl
  · rw [ht]
    exact requestsKept_same rfl

theorem requestA2ATaskCancellation_requests (principalId : ConsumerId) (request : Value)
    (sender : A2ANodeId) (draws : ℕ → Token) (now : ℤ) (s : PacketStore) :
    RequestsKept s (requestA2ATaskCancellation rt principalId request sender draws now s).2 := by
  unfold requestA2ATaskCancellation
  rcases transaction_cases _ s with ⟨a,s',hb,ht⟩ | ⟨e,-,ht⟩
  · rw [ht]
    simp only [requestCancellation,bind_ok] at hb
    obtain ⟨item,-,_,-,_,-,hb⟩ := hb
    split at hb
    · cases hb
      exact requestsKept_same rfl
    · simp only [bind_ok] at hb
      obtain ⟨_,-,dispatches,hcancels,task,-,hval⟩ := hb
      cases hval
      intro k r' hr' hkind
      rcases (insertCancels_spec hcancels).2.1 k r' hr' with hold | ⟨-,_,-,_,hnew⟩
      · exact ⟨r',hold,rfl⟩
      · obtain ⟨_,_,-,-,-,-,-,-,-,-,hcancel,-⟩ := cancelDispatch_spec hnew
        rw [hcancel] at hkind
        cases hkind
  · rw [ht]
    exact requestsKept_same rfl

theorem appendA2ATaskEvents_requests (principalId : ConsumerId) (sender : A2ANodeId)
    (a2aTaskId source : ExternalId) (events : List Value) (now : ℤ) (s : PacketStore) :
    RequestsKept s
      (appendA2ATaskEvents rt principalId sender a2aTaskId source events now s).2 := by
  unfold appendA2ATaskEvents
  rcases transaction_cases _ s with ⟨a,s',hb,ht⟩ | ⟨e,-,ht⟩
  · rw [ht]
    obtain ⟨task,records,log,-,-,hstep⟩ := appendEvents_spec hb
    refine requestsKept_same ?_
    rw [hstep.rest]
  · rw [ht]
    exact requestsKept_same rfl

theorem commitA2ADispatchPacket_requests (owner : ConsumerId) (claimToken : Token) (raw : Bytes)
    (keyId reservationId : String) (now : ℤ) (s : PacketStore) :
    RequestsKept s (commitA2ADispatchPacket rt owner claimToken raw keyId reservationId now s).2 := by
  rcases commitA2ADispatchPacket_change rt owner claimToken raw keyId reservationId now s with
    ⟨-,hs⟩ | ⟨dispatch,packet,-,hstep⟩
  · rw [hs]
    exact requestsKept_same rfl
  · intro k r' hr' _
    rw [hstep.dispatches] at hr'
    split at hr'
    · next hk =>
      cases hr'
      exact ⟨dispatch,hk ▸ hstep.known,rfl⟩
    · exact ⟨r',hr',rfl⟩

/-- The principals of any step stay bound to their nodes. -/
theorem exec_principals (op : GatewayOp) (hallowed : op.Allowed s) {k : String} {p : A2APrincipal}
    (hp : s.a2aPrincipals.get k = some p) :
    ∃ p', (op.exec rt s).a2aPrincipals.get k = some p' ∧ p'.senderNodeId = p.senderNodeId :=
  gatewayChange_principals (gatewayStep_change ⟨op,hallowed,rfl⟩) hp

theorem MessageNamed.kept (h : MessageNamed rt s) (hrequests : RequestsKept s s')
    (hprincipals : ∀ k p, s.a2aPrincipals.get k = some p →
      ∃ p', s'.a2aPrincipals.get k = some p' ∧ p'.senderNodeId = p.senderNodeId) :
    MessageNamed rt s' := by
  intro k r' hr' hkind
  obtain ⟨r,hr,hintent⟩ := hrequests k r' hr' hkind
  simp only [A2ADispatch.intent,Prod.mk.injEq] at hintent
  obtain ⟨hprincipal,hmessage,-,htask,-,hsame,-⟩ := hintent
  obtain ⟨hplain,p,hp,hid⟩ := h k r hr (hsame.trans hkind)
  obtain ⟨p',hp',hnode⟩ := hprincipals _ p hp
  exact ⟨hmessage ▸ hplain,p',hprincipal ▸ hp',by rw [← htask,hid,hnode,hmessage]⟩

/-- A registration names its dispatch by its sender and its message. -/
theorem MessageNamed.register (laws : TaskIdLaws rt) (h : MessageNamed rt s)
    {registration : A2ARegistration} {drawnTask : String} {drawn : Token} {now : ℤ}
    (hfrom : FromMessage rt (.register registration drawnTask drawn now)) :
    MessageNamed rt (registerA2AMessage rt registration drawnTask drawn now s).2 := by
  obtain ⟨_,_,_,_,_,t,hinbound,hbody⟩ := hfrom
  simp only [registerA2AMessage,afterCommit]
  rcases transaction_cases _ s with ⟨a,s',hb,ht⟩ | ⟨e,-,ht⟩
  · rw [ht]
    obtain ⟨intent,hintent,hb⟩ := bind_ok.mp hb
    obtain ⟨htask,hmessage,hsender⟩ := registrationIntent_task laws hinbound hbody hintent
    simp only [registerIntent,bind_ok,fetched_ok,raiseIf_ok,not_not] at hb
    obtain ⟨principal,hprincipal,_,hbound,hb⟩ := hb
    have hnew : ∀ destination, isPlainText (intent.dispatchRow destination drawn now).messageId =
        true ∧ ∃ p, s.a2aPrincipals.get (intent.dispatchRow destination drawn now).principalId =
          some p ∧ (intent.dispatchRow destination drawn now).anetTaskId =
            messageTaskId rt p.senderNodeId (intent.dispatchRow destination drawn now).messageId := by
      intro destination
      refine ⟨?_,principal,hprincipal,?_⟩
      · change isPlainText intent.messageId = true
        rw [hmessage]
        exact registration.messageId.plain
      · change intent.anetTaskId = messageTaskId rt principal.senderNodeId intent.messageId
        rw [hbound,hsender]
        exact htask
    split at hb
    · simp only [repeatRegistration,bind_ok] at hb
      obtain ⟨_,-,task,-,hval⟩ := hb
      cases hval
      intro k r hr hkind
      rcases Table.insertOrIgnore_cases s.a2aDispatches
        (intent.dispatchRow task.destinationPeerId drawn now) with hsame | hins
      · exact h k r (hsame ▸ hr) hkind
      · have hget := (Table.get_insert hins k).symm.trans hr
        split at hget
        · cases hget
          exact hnew _
        · exact h k r hget hkind
    · simp only [firstRegistration,bind_ok] at hb
      obtain ⟨tasks,-,_,-,messages,-,dispatches,hdispatches,task,-,hval⟩ := hb
      cases hval
      intro k r hr hkind
      have hget := (Table.get_insert (integrity_ok.mp hdispatches) k).symm.trans hr
      split at hget
      · cases hget
        exact hnew _
      · exact h k r hget hkind
  · rw [ht]
    exact h

theorem MessageNamed.step (laws : TaskIdLaws rt) (h : MessageNamed rt s) (hstep : InboundStep rt s s') :
    MessageNamed rt s' := by
  obtain ⟨op,hallowed,hfrom,rfl⟩ := hstep
  have hprincipals : ∀ k p, s.a2aPrincipals.get k = some p → ∃ p',
      (op.exec rt s).a2aPrincipals.get k = some p' ∧ p'.senderNodeId = p.senderNodeId :=
    fun _ _ hp => exec_principals op hallowed hp
  cases op with
  | register registration drawnTask drawn now => exact h.register laws hfrom
  | bindPrincipal principalId senderNodeId allowed now =>
    exact h.kept (bindA2APrincipal_requests principalId senderNodeId allowed now s) hprincipals
  | cancel principalId request sender draws now =>
    exact h.kept (requestA2ATaskCancellation_requests principalId request sender draws now s)
      hprincipals
  | append principalId sender a2aTaskId source events now =>
    exact h.kept (appendA2ATaskEvents_requests principalId sender a2aTaskId source events now s)
      hprincipals
  | claim owner limit lease now draws =>
    exact h.kept (requestsKept_handled
      (claimA2ADispatches_handled rt owner limit lease now draws s).dispatches) hprincipals
  | retry owner claimToken error delay drawn now =>
    rw [GatewayOp.exec] at hprincipals ⊢
    exact h.kept (requestsKept_handled
      (retryA2ADispatch_handled owner claimToken error delay drawn now s).dispatches) hprincipals
  | commit owner claimToken raw keyId reservationId now =>
    exact h.kept (commitA2ADispatchPacket_requests owner claimToken raw keyId reservationId now s)
      hprincipals
  | elsewhere s' => exact h.kept (requestsKept_same hallowed.dispatches) hprincipals

end Steps

/-- The principals of the gateway are isolated: in every state of a run an operation for one of them
leaves the rows of another, a worker changes the claims of dispatches only, what the calls of a
principal return is what they return without the calls of the others, and the requests of two
messages share a task id only when the messages are of one node and have one id. -/
theorem principals_isolated (rt : Runtime) (laws : TaskIdLaws rt) {s : PacketStore}
    (hrun : Reaches (InboundStep rt) .empty s) (q : String) :
    (∀ call : PrincipalCall, call.caller ≠ q → (call.perform rt s).2.seen q = s.seen q) ∧
      (∀ owner claimToken, (∀ k r, s.a2aDispatches.get k = some r →
          r.claimedBy owner.val claimToken.val → r.principalId ≠ q) →
        (∀ error retry drawn now,
          (retryA2ADispatch owner claimToken error retry drawn now s).2.seen q = s.seen q) ∧
        ∀ raw keyId reservationId now,
          (commitA2ADispatchPacket rt owner claimToken raw keyId reservationId now s).2.seen q =
            s.seen q) ∧
      (∀ owner limit lease now draws,
        WorkerStep s (claimA2ADispatches rt owner limit lease now draws s).2) ∧
      (∀ calls, PrincipalCall.replies rt q calls s =
        PrincipalCall.replies rt q (calls.filter fun call => call.caller = q) s) ∧
      ∀ k r p k' r' p', s.a2aDispatches.get k = some r → s.a2aDispatches.get k' = some r' →
        r.kind = .request → r'.kind = .request →
        s.a2aPrincipals.get r.principalId = some p → s.a2aPrincipals.get r'.principalId = some p' →
          (strip p.senderNodeId,r.messageId) ≠ (strip p'.senderNodeId,r'.messageId) →
            r.anetTaskId ≠ r'.anetTaskId := by
  have hnamed : MessageNamed rt s := by
    refine Reaches.invariant (I := MessageNamed rt) (fun _ _ hi hstep => hi.step laws hstep) ?_ hrun
    intro k r hr
    cases (Table.get_empty k).symm.trans hr
  refine ⟨fun call hq => call.perform_spares rt hq s,fun owner claimToken hother => ⟨?_,?_⟩,
    fun owner limit lease now draws => claimA2ADispatches_handled rt owner limit lease now draws s,
    fun calls => PrincipalCall.replies_own rt q calls s,?_⟩
  · exact fun error retry drawn now =>
      retryA2ADispatch_spares owner claimToken error retry drawn now s hother
  · exact fun raw keyId reservationId now =>
      commitA2ADispatchPacket_spares rt owner claimToken raw keyId reservationId now s hother
  · intro k r p k' r' p' hr hr' hkind hkind' hp hp' hne hsame
    obtain ⟨hplain,x,hx,hid⟩ := hnamed k r hr hkind
    obtain ⟨hplain',x',hx',hid'⟩ := hnamed k' r' hr' hkind'
    cases Option.mem_unique hp hx
    cases Option.mem_unique hp' hx'
    obtain ⟨hnode,hmessage⟩ := messageTaskId_inj laws hplain hplain' (hid.symm.trans (hsame.trans hid'))
    exact hne (by rw [hnode,hmessage])

/-- A digest in hexadecimal that does not collide. -/
def messageDigest (bytes : Bytes) : String :=
  if bytes = idText gatewayPeer "message" then gatewayTaskId.val
  else String.ofList ('f' :: List.replicate (Encodable.encode (bytes.map UInt8.toNat)) 'a')

theorem messageDigest_hex (bytes : Bytes) :
    isHex (messageDigest bytes).toList.length (messageDigest bytes) := by
  unfold messageDigest isHex
  split
  · decide
  · have hf : isHexDigit 'f' = true := by decide
    have ha : isHexDigit 'a' = true := by decide
    simp [hf,ha]

theorem messageDigest_inj {b b' : Bytes} (h : messageDigest b = messageDigest b') : b = b' := by
  have hfirst : ∀ n, gatewayTaskId.val ≠ String.ofList ('f' :: List.replicate n 'a') := by
    intro n heq
    have hlist := congrArg (fun s => s.toList.head?) heq
    simp [gatewayTaskId] at hlist
  unfold messageDigest at h
  split at h
  · next hb =>
    split at h
    · next hb' => rw [hb,hb']
    · exact absurd h (hfirst _)
  · split at h
    · exact absurd h.symm (hfirst _)
    · have hlength := congrArg (fun s => s.toList.length) h
      simp only [String.toList_ofList,List.length_cons,List.length_replicate,Nat.add_right_cancel_iff,
        Encodable.encode_inj] at hlength
      exact List.map_injective_iff.mpr (fun x y hxy => UInt8.toNat_inj.mp hxy) hlength

def messageRuntime : Runtime :=
  { Runtime.msgpack with
    blake2s := fun person digestSize bytes =>
      if person = "a2a-task" then messageDigest bytes else checksum digestSize bytes }

theorem messageRuntime_laws : TaskIdLaws messageRuntime := by
  refine ⟨fun _ => rfl,fun _ => rfl,fun b hempty => ?_,fun b b' h => ?_⟩
  · change messageDigest b = "" at hempty
    unfold messageDigest at hempty
    split at hempty
    · exact absurd hempty (by decide)
    · have hlist := congrArg String.toList hempty
      simp at hlist
  · change lower (strip (messageDigest b)) = lower (strip (messageDigest b')) at h
    rw [normal_hex (messageDigest_hex b),normal_hex (messageDigest_hex b')] at h
    exact messageDigest_inj h

/-- The message of a principal of the gateway. -/
def inboundRequest : Value :=
  .map [(.str "message",.map [(.str "messageId",.str "message"),(.str "role",.str "ROLE_USER"),
    (.str "contextId",.str "context"),(.str "parts",.list [.map [(.str "text",.str "work")]])])]

def inboundTask : Result A2AInboundTask :=
  inboundMessageToTask messageRuntime "" inboundRequest gatewayPeer ⟨"skill",[]⟩ "" none

def inboundBody : Value :=
  match inboundTask with
  | .ok t => t.body
  | .error _ => .nil

def otherPrincipal : ConsumerId := ⟨"other",by decide⟩

def inboundRegistration (principal : ConsumerId) : A2ARegistration :=
  ⟨principal,gatewayNode,gatewayTaskId,sampleContext,sampleMessage,gatewayNode,sampleSkill,
    "","1.0",inboundBody⟩

def bindInbound (principal : ConsumerId) : GatewayOp :=
  .bindPrincipal principal gatewayNode [gatewayNode] 1000

def registerInbound (principal : ConsumerId) : GatewayOp :=
  .register (inboundRegistration principal) "" sampleToken 1000

/-- Two principals of one node, each with a message. -/
def sharedNode : PacketStore :=
  (registerInbound otherPrincipal).exec messageRuntime
    ((registerInbound samplePrincipal).exec messageRuntime
      ((bindInbound otherPrincipal).exec messageRuntime
        ((bindInbound samplePrincipal).exec messageRuntime .empty)))

theorem inboundTask_ok : ∃ t, inboundTask = .ok t ∧ inboundBody = t.body := by
  have hok : inboundTask.toOption.isSome = true := by decide +kernel
  obtain ⟨t,ht⟩ := Option.isSome_iff_exists.mp hok
  have htask := toOption_eq_some.mp ht
  refine ⟨t,htask,?_⟩
  unfold inboundBody
  rw [htask]

theorem registerInbound_from (principal : ConsumerId) :
    FromMessage messageRuntime (registerInbound principal) := by
  obtain ⟨t,htask,hbody⟩ := inboundTask_ok
  refine ⟨"",inboundRequest,⟨"skill",[]⟩,"",none,t,htask,?_⟩
  simp only [inboundRegistration,hbody]

theorem sharedNode_reachable : Reaches (InboundStep messageRuntime) .empty sharedNode := by
  have hfirst : Reaches (InboundStep messageRuntime) .empty
      ((bindInbound samplePrincipal).exec messageRuntime .empty) :=
    .single ⟨bindInbound samplePrincipal,trivial,trivial,rfl⟩
  exact ((hfirst.tail ⟨bindInbound otherPrincipal,trivial,trivial,rfl⟩).tail
    ⟨registerInbound samplePrincipal,trivial,registerInbound_from _,rfl⟩).tail
      ⟨registerInbound otherPrincipal,trivial,registerInbound_from _,rfl⟩

/-- The messages of two principals of one node have one task id at the destination. -/
theorem shared_task_id : ∃ s, Reaches (InboundStep messageRuntime) .empty s ∧
    ∃ r r', s.a2aDispatches.get ("principal","message") = some r ∧
      s.a2aDispatches.get ("other","message") = some r' ∧ r.kind = .request ∧ r'.kind = .request ∧
        r.destinationPeerId = r'.destinationPeerId ∧ r.anetTaskId = r'.anetTaskId := by
  refine ⟨sharedNode,sharedNode_reachable,?_⟩
  have hrows : ((sharedNode.a2aDispatches.get ("principal","message")).map
        fun r => (r.kind,r.destinationPeerId,r.anetTaskId)) =
          some (.request,gatewayPeer,gatewayTaskId.val) ∧
      ((sharedNode.a2aDispatches.get ("other","message")).map
        fun r => (r.kind,r.destinationPeerId,r.anetTaskId)) =
          some (.request,gatewayPeer,gatewayTaskId.val) := by
    decide +kernel
  obtain ⟨hrow,hrow'⟩ := hrows
  obtain ⟨r,hr,hfields⟩ := Option.map_eq_some_iff.mp hrow
  obtain ⟨r',hr',hfields'⟩ := Option.map_eq_some_iff.mp hrow'
  simp only [Prod.mk.injEq] at hfields hfields'
  exact ⟨r,r',hr,hr',hfields.1,hfields'.1,hfields.2.1.trans hfields'.2.1.symm,
    hfields.2.2.trans hfields'.2.2.symm⟩

/-- A cancellation of one of them leaves the rows of the other. -/
theorem principals_isolated_sample :
    ((PrincipalCall.cancel otherPrincipal (.map [(.str "id",.str gatewayTaskId.val)]) gatewayNode
      (fun _ => sampleToken) 2000).perform messageRuntime sharedNode).2.seen "principal" =
        sharedNode.seen "principal" :=
  (principals_isolated messageRuntime messageRuntime_laws sharedNode_reachable "principal").1 _
    (by decide)

end Anet
