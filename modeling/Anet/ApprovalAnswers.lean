import Anet.CompanionProtocol

/-! The answer to an approval request: the decision that is built for a request, and which requests
it can be bound to. -/
namespace Anet.CompanionProtocol

def maxBodyTtlMs : ℤ := 7 * 24 * 60 * 60 * 1000

/-- The object that `approval_decision` builds. -/
def decisionObject (r : ApprovalRequestBody) (id decision reason : String)
    (createdMs expiresMs : ℤ) : Fields :=
  [(.str "protocol",.str companionProtocol),(.str "version",.int companionProtocolVersion),
    (.str "object_type",.str "approval_decision"),(.str "decision_id",.str id),
    (.str "created_ms",.int createdMs),(.str "expires_ms",.int expiresMs),
    (.str "request_id",item r.fields "request_id"),(.str "human_id",.str r.humanId),
    (.str "device_node_id",.str r.deviceNodeId),(.str "decision",.str decision),
    (.str "reason",.str reason),(.str "nonce",.str r.nonce),(.str "action",r.action.toValue),
    (.str "scope",r.scope.toValue)]

/-- `approval_decision` at a time; `fresh` is the id that is drawn where none is given. -/
def approvalDecision (rt : Runtime) (request : Value) (decision reason decisionId fresh : String)
    (createdMs : ℤ) (expiresMs : Option ℤ) : Result ApprovalDecisionBody := do
  let request ← validateApprovalRequest rt request
  let times ← lifetime (.int createdMs) (.int (expiresMs.getD (createdMs + 5 * 60 * 1000)))
    maxBodyTtlMs
  let id ← identifier rt "decision_id" (.str (if decisionId = "" then fresh else decisionId))
  let decision ← validateApprovalDecision rt
    (.map (decisionObject request id decision reason times.1 times.2))
  let _ ← validateApprovalDecisionBinding rt (.map request.fields) (.map decision.fields)
  return decision

variable {rt : Runtime} {name objectType idName : String} {v body : Value}
variable {required additional : List String} {es : Fields} {news : List (String × Value)}

/-! Every field that was normalized is kept when it is normalized again. -/

theorem normalized_str (htext : ∀ s, rt.str (.str s) = s) (s : String) :
    normalized rt (.str s) = lower (strip s) := by
  rw [normalized,htext]

theorem normalized_again (htext : ∀ s, rt.str (.str s) = s) (v : Value) :
    normalized rt (.str (normalized rt v)) = normalized rt v := by
  rw [normalized_str htext]
  exact lower_again _

/-- The fields that are checked in their normal form. -/
theorem checked_again (htext : ∀ s, rt.str (.str s) = s) {p : String → Bool} {e e' : PyError}
    {s : String} (h : (if p (normalized rt v) then .ok (normalized rt v) else .error e :
      Result String) = .ok s) :
    (if p (normalized rt (.str s)) then .ok (normalized rt (.str s)) else .error e' :
      Result String) = .ok s := by
  by_cases hp : p (normalized rt v)
  · rw [if_pos hp] at h
    have hs : normalized rt v = s := Except.ok.inj h
    have hagain : normalized rt (.str s) = s := by
      rw [← hs,normalized_again htext]
    rw [hagain,if_pos (hs ▸ hp)]
  · rw [if_neg hp] at h
    cases h

theorem identifier_again (htext : ∀ s, rt.str (.str s) = s) {s : String}
    (name' : String) (h : identifier rt name v = .ok s) :
    identifier rt name' (.str s) = .ok s :=
  checked_again htext h

theorem digest_again (htext : ∀ s, rt.str (.str s) = s) {s : String}
    (name' : String) (h : digest rt name v = .ok s) : digest rt name' (.str s) = .ok s :=
  checked_again htext h

theorem nodeId_again (htext : ∀ s, rt.str (.str s) = s) {s : String} (h : nodeId rt v = .ok s) :
    nodeId rt (.str s) = .ok s :=
  checked_again htext h

theorem humanId_again (htext : ∀ s, rt.str (.str s) = s) {s : String} (h : humanId rt v = .ok s) :
    humanId rt (.str s) = .ok s :=
  checked_again htext h

theorem capabilityToken_again (htext : ∀ s, rt.str (.str s) = s) {s : String}
    (name' : String) (h : capabilityToken rt name v = .ok s) :
    capabilityToken rt name' (.str s) = .ok s :=
  checked_again htext h

theorem text_again (htext : ∀ s, rt.str (.str s) = s) {required : Bool} {limit : ℕ} {s : String}
    (name' : String) (h : text rt name required limit v = .ok s) :
    text rt name' required limit (.str s) = .ok s := by
  simp only [text,bind_ok,raiseIf_ok] at h
  obtain ⟨_,-,_,hneeded,_,hlimit,hs⟩ := h
  obtain rfl : strip (rt.str v) = s := Except.ok.inj hs
  have hstrip : strip (rt.str (.str (strip (rt.str v)))) = strip (rt.str v) := by
    rw [htext,strip_strip]
  unfold text
  rw [hstrip]
  exact bind_ok.mpr ⟨(),raiseIf_ok.mpr (by simp [Value.isBin]),bind_ok.mpr ⟨(),raiseIf_ok.mpr hneeded,
    bind_ok.mpr ⟨(),raiseIf_ok.mpr hlimit,rfl⟩⟩⟩

/-- What `_exact` checks: every field is there and no other. -/
structure Exact (required : List String) (es : Fields) : Prop where
  fields : ∀ r ∈ required, (Value.field es r).isSome
  known : ∀ e ∈ es, ∃ r ∈ required, e.1.isStr r

/-- A dictionary whose keys are the required ones, in their order. -/
theorem Exact.of_keys (h : es.map Prod.fst = required.map .str) : Exact required es where
  fields r hr := by
    rw [Value.field_isSome,h]
    exact List.mem_map_of_mem hr
  known e he := by
    have hmem := List.mem_map_of_mem (f := Prod.fst) he
    rw [h] at hmem
    obtain ⟨r,hr,hkey⟩ := List.mem_map.mp hmem
    exact ⟨r,hr,Value.isStr_iff.mpr hkey.symm⟩

theorem exact_ok {fields : Fields} : exact required name v = .ok fields ↔
    v = .map fields ∧ Exact required fields := by
  have hmissing (es : Fields) : (required.filter fun r => (Value.field es r).isNone) = [] ↔
      ∀ r ∈ required, (Value.field es r).isSome := by
    simp [List.filter_eq_nil_iff,Option.isSome_iff_ne_none]
  have hunknown (es : Fields) :
      (es.filter fun e => ¬ required.any fun r => e.1.isStr r) = [] ↔
        ∀ e ∈ es, ∃ r ∈ required, e.1.isStr r := by
    simp [List.filter_eq_nil_iff]
  unfold exact
  simp only [bind_ok,fetched_ok,raiseIf_ok,not_not]
  constructor
  · rintro ⟨es,hmap,_,hm,_,hlength,_,hnames,hfields⟩
    cases hfields
    have hnone : (fields.filter fun e => ¬ required.any fun r => e.1.isStr r) = [] := by
      rw [hnames] at hlength
      exact List.length_eq_zero_iff.mp hlength.symm
    refine ⟨?_,(hmissing _).mp hm,(hunknown _).mp hnone⟩
    cases v <;> simp [Value.asMap] at hmap
    rw [hmap]
  · rintro ⟨rfl,hexact⟩
    have hnone := (hunknown fields).mpr hexact.known
    refine ⟨fields,rfl,(),(hmissing _).mpr hexact.fields,(),?_,(),?_,rfl⟩
    · rw [hnone]
      rfl
    · rw [hnone]
      rfl

theorem approvalAction_again (htext : ∀ s, rt.str (.str s) = s) {a : ApprovalAction}
    (h : approvalAction rt v = .ok a) : approvalAction rt a.toValue = .ok a := by
  simp only [approvalAction,bind_ok,raiseIf_ok,not_not] at h
  obtain ⟨fields,-,_,hresource,capability,hcapability,parameters,hparameters,summary,hsummary,ha⟩ := h
  obtain rfl := Except.ok.inj ha
  generalize hstripped : strip (rt.str (item fields "resource")) = resource at hresource ⊢
  have hstrip : strip resource = resource := by
    rw [← hstripped,strip_strip]
  simp only [approvalAction,bind_ok,raiseIf_ok,not_not]
  refine ⟨_,exact_ok.mpr ⟨rfl,.of_keys rfl⟩,(),?_,capability,?_,parameters,?_,summary,?_,?_⟩
  · simpa [item,Value.fieldOr,htext,hstrip] using hresource
  · simpa [item,Value.fieldOr] using capabilityToken_again htext _ hcapability
  · simpa [item,Value.fieldOr] using digest_again htext _ hparameters
  · simpa [item,Value.fieldOr] using text_again htext _ hsummary
  · simp [item,Value.fieldOr,htext,hstrip,pure,Except.pure]

theorem integer_ok {minimum i : ℤ} : integer name minimum v = .ok i ↔ v = .int i ∧ minimum ≤ i := by
  cases v with
  | int j =>
    simp only [integer]
    split_ifs with h
    · constructor
      · intro heq
        cases heq
        exact ⟨rfl,h⟩
      · rintro ⟨heq,-⟩
        cases heq
        rfl
    · constructor
      · intro heq
        cases heq
      · rintro ⟨heq,hle⟩
        cases heq
        exact absurd hle h
  | _ => simp [integer]

/-- A scope is one at any later time before its end. -/
theorem approvalScope_again (htext : ∀ s, rt.str (.str s) = s) {a : ApprovalScope}
    {createdMs now : ℤ} (h : approvalScope rt createdMs v = .ok a) (hle : createdMs ≤ now)
    (hlive : now < a.grantExpiresMs) : approvalScope rt now a.toValue = .ok a := by
  simp only [approvalScope,timestamp,integer_ok,bind_ok,raiseIf_ok,not_or,not_lt,not_le] at h
  obtain ⟨fields,-,_,hmode,maxUses,⟨-,hmax⟩,grant,⟨-,hgrant⟩,_,⟨hafter,hlong⟩,_,honce,_,hbounded,
    ha⟩ := h
  obtain rfl := Except.ok.inj ha
  generalize hnormal : normalized rt (item fields "mode") = mode at hmode honce hbounded ⊢
  have hagain : normalized rt (.str mode) = mode := by
    rw [← hnormal,normalized_again htext]
  have hnonneg : 0 ≤ maxUses := by omega
  simp only at hlive
  simp only [approvalScope,timestamp,integer_ok,bind_ok,raiseIf_ok,not_or,not_lt,not_le]
  refine ⟨_,exact_ok.mpr ⟨rfl,.of_keys rfl⟩,(),?_,maxUses,?_,grant,?_,(),⟨hlive,by omega⟩,(),?_,(),?_,?_⟩
  · simpa [item,Value.fieldOr,hagain] using hmode
  · simpa [item,Value.fieldOr] using ⟨hnonneg,hmax⟩
  · simpa [item,Value.fieldOr] using hgrant
  · simpa [item,Value.fieldOr,hagain] using honce
  · simpa [item,Value.fieldOr,hagain] using hbounded
  · simp [item,Value.fieldOr,hagain,pure,Except.pure]

/-! Objects whose fields are replaced keep what `_validate_base` checks. -/

theorem override_cons (key old : Value) (es : Fields) (news : List (String × Value)) :
    override ((key,old) :: es) news =
      (key,((news.find? fun n => key.isStr n.1).map Prod.snd).getD old) :: override es news := by
  unfold override
  rw [List.map_cons]
  cases news.find? fun n => key.isStr n.1 with
  | none => rfl
  | some n => rfl

/-- A field is the new one if there is one of its name. -/
theorem field_overridden (es : Fields) (news : List (String × Value)) (k : String) :
    Value.field (override es news) k = (Value.field es k).map fun old =>
      ((news.find? fun n => k = n.1).map Prod.snd).getD old := by
  induction es with
  | nil => rfl
  | cons e es ih =>
    obtain ⟨key,old⟩ := e
    rw [override_cons,Value.field_cons,Value.field_cons,ih]
    by_cases hk : key.isStr k
    · rw [if_pos hk,if_pos hk,Value.isStr_iff.mp hk]
      simp [Value.isStr]
    · rw [if_neg hk,if_neg hk]

theorem override_again (es : Fields) (news : List (String × Value)) :
    override (override es news) news = override es news := by
  induction es with
  | nil => rfl
  | cons e es ih =>
    obtain ⟨key,old⟩ := e
    rw [override_cons,override_cons,ih]
    cases news.find? fun n => key.isStr n.1 with
    | none => rfl
    | some n => rfl

theorem item_overridden {k : String} {new : Value} (hfield : (Value.field es k).isSome)
    (hnew : (news.find? fun n => k = n.1) = some (k,new)) : item (override es news) k = new := by
  obtain ⟨old,hold⟩ := Option.isSome_iff_exists.mp hfield
  rw [item,Value.fieldOr,field_overridden,hold,hnew]
  rfl

theorem fieldOr_kept {k : String} (default : Value)
    (hnone : (news.find? fun n => k = n.1) = none) :
    Value.fieldOr (override es news) k default = Value.fieldOr es k default := by
  rw [Value.fieldOr,field_overridden,hnone,Value.fieldOr]
  cases Value.field es k with
  | none => rfl
  | some old => rfl

theorem Exact.overridden (h : Exact required es) (news : List (String × Value)) :
    Exact required (override es news) where
  fields r hr := by
    obtain ⟨old,hold⟩ := Option.isSome_iff_exists.mp (h.fields r hr)
    rw [field_overridden,hold]
    rfl
  known := by
    have hknown := h.known
    clear h
    induction es with
    | nil => exact hknown
    | cons e es ih =>
      obtain ⟨key,old⟩ := e
      rw [List.forall_mem_cons] at hknown
      rw [override_cons,List.forall_mem_cons]
      exact ⟨hknown.1,ih hknown.2⟩

/-- What `_validate_base` checks. -/
structure Based (rt : Runtime) (objectType idName : String) (additional : List String)
    (maxTtlMs : ℤ) (entries : Fields) (createdMs expiresMs : ℤ) : Prop where
  protocol : (Value.fieldOr entries "protocol" .nil).isStr companionProtocol
  version : equalsVersion (Value.fieldOr entries "version" .nil)
  objectType : (Value.fieldOr entries "object_type" .nil).isStr objectType
  fields : Exact (["protocol","version","object_type",idName,"created_ms","expires_ms"] ++
    additional) entries
  identified : ∃ id, identifier rt idName (item entries idName) = .ok id
  created : item entries "created_ms" = .int createdMs
  expires : item entries "expires_ms" = .int expiresMs
  started : 1 ≤ createdMs
  lasts : createdMs < expiresMs
  short : expiresMs - createdMs ≤ maxTtlMs

theorem validateBaseWithin_iff {maxTtlMs : ℤ} {base : BaseFields} :
    validateBaseWithin rt objectType idName additional maxTtlMs body = .ok base ↔
      body = .map base.fields ∧ base.objectId = item base.fields idName ∧
        Based rt objectType idName additional maxTtlMs base.fields base.createdMs
          base.expiresMs := by
  simp only [validateBaseWithin,lifetime,timestamp,integer_ok,bind_ok,raiseIf_ok,fetched_ok,exact_ok,
    not_not,not_or,not_le,not_lt]
  constructor
  · rintro ⟨entries,hmap,_,hprotocol,_,hversion,_,htype,fields,⟨rfl,hfields⟩,id,hid,times,
      ⟨created,⟨hcreated,hpos⟩,expires,⟨hexpires,-⟩,_,⟨hlasts,hshort⟩,htimes⟩,hbase⟩
    obtain rfl := Option.some.inj hmap
    obtain rfl := Except.ok.inj htimes
    obtain rfl := Except.ok.inj hbase
    exact ⟨rfl,rfl,hprotocol,hversion,htype,hfields,⟨id,hid⟩,hcreated,hexpires,hpos,hlasts,hshort⟩
  · rintro ⟨rfl,hid,h⟩
    obtain ⟨id,hidentified⟩ := h.identified
    have hlasts := h.lasts
    have hpos := h.started
    refine ⟨base.fields,rfl,(),h.protocol,(),h.version,(),h.objectType,base.fields,⟨rfl,h.fields⟩,id,
      hidentified,(base.createdMs,base.expiresMs),⟨base.createdMs,⟨h.created,hpos⟩,base.expiresMs,
        ⟨h.expires,by omega⟩,(),⟨hlasts,h.short⟩,rfl⟩,?_⟩
    rw [← hid]
    rfl

theorem validateBase_iff {base : BaseFields} :
    validateBase rt objectType idName additional body = .ok base ↔
      body = .map base.fields ∧ base.objectId = item base.fields idName ∧
        Based rt objectType idName additional maxApprovalRequestTtlMs base.fields base.createdMs
          base.expiresMs :=
  validateBaseWithin_iff

/-- Fields of other names can be replaced. -/
theorem Based.overridden {maxTtlMs createdMs expiresMs : ℤ}
    (h : Based rt objectType idName additional maxTtlMs es createdMs expiresMs)
    (hnone : ∀ k ∈ ["protocol","version","object_type",idName,"created_ms","expires_ms"],
      (news.find? fun n => k = n.1) = none) :
    Based rt objectType idName additional maxTtlMs (override es news) createdMs expiresMs where
  protocol := by
    rw [fieldOr_kept _ (hnone _ (by simp))]
    exact h.protocol
  version := by
    rw [fieldOr_kept _ (hnone _ (by simp))]
    exact h.version
  objectType := by
    rw [fieldOr_kept _ (hnone _ (by simp))]
    exact h.objectType
  fields := h.fields.overridden news
  identified := by
    rw [item,fieldOr_kept _ (hnone _ (by simp))]
    exact h.identified
  created := by
    rw [item,fieldOr_kept _ (hnone _ (by simp))]
    exact h.created
  expires := by
    rw [item,fieldOr_kept _ (hnone _ (by simp))]
    exact h.expires
  started := h.started
  lasts := h.lasts
  short := h.short

theorem scope_lasts {createdMs : ℤ} {a : ApprovalScope}
    (h : approvalScope rt createdMs v = .ok a) : createdMs < a.grantExpiresMs := by
  simp only [approvalScope,bind_ok,raiseIf_ok,not_or,not_le] at h
  obtain ⟨_,-,_,-,_,-,grant,-,_,⟨hgrant,-⟩,_,-,_,-,hval⟩ := h
  rw [← Except.ok.inj hval]
  exact hgrant

/-- The fields of a request that are normalized. -/
def ApprovalRequestBody.normalFields (r : ApprovalRequestBody) : List (String × Value) :=
  [("human_id",.str r.humanId),("device_node_id",.str r.deviceNodeId),
    ("action",r.action.toValue),("scope",r.scope.toValue),("risk",.str r.risk),
    ("nonce",.str r.nonce)]

def requestFields : List String := ["human_id","device_node_id","action","scope","risk","nonce"]

/-- What `_validate_approval_request` found in the fields. -/
structure RequestChecked (rt : Runtime) (fields : Fields) (r : ApprovalRequestBody) : Prop where
  based : Based rt "approval_request" "request_id" requestFields maxApprovalRequestTtlMs fields
    r.createdMs r.expiresMs
  requestId : r.requestId = columnText rt (item fields "request_id")
  human : humanId rt (item fields "human_id") = .ok r.humanId
  device : nodeId rt (item fields "device_node_id") = .ok r.deviceNodeId
  action : approvalAction rt (item fields "action") = .ok r.action
  scope : approvalScope rt r.createdMs (item fields "scope") = .ok r.scope
  risk : text rt "approval risk" true 1024 (item fields "risk") = .ok r.risk
  nonce : identifier rt "approval nonce" (item fields "nonce") = .ok r.nonce
  normal : r.fields = override fields r.normalFields

theorem validateApprovalRequest_iff {r : ApprovalRequestBody} :
    validateApprovalRequest rt body = .ok r ↔ ∃ fields, body = .map fields ∧
      RequestChecked rt fields r := by
  simp only [validateApprovalRequest,bind_ok,validateBase_iff]
  constructor
  · rintro ⟨base,⟨hbody,hid,hbased⟩,human,hhuman,device,hdevice,action,haction,scope,hscope,risk,hrisk,
      nonce,hnonce,hr⟩
    obtain rfl := Except.ok.inj hr
    exact ⟨base.fields,hbody,hbased,congrArg (columnText rt) hid,hhuman,hdevice,haction,hscope,hrisk,
      hnonce,rfl⟩
  · rintro ⟨fields,rfl,h⟩
    refine ⟨⟨fields,item fields "request_id",r.createdMs,r.expiresMs⟩,⟨rfl,rfl,h.based⟩,r.humanId,
      h.human,r.deviceNodeId,h.device,r.action,h.action,r.scope,h.scope,r.risk,h.risk,r.nonce,h.nonce,
      ?_⟩
    rw [← h.requestId]
    exact congrArg (fun fs => Except.ok { r with fields := fs }) h.normal.symm

/-- A request is one at any time of creation from its own on, before the end of its scope; its
normal form is again its normal form. -/
theorem RequestChecked.again (htext : ∀ s, rt.str (.str s) = s) {r : ApprovalRequestBody}
    (h : RequestChecked rt es r) : RequestChecked rt r.fields r := by
  have hthere : ∀ k ∈ requestFields, (Value.field es k).isSome := fun k hk =>
    h.based.fields.fields k (List.mem_append_right _ hk)
  have hitem : ∀ k new, k ∈ requestFields → (r.normalFields.find? fun n => k = n.1) = some (k,new) →
      item r.fields k = new := by
    intro k new hk hnew
    rw [h.normal]
    exact item_overridden (hthere k hk) hnew
  refine ⟨?_,?_,?_,?_,?_,?_,?_,?_,?_⟩
  · rw [h.normal]
    exact h.based.overridden (by simp [ApprovalRequestBody.normalFields])
  · rw [h.requestId,h.normal,item,item,
      fieldOr_kept _ (by simp [ApprovalRequestBody.normalFields])]
  · rw [hitem "human_id" _ (by simp [requestFields]) rfl]
    exact humanId_again htext h.human
  · rw [hitem "device_node_id" _ (by simp [requestFields]) rfl]
    exact nodeId_again htext h.device
  · rw [hitem "action" _ (by simp [requestFields]) rfl]
    exact approvalAction_again htext h.action
  · rw [hitem "scope" _ (by simp [requestFields]) rfl]
    exact approvalScope_again htext h.scope le_rfl (scope_lasts h.scope)
  · rw [hitem "risk" _ (by simp [requestFields]) rfl]
    exact text_again htext _ h.risk
  · rw [hitem "nonce" _ (by simp [requestFields]) rfl]
    exact identifier_again htext _ h.nonce
  · rw [h.normal,override_again]

/-- The fields of a decision that are normalized. -/
def ApprovalDecisionBody.normalFields (d : ApprovalDecisionBody) : List (String × Value) :=
  [("request_id",.str d.requestId),("human_id",.str d.humanId),
    ("device_node_id",.str d.deviceNodeId),("decision",.str d.decision),("reason",.str d.reason),
    ("nonce",.str d.nonce),("action",d.action.toValue),("scope",d.scope.toValue)]

def decisionFields : List String :=
  ["request_id","human_id","device_node_id","decision","reason","nonce","action","scope"]

/-- What `_validate_approval_decision` found in the fields. -/
structure DecisionChecked (rt : Runtime) (fields : Fields) (d : ApprovalDecisionBody) : Prop where
  based : Based rt "approval_decision" "decision_id" decisionFields maxApprovalRequestTtlMs fields
    d.createdMs d.expiresMs
  decisionId : d.decisionId = columnText rt (item fields "decision_id")
  decision : d.decision = normalized rt (item fields "decision")
  known : d.decision = "approved" ∨ d.decision = "rejected"
  requestId : identifier rt "request_id" (item fields "request_id") = .ok d.requestId
  human : humanId rt (item fields "human_id") = .ok d.humanId
  device : nodeId rt (item fields "device_node_id") = .ok d.deviceNodeId
  reason : text rt "approval decision reason" false 1024 (item fields "reason") = .ok d.reason
  nonce : identifier rt "approval nonce" (item fields "nonce") = .ok d.nonce
  action : approvalAction rt (item fields "action") = .ok d.action
  scope : approvalScope rt d.createdMs (item fields "scope") = .ok d.scope
  normal : d.fields = override fields d.normalFields

theorem validateApprovalDecision_iff {d : ApprovalDecisionBody} :
    validateApprovalDecision rt body = .ok d ↔ ∃ fields, body = .map fields ∧
      DecisionChecked rt fields d := by
  simp only [validateApprovalDecision,bind_ok,validateBase_iff,raiseIf_ok,not_not]
  constructor
  · rintro ⟨base,⟨hbody,hid,hbased⟩,_,hknown,requestId,hrequest,human,hhuman,device,hdevice,reason,
      hreason,nonce,hnonce,action,haction,scope,hscope,hd⟩
    obtain rfl := Except.ok.inj hd
    exact ⟨base.fields,hbody,hbased,congrArg (columnText rt) hid,rfl,hknown,hrequest,hhuman,hdevice,
      hreason,hnonce,haction,hscope,rfl⟩
  · rintro ⟨fields,rfl,h⟩
    refine ⟨⟨fields,item fields "decision_id",d.createdMs,d.expiresMs⟩,⟨rfl,rfl,h.based⟩,(),?_,
      d.requestId,h.requestId,d.humanId,h.human,d.deviceNodeId,h.device,d.reason,h.reason,d.nonce,
      h.nonce,d.action,h.action,d.scope,h.scope,?_⟩
    · rw [← h.decision]
      exact h.known
    · rw [← h.decisionId,← h.decision]
      exact congrArg (fun fs => Except.ok { d with fields := fs }) h.normal.symm

/-- The normal form of a decision is again its normal form. -/
theorem DecisionChecked.again (htext : ∀ s, rt.str (.str s) = s) {d : ApprovalDecisionBody}
    (h : DecisionChecked rt es d) : DecisionChecked rt d.fields d := by
  have hthere : ∀ k ∈ decisionFields, (Value.field es k).isSome := fun k hk =>
    h.based.fields.fields k (List.mem_append_right _ hk)
  have hitem : ∀ k new, k ∈ decisionFields →
      (d.normalFields.find? fun n => k = n.1) = some (k,new) → item d.fields k = new := by
    intro k new hk hnew
    rw [h.normal]
    exact item_overridden (hthere k hk) hnew
  refine ⟨?_,?_,?_,h.known,?_,?_,?_,?_,?_,?_,?_,?_⟩
  · rw [h.normal]
    exact h.based.overridden (by simp [ApprovalDecisionBody.normalFields])
  · rw [h.decisionId,h.normal,item,item,
      fieldOr_kept _ (by simp [ApprovalDecisionBody.normalFields])]
  · rw [hitem "decision" _ (by simp [decisionFields]) rfl,h.decision,normalized_again htext]
  · rw [hitem "request_id" _ (by simp [decisionFields]) rfl]
    exact identifier_again htext _ h.requestId
  · rw [hitem "human_id" _ (by simp [decisionFields]) rfl]
    exact humanId_again htext h.human
  · rw [hitem "device_node_id" _ (by simp [decisionFields]) rfl]
    exact nodeId_again htext h.device
  · rw [hitem "reason" _ (by simp [decisionFields]) rfl]
    exact text_again htext _ h.reason
  · rw [hitem "nonce" _ (by simp [decisionFields]) rfl]
    exact identifier_again htext _ h.nonce
  · rw [hitem "action" _ (by simp [decisionFields]) rfl]
    exact approvalAction_again htext h.action
  · rw [hitem "scope" _ (by simp [decisionFields]) rfl]
    exact approvalScope_again htext h.scope le_rfl (scope_lasts h.scope)
  · rw [h.normal,override_again]

/-- What the binding compares. -/
structure Bound (r : ApprovalRequestBody) (d : ApprovalDecisionBody) : Prop where
  requestId : (item r.fields "request_id").isStr d.requestId
  human : d.humanId = r.humanId
  device : d.deviceNodeId = r.deviceNodeId
  nonce : d.nonce = r.nonce
  action : d.action = r.action
  scope : d.scope = r.scope
  started : r.createdMs ≤ d.createdMs
  open_ : d.createdMs < r.expiresMs

theorem binding_iff {request decision : Value} {d : ApprovalDecisionBody} :
    validateApprovalDecisionBinding rt request decision = .ok d ↔
      ∃ r, validateApprovalRequest rt request = .ok r ∧
        validateApprovalDecision rt decision = .ok d ∧ Bound r d := by
  simp only [validateApprovalDecisionBinding,bind_ok,raiseIf_ok,not_not,not_lt,not_le,ne_eq]
  constructor
  · rintro ⟨r,hr,d',hd,_,hid,_,hhuman,_,hdevice,_,hnonce,_,haction,_,hscope,_,hstarted,_,hopen,hsame⟩
    obtain rfl := Except.ok.inj hsame
    exact ⟨r,hr,hd,hid,hhuman,hdevice,hnonce,haction,hscope,hstarted,hopen⟩
  · rintro ⟨r,hr,hd,h⟩
    exact ⟨r,hr,d,hd,(),h.requestId,(),h.human,(),h.device,(),h.nonce,(),h.action,(),h.scope,(),
      h.started,(),h.open_,rfl⟩

section Answers

variable {request : Value} {r : ApprovalRequestBody} {d : ApprovalDecisionBody}

/-- The expiry a decision gets where none is given. -/
def decisionExpiry (createdMs : ℤ) (expiresMs : Option ℤ) : ℤ :=
  expiresMs.getD (createdMs + 5 * 60 * 1000)

theorem approvalDecision_ok {decision reason decisionId fresh : String} {createdMs : ℤ}
    {expiresMs : Option ℤ} (hrequest : validateApprovalRequest rt request = .ok r) :
    approvalDecision rt request decision reason decisionId fresh createdMs expiresMs = .ok d ↔
      (1 ≤ createdMs ∧ createdMs < decisionExpiry createdMs expiresMs ∧
        decisionExpiry createdMs expiresMs - createdMs ≤ maxBodyTtlMs) ∧
      ∃ id, identifier rt "decision_id" (.str (if decisionId = "" then fresh else decisionId)) =
          .ok id ∧
        validateApprovalDecision rt (.map (decisionObject r id decision reason createdMs
          (decisionExpiry createdMs expiresMs))) = .ok d ∧
        ∃ d', validateApprovalDecisionBinding rt (.map r.fields) (.map d.fields) = .ok d' := by
  simp only [approvalDecision,bind_ok,lifetime,timestamp,integer_ok,raiseIf_ok,not_or,not_le,not_lt]
  constructor
  · rintro ⟨r',hr',times,⟨created,⟨hcreated,hpos⟩,expires,⟨hexpires,-⟩,_,⟨hlasts,hshort⟩,htimes⟩,id,
      hid,decision',hdecision,d',hbinding,hsame⟩
    obtain rfl : r = r' := Except.ok.inj (hrequest.symm.trans hr')
    obtain rfl := Except.ok.inj htimes
    obtain rfl := Except.ok.inj hsame
    obtain rfl := Value.int.inj hcreated
    obtain rfl := Value.int.inj hexpires
    exact ⟨⟨hpos,hlasts,hshort⟩,id,hid,hdecision,d',hbinding⟩
  · rintro ⟨⟨hpos,hlasts,hshort⟩,id,hid,hdecision,d',hbinding⟩
    exact ⟨r,hrequest,(createdMs,decisionExpiry createdMs expiresMs),⟨createdMs,⟨rfl,hpos⟩,_,
      ⟨rfl,hpos.trans hlasts.le⟩,(),⟨hlasts,hshort⟩,rfl⟩,id,hid,d,hdecision,d',hbinding,rfl⟩

theorem identifier_eq {id : String} (h : identifier rt name v = .ok id) : id = normalized rt v := by
  unfold identifier at h
  split at h
  · exact (Except.ok.inj h).symm
  · cases h

theorem RequestChecked.item_requestId (h : RequestChecked rt es r) :
    item r.fields "request_id" = item es "request_id" := by
  rw [h.normal,item,item,fieldOr_kept _ (by simp [ApprovalRequestBody.normalFields])]

/-- The decision that is built for a request. -/
def builtDecision (rt : Runtime) (r : ApprovalRequestBody) (id decision given reason : String)
    (createdMs expiresMs : ℤ) : ApprovalDecisionBody :=
  let d : ApprovalDecisionBody := ⟨id,normalized rt (item r.fields "request_id"),r.humanId,
    r.deviceNodeId,decision,reason,r.nonce,r.action,r.scope,createdMs,expiresMs,[]⟩
  { d with fields := override (decisionObject r id decision given createdMs expiresMs) d.normalFields }

theorem builtDecision_checked (htext : ∀ s, rt.str (.str s) = s) (h : RequestChecked rt es r)
    {id decision given reason given' : String} {createdMs expiresMs : ℤ}
    (hdecision : decision ∈ ["approved","rejected"])
    (hid : identifier rt "decision_id" (.str given') = .ok id)
    (hreason : text rt "approval decision reason" false 1024 (.str given) = .ok reason)
    (hlate : r.createdMs ≤ createdMs) (hscope : createdMs < r.scope.grantExpiresMs)
    (hlasts : createdMs < expiresMs) (hshort : expiresMs - createdMs ≤ maxApprovalRequestTtlMs) :
    DecisionChecked rt (decisionObject r id decision given createdMs expiresMs)
      (builtDecision rt r id decision given reason createdMs expiresMs) := by
  have hagain := h.again htext
  have hstarted := h.based.started
  have hnormal : lower (strip decision) = decision := by
    have hboth : ∀ d ∈ ["approved","rejected"], lower (strip d) = d := by decide
    exact hboth decision hdecision
  obtain ⟨requestId,hrequestId⟩ := hagain.based.identified
  have hrequest := identifier_eq hrequestId
  refine ⟨?_,rfl,?_,?_,?_,?_,?_,?_,?_,?_,?_,rfl⟩
  · exact ⟨rfl,rfl,rfl,.of_keys rfl,⟨id,identifier_again htext _ hid⟩,rfl,rfl,
      hstarted.trans hlate,hlasts,hshort⟩
  · exact (hnormal.symm.trans (normalized_str htext decision).symm)
  · show decision = "approved" ∨ decision = "rejected"
    simpa using hdecision
  · rw [hrequest] at hrequestId
    exact hrequestId
  · exact humanId_again htext h.human
  · exact nodeId_again htext h.device
  · exact hreason
  · exact identifier_again htext _ h.nonce
  · exact approvalAction_again htext h.action
  · exact approvalScope_again htext h.scope hlate hscope

/-- A decision that is bound to a request repeats its normalized fields. -/
theorem Bound.agree (htext : ∀ s, rt.str (.str s) = s) (h : Bound r d) (hd : DecisionChecked rt es d) :
    normalized rt (item r.fields "request_id") = d.requestId := by
  rw [Value.isStr_iff.mp h.requestId]
  exact (identifier_eq (identifier_again htext "request_id" hd.requestId)).symm

/-- The request id of the request is text in its normal form. -/
def NormalRequestId (rt : Runtime) (request : Value) : Prop :=
  ∃ fields, request = .map fields ∧
    (item fields "request_id").isStr (normalized rt (item fields "request_id"))

/-- A request that a decision was built for had its id in normal form. -/
theorem built_normal (htext : ∀ s, rt.str (.str s) = s)
    (hrequest : validateApprovalRequest rt request = .ok r)
    {decision reason decisionId fresh : String} {createdMs : ℤ} {expiresMs : Option ℤ}
    (hbuilt : approvalDecision rt request decision reason decisionId fresh createdMs expiresMs =
      .ok d) : NormalRequestId rt request := by
  obtain ⟨fields,rfl,hchecked⟩ := validateApprovalRequest_iff.mp hrequest
  have hrequest' := validateApprovalRequest_iff.mpr ⟨r.fields,rfl,hchecked.again htext⟩
  obtain ⟨-,id,-,hdecision,d',hbinding⟩ := (approvalDecision_ok hrequest).mp hbuilt
  obtain ⟨r',hr',hd',hbound⟩ := binding_iff.mp hbinding
  obtain rfl : r = r' := Except.ok.inj (hrequest'.symm.trans hr')
  obtain ⟨es,-,hd⟩ := validateApprovalDecision_iff.mp hd'
  refine ⟨fields,rfl,?_⟩
  rw [← hchecked.item_requestId,hbound.agree htext hd]
  exact hbound.requestId

/-- Both decisions on an accepted request can be built and are bound to it, at any time before its
end and that of its scope, exactly when its id was sent in normal form; and a decision that was
built for a request is bound to no request with other normalized fields. -/
theorem request_answered_iff (rt : Runtime) (htext : ∀ s, rt.str (.str s) = s) :
    (∀ request r reason decisionId fresh createdMs expiresMs,
      validateApprovalRequest rt request = .ok r →
      r.createdMs ≤ createdMs → createdMs < min r.expiresMs r.scope.grantExpiresMs →
      createdMs < decisionExpiry createdMs expiresMs →
      decisionExpiry createdMs expiresMs - createdMs ≤ maxApprovalRequestTtlMs →
      (∃ id, identifier rt "decision_id" (.str (if decisionId = "" then fresh else decisionId)) =
        .ok id) →
      (∃ s, text rt "approval decision reason" false 1024 (.str reason) = .ok s) →
      ((∀ decision ∈ ["approved","rejected"], ∃ d,
        approvalDecision rt request decision reason decisionId fresh createdMs expiresMs = .ok d ∧
          validateApprovalDecision rt (.map d.fields) = .ok d ∧
            validateApprovalDecisionBinding rt request (.map d.fields) = .ok d) ↔
        NormalRequestId rt request)) ∧
    ∀ request r decision reason decisionId fresh createdMs expiresMs d request' r' d',
      validateApprovalRequest rt request = .ok r →
      approvalDecision rt request decision reason decisionId fresh createdMs expiresMs = .ok d →
      validateApprovalRequest rt request' = .ok r' →
      validateApprovalDecisionBinding rt request' (.map d.fields) = .ok d' →
        normalized rt (item r'.fields "request_id") = normalized rt (item r.fields "request_id") ∧
          r'.humanId = r.humanId ∧ r'.deviceNodeId = r.deviceNodeId ∧ r'.nonce = r.nonce ∧
            r'.action = r.action ∧ r'.scope = r.scope := by
  constructor
  · intro request r reason decisionId fresh createdMs expiresMs hrequest hlate hbefore hlasts hshort
      hid hreason
    obtain ⟨fields,rfl,hchecked⟩ := validateApprovalRequest_iff.mp hrequest
    have hagain := hchecked.again htext
    have hrequest' := validateApprovalRequest_iff.mpr ⟨r.fields,rfl,hagain⟩
    have hitem := hchecked.item_requestId
    constructor
    · intro hboth
      obtain ⟨d,hbuilt,-,-⟩ := hboth "approved" (by simp)
      exact built_normal htext hrequest hbuilt
    · rintro ⟨es,hes,hnormal⟩ decision hdecision
      obtain rfl := Value.map.inj hes
      obtain ⟨id,hid⟩ := hid
      obtain ⟨s,hs⟩ := hreason
      obtain ⟨hopen,hscope⟩ := Int.lt_min.mp hbefore
      have hd := builtDecision_checked htext hchecked hdecision hid hs hlate hscope hlasts hshort
      have hbound : Bound r (builtDecision rt r id decision reason s createdMs
          (decisionExpiry createdMs expiresMs)) := by
        refine ⟨?_,rfl,rfl,rfl,rfl,rfl,hlate,hopen⟩
        rw [hitem]
        exact hitem ▸ hnormal
      have hvalid := validateApprovalDecision_iff.mpr ⟨_,rfl,hd⟩
      have hvalid' := validateApprovalDecision_iff.mpr ⟨_,rfl,hd.again htext⟩
      refine ⟨_,(approvalDecision_ok hrequest).mpr ⟨⟨?_,hlasts,?_⟩,id,hid,hvalid,_,
        binding_iff.mpr ⟨r,hrequest',hvalid',hbound⟩⟩,hvalid',
          binding_iff.mpr ⟨r,hrequest,hvalid',hbound⟩⟩
      · exact hchecked.based.started.trans hlate
      · exact hshort.trans (by decide)
  · intro request r decision reason decisionId fresh createdMs expiresMs d request' r' d' hrequest
      hbuilt hr' hbinding
    obtain ⟨fields,rfl,hchecked⟩ := validateApprovalRequest_iff.mp hrequest
    have hrequest' := validateApprovalRequest_iff.mpr ⟨r.fields,rfl,hchecked.again htext⟩
    obtain ⟨-,id,-,hdecision,d₁,hbinding₁⟩ := (approvalDecision_ok hrequest).mp hbuilt
    obtain ⟨es,hes,hd⟩ := validateApprovalDecision_iff.mp hdecision
    have hvalid := validateApprovalDecision_iff.mpr ⟨d.fields,rfl,hd.again htext⟩
    obtain ⟨r₁,hr₁,hd₁,hbound₁⟩ := binding_iff.mp hbinding₁
    obtain ⟨r₂,hr₂,hd₂,hbound₂⟩ := binding_iff.mp hbinding
    obtain rfl : r = r₁ := Except.ok.inj (hrequest'.symm.trans hr₁)
    obtain rfl : r' = r₂ := Except.ok.inj (hr'.symm.trans hr₂)
    obtain rfl : d = d₁ := Except.ok.inj (hvalid.symm.trans hd₁)
    obtain rfl : d = d' := Except.ok.inj (hvalid.symm.trans hd₂)
    refine ⟨?_,?_,?_,?_,?_,?_⟩
    · rw [hbound₁.agree htext hd,hbound₂.agree htext hd]
    · rw [← hbound₁.human,← hbound₂.human]
    · rw [← hbound₁.device,← hbound₂.device]
    · rw [← hbound₁.nonce,← hbound₂.nonce]
    · rw [← hbound₁.action,← hbound₂.action]
    · rw [← hbound₁.scope,← hbound₂.scope]

section Sample

def zeroDigest : String := "0000000000000000000000000000000000000000000000000000000000000000"

def zeroNonce : String := "00000000000000000000000000000000"

def askedAction : ApprovalAction := ⟨"robot.move","arm",zeroDigest,"move"⟩

def askedScope : ApprovalScope := ⟨"once",1,5000⟩

def asked (requestId : String) : Fields :=
  [(.str "protocol",.str companionProtocol),(.str "version",.int 1),
    (.str "object_type",.str "approval_request"),(.str "request_id",.str requestId),
    (.str "created_ms",.int 1000),(.str "expires_ms",.int 4000),
    (.str "human_id",.str "hu1aaaaaaaaaaaaaaaaa"),
    (.str "device_node_id",.str "an1aaaaaaaaaaaaaaaaa"),(.str "action",askedAction.toValue),
    (.str "scope",askedScope.toValue),(.str "risk",.str "none"),(.str "nonce",.str zeroNonce)]

def askedBody (requestId : String) : ApprovalRequestBody :=
  let r : ApprovalRequestBody := ⟨requestId,"hu1aaaaaaaaaaaaaaaaa","an1aaaaaaaaaaaaaaaaa",
    askedAction,askedScope,"none",zeroNonce,1000,4000,[]⟩
  { r with fields := override (asked requestId) r.normalFields }

/-- A request id in lower case and the same in upper case. -/
def lowerId : String := "aaaaaaaaaaaaaaaaaaaaaaaaaaaaaaaa"

def upperId : String := "AAAAAAAAAAAAAAAAAAAAAAAAAAAAAAAA"

def answerRuntime : Runtime := .plain fun _ => .ok .nil

theorem asked_accepted {requestId : String} (h : isHex 32 (lower (strip requestId))) :
    validateApprovalRequest answerRuntime (.map (asked requestId)) = .ok (askedBody requestId) := by
  have hid : identifier answerRuntime "request_id" (.str requestId) =
      .ok (lower (strip requestId)) := if_pos h
  have hhuman : humanId answerRuntime (.str "hu1aaaaaaaaaaaaaaaaa") = .ok "hu1aaaaaaaaaaaaaaaaa" := by
    rfl
  have hdevice : nodeId answerRuntime (.str "an1aaaaaaaaaaaaaaaaa") = .ok "an1aaaaaaaaaaaaaaaaa" := by
    rfl
  have haction : approvalAction answerRuntime askedAction.toValue = .ok askedAction :=
    toOption_eq_some.mp (by decide +kernel)
  have hscope : approvalScope answerRuntime 1000 askedScope.toValue = .ok askedScope := by rfl
  have hrisk : text answerRuntime "approval risk" true 1024 (.str "none") = .ok "none" := by rfl
  have hnonce : identifier answerRuntime "approval nonce" (.str zeroNonce) = .ok zeroNonce := by rfl
  have hshort : (4000 - 1000 : ℤ) ≤ maxApprovalRequestTtlMs := by decide
  refine validateApprovalRequest_iff.mpr ⟨_,rfl,?_,rfl,hhuman,hdevice,haction,hscope,hrisk,hnonce,
    rfl⟩
  exact ⟨rfl,rfl,rfl,.of_keys rfl,⟨_,hid⟩,rfl,rfl,(by decide : (1 : ℤ) ≤ 1000),
    (by decide : (1000 : ℤ) < 4000),hshort⟩

theorem request_answered_iff_sample : ∃ d,
    approvalDecision answerRuntime (.map (asked lowerId)) "approved" "" lowerId lowerId 2000 none =
        .ok d ∧
      validateApprovalDecisionBinding answerRuntime (.map (asked lowerId)) (.map d.fields) =
        .ok d := by
  obtain ⟨d,hbuilt,-,hbinding⟩ := ((request_answered_iff answerRuntime fun _ => rfl).1
    (.map (asked lowerId)) (askedBody lowerId) "" lowerId lowerId 2000 none
      (asked_accepted (by decide)) (by decide) (by decide) (by decide) (by decide)
        ⟨lowerId,if_pos (by decide)⟩ ⟨"",by rfl⟩).mpr ⟨_,rfl,by decide⟩ "approved" (by simp)
  exact ⟨d,hbuilt,hbinding⟩

/-- A request that is accepted with its id in upper case, and no decision on it can be built. -/
theorem upper_request_unanswered : ∃ r,
    validateApprovalRequest answerRuntime (.map (asked upperId)) = .ok r ∧
      (r.createdMs ≤ 2000 ∧ 2000 < min r.expiresMs r.scope.grantExpiresMs) ∧
        ∀ decision ∈ ["approved","rejected"], ∀ d,
          approvalDecision answerRuntime (.map (asked upperId)) decision "" lowerId lowerId 2000
            none ≠ .ok d := by
  have haccepted := @asked_accepted upperId (by decide)
  refine ⟨_,haccepted,⟨by decide,by decide⟩,?_⟩
  intro decision _ d hd
  obtain ⟨fields,hfields,hnormal⟩ := built_normal (fun _ => rfl) haccepted hd
  obtain rfl := Value.map.inj hfields
  exact absurd hnormal (by decide)

end Sample

end Answers

end Anet.CompanionProtocol
