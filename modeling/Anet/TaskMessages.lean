import Anet.AgentProtocol
import Anet.CanonicalEncoding
import Mathlib.Data.List.Dedup

/-! Agent task messages of every kind: what is accepted is normal, keeps its canonical bytes, and
does not depend on the spelling of ids and capabilities; and what a capability policy leaves
missing. -/
namespace Anet.AgentProtocol

def taskStatusKind : String := "agent.task.status"
def taskResultKind : String := "agent.task.result"

def TaskStatus.toValue (s : TaskStatus) : Value :=
  .map (baseEntries s.taskId ++
    ([(.str "state",.str (stateText s.state)),(.str "message",.str s.message),
      (.str "progress",s.progress.elim .nil .float)] : List (Value × Value)))

def TaskResult.toValue (r : TaskResult) : Value :=
  .map (baseEntries r.taskId ++ ([(.str "state",.str (stateText r.state)),(.str "output",r.output),
    (.str "error",.str r.error)] : List (Value × Value)))

inductive TaskMessage
  | request (r : TaskRequest) | status (s : TaskStatus) | result (r : TaskResult)
  | cancel (c : TaskCancel)

def TaskMessage.toValue : TaskMessage → Value
  | .request r => r.toValue
  | .status s => s.toValue
  | .result r => r.toValue
  | .cancel c => c.toValue

/-- `validate_task_message`; a request without a task id gets `drawn`. -/
def validateTaskMessage (rt : Runtime) (drawn kind : String) (body : Value) : Result TaskMessage :=
  let kind := lower (strip kind)
  if kind = requestKind then (validateTaskRequest rt drawn body).map .request
  else if kind = taskStatusKind then (validateTaskStatus rt body).map .status
  else if kind = taskResultKind then (validateTaskResult rt body).map .result
  else if kind = cancelKind then (validateTaskCancel rt body).map .cancel
  else .error (.value "unsupported agent task kind")

/-- The conversions of the interpreter on values that have the type already. -/
structure Conversions (rt : Runtime) : Prop where
  str_text : ∀ s, rt.str (.str s) = s
  int_int : ∀ i, rt.int (.int i) = .ok i
  float_float : ∀ bits, rt.float (.float bits) = .ok bits
  iter_list : ∀ vs, rt.iter (.list vs) = .ok vs
  dict_map : ∀ es, rt.dict (.map es) = .ok es

variable {rt : Runtime} {vs vs' : List Value} {caps : List String} {v body : Value}

section Capabilities

/-- The normal form of a capability. -/
def capabilityName (rt : Runtime) (v : Value) : String := lower (strip (rt.str v))

/-- The capabilities that are collected are all valid, each once, those in front first. -/
theorem collectCapabilities_ok {front found : List String} (hnodup : front.Nodup)
    (h : collectCapabilities rt front vs = .ok found) :
    found.Nodup ∧ (∀ v ∈ vs, isCapability (capabilityName rt v)) ∧
      ∀ x, x ∈ found ↔ x ∈ front ∨ ∃ v ∈ vs, capabilityName rt v = x := by
  induction vs generalizing front with
  | nil =>
    obtain rfl := Except.ok.inj h
    exact ⟨hnodup,by simp,by simp⟩
  | cons v vs ih =>
    have hcons (x : String) : (∃ w ∈ v :: vs, capabilityName rt w = x) ↔
        capabilityName rt v = x ∨ ∃ w ∈ vs, capabilityName rt w = x := by
      simp
    simp only [collectCapabilities] at h
    by_cases hcap : isCapability (capabilityName rt v)
    · have hcap' : isCapability (lower (strip (rt.str v))) := hcap
      rw [if_pos hcap'] at h
      by_cases hmem : capabilityName rt v ∈ front
      · have hmem' : lower (strip (rt.str v)) ∈ front := hmem
        rw [if_pos hmem'] at h
        obtain ⟨hfound,hvalid,hiff⟩ := ih hnodup h
        refine ⟨hfound,List.forall_mem_cons.mpr ⟨hcap,hvalid⟩,fun x => ?_⟩
        rw [hiff x,hcons]
        constructor
        · rintro (hx | hx)
          · exact .inl hx
          · exact .inr (.inr hx)
        · rintro (hx | rfl | hx)
          · exact .inl hx
          · exact .inl hmem
          · exact .inr hx
      · have hmem' : lower (strip (rt.str v)) ∉ front := hmem
        rw [if_neg hmem'] at h
        have hnew : (front ++ [lower (strip (rt.str v))]).Nodup := by
          rw [List.nodup_append]
          refine ⟨hnodup,List.nodup_singleton _,?_⟩
          rintro x hx y hy rfl
          exact hmem' (List.mem_singleton.mp hy ▸ hx)
        obtain ⟨hfound,hvalid,hiff⟩ := ih hnew h
        refine ⟨hfound,List.forall_mem_cons.mpr ⟨hcap,hvalid⟩,fun x => ?_⟩
        rw [hiff x,hcons,List.mem_append,List.mem_singleton,or_assoc]
        constructor
        · rintro (hx | hx | hx)
          · exact .inl hx
          · exact .inr (.inl hx.symm)
          · exact .inr (.inr hx)
        · rintro (hx | hx | hx)
          · exact .inl hx
          · exact .inr (.inl hx.symm)
          · exact .inr (.inr hx)
    · have hcap' : ¬ isCapability (lower (strip (rt.str v))) := hcap
      rw [if_neg hcap'] at h
      cases h

theorem collectCapabilities_total (front : List String)
    (h : ∀ v ∈ vs, isCapability (capabilityName rt v)) :
    ∃ found, collectCapabilities rt front vs = .ok found := by
  induction vs generalizing front with
  | nil => exact ⟨front,rfl⟩
  | cons v vs ih =>
    obtain ⟨hcap,hrest⟩ := List.forall_mem_cons.mp h
    have hcap' : isCapability (lower (strip (rt.str v))) := hcap
    simp only [collectCapabilities]
    rw [if_pos hcap']
    exact ih _ hrest

/-- The same names in another order, or some of them again, give the same capabilities. -/
theorem capabilities_congr
    (hnames : ∀ x, (∃ v ∈ vs, capabilityName rt v = x) ↔ ∃ v ∈ vs', capabilityName rt v = x)
    (h : capabilities rt vs = .ok caps) : capabilities rt vs' = .ok caps := by
  simp only [capabilities,bind_ok,raiseIf_ok] at h ⊢
  obtain ⟨found,hfound,_,hshort,hcaps⟩ := h
  obtain ⟨hnodup,hvalid,hiff⟩ := collectCapabilities_ok List.nodup_nil hfound
  have hvalid' : ∀ v ∈ vs', isCapability (capabilityName rt v) := by
    intro v hv
    obtain ⟨w,hw,hsame⟩ := (hnames _).mpr ⟨v,hv,rfl⟩
    exact hsame ▸ hvalid w hw
  obtain ⟨found',hfound'⟩ := collectCapabilities_total [] hvalid'
  obtain ⟨hnodup',-,hiff'⟩ := collectCapabilities_ok List.nodup_nil hfound'
  have hperm : found'.Perm found := by
    apply (List.perm_ext_iff_of_nodup hnodup' hnodup).mpr
    intro x
    rw [hiff,hiff',hnames]
  refine ⟨found',hfound',(),hperm.length_eq ▸ hshort,?_⟩
  rw [sortedStrings_congr hperm]
  exact hcaps

theorem mem_capabilities (h : capabilities rt vs = .ok caps) (x : String) :
    x ∈ caps ↔ ∃ v ∈ vs, capabilityName rt v = x := by
  simp only [capabilities,bind_ok] at h
  obtain ⟨found,hfound,_,-,hcaps⟩ := h
  obtain rfl := Except.ok.inj hcaps
  obtain ⟨-,-,hiff⟩ := collectCapabilities_ok List.nodup_nil hfound
  rw [mem_sortedStrings,hiff]
  simp

theorem capabilityName_str (hrt : Conversions rt) (s : String) :
    capabilityName rt (.str s) = lower (strip s) := by
  rw [capabilityName,hrt.str_text]

/-- Normal capabilities are kept as they are. -/
theorem capabilities_again (hrt : Conversions rt) (h : capabilities rt vs = .ok caps) :
    capabilities rt (caps.map .str) = .ok caps := by
  have hkept : ∀ c ∈ caps, lower (strip c) = c := by
    intro c hc
    obtain ⟨v,-,rfl⟩ := (mem_capabilities h c).mp hc
    exact lower_again _
  refine capabilities_congr (fun x => ?_) h
  rw [← mem_capabilities h]
  constructor
  · intro hx
    exact ⟨.str x,List.mem_map_of_mem hx,(capabilityName_str hrt x).trans (hkept x hx)⟩
  · rintro ⟨v,hv,rfl⟩
    obtain ⟨c,hc,rfl⟩ := List.mem_map.mp hv
    rw [capabilityName_str hrt,hkept c hc]
    exact hc

end Capabilities

section Policy

/-- A normalized entry of a policy names the capability, or a namespace that it lies in; the star is
every namespace. -/
def Grants (pattern capability : String) : Prop :=
  pattern = "*" ∨ pattern = capability ∨
    ∃ scope, pattern = scope ++ ".*" ∧ startsWith capability (scope ++ ".")

theorem policyPattern_ok {value pattern : String} (h : policyPattern rt value = .ok pattern) :
    pattern = lower (strip value) := by
  simp only [policyPattern] at h
  split_ifs at h with hstar hnamespace hcap hcap'
  · exact (Except.ok.inj h).symm
  · have hpattern := Except.ok.inj h
    rw [← hpattern]
    apply String.toList_injective
    rw [String.toList_append,cut,String.toList_ofList]
    have hdots : ".*".toList = ['.','*'] := by decide +kernel
    rw [hdots,← hnamespace]
    exact List.take_append_drop _ _
  · exact (Except.ok.inj h).symm

theorem mem_policy {allowed policy : List String}
    (h : normalizeCapabilityPolicy rt allowed = .ok policy) (p : String) :
    p ∈ policy ↔ ∃ a ∈ allowed, lower (strip a) = p := by
  simp only [normalizeCapabilityPolicy,bind_ok] at h
  obtain ⟨patterns,hpatterns,hpolicy⟩ := h
  obtain rfl := Except.ok.inj hpolicy
  rw [mem_sortedStrings,List.mem_dedup]
  have hall : patterns = allowed.map fun a => lower (strip a) := by
    clear p hpolicy
    induction allowed generalizing patterns with
    | nil =>
      rw [List.mapM_nil] at hpatterns
      exact (Except.ok.inj hpatterns).symm
    | cons a allowed ih =>
      simp only [List.mapM_cons,bind_ok] at hpatterns
      obtain ⟨q,hq,rest,hrest,hval⟩ := hpatterns
      obtain rfl := Except.ok.inj hval
      rw [List.map_cons,ih rest hrest,policyPattern_ok hq]
  rw [hall,List.mem_map]

theorem granted_iff {policy : List String} (hstar : "*" ∉ policy) (capability : String) :
    granted policy capability ↔ ∃ p ∈ policy, Grants p capability := by
  have hdots : ".*".toList = ['.','*'] := by decide +kernel
  have hscope (p : String) : (p.toList.drop (p.toList.length - 2) = ['.','*'] ∧
      startsWith capability (cut (p.toList.length - 2) p ++ ".")) ↔
      ∃ scope, p = scope ++ ".*" ∧ startsWith capability (scope ++ ".") := by
    constructor
    · rintro ⟨hend,hstarts⟩
      refine ⟨cut (p.toList.length - 2) p,?_,hstarts⟩
      apply String.toList_injective
      rw [String.toList_append,cut,String.toList_ofList,hdots,← hend]
      exact (List.take_append_drop _ _).symm
    · rintro ⟨scope,rfl,hstarts⟩
      have hlength : (scope ++ ".*").toList.length - 2 = scope.toList.length := by
        rw [String.toList_append,List.length_append,hdots]
        simp
      have hcut : cut scope.toList.length (scope ++ ".*") = scope := by
        rw [cut,String.toList_append,List.take_left,String.ofList_toList]
      rw [hlength,hcut]
      refine ⟨?_,hstarts⟩
      rw [String.toList_append,List.drop_left,hdots]
  unfold granted
  rw [Bool.or_eq_true,decide_eq_true_eq,List.any_eq_true]
  constructor
  · rintro (hmem | ⟨p,hp,hpattern⟩)
    · exact ⟨capability,hmem,.inr (.inl rfl)⟩
    · rw [Bool.and_eq_true,decide_eq_true_eq] at hpattern
      exact ⟨p,hp,.inr (.inr ((hscope p).mp hpattern))⟩
  · rintro ⟨p,hp,rfl | rfl | hpattern⟩
    · exact absurd hp hstar
    · exact .inl hp
    · refine .inr ⟨p,hp,?_⟩
      rw [Bool.and_eq_true,decide_eq_true_eq]
      exact (hscope p).mpr hpattern

/-- What is missing: the requirements that no entry of the policy grants. -/
theorem mem_missing (hrt : Conversions rt) {required allowed missing : List String}
    (h : missingTaskCapabilities rt required allowed = .ok missing) (c : String) :
    c ∈ missing ↔ (∃ r ∈ required, lower (strip r) = c) ∧
      ¬ ∃ a ∈ allowed, Grants (lower (strip a)) c := by
  simp only [missingTaskCapabilities,bind_ok] at h
  obtain ⟨names,hnames,policy,hpolicy,hmissing⟩ := h
  have hmem := mem_policy hpolicy
  have hrequired : c ∈ names ↔ ∃ r ∈ required, lower (strip r) = c := by
    rw [mem_capabilities hnames]
    constructor
    · rintro ⟨v,hv,rfl⟩
      obtain ⟨r,hr,rfl⟩ := List.mem_map.mp hv
      exact ⟨r,hr,(capabilityName_str hrt r).symm⟩
    · rintro ⟨r,hr,rfl⟩
      exact ⟨.str r,List.mem_map_of_mem hr,capabilityName_str hrt r⟩
  have hgrants : (∃ a ∈ allowed, Grants (lower (strip a)) c) ↔ ∃ p ∈ policy, Grants p c := by
    constructor
    · rintro ⟨a,ha,hgrant⟩
      exact ⟨_,(hmem _).mpr ⟨a,ha,rfl⟩,hgrant⟩
    · rintro ⟨p,hp,hgrant⟩
      obtain ⟨a,ha,rfl⟩ := (hmem p).mp hp
      exact ⟨a,ha,hgrant⟩
  rw [hgrants,← hrequired]
  by_cases hstar : "*" ∈ policy
  · rw [if_pos hstar] at hmissing
    obtain rfl := Except.ok.inj hmissing
    constructor
    · intro hc
      cases hc
    · rintro ⟨-,hnone⟩
      exact absurd ⟨"*",hstar,.inl rfl⟩ hnone
  · rw [if_neg hstar] at hmissing
    obtain rfl := Except.ok.inj hmissing
    rw [List.mem_filter,← granted_iff hstar]
    simp

end Policy

section Fixpoint

theorem reportState_text (state : ReportState) : reportState (stateText state) = some state := by
  have hall : ∀ s ∈ reportStates, reportState (stateText s) = some s := by decide +kernel
  exact hall state (by cases state <;> simp [reportStates])

theorem base_fields (taskId : String) (rest : List (Value × Value)) (default : Value) :
    Value.fieldOr (baseEntries taskId ++ rest) "protocol" default = .str agentProtocol ∧
      Value.fieldOr (baseEntries taskId ++ rest) "version" default = .int agentProtocolVersion ∧
      Value.fieldOr (baseEntries taskId ++ rest) "task_id" default = .str taskId := by
  simp [Value.fieldOr,baseEntries]

theorem taskMessageBase_again (hrt : Conversions rt) (taskId : String)
    (rest : List (Value × Value)) :
    taskMessageBase rt (.map (baseEntries taskId ++ rest)) = .ok (baseEntries taskId ++ rest) := by
  obtain ⟨hprotocol,hversion,-⟩ := base_fields taskId rest .nil
  obtain ⟨-,hversion',-⟩ := base_fields taskId rest (.int 0)
  simp only [taskMessageBase,bind_ok,fetched_ok,raiseIf_ok,not_not]
  refine ⟨_,rfl,(),?_,1,?_,(),rfl,rfl⟩
  · rw [hprotocol]
    simp [Value.isStr]
  · rw [hversion']
    exact hrt.int_int 1

theorem request_again (hrt : Conversions rt) {drawn : String} {r : TaskRequest}
    (h : validateTaskRequest rt drawn body = .ok r) (drawn' : String) :
    validateTaskRequest rt drawn' r.toValue = .ok r := by
  simp only [validateTaskRequest,bind_ok,raiseIf_ok] at h
  obtain ⟨entries,-,_,hneeded,_,hshort,id,hid,listed,-,required,hrequired,context,-,hr⟩ := h
  obtain rfl := Except.ok.inj hr
  have hne : id ≠ "" := by
    rintro rfl
    exact absurd (taskId_hex hid) (by decide)
  generalize hobjective : strip (rt.str (Value.fieldOr entries "objective" (.str ""))) =
    objective at hneeded hshort ⊢
  have hnormal : strip objective = objective := by
    rw [← hobjective,strip_strip]
  have hcaps := capabilities_again hrt hrequired
  simp only [validateTaskRequest,TaskRequest.toValue,bind_ok,raiseIf_ok]
  refine ⟨_,taskMessageBase_again hrt _ _,(),?_,(),?_,id,?_,required.map .str,?_,required,hcaps,
    context,?_,?_⟩
  · simpa [Value.fieldOr,baseEntries,hrt.str_text,hnormal] using hneeded
  · simpa [Value.fieldOr,baseEntries,hrt.str_text,hnormal] using hshort
  · simpa [Value.fieldOr,baseEntries,hrt.str_text,hne] using taskId_again hid
  · simp [Value.fieldOr,baseEntries,hrt.iter_list]
  · simp [Value.fieldOr,baseEntries,hrt.dict_map]
  · simp [Value.fieldOr,baseEntries,hrt.str_text,hnormal,pure,Except.pure]

theorem taskProgress_again (hrt : Conversions rt) {progress : Option UInt64}
    (h : taskProgress rt v = .ok progress) :
    taskProgress rt (progress.elim .nil .float) = .ok progress := by
  cases progress with
  | none => rfl
  | some bits =>
    have hunit : inUnitInterval bits := by
      unfold taskProgress at h
      split at h
      · cases h
      · simp only [bind_ok,raiseIf_ok,not_not] at h
        obtain ⟨bits',-,_,hunit,hbits⟩ := h
        obtain rfl := Option.some.inj (Except.ok.inj hbits)
        exact hunit
    show (rt.float (.float bits) >>= _) = _
    exact bind_ok.mpr ⟨bits,hrt.float_float bits,bind_ok.mpr ⟨(),by simp [hunit],rfl⟩⟩

theorem status_again (hrt : Conversions rt) {m : TaskStatus}
    (h : validateTaskStatus rt body = .ok m) : validateTaskStatus rt m.toValue = .ok m := by
  simp only [validateTaskStatus,bind_ok,raiseIf_ok,fetched_ok] at h
  obtain ⟨entries,-,state,hstate,_,hopen,_,hshort,progress,hprogress,id,hid,hm⟩ := h
  obtain rfl := Except.ok.inj hm
  generalize hmessage : strip (rt.str (Value.fieldOr entries "message" (.str ""))) =
    message at hshort ⊢
  have hnormal : strip message = message := by
    rw [← hmessage,strip_strip]
  simp only [validateTaskStatus,TaskStatus.toValue,bind_ok,raiseIf_ok,fetched_ok]
  refine ⟨_,taskMessageBase_again hrt _ _,state,?_,(),hopen,(),?_,progress,?_,id,?_,?_⟩
  · simpa [Value.fieldOr,baseEntries,hrt.str_text] using reportState_text state
  · simpa [Value.fieldOr,baseEntries,hrt.str_text,hnormal] using hshort
  · simpa [Value.fieldOr,baseEntries] using taskProgress_again hrt hprogress
  · simpa [Value.fieldOr,baseEntries,hrt.str_text] using taskId_again hid
  · simp [Value.fieldOr,baseEntries,hrt.str_text,hnormal,pure,Except.pure]

theorem result_again (hrt : Conversions rt) {m : TaskResult}
    (h : validateTaskResult rt body = .ok m) : validateTaskResult rt m.toValue = .ok m := by
  simp only [validateTaskResult,bind_ok,raiseIf_ok,fetched_ok,Option.filter_eq_some_iff] at h
  obtain ⟨entries,-,state,⟨hstate,hterminal⟩,_,hshort,_,hcompleted,_,hneeded,id,hid,hm⟩ := h
  obtain rfl := Except.ok.inj hm
  generalize herror : strip (rt.str (Value.fieldOr entries "error" (.str ""))) =
    error at hshort hcompleted hneeded ⊢
  have hnormal : strip error = error := by
    rw [← herror,strip_strip]
  simp only [validateTaskResult,TaskResult.toValue,bind_ok,raiseIf_ok,fetched_ok,
    Option.filter_eq_some_iff]
  refine ⟨_,taskMessageBase_again hrt _ _,state,⟨?_,hterminal⟩,(),?_,(),?_,(),?_,id,?_,?_⟩
  · simpa [Value.fieldOr,baseEntries,hrt.str_text] using reportState_text state
  · simpa [Value.fieldOr,baseEntries,hrt.str_text,hnormal] using hshort
  · simpa [Value.fieldOr,baseEntries,hrt.str_text,hnormal] using hcompleted
  · simpa [Value.fieldOr,baseEntries,hrt.str_text,hnormal] using hneeded
  · simpa [Value.fieldOr,baseEntries,hrt.str_text] using taskId_again hid
  · simp [Value.fieldOr,baseEntries,hrt.str_text,hnormal,pure,Except.pure]

theorem cancel_again (hrt : Conversions rt) {m : TaskCancel}
    (h : validateTaskCancel rt body = .ok m) : validateTaskCancel rt m.toValue = .ok m := by
  simp only [validateTaskCancel,bind_ok,raiseIf_ok] at h
  obtain ⟨entries,-,_,hneeded,_,hshort,id,hid,hm⟩ := h
  obtain rfl := Except.ok.inj hm
  generalize hreason : strip (rt.str (Value.fieldOr entries "reason" (.str ""))) =
    reason at hneeded hshort ⊢
  have hnormal : strip reason = reason := by
    rw [← hreason,strip_strip]
  simp only [validateTaskCancel,TaskCancel.toValue,bind_ok,raiseIf_ok]
  refine ⟨_,taskMessageBase_again hrt _ _,(),?_,(),?_,id,?_,?_⟩
  · simpa [Value.fieldOr,baseEntries,hrt.str_text,hnormal] using hneeded
  · simpa [Value.fieldOr,baseEntries,hrt.str_text,hnormal] using hshort
  · simpa [Value.fieldOr,baseEntries,hrt.str_text] using taskId_again hid
  · simp [Value.fieldOr,baseEntries,hrt.str_text,hnormal,pure,Except.pure]

/-- What is accepted is accepted again as it is, whatever id would be drawn. -/
theorem validateTaskMessage_again (hrt : Conversions rt) {drawn kind : String} {m : TaskMessage}
    (h : validateTaskMessage rt drawn kind body = .ok m) (drawn' : String) :
    validateTaskMessage rt drawn' kind m.toValue = .ok m := by
  simp only [validateTaskMessage] at h ⊢
  split_ifs at h ⊢
  · obtain ⟨r,hr,rfl⟩ := map_ok.mp h
    exact map_ok.mpr ⟨r,request_again hrt hr drawn',rfl⟩
  · obtain ⟨s,hs,rfl⟩ := map_ok.mp h
    exact map_ok.mpr ⟨s,status_again hrt hs,rfl⟩
  · obtain ⟨r,hr,rfl⟩ := map_ok.mp h
    exact map_ok.mpr ⟨r,result_again hrt hr,rfl⟩
  · obtain ⟨c,hc,rfl⟩ := map_ok.mp h
    exact map_ok.mpr ⟨c,cancel_again hrt hc,rfl⟩

end Fixpoint

section Errors

/-- Every error of the computation is one of these. -/
def RaisesOnly {α : Type} (P : PyError → Prop) (x : Result α) : Prop :=
  ∀ e, x = .error e → P e

variable {α β : Type} {P : PyError → Prop}

theorem RaisesOnly.bind {x : Result α} {f : α → Result β} (hx : RaisesOnly P x)
    (hf : ∀ a, x = .ok a → RaisesOnly P (f a)) : RaisesOnly P (x >>= f) := by
  intro e he
  cases x with
  | error e' =>
    obtain rfl := Except.error.inj he
    exact hx e' rfl
  | ok a => exact hf a rfl e he

theorem RaisesOnly.map {x : Result α} {f : α → β} (hx : RaisesOnly P x) :
    RaisesOnly P (x.map f) := by
  intro e he
  cases x with
  | error e' =>
    obtain rfl := Except.error.inj he
    exact hx e' rfl
  | ok a => cases he

theorem RaisesOnly.ok (a : α) : RaisesOnly P (.ok a) := by
  intro e he
  cases he

theorem RaisesOnly.error {e : PyError} (h : P e) : RaisesOnly P (.error e : Result α) := by
  intro e' he
  exact Except.error.inj he ▸ h

theorem RaisesOnly.raiseIf {c : Prop} [Decidable c] {e : PyError} (h : P e) :
    RaisesOnly P (raiseIf c e) := by
  unfold Anet.raiseIf
  split
  · exact .error h
  · exact .ok ()

theorem RaisesOnly.fetched {x : Option α} {e : PyError} (h : P e) :
    RaisesOnly P (fetched x e) := by
  cases x with
  | none => exact .error h
  | some a => exact .ok a

/-- A `ValueError`, or what the conversion of a field of the body raises: the number of the version,
the capabilities one by one, the dictionary of the context, or the float of the progress. -/
def TaskError (rt : Runtime) (body : Value) (e : PyError) : Prop :=
  (∃ message, e = .value message) ∨ ∃ entries, body = .map entries ∧
    (rt.int (Value.fieldOr entries "version" (.int 0)) = .error e ∨
      rt.iter (Value.fieldOr entries "required_capabilities" .nil) = .error e ∨
        rt.dict (Value.fieldOr entries "context" .nil) = .error e ∨
          rt.float (Value.fieldOr entries "progress" .nil) = .error e)

theorem taskError_value (message : String) : TaskError rt body (.value message) :=
  .inl ⟨message,rfl⟩

theorem taskMessageBase_map {entries : List (Value × Value)}
    (h : taskMessageBase rt body = .ok entries) : body = .map entries := by
  simp only [taskMessageBase,bind_ok,fetched_ok] at h
  obtain ⟨entries',hmap,_,-,_,-,_,-,hsame⟩ := h
  obtain rfl := Except.ok.inj hsame
  cases body with
  | map es => exact congrArg Value.map (Option.some.inj hmap)
  | _ => cases hmap

theorem taskMessageBase_raises : RaisesOnly (TaskError rt body) (taskMessageBase rt body) := by
  refine .bind (.fetched (taskError_value _)) fun entries hmap => ?_
  have hbody : body = .map entries := by
    rw [fetched_ok] at hmap
    cases body with
    | map es => exact congrArg Value.map (Option.some.inj hmap)
    | _ => cases hmap
  refine .bind (.raiseIf (taskError_value _)) fun _ _ => ?_
  refine .bind (fun e he => .inr ⟨entries,hbody,.inl he⟩) fun _ _ => ?_
  exact .bind (.raiseIf (taskError_value _)) fun _ _ => .ok _

theorem taskId_raises (value : String) : RaisesOnly (TaskError rt body) (taskId value) := by
  unfold taskId
  dsimp only
  split
  · exact .ok _
  · exact .error (taskError_value _)

theorem capabilities_raises (vs : List Value) :
    RaisesOnly (TaskError rt body) (capabilities rt vs) := by
  have hcollect (front : List String) :
      RaisesOnly (TaskError rt body) (collectCapabilities rt front vs) := by
    induction vs generalizing front with
    | nil => exact .ok _
    | cons v vs ih =>
      simp only [collectCapabilities]
      by_cases hcap : isCapability (lower (strip (rt.str v)))
      · rw [if_pos hcap]
        exact ih _
      · rw [if_neg hcap]
        exact .error (taskError_value _)
  exact .bind (hcollect []) fun _ _ => .bind (.raiseIf (taskError_value _)) fun _ _ => .ok _

theorem request_raises (drawn : String) :
    RaisesOnly (TaskError rt body) (validateTaskRequest rt drawn body) := by
  refine .bind taskMessageBase_raises fun entries hbase => ?_
  have hbody := taskMessageBase_map hbase
  refine .bind (.raiseIf (taskError_value _)) fun _ _ => ?_
  refine .bind (.raiseIf (taskError_value _)) fun _ _ => ?_
  refine .bind (taskId_raises _) fun _ _ => ?_
  refine .bind (fun e he => .inr ⟨entries,hbody,.inr (.inl he)⟩) fun _ _ => ?_
  refine .bind (capabilities_raises _) fun _ _ => ?_
  exact .bind (fun e he => .inr ⟨entries,hbody,.inr (.inr (.inl he))⟩) fun _ _ => .ok _

theorem status_raises : RaisesOnly (TaskError rt body) (validateTaskStatus rt body) := by
  refine .bind taskMessageBase_raises fun entries hbase => ?_
  have hbody := taskMessageBase_map hbase
  refine .bind (.fetched (taskError_value _)) fun _ _ => ?_
  refine .bind (.raiseIf (taskError_value _)) fun _ _ => ?_
  refine .bind (.raiseIf (taskError_value _)) fun _ _ => ?_
  refine .bind ?_ fun _ _ => .bind (taskId_raises _) fun _ _ => .ok _
  unfold taskProgress
  split
  · exact .ok _
  · refine .bind (fun e he => .inr ⟨entries,hbody,.inr (.inr (.inr he))⟩) fun _ _ => ?_
    exact .bind (.raiseIf (taskError_value _)) fun _ _ => .ok _

theorem result_raises : RaisesOnly (TaskError rt body) (validateTaskResult rt body) := by
  refine .bind taskMessageBase_raises fun _ _ => .bind (.fetched (taskError_value _)) fun _ _ => ?_
  refine .bind (.raiseIf (taskError_value _)) fun _ _ => ?_
  refine .bind (.raiseIf (taskError_value _)) fun _ _ => ?_
  refine .bind (.raiseIf (taskError_value _)) fun _ _ => ?_
  exact .bind (taskId_raises _) fun _ _ => .ok _

theorem cancel_raises : RaisesOnly (TaskError rt body) (validateTaskCancel rt body) := by
  refine .bind taskMessageBase_raises fun _ _ => .bind (.raiseIf (taskError_value _)) fun _ _ => ?_
  refine .bind (.raiseIf (taskError_value _)) fun _ _ => ?_
  exact .bind (taskId_raises _) fun _ _ => .ok _

theorem validateTaskMessage_raises (drawn kind : String) :
    RaisesOnly (TaskError rt body) (validateTaskMessage rt drawn kind body) := by
  unfold validateTaskMessage
  dsimp only
  split_ifs
  · exact .map (request_raises drawn)
  · exact .map status_raises
  · exact .map result_raises
  · exact .map cancel_raises
  · exact .error (taskError_value _)

end Errors

section Canonical

/-- What stays of the entries are some of them in their order. -/
theorem lastEntries_sublist (es : List (String × Value)) : ∃ kept : List (String × Value),
    kept.Sublist es ∧ lastEntries es = kept.map fun e => (.str e.1,e.2) := by
  induction es with
  | nil => exact ⟨[],.slnil,rfl⟩
  | cons e es ih =>
    obtain ⟨kept,hkept,hlast⟩ := ih
    rw [lastEntries]
    split
    · exact ⟨kept,hkept.cons e,hlast⟩
    · exact ⟨e :: kept,hkept.cons_cons e,by rw [hlast,List.map_cons]⟩

/-- The canonical form is its own canonical form. -/
theorem canonical_again (hrt : Conversions rt) (v : Value) :
    (v.canonical rt).canonical rt = v.canonical rt := by
  induction v using Value.nested with
  | scalar v hlist hmap =>
    cases v with
    | list vs => exact absurd rfl (hlist vs)
    | map es => exact absurd rfl (hmap es)
    | _ => simp only [Value.canonical]
  | list vs ih =>
    rw [Value.canonical,canonicalItems_eq,Value.canonical,canonicalItems_eq,List.map_map]
    exact congrArg Value.list (List.map_congr_left ih)
  | map es ih =>
    have hsorted : ((canonicalEntries rt es).insertionSort fun a b => a.1 ≤ b.1).Pairwise
        fun a b => a.1 ≤ b.1 := List.pairwise_insertionSort _ _
    have hnodup := nodup_lastEntries ((canonicalEntries rt es).insertionSort fun a b => a.1 ≤ b.1)
    have hvalues : ∀ e ∈ (canonicalEntries rt es).insertionSort (fun a b => a.1 ≤ b.1),
        e.2.canonical rt = e.2 := by
      intro e he
      rw [List.mem_insertionSort,canonicalEntries_eq] at he
      obtain ⟨x,hx,rfl⟩ := List.mem_map.mp he
      exact ih x hx
    obtain ⟨kept,hkept,hlast⟩ :=
      lastEntries_sublist ((canonicalEntries rt es).insertionSort fun a b => a.1 ≤ b.1)
    rw [hlast,List.map_map] at hnodup
    have hentries : canonicalEntries rt (kept.map fun e => (.str e.1,e.2)) = kept := by
      rw [canonicalEntries_eq,List.map_map]
      refine (List.map_congr_left fun e he => ?_).trans (List.map_id kept)
      simp only [Function.comp,hrt.str_text,hvalues e (hkept.mem he),id]
    have hkeys : (kept.map Prod.fst).Nodup := by
      have htexts : ((kept.map Prod.fst).map Value.str).Nodup := by
        rw [List.map_map]
        exact hnodup
      exact List.Nodup.of_map _ htexts
    rw [Value.canonical,hlast,Value.canonical,hentries,
      List.Pairwise.insertionSort_eq (hsorted.sublist hkept),lastEntries_nodup hkeys]

/-- Packed and decoded, as it is or in its canonical form, a value keeps its canonical bytes. -/
theorem canonicalPack_again (hrt : Conversions rt)
    (hcodec : ∀ v raw, rt.packb v = .ok raw → rt.unpackb raw = .ok v) {raw : Bytes}
    (hraw : rt.pack v = .ok raw ∨ rt.canonicalPack v = .ok raw) {w : Value}
    (hw : rt.unpack raw = .ok w) : rt.canonicalPack w = rt.canonicalPack v := by
  have hdecoded : rt.unpackb raw = .ok w := by
    unfold Runtime.unpack at hw
    split at hw
    · cases hw
    · exact hw
  rcases hraw with hraw | hraw
  · rw [hcodec v raw hraw] at hdecoded
    rw [Except.ok.inj hdecoded]
  · rw [hcodec _ raw hraw] at hdecoded
    rw [← Except.ok.inj hdecoded,Runtime.canonicalPack,Runtime.canonicalPack,canonical_again hrt]

end Canonical

section Spelling

/-- The bodies differ in nothing but the spelling of the task id and of the capabilities, and the
order and the repetition of these; both give a task id if it is a request. -/
structure Respelled (rt : Runtime) (kind : String) (entries entries' : List (Value × Value)) :
    Prop where
  others : ∀ name, name ≠ "task_id" → name ≠ "required_capabilities" →
    Value.field entries' name = Value.field entries name
  taskId : lower (strip (rt.str (Value.fieldOr entries' "task_id" (.str "")))) =
    lower (strip (rt.str (Value.fieldOr entries "task_id" (.str ""))))
  given : lower (strip kind) = requestKind →
    rt.str (Value.fieldOr entries "task_id" (.str "")) ≠ "" ∧
      rt.str (Value.fieldOr entries' "task_id" (.str "")) ≠ ""
  required : ∀ vs, rt.iter (Value.fieldOr entries "required_capabilities" .nil) = .ok vs →
    ∃ vs', rt.iter (Value.fieldOr entries' "required_capabilities" .nil) = .ok vs' ∧
      ∀ x, (∃ v ∈ vs, capabilityName rt v = x) ↔ ∃ v ∈ vs', capabilityName rt v = x

variable {kind : String} {entries entries' : List (Value × Value)}

theorem Respelled.fieldOr (h : Respelled rt kind entries entries') (name : String)
    (htask : name ≠ "task_id") (hcaps : name ≠ "required_capabilities") (default : Value) :
    Value.fieldOr entries' name default = Value.fieldOr entries name default := by
  rw [Value.fieldOr,Value.fieldOr,h.others name htask hcaps]

theorem taskMessageBase_respelled (h : Respelled rt kind entries entries')
    (hbase : taskMessageBase rt (.map entries) = .ok entries) :
    taskMessageBase rt (.map entries') = .ok entries' := by
  have hprotocol := h.fieldOr "protocol" (by decide) (by decide) .nil
  have hversion := h.fieldOr "version" (by decide) (by decide) (.int 0)
  simp only [taskMessageBase,bind_ok,fetched_ok,raiseIf_ok] at hbase ⊢
  obtain ⟨_,hmap,_,hsupported,version,hint,_,hone,-⟩ := hbase
  obtain rfl := Option.some.inj hmap
  exact ⟨entries',rfl,(),hprotocol ▸ hsupported,version,hversion ▸ hint,(),hone,rfl⟩

theorem taskId_respelled {text text' id : String} (h : lower (strip text') = lower (strip text))
    (hid : taskId text = .ok id) : taskId text' = .ok id := by
  unfold taskId at hid ⊢
  rw [h]
  exact hid

theorem request_respelled (h : Respelled rt kind entries entries')
    (hkind : lower (strip kind) = requestKind) {drawn : String} {r : TaskRequest}
    (hr : validateTaskRequest rt drawn (.map entries) = .ok r) (drawn' : String) :
    validateTaskRequest rt drawn' (.map entries') = .ok r := by
  have hobjective := h.fieldOr "objective" (by decide) (by decide) (.str "")
  have hinput := h.fieldOr "input" (by decide) (by decide) .nil
  have hcontext := h.fieldOr "context" (by decide) (by decide) .nil
  obtain ⟨hgiven,hgiven'⟩ := h.given hkind
  simp only [validateTaskRequest,bind_ok] at hr ⊢
  obtain ⟨es,hbase,u,hneeded,u',hshort,id,hid,vs,hvs,required,hrequired,context,hdict,hval⟩ := hr
  obtain rfl := Value.map.inj (taskMessageBase_map hbase)
  obtain ⟨vs',hvs',hnames⟩ := h.required vs hvs
  rw [if_neg hgiven] at hid
  refine ⟨entries',taskMessageBase_respelled h hbase,u,?_,u',?_,id,?_,vs',hvs',required,
    capabilities_congr hnames hrequired,context,?_,?_⟩
  · rw [hobjective]
    exact hneeded
  · rw [hobjective]
    exact hshort
  · rw [if_neg hgiven']
    exact taskId_respelled h.taskId hid
  · rw [hcontext]
    exact hdict
  · rw [hobjective,hinput]
    exact hval

theorem status_respelled (h : Respelled rt kind entries entries') {m : TaskStatus}
    (hm : validateTaskStatus rt (.map entries) = .ok m) :
    validateTaskStatus rt (.map entries') = .ok m := by
  have hstate := h.fieldOr "state" (by decide) (by decide) (.str "")
  have hmessage := h.fieldOr "message" (by decide) (by decide) (.str "")
  have hprogress := h.fieldOr "progress" (by decide) (by decide) .nil
  simp only [validateTaskStatus,bind_ok] at hm ⊢
  obtain ⟨es,hbase,state,hknown,u,hopen,u',hshort,progress,hunit,id,hid,hval⟩ := hm
  obtain rfl := Value.map.inj (taskMessageBase_map hbase)
  refine ⟨entries',taskMessageBase_respelled h hbase,state,?_,u,hopen,u',?_,progress,?_,id,
    taskId_respelled h.taskId hid,?_⟩
  · rw [hstate]
    exact hknown
  · rw [hmessage]
    exact hshort
  · rw [hprogress]
    exact hunit
  · rw [hmessage]
    exact hval

theorem result_respelled (h : Respelled rt kind entries entries') {m : TaskResult}
    (hm : validateTaskResult rt (.map entries) = .ok m) :
    validateTaskResult rt (.map entries') = .ok m := by
  have hstate := h.fieldOr "state" (by decide) (by decide) (.str "")
  have herror := h.fieldOr "error" (by decide) (by decide) (.str "")
  have houtput := h.fieldOr "output" (by decide) (by decide) .nil
  simp only [validateTaskResult,bind_ok] at hm ⊢
  obtain ⟨es,hbase,state,hknown,u,hshort,u',hdone,u'',hfailed,id,hid,hval⟩ := hm
  obtain rfl := Value.map.inj (taskMessageBase_map hbase)
  refine ⟨entries',taskMessageBase_respelled h hbase,state,?_,u,?_,u',?_,u'',?_,id,
    taskId_respelled h.taskId hid,?_⟩
  · rw [hstate]
    exact hknown
  · rw [herror]
    exact hshort
  · rw [herror]
    exact hdone
  · rw [herror]
    exact hfailed
  · rw [herror,houtput]
    exact hval

theorem cancel_respelled (h : Respelled rt kind entries entries') {m : TaskCancel}
    (hm : validateTaskCancel rt (.map entries) = .ok m) :
    validateTaskCancel rt (.map entries') = .ok m := by
  have hreason := h.fieldOr "reason" (by decide) (by decide) (.str "")
  simp only [validateTaskCancel,bind_ok] at hm ⊢
  obtain ⟨es,hbase,u,hneeded,u',hshort,id,hid,hval⟩ := hm
  obtain rfl := Value.map.inj (taskMessageBase_map hbase)
  refine ⟨entries',taskMessageBase_respelled h hbase,u,?_,u',?_,id,
    taskId_respelled h.taskId hid,?_⟩
  · rw [hreason]
    exact hneeded
  · rw [hreason]
    exact hshort
  · rw [hreason]
    exact hval

theorem validateTaskMessage_respelled (h : Respelled rt kind entries entries') {drawn : String}
    {m : TaskMessage} (hm : validateTaskMessage rt drawn kind (.map entries) = .ok m)
    (drawn' : String) : validateTaskMessage rt drawn' kind (.map entries') = .ok m := by
  simp only [validateTaskMessage] at hm ⊢
  split_ifs at hm ⊢ with hkind
  · obtain ⟨r,hr,rfl⟩ := map_ok.mp hm
    exact map_ok.mpr ⟨r,request_respelled h hkind hr drawn',rfl⟩
  · obtain ⟨s,hs,rfl⟩ := map_ok.mp hm
    exact map_ok.mpr ⟨s,status_respelled h hs,rfl⟩
  · obtain ⟨r,hr,rfl⟩ := map_ok.mp hm
    exact map_ok.mpr ⟨r,result_respelled h hr,rfl⟩
  · obtain ⟨c,hc,rfl⟩ := map_ok.mp hm
    exact map_ok.mpr ⟨c,cancel_respelled h hc,rfl⟩

end Spelling

/-- A task message of any body is refused with one of these errors, or normalized: the normal form
validates to itself, keeps its canonical bytes when it is packed and decoded, and is that of every
other spelling of the body. Nothing is missing exactly when the policy grants every requirement, and
no more of it under a larger policy. -/
theorem task_messages_normal (rt : Runtime) (hrt : Conversions rt)
    (hcodec : ∀ v raw, rt.packb v = .ok raw → rt.unpackb raw = .ok v) :
    (∀ drawn kind body, (∃ e, validateTaskMessage rt drawn kind body = .error e ∧
        TaskError rt body e) ∨
      ∃ m, validateTaskMessage rt drawn kind body = .ok m ∧
        (∀ drawn', validateTaskMessage rt drawn' kind m.toValue = .ok m) ∧
        (∀ raw w, rt.pack m.toValue = .ok raw ∨ rt.canonicalPack m.toValue = .ok raw →
          rt.unpack raw = .ok w → rt.canonicalPack w = rt.canonicalPack m.toValue) ∧
        ∀ entries entries' drawn', body = .map entries → Respelled rt kind entries entries' →
          validateTaskMessage rt drawn' kind (.map entries') = .ok m) ∧
    ∀ required allowed missing, missingTaskCapabilities rt required allowed = .ok missing →
      (missing = [] ↔ ∀ r ∈ required, ∃ a ∈ allowed, Grants (lower (strip a)) (lower (strip r))) ∧
        ∀ allowed' missing', allowed ⊆ allowed' →
          missingTaskCapabilities rt required allowed' = .ok missing' → missing' ⊆ missing := by
  constructor
  · intro drawn kind body
    cases h : validateTaskMessage rt drawn kind body with
    | error e => exact .inl ⟨e,rfl,validateTaskMessage_raises drawn kind e h⟩
    | ok m =>
      refine .inr ⟨m,rfl,validateTaskMessage_again hrt h,?_,?_⟩
      · intro raw w hraw hw
        exact canonicalPack_again hrt hcodec hraw hw
      · rintro entries entries' drawn' rfl hspelled
        exact validateTaskMessage_respelled hspelled h drawn'
  · intro required allowed missing h
    have hmem := mem_missing hrt h
    constructor
    · rw [List.eq_nil_iff_forall_not_mem]
      constructor
      · intro hnone r hr
        by_contra hdenied
        exact hnone _ ((hmem _).mpr ⟨⟨r,hr,rfl⟩,hdenied⟩)
      · intro hall c hc
        obtain ⟨⟨r,hr,rfl⟩,hdenied⟩ := (hmem c).mp hc
        exact hdenied (hall r hr)
    · intro allowed' missing' hmore h' c hc
      obtain ⟨hrequired,hdenied⟩ := (mem_missing hrt h' c).mp hc
      refine (hmem c).mpr ⟨hrequired,?_⟩
      rintro ⟨a,ha,hgrant⟩
      exact hdenied ⟨a,hmore ha,hgrant⟩

section Sample

theorem msgpack_conversions : Conversions .msgpack where
  str_text _ := rfl
  int_int _ := rfl
  float_float _ := rfl
  iter_list _ := rfl
  dict_map _ := rfl

def namelessRequest : Value :=
  .map [(.str "protocol",.str agentProtocol),(.str "version",.int 1),(.str "objective",.str "sort")]

def unversionedCancel : Value :=
  .map [(.str "protocol",.str agentProtocol),(.str "version",.nil),(.str "reason",.str "late")]

def firstDraw : String := "00112233445566778899aabbccddeeff"

def secondDraw : String := "ffeeddccbbaa99887766554433221100"

/-- The normal form of the request under one of the draws validates to itself under the other. -/
theorem task_messages_normal_sample : ∃ m,
    validateTaskMessage .msgpack firstDraw requestKind namelessRequest = .ok m ∧
      validateTaskMessage .msgpack secondDraw requestKind m.toValue = .ok m := by
  have hnormal := (task_messages_normal .msgpack msgpack_conversions
    fun _ _ h => unpackValue_packValue h).1 firstDraw requestKind namelessRequest
  rcases hnormal with ⟨e,herror,-⟩ | ⟨m,hm,hagain,-⟩
  · have hok : (validateTaskMessage .msgpack firstDraw requestKind
        namelessRequest).toOption.isSome = true := by decide +kernel
    rw [herror] at hok
    cases hok
  · exact ⟨m,hm,hagain secondDraw⟩

/-- A body whose version is null raises a `TypeError`, and a request without a task id has other
canonical bytes for every id that is drawn. -/
theorem nameless_request_drawn :
    (∃ message, validateTaskMessage .msgpack firstDraw cancelKind unversionedCancel =
      .error (.type message)) ∧
    ∃ m m', validateTaskMessage .msgpack firstDraw requestKind namelessRequest = .ok m ∧
      validateTaskMessage .msgpack secondDraw requestKind namelessRequest = .ok m' ∧
        Runtime.canonicalPack .msgpack m.toValue ≠ Runtime.canonicalPack .msgpack m'.toValue := by
  refine ⟨⟨"int() argument",rfl⟩,.request ⟨firstDraw,"sort",.nil,[],[]⟩,
    .request ⟨secondDraw,"sort",.nil,[],[]⟩,rfl,rfl,?_⟩
  decide +kernel

end Sample

end Anet.AgentProtocol
