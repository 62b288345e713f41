import Anet.CompanionReaders

/-! The kinds of companion messages: each reads its fields by the readers of their names, and what
they give together depends on nothing else. -/
namespace Anet.CompanionProtocol

variable {rt : Runtime}

def requestNews (rt : Runtime) (get : String → Value) (createdMs : ℤ) :
    Result (List (String × Value)) := do
  let human ← humanId rt (get "human_id")
  let device ← nodeId rt (get "device_node_id")
  let action ← approvalAction rt (get "action")
  let scope ← approvalScope rt createdMs (get "scope")
  let risk ← text rt "approval risk" true 1024 (get "risk")
  let nonce ← identifier rt "approval nonce" (get "nonce")
  return [("human_id",.str human),("device_node_id",.str device),("action",action.toValue),
    ("scope",scope.toValue),("risk",.str risk),("nonce",.str nonce)]

/-- Approval requests and decisions as kinds of messages like the others. -/
def requestMessage : MessageKind where
  objectType := "approval_request"
  idName := "request_id"
  maxTtlMs := maxApprovalRequestTtlMs
  additional := requestFields
  news := requestNews

def decisionNews (rt : Runtime) (get : String → Value) (createdMs : ℤ) :
    Result (List (String × Value)) := do
  let decision ← choice rt ["approved","rejected"] "invalid approval decision" (get "decision")
  let requestId ← identifier rt "request_id" (get "request_id")
  let human ← humanId rt (get "human_id")
  let device ← nodeId rt (get "device_node_id")
  let reason ← text rt "approval decision reason" false 1024 (get "reason")
  let nonce ← identifier rt "approval nonce" (get "nonce")
  let action ← approvalAction rt (get "action")
  let scope ← approvalScope rt createdMs (get "scope")
  return [("request_id",.str requestId),("human_id",.str human),("device_node_id",.str device),
    ("decision",.str decision),("reason",.str reason),("nonce",.str nonce),
    ("action",action.toValue),("scope",scope.toValue)]

def decisionMessage : MessageKind where
  objectType := "approval_decision"
  idName := "decision_id"
  maxTtlMs := maxApprovalRequestTtlMs
  additional := decisionFields
  news := decisionNews

theorem map_bind_result {α β γ : Type} (x : Result α) (f : α → Result β) (g : β → γ) :
    (x >>= f).map g = x >>= fun a => (f a).map g := by
  cases x with
  | error e => rfl
  | ok a => rfl

theorem request_project (body : Value) :
    (validateApprovalRequest rt body).map (·.fields) = project requestMessage rt body := by
  simp only [validateApprovalRequest,project,requestMessage,requestNews,map_bind_result,bind_assoc,
    pure_bind,validateBase]
  rfl

theorem decision_project (body : Value) :
    (validateApprovalDecision rt body).map (·.fields) = project decisionMessage rt body := by
  have hchoice (value : Value) : choice rt ["approved","rejected"] "invalid approval decision" value =
      (raiseIf (¬ (normalized rt value = "approved" ∨ normalized rt value = "rejected"))
        (.value "invalid approval decision") >>= fun _ => pure (normalized rt value)) := by
    unfold choice raiseIf
    by_cases h : normalized rt value = "approved" ∨ normalized rt value = "rejected"
    · rw [if_pos (by simpa using h),if_neg (not_not.mpr h)]
      rfl
    · rw [if_neg (by simpa using h),if_pos h]
      rfl
  simp only [validateApprovalDecision,project,decisionMessage,decisionNews,map_bind_result,bind_assoc,
    pure_bind,validateBase,hchoice]
  rfl

/-- The names that every message has. -/
def MessageKind.baseNames (k : MessageKind) : List String :=
  ["protocol","version","object_type",k.idName,"created_ms","expires_ms"]

/-- The fields of a kind are what its readers read, and depend on nothing else. -/
def ReadBy (rt : Runtime) (k : MessageKind) (readers : ℤ → List Reader) : Prop :=
  ∀ get c ns, k.news rt get c = .ok ns →
    List.Forall₂ (fun r e => e.1 = r.name ∧ r.reads (get r.name) e.2) (readers c) ns ∧
      ∀ get', List.Forall₂ (fun r e => r.reads (get' r.name) e.2) (readers c) ns →
        k.news rt get' c = .ok ns

theorem str_injective : Function.Injective Value.str := fun _ _ h => Value.str.inj h

theorem int_injective : Function.Injective Value.int := fun _ _ h => Value.int.inj h

theorem consent_injective : Function.Injective Consent.toValue := by
  rintro ⟨basis,grant,scope⟩ ⟨basis',grant',scope'⟩ h
  have hlist : ∀ ss ss' : List String, ss.map Value.str = ss'.map Value.str → ss = ss' := fun _ _ h =>
    List.map_injective_iff.mpr str_injective h
  simp only [Consent.toValue,Value.map.injEq,List.cons.injEq,Prod.mk.injEq,Value.str.injEq,
    Value.list.injEq,true_and,and_true] at h
  obtain ⟨rfl,rfl,hscope⟩ := h
  rw [hlist _ _ hscope]

theorem observation_injective : Function.Injective Observation.toValue := by
  rintro ⟨id,observed,type,value⟩ ⟨id',observed',type',value'⟩ h
  simp only [Observation.toValue,Value.map.injEq,List.cons.injEq,Prod.mk.injEq,Value.str.injEq,
    Value.int.injEq,true_and,and_true] at h
  obtain ⟨rfl,rfl,rfl,rfl⟩ := h
  rfl

theorem option_injective : Function.Injective ResponseOption.toValue := by
  rintro ⟨actionId,label⟩ ⟨actionId',label'⟩ h
  simp only [ResponseOption.toValue,Value.map.injEq,List.cons.injEq,Prod.mk.injEq,Value.str.injEq,
    true_and,and_true] at h
  obtain ⟨rfl,rfl⟩ := h
  rfl

theorem action_injective : Function.Injective ApprovalAction.toValue := by
  rintro ⟨capability,resource,parameters,summary⟩ ⟨capability',resource',parameters',summary'⟩ h
  simp only [ApprovalAction.toValue,Value.map.injEq,List.cons.injEq,Prod.mk.injEq,Value.str.injEq,
    true_and,and_true] at h
  obtain ⟨rfl,rfl,rfl,rfl⟩ := h
  rfl

theorem scope_injective : Function.Injective ApprovalScope.toValue := by
  rintro ⟨mode,maxUses,grant⟩ ⟨mode',maxUses',grant'⟩ h
  simp only [ApprovalScope.toValue,Value.map.injEq,List.cons.injEq,Prod.mk.injEq,Value.str.injEq,
    Value.int.injEq,Int.natCast_inj,true_and,and_true] at h
  obtain ⟨rfl,rfl,rfl⟩ := h
  rfl

theorem entries_injective :
    Function.Injective fun es : List (String × Value) => Value.map (textEntries es) := by
  intro es es' h
  refine List.map_injective_iff.mpr ?_ (Value.map.inj h)
  rintro ⟨name,value⟩ ⟨name',value'⟩ h
  simp only [Prod.mk.injEq,Value.str.injEq] at h
  rw [h.1,h.2]

/-- The readers of user responses, approval requests and decisions. -/
def responseReaders (rt : Runtime) : List Reader :=
  [fieldReader "intervention_id" (identifier rt "intervention_id") .str (5 + 4 * 32),
    fieldReader "human_id" (humanId rt) .str 0,fieldReader "device_node_id" (nodeId rt) .str 0,
    fieldReader "disposition" (choice rt
      ["presented","ignored","snoozed","accepted","rejected","answered"]
      "invalid user response disposition") .str (5 + 4 * 32),
    fieldReader "action_id" (responseAction rt) .str (5 + 4 * 128),
    fieldReader "text" (text rt "user response text" false maxSelfReportChars) .str
      (5 + 4 * maxSelfReportChars)]

theorem response_read : ReadBy rt responseMessage fun _ => responseReaders rt := by
  intro get c ns h
  change responseNews rt get c = .ok ns at h
  simp only [responseNews,bind_ok,raiseIf_ok] at h
  obtain ⟨disposition,hdisposition,actionId,haction,given,hgiven,_,hanswered,intervention,
    hintervention,human,hhuman,device,hdevice,hval⟩ := h
  obtain rfl := Except.ok.inj hval
  refine ⟨.cons ⟨rfl,_,hintervention,rfl⟩ (.cons ⟨rfl,_,hhuman,rfl⟩ (.cons ⟨rfl,_,hdevice,rfl⟩
    (.cons ⟨rfl,_,hdisposition,rfl⟩ (.cons ⟨rfl,_,haction,rfl⟩ (.cons ⟨rfl,_,hgiven,rfl⟩ .nil))))),
    fun get' hsame => ?_⟩
  simp only [responseReaders,List.forall₂_cons,List.Forall₂.nil,and_true] at hsame
  obtain ⟨hintervention',hhuman',hdevice',hdisposition',haction',hgiven'⟩ := hsame
  change responseNews rt get' c = .ok _
  simp only [responseNews,bind_ok,raiseIf_ok]
  exact ⟨disposition,field_read str_injective hdisposition',actionId,
    field_read str_injective haction',given,field_read str_injective hgiven',(),
    hanswered,intervention,field_read str_injective hintervention',human,
    field_read str_injective hhuman',device,field_read str_injective hdevice',rfl⟩

def requestReaders (rt : Runtime) (createdMs : ℤ) : List Reader :=
  [fieldReader "human_id" (humanId rt) .str 0,fieldReader "device_node_id" (nodeId rt) .str 0,
    fieldReader "action" (approvalAction rt) ApprovalAction.toValue 5300,
    fieldReader "scope" (approvalScope rt createdMs) ApprovalScope.toValue 360,
    fieldReader "risk" (text rt "approval risk" true 1024) .str (5 + 4 * 1024),
    fieldReader "nonce" (identifier rt "approval nonce") .str (5 + 4 * 32)]

theorem request_read : ReadBy rt requestMessage (requestReaders rt) := by
  intro get c ns h
  change requestNews rt get c = .ok ns at h
  simp only [requestNews,bind_ok] at h
  obtain ⟨human,hhuman,device,hdevice,action,haction,scope,hscope,risk,hrisk,nonce,hnonce,hval⟩ := h
  obtain rfl := Except.ok.inj hval
  refine ⟨.cons ⟨rfl,_,hhuman,rfl⟩ (.cons ⟨rfl,_,hdevice,rfl⟩ (.cons ⟨rfl,_,haction,rfl⟩
    (.cons ⟨rfl,_,hscope,rfl⟩ (.cons ⟨rfl,_,hrisk,rfl⟩ (.cons ⟨rfl,_,hnonce,rfl⟩ .nil))))),
    fun get' hsame => ?_⟩
  simp only [requestReaders,List.forall₂_cons,List.Forall₂.nil,and_true] at hsame
  obtain ⟨hhuman',hdevice',haction',hscope',hrisk',hnonce'⟩ := hsame
  change requestNews rt get' c = .ok _
  simp only [requestNews,bind_ok]
  exact ⟨human,field_read str_injective hhuman',device,
    field_read str_injective hdevice',action,field_read action_injective haction',scope,
    field_read scope_injective hscope',risk,field_read str_injective hrisk',nonce,
    field_read str_injective hnonce',rfl⟩

def decisionReaders (rt : Runtime) (createdMs : ℤ) : List Reader :=
  [fieldReader "request_id" (identifier rt "request_id") .str (5 + 4 * 32),
    fieldReader "human_id" (humanId rt) .str 0,fieldReader "device_node_id" (nodeId rt) .str 0,
    fieldReader "decision" (choice rt ["approved","rejected"] "invalid approval decision") .str
      (5 + 4 * 32),
    fieldReader "reason" (text rt "approval decision reason" false 1024) .str (5 + 4 * 1024),
    fieldReader "nonce" (identifier rt "approval nonce") .str (5 + 4 * 32),
    fieldReader "action" (approvalAction rt) ApprovalAction.toValue 5300,
    fieldReader "scope" (approvalScope rt createdMs) ApprovalScope.toValue 360]

theorem decision_read : ReadBy rt decisionMessage (decisionReaders rt) := by
  intro get c ns h
  change decisionNews rt get c = .ok ns at h
  simp only [decisionNews,bind_ok] at h
  obtain ⟨decision,hdecision,request,hrequest,human,hhuman,device,hdevice,reason,hreason,nonce,hnonce,
    action,haction,scope,hscope,hval⟩ := h
  obtain rfl := Except.ok.inj hval
  refine ⟨.cons ⟨rfl,_,hrequest,rfl⟩ (.cons ⟨rfl,_,hhuman,rfl⟩ (.cons ⟨rfl,_,hdevice,rfl⟩
    (.cons ⟨rfl,_,hdecision,rfl⟩ (.cons ⟨rfl,_,hreason,rfl⟩ (.cons ⟨rfl,_,hnonce,rfl⟩
      (.cons ⟨rfl,_,haction,rfl⟩ (.cons ⟨rfl,_,hscope,rfl⟩ .nil))))))),fun get' hsame => ?_⟩
  simp only [decisionReaders,List.forall₂_cons,List.Forall₂.nil,and_true] at hsame
  obtain ⟨hrequest',hhuman',hdevice',hdecision',hreason',hnonce',haction',hscope'⟩ := hsame
  change decisionNews rt get' c = .ok _
  simp only [decisionNews,bind_ok]
  exact ⟨decision,field_read str_injective hdecision',request,
    field_read str_injective hrequest',human,field_read str_injective hhuman',device,
    field_read str_injective hdevice',reason,field_read str_injective hreason',nonce,
    field_read str_injective hnonce',action,field_read action_injective haction',scope,
    field_read scope_injective hscope',rfl⟩

theorem itemsOf_ok {v : Value} {vs : List Value} : itemsOf v = some vs ↔ v = .list vs := by
  cases v <;> simp [itemsOf]

def interventionReaders (rt : Runtime) : List Reader :=
  [fieldReader "human_id" (humanId rt) .str 0,fieldReader "target_device_id" (nodeId rt) .str 0,
    fieldReader "category" (choice rt ["notification","reminder","choice","report"]
      "invalid intervention category") .str (5 + 4 * 32),
    fieldReader "priority" (choice rt ["low","normal","high","urgent"]
      "invalid intervention priority") .str (5 + 4 * 32),
    fieldReader "title" (text rt "intervention title" true 256) .str (5 + 4 * 256),
    fieldReader "message" (text rt "intervention message" true maxTextChars) .str
      (5 + 4 * maxTextChars),
    fieldReader "dedupe_key" (identifier rt "dedupe_key") .str (5 + 4 * 32),
    listReader "response_options" maxOptions (responseOption rt) ResponseOption.toValue 1300,
    listReader "related_episode_ids" 64 (identifier rt "related episode ID") .str (5 + 4 * 32)]

theorem intervention_read : ReadBy rt interventionMessage fun _ => interventionReaders rt := by
  intro get c ns h
  change interventionNews rt get c = .ok ns at h
  simp only [interventionNews,idList,bind_ok,raiseIf_ok,fetched_ok,itemsOf_ok,not_lt] at h
  obtain ⟨category,hcategory,priority,hpriority,listed,hlisted,_,hlimit,options,hoptions,_,hapart,
    related,hrelated,_,hshort,ids,hids,_,hdistinct,human,hhuman,device,hdevice,title,htitle,message,
    hmessage,key,hkey,hval⟩ := h
  obtain rfl := Except.ok.inj hval
  refine ⟨.cons ⟨rfl,_,hhuman,rfl⟩ (.cons ⟨rfl,_,hdevice,rfl⟩ (.cons ⟨rfl,_,hcategory,rfl⟩
    (.cons ⟨rfl,_,hpriority,rfl⟩ (.cons ⟨rfl,_,htitle,rfl⟩ (.cons ⟨rfl,_,hmessage,rfl⟩
      (.cons ⟨rfl,_,hkey,rfl⟩ (.cons ⟨rfl,_,_,hlisted,hlimit,hoptions,rfl⟩
        (.cons ⟨rfl,_,_,hrelated,hshort,hids,rfl⟩ .nil)))))))),fun get' hsame => ?_⟩
  simp only [interventionReaders,List.forall₂_cons,List.Forall₂.nil,and_true] at hsame
  obtain ⟨hhuman',hdevice',hcategory',hpriority',htitle',hmessage',hkey',hoptions',hids'⟩ := hsame
  obtain ⟨listed',hlisted',hlength,hlimit',hoptions'⟩ := list_read option_injective hoptions'
  obtain ⟨related',hrelated',hlength',hshort',hids'⟩ := list_read str_injective hids'
  change interventionNews rt get' c = .ok _
  simp only [interventionNews,idList,bind_ok,raiseIf_ok,fetched_ok,itemsOf_ok,not_lt]
  exact ⟨category,field_read str_injective hcategory',priority,
    field_read str_injective hpriority',listed',hlisted',(),hlength ▸ hlimit',options,hoptions',
    (),hapart,related',hrelated',(),hlength' ▸ hshort',ids,hids',(),hdistinct,human,
    field_read str_injective hhuman',device,field_read str_injective hdevice',title,
    field_read str_injective htitle',message,field_read str_injective hmessage',key,
    field_read str_injective hkey',rfl⟩

def batchReaders (rt : Runtime) : List Reader :=
  [fieldReader "source_node_id" (sourceNodeId rt) .str 0,
    fieldReader "window_start_ms" (timestamp "window_start_ms") .int 9,
    fieldReader "window_end_ms" (timestamp "window_end_ms") .int 9,
    fieldReader "data_level" (dataLevel rt) .str (5 + 4 * 32),
    fieldReader "consent" (consentOf rt) Consent.toValue 17500,
    listReader "observations" maxBatchObservations (observation rt) Observation.toValue 18200]

theorem nonempty_same {α : Type} {vs vs' : List α} (hlength : vs'.length = vs.length)
    (h : ¬ vs.isEmpty) : ¬ vs'.isEmpty := by
  rw [List.isEmpty_iff_length_eq_zero] at h ⊢
  rwa [hlength]

theorem batch_read : ReadBy rt batchMessage fun _ => batchReaders rt := by
  intro get c ns h
  change batchNews rt get c = .ok ns at h
  simp only [batchNews,windowOf,bind_ok,raiseIf_ok,fetched_ok,itemsOf_ok,not_lt] at h
  obtain ⟨window,⟨start,hstart,stop,hstop,_,hwindow,hpair⟩,listed,hlisted,_,hnonempty,_,hlimit,
    observations,hobservations,_,hapart,_,hinside,consent,hconsent,_,hcover,node,hnode,level,hlevel,
    hval⟩ := h
  obtain rfl := Except.ok.inj hpair
  obtain rfl := Except.ok.inj hval
  refine ⟨.cons ⟨rfl,_,hnode,rfl⟩ (.cons ⟨rfl,_,hstart,rfl⟩ (.cons ⟨rfl,_,hstop,rfl⟩
    (.cons ⟨rfl,_,hlevel,rfl⟩ (.cons ⟨rfl,_,hconsent,rfl⟩
      (.cons ⟨rfl,_,_,hlisted,hlimit,hobservations,rfl⟩ .nil))))),fun get' hsame => ?_⟩
  simp only [batchReaders,List.forall₂_cons,List.Forall₂.nil,and_true] at hsame
  obtain ⟨hnode',hstart',hstop',hlevel',hconsent',hobservations'⟩ := hsame
  obtain ⟨listed',hlisted',hlength,hlimit',hobservations'⟩ :=
    list_read observation_injective hobservations'
  change batchNews rt get' c = .ok _
  simp only [batchNews,windowOf,bind_ok,raiseIf_ok,fetched_ok,itemsOf_ok,not_lt]
  exact ⟨(start,stop),⟨start,field_read int_injective hstart',stop,
    field_read int_injective hstop',(),hwindow,rfl⟩,listed',hlisted',(),
    nonempty_same (hlength.trans (mapM_length hobservations)) hnonempty,(),hlength ▸ hlimit',
    observations,hobservations',(),hapart,(),hinside,
    consent,field_read consent_injective hconsent',(),hcover,node,
    field_read str_injective hnode',level,field_read str_injective hlevel',rfl⟩

def episodeReaders (rt : Runtime) : List Reader :=
  [fieldReader "source_node_id" (sourceNodeId rt) .str 0,
    listReader "source_batch_ids" 64 (identifier rt "source batch ID") .str (5 + 4 * 32),
    fieldReader "episode_type" (choice rt (episodeContracts.map Prod.fst)
      "unsupported P0 episode type") .str (5 + 4 * 32),
    fieldReader "window_start_ms" (timestamp "window_start_ms") .int 9,
    fieldReader "window_end_ms" (timestamp "window_end_ms") .int 9,
    fieldReader "data_level" (dataLevel rt) .str (5 + 4 * 32),
    fieldReader "consent" (consentOf rt) Consent.toValue 17500,
    fieldReader "transform_version" (capabilityToken rt "transform_version") .str (5 + 4 * 128),
    metricsReader rt]

theorem episode_read : ReadBy rt episodeMessage fun _ => episodeReaders rt := by
  intro get c ns h
  change episodeNews rt get c = .ok ns at h
  simp only [episodeNews,idList,windowOf,bind_ok,raiseIf_ok,fetched_ok,itemsOf_ok,not_lt,not_or] at h
  obtain ⟨listed,hlisted,_,hnonempty,ids,hids,_,⟨hlimit,hapart⟩,type,htype,window,
    ⟨start,hstart,stop,hstop,_,hwindow,hpair⟩,entries,hentries,_,hshort,metrics,hmetrics,_,hclean,
    consent,hconsent,contract,hcontract,_,hbasis,_,hscope,node,hnode,level,hlevel,version,hversion,
    hval⟩ := h
  obtain rfl := Except.ok.inj hpair
  obtain rfl := Except.ok.inj hval
  have hlength := mapM_length hids
  have hmetrics : metricsOf rt (get "metrics") = .ok (sortedDict metrics) := by
    simp only [metricsOf,bind_ok,raiseIf_ok,fetched_ok,not_lt]
    exact ⟨entries,hentries,(),hshort,metrics,hmetrics,(),hclean,rfl⟩
  refine ⟨.cons ⟨rfl,_,hnode,rfl⟩ (.cons ⟨rfl,_,_,hlisted,hlength ▸ hlimit,hids,rfl⟩
    (.cons ⟨rfl,_,htype,rfl⟩ (.cons ⟨rfl,_,hstart,rfl⟩ (.cons ⟨rfl,_,hstop,rfl⟩
      (.cons ⟨rfl,_,hlevel,rfl⟩ (.cons ⟨rfl,_,hconsent,rfl⟩ (.cons ⟨rfl,_,hversion,rfl⟩
        (.cons ⟨rfl,_,hmetrics,rfl⟩ .nil)))))))),fun get' hsame => ?_⟩
  simp only [episodeReaders,metricsReader,List.forall₂_cons,List.Forall₂.nil,and_true] at hsame
  obtain ⟨hnode',hids',htype',hstart',hstop',hlevel',hconsent',hversion',hmetrics'⟩ := hsame
  obtain ⟨listed',hlisted',hlength',-,hids'⟩ := list_read str_injective hids'
  have hmetrics'' := field_read entries_injective hmetrics'
  simp only [metricsOf,bind_ok,raiseIf_ok,fetched_ok,not_lt] at hmetrics''
  obtain ⟨entries',hentries',_,hshort',metrics',hread',_,hclean',hval'⟩ := hmetrics''
  change episodeNews rt get' c = .ok _
  simp only [episodeNews,idList,windowOf,bind_ok,raiseIf_ok,fetched_ok,itemsOf_ok,not_lt,not_or]
  refine ⟨listed',hlisted',(),nonempty_same (hlength'.trans hlength) hnonempty,ids,hids',(),
    ⟨hlimit,hapart⟩,type,
    field_read str_injective htype',(start,stop),⟨start,field_read int_injective hstart',
      stop,field_read int_injective hstop',(),hwindow,rfl⟩,entries',hentries',(),hshort',metrics',
    hread',(),hclean',consent,field_read consent_injective hconsent',contract,hcontract,(),
    hbasis,(),hscope,node,field_read str_injective hnode',level,
    field_read str_injective hlevel',version,field_read str_injective hversion',?_⟩
  rw [Except.ok.inj hval']
  rfl

end Anet.CompanionProtocol
