import Anet.CompanionForms

/-! The readers of the fields of companion messages: what one of them gives is read again as it is,
for other spellings of the ids in it too, holds nothing that is forbidden, and is short. -/
namespace Anet.CompanionProtocol

variable {rt : Runtime} {v : Value}

section Spelling

/-- The fields that hold an id, and those that hold a list of ids. -/
def idFields : List String :=
  ["human_id","device_node_id","target_device_id","source_node_id","request_id","intervention_id",
    "dedupe_key","nonce","action_id"]

def idListFields : List String := ["source_batch_ids","related_episode_ids"]

/-- The fields whose maps hold an id, with its name. -/
def recordFields : List (String × String) :=
  [("observations","observation_id"),("response_options","action_id")]

/-- The same text in its normal form. -/
def SameText (rt : Runtime) (v v' : Value) : Prop := normalized rt v' = normalized rt v

/-- Entries of the same keys, whose values are the same but for what is related under their names. -/
def SameEntries (R : String → Value → Value → Prop) (es es' : Fields) : Prop :=
  List.Forall₂ (fun e e' => e'.1 = e.1 ∧
    (e'.2 = e.2 ∨ ∃ name, e.1 = .str name ∧ R name e.2 e'.2)) es es'

/-- Maps that differ in the spelling of one id only. -/
def SameMap (rt : Runtime) (id : String) (v v' : Value) : Prop :=
  ∃ es es', v = .map es ∧ v' = .map es' ∧
    SameEntries (fun name v v' => name = id ∧ SameText rt v v') es es'

/-- A field with its ids in other spellings. -/
inductive Spelled (rt : Runtime) (name : String) : Value → Value → Prop
  | same (v : Value) : Spelled rt name v v
  | id {v v' : Value} (hname : name ∈ idFields) (h : SameText rt v v') : Spelled rt name v v'
  | ids {vs vs' : List Value} (hname : name ∈ idListFields) (h : List.Forall₂ (SameText rt) vs vs') :
    Spelled rt name (.list vs) (.list vs')
  | consent {v v' : Value} (hname : name = "consent") (h : SameMap rt "grant_id" v v') :
    Spelled rt name v v'
  | records {id : String} {vs vs' : List Value} (hname : (name,id) ∈ recordFields)
    (h : List.Forall₂ (SameMap rt id) vs vs') : Spelled rt name (.list vs) (.list vs')

/-- A message with its ids in other spellings, but for the id of the message itself. -/
def Respelled (rt : Runtime) (own : String) : Fields → Fields → Prop :=
  SameEntries fun name v v' => name ≠ own ∧ Spelled rt name v v'

variable {R : String → Value → Value → Prop} {es es' : Fields} {required : List String}

theorem SameEntries.item (h : SameEntries R es es') (name : String) :
    (Value.field es' name).isSome = (Value.field es name).isSome ∧
      (item es' name = item es name ∨ R name (item es name) (item es' name)) := by
  induction h with
  | nil => exact ⟨rfl,.inl rfl⟩
  | @cons e e' es es' he _ ih =>
    obtain ⟨key,old⟩ := e
    obtain ⟨key',new⟩ := e'
    obtain ⟨rfl : key' = key,hvalue⟩ := he
    simp only [CompanionProtocol.item,Value.fieldOr,Value.field_cons] at ih ⊢
    by_cases hkey : key'.isStr name
    · rw [if_pos hkey,if_pos hkey]
      refine ⟨rfl,hvalue.imp_right ?_⟩
      rintro ⟨name',rfl,hrelated⟩
      obtain rfl : name' = name := by simpa [Value.isStr] using hkey
      exact hrelated
    · rw [if_neg hkey,if_neg hkey]
      exact ih

theorem Exact.same (h : Exact required es) (hsame : SameEntries R es es') : Exact required es' where
  fields r hr := (hsame.item r).1 ▸ h.fields r hr
  known := by
    have hknown := h.known
    clear h
    induction hsame with
    | nil => exact hknown
    | cons he _ ih =>
      rw [List.forall_mem_cons] at hknown ⊢
      exact ⟨he.1 ▸ hknown.1,ih hknown.2⟩

/-- The other spelling of a map has the same fields but for the id. -/
theorem SameMap.exact {id name : String} {v' : Value} (h : SameMap rt id v v')
    (hexact : exact required name v = .ok es) : ∃ es', exact required name v' = .ok es' ∧
      (∀ k ≠ id, item es' k = item es k) ∧ SameText rt (item es id) (item es' id) := by
  obtain ⟨es₁,es',rfl,rfl,hsame⟩ := h
  obtain ⟨hes,hexact⟩ := exact_ok.mp hexact
  obtain rfl := Value.map.inj hes
  refine ⟨es',exact_ok.mpr ⟨rfl,hexact.same hsame⟩,fun k hk => ?_,?_⟩
  · exact (hsame.item k).2.resolve_right fun h => hk h.1
  · rcases (hsame.item id).2 with h | h
    · rw [h]
      exact rfl
    · exact h.2

variable {v' : Value}

theorem SameText.eq (h : SameText rt v v') : normalized rt v' = normalized rt v := h

theorem identifier_same {name : String} (h : SameText rt v v') :
    identifier rt name v' = identifier rt name v := by
  unfold identifier
  rw [h.eq]

theorem consentOf_same (h : SameMap rt "grant_id" v v') {consent : Consent}
    (hconsent : consentOf rt v = .ok consent) : consentOf rt v' = .ok consent := by
  simp only [consentOf,bind_ok] at hconsent ⊢
  obtain ⟨fields,hexact,basis,hbasis,grant,hgrant,hrest⟩ := hconsent
  obtain ⟨fields',hexact',hkept,hid⟩ := h.exact hexact
  have hread : consentGrant rt basis (item fields' "grant_id") =
      consentGrant rt basis (item fields "grant_id") := by
    unfold consentGrant
    rw [hid.eq]
  refine ⟨fields',hexact',basis,?_,grant,hread.trans hgrant,?_⟩
  · rw [hkept "basis" (by decide)]
    exact hbasis
  · rw [hkept "scope" (by decide)]
    exact hrest

theorem observation_same (h : SameMap rt "observation_id" v v') {o : Observation}
    (ho : observation rt v = .ok o) : observation rt v' = .ok o := by
  simp only [observation,bind_ok] at ho ⊢
  obtain ⟨fields,hexact,type,htype,id,hid,observed,hobserved,value,hvalue,hrest⟩ := ho
  obtain ⟨fields',hexact',hkept,hsame⟩ := h.exact hexact
  refine ⟨fields',hexact',type,?_,id,(identifier_same hsame).trans hid,observed,?_,value,?_,hrest⟩
  · rw [hkept "type" (by decide)]
    exact htype
  · rw [hkept "observed_ms" (by decide)]
    exact hobserved
  · rw [hkept "value" (by decide)]
    exact hvalue

theorem responseOption_same (h : SameMap rt "action_id" v v') {o : ResponseOption}
    (ho : responseOption rt v = .ok o) : responseOption rt v' = .ok o := by
  simp only [responseOption,bind_ok] at ho ⊢
  obtain ⟨fields,hexact,actionId,hid,label,hlabel,hval⟩ := ho
  obtain ⟨fields',hexact',hkept,hsame⟩ := h.exact hexact
  have hread : capabilityToken rt "action_id" (item fields' "action_id") =
      capabilityToken rt "action_id" (item fields "action_id") := by
    unfold capabilityToken
    rw [hsame.eq]
  refine ⟨fields',hexact',actionId,hread.trans hid,label,?_,hval⟩
  rw [hkept "label" (by decide)]
  exact hlabel

/-- What every item of a list gives, its other spelling gives. -/
theorem mapM_same {β : Type} {f : Value → Result β} {vs vs' : List Value} {ys : List β}
    {S : Value → Value → Prop} (hS : ∀ v v' y, S v v' → f v = .ok y → f v' = .ok y)
    (h : List.Forall₂ S vs vs') (hys : vs.mapM f = .ok ys) : vs'.mapM f = .ok ys := by
  rw [mapM_forall₂] at hys ⊢
  induction h generalizing ys with
  | nil => exact hys
  | cons hv _ ih =>
    obtain ⟨y,ys',hy,hys',rfl⟩ := List.forall₂_cons_left_iff.mp hys
    exact .cons (hS _ _ _ hv hy) (ih hys')

end Spelling

section Sizes

variable {es : List (String × Value)} {vs : List Value} {b n : ℕ} {s : String}

theorem str_le (h : s.toList.length ≤ n) : (Value.str s).wire.length ≤ 5 + 4 * n :=
  (Packet.wire_str_le s).trans (by omega)

theorem length_int (i : ℤ) : (Value.int i).wire.length = 9 := by
  simp [Value.wire]

theorem wireItems_le (h : ∀ v ∈ vs, v.wire.length ≤ b) : (wireItems vs).length ≤ b * vs.length := by
  induction vs with
  | nil => simp [wireItems]
  | cons v vs ih =>
    rw [List.forall_mem_cons] at h
    have htail := ih h.2
    rw [wireItems,List.length_append,List.length_cons,Nat.mul_succ]
    omega

theorem list_le (h : ∀ v ∈ vs, v.wire.length ≤ b) (hshort : vs.length ≤ n) :
    (Value.list vs).wire.length ≤ 5 + b * n := by
  have hitems := wireItems_le h
  have hmul := Nat.mul_le_mul_left b hshort
  simp only [Value.wire,List.length_append,List.length_cons,length_wordBytes]
  omega

theorem map_le {es : Fields} (h : ∀ e ∈ es, e.1.wire.length + e.2.wire.length ≤ b)
    (hshort : es.length ≤ n) : (Value.map es).wire.length ≤ 5 + b * n := by
  have hentries := Packet.wireEntries_le es b h
  have hmul := Nat.mul_le_mul_left b hshort
  simp only [Value.wire,List.length_append,List.length_cons,length_wordBytes]
  omega

/-- A map with named fields, each of a known size. -/
theorem record_le (es : List (String × Value)) (sizes : List ℕ)
    (h : List.Forall₂ (fun e n => e.1.toList.length ≤ 24 ∧ e.2.wire.length ≤ n) es sizes) :
    (Value.map (textEntries es)).wire.length ≤ 5 + (sizes.map (101 + ·)).sum := by
  have hentries : (wireEntries (textEntries es)).length ≤ (sizes.map (101 + ·)).sum := by
    induction h with
    | nil => simp [textEntries,wireEntries]
    | @cons e n es sizes he _ ih =>
      have hkey := str_le he.1
      have hvalue := he.2
      rw [textEntries,List.map_cons,wireEntries,List.length_append,List.length_append,List.map_cons,
        List.sum_cons]
      rw [textEntries] at ih
      omega
  simp only [Value.wire,List.length_append,List.length_cons,length_wordBytes]
  omega

theorem token_length {name : String} (h : capabilityToken rt name v = .ok s) :
    s.toList.length ≤ 128 := by
  unfold capabilityToken at h
  split at h
  · next hword =>
    obtain rfl := Except.ok.inj h
    exact matchesWord_length hword
  · cases h

theorem identifier_length {name : String} (h : identifier rt name v = .ok s) :
    s.toList.length ≤ 32 := by
  have hhex := identifier_hex h
  rw [← identifier_eq h] at hhex
  simp only [isHex,Bool.and_eq_true,decide_eq_true_eq] at hhex
  exact hhex.1.le

theorem text_length {name : String} {required : Bool} {limit : ℕ}
    (h : text rt name required limit v = .ok s) : s.toList.length ≤ limit := by
  simp only [text,bind_ok,raiseIf_ok,not_lt] at h
  obtain ⟨_,-,_,-,_,hlimit,hval⟩ := h
  exact Except.ok.inj hval ▸ hlimit

theorem choice_length {choices : List String} {message : String}
    (hchoices : ∀ c ∈ choices, c.toList.length ≤ n) (h : choice rt choices message v = .ok s) :
    s.toList.length ≤ n := by
  unfold choice at h
  split at h
  · next hmem =>
    obtain rfl := Except.ok.inj h
    exact hchoices _ hmem
  · cases h

theorem consentOf_le {consent : Consent} (h : consentOf rt v = .ok consent) :
    consent.toValue.wire.length ≤ 17500 := by
  simp only [consentOf,bind_ok,raiseIf_ok,not_lt] at h
  obtain ⟨fields,-,basis,hbasis,grant,hgrant,entries,-,_,-,tokens,htokens,_,hshort,hval⟩ := h
  obtain rfl := Except.ok.inj hval
  have hgrant' : grant.toList.length ≤ 32 := by
    unfold consentGrant at hgrant
    split at hgrant
    · exact identifier_length hgrant
    · split at hgrant
      · rw [← Except.ok.inj hgrant]
        decide
      · cases hgrant
  have hscope : ∀ v ∈ (sortedStrings tokens.dedup).map Value.str, v.wire.length ≤ 5 + 4 * 128 := by
    intro v hv
    obtain ⟨token,htoken,rfl⟩ := List.mem_map.mp hv
    obtain ⟨w,-,hw⟩ := mem_mapM htokens (List.mem_dedup.mp (mem_sortedStrings.mp htoken))
    exact str_le (token_length hw)
  have hlength : ((sortedStrings tokens.dedup).map Value.str).length ≤ 32 := by
    rw [List.length_map,(sortedStrings_perm _).length_eq]
    exact hshort
  have hbasis' := choice_length (n := 16) (by decide) hbasis
  exact (record_le [("basis",.str basis),("grant_id",.str grant),
    ("scope",.list ((sortedStrings tokens.dedup).map .str))]
    [5 + 4 * 16,5 + 4 * 32,5 + (5 + 4 * 128) * 32]
    (.cons ⟨by simp,str_le hbasis'⟩ (.cons ⟨by simp,str_le hgrant'⟩
      (.cons ⟨by simp,list_le hscope hlength⟩ .nil)))).trans (by decide)

theorem categoryDuration_le {e : Value × Value} {p : String × Value}
    (h : categoryDuration rt e = .ok p) :
    (Value.str p.1).wire.length + p.2.wire.length ≤ 5 + 4 * 128 + 9 := by
  obtain ⟨htoken,i,hi,-⟩ := categoryDuration_ok h
  have hkey := str_le (token_length htoken)
  rw [hi,length_int]
  omega

theorem appWindowValue_le {w : Value} (h : appWindowValue rt v = .ok w) : w.wire.length ≤ 17500 := by
  simp only [appWindowValue,bind_ok,raiseIf_ok,fetched_ok,integer_ok,not_lt] at h
  obtain ⟨fields,-,entries,-,_,-,_,hshort,durations,hdurations,switches,-,hval⟩ := h
  obtain rfl := Except.ok.inj hval
  have hentries : ∀ e ∈ textEntries (sortedDict durations),
      e.1.wire.length + e.2.wire.length ≤ 5 + 4 * 128 + 9 := by
    intro e he
    obtain ⟨p,hp,rfl⟩ := List.mem_map.mp he
    obtain ⟨e',-,he'⟩ := mem_mapM hdurations (mem_sortedDict hp)
    exact categoryDuration_le he'
  have hlength : (textEntries (sortedDict durations)).length ≤ 32 := by
    rw [textEntries_map,List.length_map,(sortedDict_perm durations).length_eq]
    have hread := mapM_length hdurations
    have hdict := (dictOf_spec durations).2.2.1
    omega
  exact (record_le [("category_durations_ms",.map (textEntries (sortedDict durations))),
    ("switch_count",.int switches)] [5 + (5 + 4 * 128 + 9) * 32,9]
    (.cons ⟨by simp,map_le hentries hlength⟩
      (.cons ⟨by simp,(length_int switches).le⟩ .nil))).trans (by decide)

theorem observationValue_le {type : String} {w : Value} (h : observationValue rt type v = .ok w) :
    w.wire.length ≤ 17500 := by
  have hbool {v : Value} (hv : isBool v) : v.wire.length ≤ 1 := by
    cases v with
    | bool b => simp [Value.wire]
    | _ => cases hv
  unfold observationValue at h
  split_ifs at h
  · simp only [batteryValue,bind_ok,raiseIf_ok,not_or,not_not] at h
    obtain ⟨fields,-,percent,-,_,hbounds,hval⟩ := h
    obtain rfl := Except.ok.inj hval
    exact (record_le [("percent",.int percent),("charging",item fields "charging")] [9,1]
      (.cons ⟨by simp,(length_int percent).le⟩
        (.cons ⟨by simp,hbool hbounds.2⟩ .nil))).trans (by decide)
  · simp only [networkValue,bind_ok,raiseIf_ok,not_not] at h
    obtain ⟨fields,-,transport,htransport,_,hmetered,hval⟩ := h
    obtain rfl := Except.ok.inj hval
    have htransport' := choice_length (n := 8) (by decide) htransport
    exact (record_le [("transport",.str transport),("metered",item fields "metered")] [5 + 4 * 8,1]
      (.cons ⟨by simp,str_le htransport'⟩
        (.cons ⟨by simp,hbool hmetered⟩ .nil))).trans (by decide)
  · simp only [presenceValue,bind_ok] at h
    obtain ⟨fields,-,state,hstate,hval⟩ := h
    obtain rfl := Except.ok.inj hval
    have hstate' := choice_length (n := 7) (by decide) hstate
    exact (record_le [("state",.str state)] [5 + 4 * 7]
      (.cons ⟨by simp,str_le hstate'⟩ .nil)).trans (by decide)
  · simp only [selfReportValue,bind_ok] at h
    obtain ⟨fields,-,_,-,report,hreport,hval⟩ := h
    obtain rfl := Except.ok.inj hval
    have hplain : "plain".toList.length ≤ 5 := by decide
    exact (record_le [("text",.str report),("format",.str "plain")]
      [5 + 4 * maxSelfReportChars,5 + 4 * 5] (.cons ⟨by simp,str_le (text_length hreport)⟩
        (.cons ⟨by simp,str_le hplain⟩ .nil))).trans (by decide)
  · exact appWindowValue_le h

theorem observation_le {o : Observation} (h : observation rt v = .ok o) :
    o.toValue.wire.length ≤ 18200 := by
  simp only [observation,bind_ok] at h
  obtain ⟨fields,-,type,htype,id,hid,observed,-,value,hvalue,_,-,hval⟩ := h
  obtain rfl := Except.ok.inj hval
  have htype' := choice_length (n := 26) (by decide) htype
  exact (record_le [("observation_id",.str id),("observed_ms",.int observed),("type",.str type),
    ("value",value)] [5 + 4 * 32,9,5 + 4 * 26,17500]
    (.cons ⟨by simp,str_le (identifier_length hid)⟩ (.cons ⟨by simp,(length_int observed).le⟩
      (.cons ⟨by simp,str_le htype'⟩
        (.cons ⟨by simp,observationValue_le hvalue⟩ .nil))))).trans (by decide)

theorem responseOption_le {o : ResponseOption} (h : responseOption rt v = .ok o) :
    o.toValue.wire.length ≤ 1300 := by
  simp only [responseOption,bind_ok] at h
  obtain ⟨fields,-,actionId,hid,label,hlabel,hval⟩ := h
  obtain rfl := Except.ok.inj hval
  exact (record_le [("action_id",.str actionId),("label",.str label)] [5 + 4 * 128,5 + 4 * 128]
    (.cons ⟨by simp,str_le (token_length hid)⟩
      (.cons ⟨by simp,str_le (text_length hlabel)⟩ .nil))).trans (by decide)

theorem approvalAction_le {a : ApprovalAction} (h : approvalAction rt v = .ok a) :
    a.toValue.wire.length ≤ 5300 := by
  simp only [approvalAction,bind_ok,raiseIf_ok,not_not] at h
  obtain ⟨fields,-,_,hresource,capability,hcapability,parameters,hparameters,summary,hsummary,
    hval⟩ := h
  obtain rfl := Except.ok.inj hval
  have hdigest : parameters.toList.length ≤ 64 := by
    unfold digest at hparameters
    split at hparameters
    · next hhex =>
      obtain rfl := Except.ok.inj hparameters
      simp only [isHex,Bool.and_eq_true,decide_eq_true_eq] at hhex
      exact hhex.1.le
    · cases hparameters
  exact (record_le [("capability",.str capability),
    ("resource",.str (strip (rt.str (item fields "resource")))),
    ("parameters_digest",.str parameters),("summary",.str summary)]
    [5 + 4 * 128,5 + 4 * 512,5 + 4 * 64,5 + 4 * 512] (.cons ⟨by simp,str_le (token_length hcapability)⟩
      (.cons ⟨by simp,str_le (matchesWord_length hresource)⟩ (.cons ⟨by simp,str_le hdigest⟩
        (.cons ⟨by simp,str_le (text_length hsummary)⟩ .nil))))).trans (by decide)

theorem approvalScope_le {createdMs : ℤ} {a : ApprovalScope}
    (h : approvalScope rt createdMs v = .ok a) : a.toValue.wire.length ≤ 360 := by
  simp only [approvalScope,bind_ok,raiseIf_ok,not_not] at h
  obtain ⟨fields,-,_,hmode,maxUses,-,grant,-,_,-,_,-,_,-,hval⟩ := h
  obtain rfl := Except.ok.inj hval
  generalize normalized rt (item fields "mode") = mode at hmode ⊢
  have hlength : mode.toList.length ≤ 7 := by
    rcases hmode with rfl | rfl
    · decide
    · decide
  exact (record_le [("mode",.str mode),("max_uses",.int maxUses.toNat),("grant_expires_ms",.int grant)]
    [5 + 4 * 7,9,9] (.cons ⟨by simp,str_le hlength⟩ (.cons ⟨by simp,(length_int _).le⟩
      (.cons ⟨by simp,(length_int _).le⟩ .nil)))).trans (by decide)

end Sizes

section Cleanness

variable (htext : ∀ s, rt.str (.str s) = s)
include htext

/-- A map with named fields is clean where its names are allowed. -/
theorem record_clean (es : List (String × Value))
    (hnames : ∀ name ∈ es.map Prod.fst, lower (strip name) ∉ forbiddenKeys)
    (h : ∀ w ∈ es.map Prod.snd, Clean rt w) : Clean rt (.map (textEntries es)) := by
  rw [clean_map]
  intro e he
  obtain ⟨p,hp,rfl⟩ := List.mem_map.mp he
  refine ⟨?_,h p.2 (List.mem_map_of_mem hp)⟩
  rw [normalized_str htext]
  exact hnames p.1 (List.mem_map_of_mem hp)

omit htext in
theorem texts_clean (ss : List String) : Clean rt (.list (ss.map .str)) := by
  rw [clean_list]
  intro v hv
  obtain ⟨s,-,rfl⟩ := List.mem_map.mp hv
  simp [Clean]

theorem consent_clean (consent : Consent) : Clean rt consent.toValue := by
  have hnames : ∀ name ∈ ["basis","grant_id","scope"], lower (strip name) ∉ forbiddenKeys := by decide
  refine record_clean htext [("basis",.str consent.basis),("grant_id",.str consent.grantId),
    ("scope",.list (consent.scope.map .str))] hnames ?_
  have hscope : Clean rt (.list (consent.scope.map .str)) := texts_clean _
  simpa [Clean] using hscope

theorem option_clean (o : ResponseOption) : Clean rt o.toValue := by
  have hnames : ∀ name ∈ ["action_id","label"], lower (strip name) ∉ forbiddenKeys := by decide
  exact record_clean htext [("action_id",.str o.actionId),("label",.str o.label)] hnames
    (by simp [Clean])

theorem action_clean (a : ApprovalAction) : Clean rt a.toValue := by
  have hnames : ∀ name ∈ ["capability","resource","parameters_digest","summary"],
      lower (strip name) ∉ forbiddenKeys := by decide
  exact record_clean htext [("capability",.str a.capability),("resource",.str a.resource),
    ("parameters_digest",.str a.parametersDigest),("summary",.str a.summary)] hnames (by simp [Clean])

theorem scope_clean (a : ApprovalScope) : Clean rt a.toValue := by
  have hnames : ∀ name ∈ ["mode","max_uses","grant_expires_ms"],
      lower (strip name) ∉ forbiddenKeys := by decide
  exact record_clean htext [("mode",.str a.mode),("max_uses",.int a.maxUses),
    ("grant_expires_ms",.int a.grantExpiresMs)] hnames (by simp [Clean])

omit htext in
theorem observation_clean {o : Observation} (h : observation rt v = .ok o) : Clean rt o.toValue := by
  simp only [observation,bind_ok] at h
  obtain ⟨fields,-,type,-,id,-,observed,-,value,-,_,hclean,hval⟩ := h
  rw [← Except.ok.inj hval]
  exact (rejectForbidden_iff _ _).mp hclean

end Cleanness

/-- One field of a kind of messages: which normal forms it is read into, and how long they can be. -/
structure Reader where
  name : String
  reads : Value → Value → Prop
  bound : ℕ

/-- The fields that can have any length: the ids of nodes and humans, and metrics. -/
def openFields : List String :=
  ["source_node_id","human_id","device_node_id","target_device_id","metrics"]

/-- What a field gives is read again as it is, for other spellings of its ids too; it is clean and of
bounded length. -/
structure Reader.Lawful (rt : Runtime) (r : Reader) : Prop where
  again : ∀ v w, r.reads v w → r.reads w w
  spelled : ∀ v v' w, Spelled rt r.name v v' → r.reads v w → r.reads v' w
  clean : ∀ v w, r.reads v w → Clean rt w
  bounded : r.name ∉ openFields → ∀ v w, r.reads v w → w.wire.length ≤ r.bound

section Readers

/-- The fields that are not read through their text. -/
def nestedFields : List String := idListFields ++ "consent" :: recordFields.map Prod.fst

variable {v' : Value} {name : String}

theorem Spelled.text (hname : name ∉ nestedFields) (h : Spelled rt name v v') : SameText rt v v' := by
  simp only [nestedFields,List.mem_append,List.mem_cons,not_or] at hname
  cases h with
  | same => exact rfl
  | id _ h => exact h
  | ids hids _ => exact absurd hids hname.1
  | consent hconsent _ => exact absurd hconsent hname.2.1
  | records hrecord _ => exact absurd (List.mem_map_of_mem (f := Prod.fst) hrecord) hname.2.2

theorem Spelled.plain (hname : name ∉ idFields) (hnested : name ∉ nestedFields)
    (h : Spelled rt name v v') : v' = v := by
  simp only [nestedFields,List.mem_append,List.mem_cons,not_or] at hnested
  cases h with
  | same => rfl
  | id hid _ => exact absurd hid hname
  | ids hids _ => exact absurd hids hnested.1
  | consent hconsent _ => exact absurd hconsent hnested.2.1
  | records hrecord _ => exact absurd (List.mem_map_of_mem (f := Prod.fst) hrecord) hnested.2.2

theorem Spelled.texts (hname : name ∈ idListFields) {vs : List Value}
    (h : Spelled rt name (.list vs) v') :
    ∃ vs', v' = .list vs' ∧ List.Forall₂ (SameText rt) vs vs' := by
  have hother : ∀ name ∈ idListFields, name ∉ idFields ∧ name ≠ "consent" ∧
      name ∉ recordFields.map Prod.fst := by decide
  obtain ⟨hid,hconsent,hrecord⟩ := hother name hname
  cases h with
  | same => exact ⟨vs,rfl,List.forall₂_same.mpr fun _ _ => rfl⟩
  | id h => exact absurd h hid
  | ids _ h => exact ⟨_,rfl,h⟩
  | consent h => exact absurd h hconsent
  | records h => exact absurd (List.mem_map_of_mem (f := Prod.fst) h) hrecord

theorem Spelled.consent_map (h : Spelled rt "consent" v v') : v' = v ∨ SameMap rt "grant_id" v v' := by
  cases h with
  | same => exact .inl rfl
  | id h => exact absurd h (by decide)
  | ids h => exact absurd h (by decide)
  | consent _ h => exact .inr h
  | records h =>
    have hno : "consent" ∉ recordFields.map Prod.fst := by decide
    exact absurd (List.mem_map_of_mem (f := Prod.fst) h) hno

theorem Spelled.maps {id : String} (hname : (name,id) ∈ recordFields) {vs : List Value}
    (h : Spelled rt name (.list vs) v') :
    v' = .list vs ∨ ∃ vs', v' = .list vs' ∧ List.Forall₂ (SameMap rt id) vs vs' := by
  have hother : ∀ p ∈ recordFields, p.1 ∉ idFields ∧ p.1 ∉ idListFields ∧ p.1 ≠ "consent" ∧
      ∀ q ∈ recordFields, q.1 = p.1 → q = p := by decide
  obtain ⟨hid,hids,hconsent,hsame⟩ := hother _ hname
  cases h with
  | same => exact .inl rfl
  | id h => exact absurd h hid
  | ids h => exact absurd h hids
  | consent h => exact absurd h hconsent
  | @records id' _ _ h hvs =>
    obtain rfl : id' = id := congrArg Prod.snd (hsame (name,id') h rfl)
    exact .inr ⟨_,rfl,hvs⟩

/-- A field that one function reads. -/
def fieldReader {α : Type} (name : String) (f : Value → Result α) (toValue : α → Value) (bound : ℕ) :
    Reader where
  name := name
  reads v w := ∃ x, f v = .ok x ∧ w = toValue x
  bound := bound

/-- A list whose items are read one by one. -/
def listReader {α : Type} (name : String) (limit : ℕ) (f : Value → Result α) (toValue : α → Value)
    (bound : ℕ) : Reader where
  name := name
  reads v w := ∃ vs xs, v = .list vs ∧ vs.length ≤ limit ∧ vs.mapM f = .ok xs ∧
    w = .list (xs.map toValue)
  bound := 5 + bound * limit

/-- A text whose normal form only has to pass a check. -/
theorem checked_lawful (htext : ∀ s, rt.str (.str s) = s) {f : Value → Result String}
    {p : String → Bool} {bound : ℕ}
    (hf : ∀ v s, f v = .ok s ↔ p (normalized rt v) ∧ s = normalized rt v)
    (hname : name ∉ nestedFields)
    (hbound : name ∉ openFields → ∀ s, p s → 5 + 4 * s.toList.length ≤ bound) :
    (fieldReader name f .str bound).Lawful rt where
  again := by
    rintro v _ ⟨s,hs,rfl⟩
    obtain ⟨hp,rfl⟩ := (hf v s).mp hs
    refine ⟨_,(hf _ _).mpr ⟨?_,(normalized_again htext v).symm⟩,rfl⟩
    rw [normalized_again htext]
    exact hp
  spelled := by
    rintro v v' _ hspelled ⟨s,hs,rfl⟩
    refine ⟨s,?_,rfl⟩
    rw [hf] at hs ⊢
    rw [(hspelled.text hname).eq]
    exact hs
  clean := by
    rintro v _ ⟨s,-,rfl⟩
    simp [Clean]
  bounded := by
    rintro hopen v _ ⟨s,hs,rfl⟩
    obtain ⟨hp,rfl⟩ := (hf v s).mp hs
    exact (Packet.wire_str_le _).trans (hbound hopen _ hp)

theorem checked_ok {p : String → Bool} {e : PyError} {s : String} :
    (if p (normalized rt v) then .ok (normalized rt v) else .error e : Result String) = .ok s ↔
      p (normalized rt v) ∧ s = normalized rt v := by
  constructor
  · intro hs
    split at hs
    · next hp => exact ⟨hp,(Except.ok.inj hs).symm⟩
    · cases hs
  · rintro ⟨hp,rfl⟩
    exact if_pos hp

/-- A field with no id in it. -/
theorem plain_lawful {α : Type} {f : Value → Result α} {toValue : α → Value} {bound : ℕ}
    (hname : name ∉ idFields ∧ name ∉ nestedFields)
    (again : ∀ v x, f v = .ok x → f (toValue x) = .ok x)
    (clean : ∀ v x, f v = .ok x → Clean rt (toValue x))
    (bounded : name ∉ openFields → ∀ v x, f v = .ok x → (toValue x).wire.length ≤ bound) :
    (fieldReader name f toValue bound).Lawful rt where
  again := by
    rintro v _ ⟨x,hx,rfl⟩
    exact ⟨x,again v x hx,rfl⟩
  spelled := by
    rintro v v' _ hspelled ⟨x,hx,rfl⟩
    rw [hspelled.plain hname.1 hname.2]
    exact ⟨x,hx,rfl⟩
  clean := by
    rintro v _ ⟨x,hx,rfl⟩
    exact clean v x hx
  bounded := by
    rintro hopen v _ ⟨x,hx,rfl⟩
    exact bounded hopen v x hx

/-- A list of values whose spellings are read alike. -/
theorem list_lawful {α : Type} {limit bound : ℕ} {f : Value → Result α} {toValue : α → Value}
    {S : Value → Value → Prop}
    (hspelled : ∀ vs v', Spelled rt name (.list vs) v' →
      v' = .list vs ∨ ∃ vs', v' = .list vs' ∧ List.Forall₂ S vs vs')
    (hS : ∀ v v' x, S v v' → f v = .ok x → f v' = .ok x)
    (again : ∀ v x, f v = .ok x → f (toValue x) = .ok x)
    (clean : ∀ v x, f v = .ok x → Clean rt (toValue x))
    (bounded : ∀ v x, f v = .ok x → (toValue x).wire.length ≤ bound) :
    (listReader name limit f toValue bound).Lawful rt where
  again := by
    rintro v _ ⟨vs,xs,-,hshort,hxs,rfl⟩
    refine ⟨_,xs,rfl,?_,mapM_again again hxs,rfl⟩
    rw [List.length_map,mapM_length hxs]
    exact hshort
  spelled := by
    rintro v v' _ h ⟨vs,xs,rfl,hshort,hxs,rfl⟩
    rcases hspelled vs v' h with rfl | ⟨vs',rfl,hvs⟩
    · exact ⟨vs,xs,rfl,hshort,hxs,rfl⟩
    · exact ⟨vs',xs,rfl,hvs.length_eq ▸ hshort,mapM_same hS hvs hxs,rfl⟩
  clean := by
    rintro v _ ⟨vs,xs,-,-,hxs,rfl⟩
    rw [clean_list]
    intro w hw
    obtain ⟨x,hx,rfl⟩ := List.mem_map.mp hw
    obtain ⟨u,-,hu⟩ := mem_mapM hxs hx
    exact clean u x hu
  bounded := by
    rintro - v _ ⟨vs,xs,-,hshort,hxs,rfl⟩
    refine list_le (fun w hw => ?_) (by rw [List.length_map,mapM_length hxs]; exact hshort)
    obtain ⟨x,hx,rfl⟩ := List.mem_map.mp hw
    obtain ⟨u,-,hu⟩ := mem_mapM hxs hx
    exact bounded u x hu

/-- What a reader reads its function gives. -/
theorem field_read {α : Type} {f : Value → Result α} {toValue : α → Value} {bound : ℕ} {x : α}
    (hinj : Function.Injective toValue) (h : (fieldReader name f toValue bound).reads v (toValue x)) :
    f v = .ok x := by
  obtain ⟨x',hx',heq⟩ := h
  rw [hx',hinj heq]

theorem list_read {α : Type} {limit bound : ℕ} {f : Value → Result α} {toValue : α → Value}
    {xs : List α} (hinj : Function.Injective toValue)
    (h : (listReader name limit f toValue bound).reads v (.list (xs.map toValue))) :
    ∃ vs, v = .list vs ∧ vs.length = xs.length ∧ xs.length ≤ limit ∧ vs.mapM f = .ok xs := by
  obtain ⟨vs,xs',hv,hshort,hxs,heq⟩ := h
  obtain rfl : xs = xs' := List.map_injective_iff.mpr hinj (Value.list.inj heq)
  have hlength := mapM_length hxs
  exact ⟨vs,hv,hlength.symm,hlength ▸ hshort,hxs⟩

end Readers

section Families

variable (htext : ∀ s, rt.str (.str s) = s) {name message : String}
include htext

theorem human_lawful : (fieldReader "human_id" (humanId rt) .str 0).Lawful rt :=
  checked_lawful htext (fun _ _ => checked_ok) (by decide) fun h => absurd (by decide) h

theorem node_lawful (hname : name ∈ openFields ∧ name ∉ nestedFields) :
    (fieldReader name (nodeId rt) .str 0).Lawful rt :=
  checked_lawful htext (fun _ _ => checked_ok) hname.2 fun h => absurd hname.1 h

theorem source_lawful : (fieldReader "source_node_id" (sourceNodeId rt) .str 0).Lawful rt :=
  checked_lawful htext (fun _ _ => checked_ok) (by decide) fun h => absurd (by decide) h

theorem id_lawful (hname : name ∉ nestedFields) :
    (fieldReader name (identifier rt message) .str (5 + 4 * 32)).Lawful rt := by
  refine checked_lawful htext (fun _ _ => checked_ok) hname fun _ s hs => ?_
  simp only [isHex,Bool.and_eq_true,decide_eq_true_eq] at hs
  rw [hs.1]

theorem token_lawful (hname : name ∉ nestedFields) :
    (fieldReader name (capabilityToken rt message) .str (5 + 4 * 128)).Lawful rt := by
  refine checked_lawful htext (fun _ _ => checked_ok) hname fun _ s hs => ?_
  have hlength := matchesWord_length hs
  omega

theorem choice_lawful {choices : List String} (hname : name ∉ nestedFields)
    (hchoices : ∀ c ∈ choices, c.toList.length ≤ 32) :
    (fieldReader name (choice rt choices message) .str (5 + 4 * 32)).Lawful rt := by
  refine checked_lawful (p := fun s => decide (s ∈ choices)) htext (fun v s => ?_) hname
    fun _ s hs => ?_
  · rw [choice,decide_eq_true_eq]
    constructor
    · intro h
      split at h
      · next hmem => exact ⟨hmem,(Except.ok.inj h).symm⟩
      · cases h
    · rintro ⟨hmem,rfl⟩
      exact if_pos hmem
  · have hlength := hchoices s (of_decide_eq_true hs)
    omega

theorem responseAction_lawful :
    (fieldReader "action_id" (responseAction rt) .str (5 + 4 * 128)).Lawful rt := by
  refine checked_lawful (p := fun s => s = "" || matchesWord (fun c => 'a' ≤ c && c ≤ 'z')
    (fun c => ('a' ≤ c && c ≤ 'z') || isDigit c || c == '_' || c == '.' || c == '-') 127 s)
    htext (fun v s => ?_) (by decide) fun _ s hs => ?_
  · rw [Bool.or_eq_true,decide_eq_true_eq,responseAction]
    by_cases hempty : normalized rt v = ""
    · rw [if_pos hempty,hempty]
      constructor
      · intro h
        exact ⟨.inl rfl,(Except.ok.inj h).symm⟩
      · rintro ⟨-,rfl⟩
        rfl
    · rw [if_neg hempty,capabilityToken,checked_ok,normalized_again htext]
      simp only [hempty,false_or]
  · rw [Bool.or_eq_true,decide_eq_true_eq] at hs
    rcases hs with rfl | hs
    · decide
    · have hlength := matchesWord_length hs
      omega

theorem text_lawful {required : Bool} {limit : ℕ} (hname : name ∉ idFields ∧ name ∉ nestedFields) :
    (fieldReader name (text rt message required limit) .str (5 + 4 * limit)).Lawful rt :=
  plain_lawful hname (fun _ _ h => text_again htext _ h) (fun _ _ _ => by simp [Clean])
    fun _ _ _ h => str_le (text_length h)

omit htext in
theorem time_lawful (hname : name ∉ idFields ∧ name ∉ nestedFields) :
    (fieldReader name (timestamp name) .int 9).Lawful rt :=
  plain_lawful hname (fun _ _ h => integer_ok.mpr ⟨rfl,(integer_ok.mp h).2⟩)
    (fun _ _ _ => by simp [Clean]) fun _ _ i _ => (length_int i).le

theorem action_lawful :
    (fieldReader "action" (approvalAction rt) ApprovalAction.toValue 5300).Lawful rt :=
  plain_lawful (by decide) (fun _ _ h => approvalAction_again htext h)
    (fun _ a _ => action_clean htext a) fun _ _ _ h => approvalAction_le h

theorem scope_lawful (createdMs : ℤ) :
    (fieldReader "scope" (approvalScope rt createdMs) ApprovalScope.toValue 360).Lawful rt :=
  plain_lawful (by decide) (fun _ _ h => approvalScope_again htext h le_rfl (scope_lasts h))
    (fun _ a _ => scope_clean htext a) fun _ _ _ h => approvalScope_le h

theorem consent_lawful : (fieldReader "consent" (consentOf rt) Consent.toValue 17500).Lawful rt where
  again := by
    rintro v _ ⟨consent,h,rfl⟩
    exact ⟨consent,consentOf_again htext h,rfl⟩
  spelled := by
    rintro v v' _ hspelled ⟨consent,h,rfl⟩
    rcases hspelled.consent_map with rfl | hmap
    · exact ⟨consent,h,rfl⟩
    · exact ⟨consent,consentOf_same hmap h,rfl⟩
  clean := by
    rintro v _ ⟨consent,-,rfl⟩
    exact consent_clean htext consent
  bounded := by
    rintro - v _ ⟨consent,h,rfl⟩
    exact consentOf_le h

theorem ids_lawful (hname : name ∈ idListFields) :
    (listReader name 64 (identifier rt message) .str (5 + 4 * 32)).Lawful rt :=
  list_lawful (fun _ _ h => .inr (h.texts hname)) (fun _ _ _ h hid => (identifier_same h).trans hid)
    (fun _ _ h => identifier_again htext _ h) (fun _ _ _ => by simp [Clean])
    fun _ _ h => str_le (identifier_length h)

theorem observations_lawful : (listReader "observations" maxBatchObservations (observation rt)
    Observation.toValue 18200).Lawful rt :=
  list_lawful (fun _ _ h => h.maps (by decide)) (fun _ _ _ h ho => observation_same h ho)
    (fun _ _ h => observation_again htext h) (fun _ _ h => observation_clean h)
    fun _ _ h => observation_le h

theorem options_lawful : (listReader "response_options" maxOptions (responseOption rt)
    ResponseOption.toValue 1300).Lawful rt :=
  list_lawful (fun _ _ h => h.maps (by decide)) (fun _ _ _ h ho => responseOption_same h ho)
    (fun _ _ h => responseOption_again htext h) (fun _ o _ => option_clean htext o)
    fun _ _ h => responseOption_le h

end Families

mutual

/-- How deep a value is nested. -/
def nesting : Value → ℕ
  | .list items => nestingItems items + 1
  | .map entries => nestingEntries entries + 1
  | _ => 0

def nestingItems : List Value → ℕ
  | [] => 0
  | v :: vs => max (nesting v) (nestingItems vs)

def nestingEntries : List (Value × Value) → ℕ
  | [] => 0
  | (_,v) :: es => max (nesting v) (nestingEntries es)

end

/-- The metrics of an episode in their normal form. -/
def metricsOf (rt : Runtime) (value : Value) : Result (List (String × Value)) := do
  let entries ← fetched value.asMap (.value "invalid episode metrics")
  raiseIf (maxMetrics < entries.length) (.value "invalid episode metrics")
  let metrics ← entries.mapM (metricEntry rt)
  rejectForbidden rt "metrics" (.map (textEntries (dictOf metrics)))
  return sortedDict metrics

def metricsReader (rt : Runtime) : Reader :=
  fieldReader "metrics" (metricsOf rt) (fun es => .map (textEntries es)) 0

section Metrics

variable {metrics es : List (String × Value)} {vs : List Value} {w : Value}

theorem nesting_le_items (h : w ∈ vs) : nesting w ≤ nestingItems vs := by
  induction vs with
  | nil => cases h
  | cons v vs ih =>
    rw [nestingItems]
    rcases List.mem_cons.mp h with rfl | h
    · exact le_max_left _ _
    · exact (ih h).trans (le_max_right _ _)

theorem nesting_le_entries {es : Fields} {e : Value × Value} (h : e ∈ es) :
    nesting e.2 ≤ nestingEntries es := by
  induction es with
  | nil => cases h
  | cons x es ih =>
    obtain ⟨key,v⟩ := x
    rw [nestingEntries]
    rcases List.mem_cons.mp h with rfl | h
    · exact le_max_left _ _
    · exact (ih h).trans (le_max_right _ _)

/-- A metric is as long as its nesting allows: every list in it is short, and every text. -/
theorem metricValue_le (v : Value) (h : metricValue rt v = .ok w) :
    w.wire.length ≤ 2053 * 33 ^ nesting w := by
  have hpow (n : ℕ) : 1 ≤ 33 ^ n := Nat.one_le_pow _ _ (by omega)
  induction v using Value.nested generalizing w with
  | scalar v hlist hmap =>
    cases v with
    | list vs => exact absurd rfl (hlist vs)
    | map es => exact absurd rfl (hmap es)
    | bin b => cases h
    | float bits =>
      simp only [metricValue,bind_ok] at h
      obtain ⟨_,-,hval⟩ := h
      obtain rfl := Except.ok.inj hval
      simp [Value.wire,nesting]
    | str s =>
      simp only [metricValue,bind_ok] at h
      obtain ⟨normal,hnormal,hval⟩ := h
      obtain rfl := Except.ok.inj hval
      simpa [nesting] using str_le (text_length hnormal)
    | nil =>
      rw [← Except.ok.inj h]
      simp [Value.wire,nesting]
    | bool b =>
      rw [← Except.ok.inj h]
      simp [Value.wire,nesting]
    | int i =>
      rw [← Except.ok.inj h,length_int]
      simp [nesting]
  | list vs ih =>
    simp only [metricValue,bind_ok,raiseIf_ok,metricValues_forall₂,not_lt] at h
    obtain ⟨_,hshort,ws,hws,hval⟩ := h
    obtain rfl := Except.ok.inj hval
    have hitems : ∀ w ∈ ws, w.wire.length ≤ 2053 * 33 ^ nestingItems ws := by
      intro w hw
      obtain ⟨v,hv,hvw⟩ : ∃ v ∈ vs, metricValue rt v = .ok w := mem_mapM (mapM_forall₂.mpr hws) hw
      refine (ih v hv hvw).trans (Nat.mul_le_mul_left _ ?_)
      exact Nat.pow_le_pow_right (by omega) (nesting_le_items hw)
    have hle := list_le hitems (hws.length_eq ▸ hshort)
    have hone := hpow (nestingItems ws)
    rw [nesting,pow_succ]
    omega
  | map es ih => cases h

theorem metricsOf_ok : metricsOf rt v = .ok es ↔ ∃ entries metrics, v = .map entries ∧
    entries.length ≤ maxMetrics ∧ entries.mapM (metricEntry rt) = .ok metrics ∧
      Clean rt (.map (textEntries (dictOf metrics))) ∧ es = sortedDict metrics := by
  simp only [metricsOf,bind_ok,fetched_ok,raiseIf_ok,not_lt]
  constructor
  · rintro ⟨entries,hmap,_,hshort,metrics,hmetrics,_,hclean,hval⟩
    refine ⟨entries,metrics,?_,hshort,hmetrics,(rejectForbidden_iff _ _).mp hclean,
      (Except.ok.inj hval).symm⟩
    cases v <;> simp [Value.asMap] at hmap
    rw [hmap]
  · rintro ⟨entries,metrics,rfl,hshort,hmetrics,hclean,rfl⟩
    exact ⟨entries,rfl,(),hshort,metrics,hmetrics,(),(rejectForbidden_iff _ _).mpr hclean,rfl⟩

theorem metricEntry_ok {e : Value × Value} {p : String × Value} :
    metricEntry rt e = .ok p ↔ capabilityToken rt "episode metric name" e.1 = .ok p.1 ∧
      metricValue rt e.2 = .ok p.2 := by
  simp only [metricEntry,bind_ok]
  constructor
  · rintro ⟨name,hname,value,hvalue,hval⟩
    obtain rfl := Except.ok.inj hval
    exact ⟨hname,hvalue⟩
  · rintro ⟨hname,hvalue⟩
    exact ⟨p.1,hname,p.2,hvalue,rfl⟩

theorem sortedDict_clean (h : Clean rt (.map (textEntries (dictOf metrics)))) :
    Clean rt (.map (textEntries (sortedDict metrics))) := by
  rw [clean_map] at h ⊢
  intro e he
  exact h e (((sortedDict_perm metrics).map _).mem_iff.mp he)

theorem metricsOf_again (htext : ∀ s, rt.str (.str s) = s) (h : metricsOf rt v = .ok es) :
    metricsOf rt (.map (textEntries es)) = .ok es := by
  obtain ⟨entries,metrics,-,hshort,hmetrics,hclean,rfl⟩ := metricsOf_ok.mp h
  refine metricsOf_ok.mpr ⟨_,sortedDict metrics,rfl,?_,?_,?_,(sortedDict_again metrics).symm⟩
  · rw [textEntries_map,List.length_map,(sortedDict_perm metrics).length_eq]
    have hread := mapM_length hmetrics
    have hdict := (dictOf_spec metrics).2.2.1
    omega
  · refine entries_again hmetrics fun e p hp => ?_
    obtain ⟨hname,hvalue⟩ := metricEntry_ok.mp hp
    exact metricEntry_ok.mpr ⟨capabilityToken_again htext _ hname,metricValue_again htext _ hvalue⟩
  · rw [ControlPlane.SignedForm.dictOf_distinct (sortedDict_nodup metrics)]
    exact sortedDict_clean hclean

theorem metrics_lawful (htext : ∀ s, rt.str (.str s) = s) : (metricsReader rt).Lawful rt := by
  refine plain_lawful (by decide) (fun _ _ h => metricsOf_again htext h) (fun v es h => ?_)
    fun h => absurd (by decide) h
  obtain ⟨entries,metrics,-,-,-,hclean,rfl⟩ := metricsOf_ok.mp h
  exact sortedDict_clean hclean

/-- The size of metrics of a depth. -/
def metricsSize (depth : ℕ) : ℕ := 5 + (5 + 4 * 128 + 2053 * 33 ^ depth) * maxMetrics

theorem metrics_le (h : (metricsReader rt).reads v w) : w.wire.length ≤ metricsSize (nesting w) := by
  obtain ⟨es,hes,rfl⟩ := h
  obtain ⟨entries,metrics,-,hshort,hmetrics,-,rfl⟩ := metricsOf_ok.mp hes
  have hlength : (textEntries (sortedDict metrics)).length ≤ maxMetrics := by
    rw [textEntries_map,List.length_map,(sortedDict_perm metrics).length_eq]
    have hread := mapM_length hmetrics
    have hdict := (dictOf_spec metrics).2.2.1
    omega
  change (Value.map (textEntries (sortedDict metrics))).wire.length ≤
    metricsSize (nesting (.map (textEntries (sortedDict metrics))))
  refine map_le (fun e he => ?_) hlength
  have hdepth := nesting_le_entries he
  obtain ⟨p,hp,rfl⟩ := List.mem_map.mp he
  obtain ⟨e,-,he⟩ := mem_mapM hmetrics (mem_sortedDict hp)
  obtain ⟨hname,hvalue⟩ := metricEntry_ok.mp he
  have hkey := str_le (token_length hname)
  have hvalue' := metricValue_le _ hvalue
  have hpow : 33 ^ nesting p.2 ≤ 33 ^ nesting (.map (textEntries (sortedDict metrics))) := by
    refine Nat.pow_le_pow_right (by omega) (hdepth.trans ?_)
    rw [nesting]
    omega
  have hmul := Nat.mul_le_mul_left 2053 hpow
  change (Value.str p.1).wire.length + p.2.wire.length ≤ _
  omega

end Metrics

end Anet.CompanionProtocol
