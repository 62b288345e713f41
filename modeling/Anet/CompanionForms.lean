import Anet.CompanionBodies
import Mathlib.Data.List.Dedup

/-! The normal forms of the fields of companion messages: what was read once is read again as it
is, and which values hold nothing forbidden. -/
namespace Anet.CompanionProtocol

variable {rt : Runtime} {v : Value}

theorem identifier_hex {name id : String} (h : identifier rt name v = .ok id) :
    isHex 32 (normalized rt v) := by
  by_contra hno
  rw [identifier,if_neg hno] at h
  cases h

section Lists

variable {α β : Type} {f : α → Result β} {xs : List α} {ys : List β}

theorem mapM_forall₂ : xs.mapM f = .ok ys ↔ List.Forall₂ (fun x y => f x = .ok y) xs ys := by
  induction xs generalizing ys with
  | nil =>
    rw [List.mapM_nil,List.forall₂_nil_left_iff]
    constructor
    · intro h
      exact (Except.ok.inj h).symm
    · rintro rfl
      rfl
  | cons x xs ih =>
    simp only [List.mapM_cons,bind_ok,List.forall₂_cons_left_iff,ih]
    constructor
    · rintro ⟨y,hy,ys',hys,hval⟩
      obtain rfl := Except.ok.inj hval
      exact ⟨y,ys',hy,hys,rfl⟩
    · rintro ⟨y,ys',hy,hys,rfl⟩
      exact ⟨y,hy,ys',hys,rfl⟩

theorem mapM_length (h : xs.mapM f = .ok ys) : ys.length = xs.length :=
  (mapM_forall₂.mp h).length_eq.symm

/-- What was read from every item is read again. -/
theorem mapM_fixed {g : β → α} (h : ∀ y ∈ ys, f (g y) = .ok y) : (ys.map g).mapM f = .ok ys := by
  rw [mapM_forall₂,List.forall₂_map_left_iff,List.forall₂_same]
  exact h

theorem mapM_again {g : β → α} (hf : ∀ x y, f x = .ok y → f (g y) = .ok y)
    (h : xs.mapM f = .ok ys) : (ys.map g).mapM f = .ok ys := by
  refine mapM_fixed fun y hy => ?_
  obtain ⟨x,-,hx⟩ := mem_mapM h hy
  exact hf x y hx

end Lists

section Dictionaries

variable {d es : List (String × Value)}

theorem dictPut_keys (key : String) (value : Value) (d : List (String × Value)) :
    (dictPut key value d).map Prod.fst =
      if key ∈ d.map Prod.fst then d.map Prod.fst else d.map Prod.fst ++ [key] := by
  induction d with
  | nil => simp [dictPut]
  | cons e d ih =>
    by_cases he : e.1 = key
    · simp [dictPut,he]
    · have hne : ¬ key = e.1 := fun h => he h.symm
      simp only [dictPut,if_neg he,List.map_cons,ih,List.mem_cons,hne,false_or]
      split
      · rfl
      · rfl

theorem mem_dictPut {key : String} {value : Value} {e : String × Value}
    (h : e ∈ dictPut key value d) : e = (key,value) ∨ e ∈ d := by
  induction d with
  | nil => exact .inl (List.mem_singleton.mp h)
  | cons x d ih =>
    rw [dictPut] at h
    split at h
    · rcases List.mem_cons.mp h with rfl | h
      · exact .inl rfl
      · exact .inr (List.mem_cons_of_mem _ h)
    · rcases List.mem_cons.mp h with rfl | h
      · exact .inr (List.mem_cons_self ..)
      · exact (ih h).imp_right (List.mem_cons_of_mem _)

/-- What is put into a dictionary one after the other: its keys stay apart, and every entry is one that
was put in. -/
theorem dictOf_spec (es : List (String × Value)) : ((dictOf es).map Prod.fst).Nodup ∧
    (∀ e ∈ dictOf es, e ∈ es) ∧ (dictOf es).length ≤ es.length ∧ (es ≠ [] → dictOf es ≠ []) := by
  have hfold (d : List (String × Value)) (hd : (d.map Prod.fst).Nodup) :
      ((es.foldl (fun d e => dictPut e.1 e.2 d) d).map Prod.fst).Nodup ∧
        (∀ e ∈ es.foldl (fun d e => dictPut e.1 e.2 d) d, e ∈ d ∨ e ∈ es) ∧
        (es.foldl (fun d e => dictPut e.1 e.2 d) d).length ≤ d.length + es.length ∧
        (d ≠ [] ∨ es ≠ [] → es.foldl (fun d e => dictPut e.1 e.2 d) d ≠ []) := by
    induction es generalizing d with
    | nil => simp [hd]
    | cons x es ih =>
      have hkeys := dictPut_keys x.1 x.2 d
      have hnodup : ((dictPut x.1 x.2 d).map Prod.fst).Nodup := by
        rw [hkeys]
        split
        · exact hd
        · next hnew =>
          rw [List.nodup_append]
          refine ⟨hd,List.nodup_singleton _,?_⟩
          rintro a ha b hb rfl
          exact hnew (List.mem_singleton.mp hb ▸ ha)
      have hlength : (dictPut x.1 x.2 d).length ≤ d.length + 1 := by
        have hlengths := congrArg List.length hkeys
        rw [List.length_map] at hlengths
        split at hlengths
        · rw [List.length_map] at hlengths
          omega
        · rw [List.length_append,List.length_map,List.length_singleton] at hlengths
          omega
      have hne : dictPut x.1 x.2 d ≠ [] := by
        cases d with
        | nil => simp [dictPut]
        | cons e d =>
          rw [dictPut]
          split <;> simp
      obtain ⟨hn,hmem,hlen,hsome⟩ := ih _ hnodup
      rw [List.foldl_cons,List.length_cons]
      refine ⟨hn,fun e he => ?_,by omega,fun _ => hsome (.inl hne)⟩
      rcases hmem e he with he | he
      · rcases mem_dictPut he with rfl | he
        · exact .inr (List.mem_cons_self ..)
        · exact .inl he
      · exact .inr (List.mem_cons_of_mem _ he)
  obtain ⟨hn,hmem,hlen,hsome⟩ := hfold [] List.nodup_nil
  rw [List.length_nil,Nat.zero_add] at hlen
  refine ⟨hn,fun e he => ?_,hlen,fun h => hsome (.inr h)⟩
  exact (hmem e he).resolve_left List.not_mem_nil

theorem sortedDict_perm (es : List (String × Value)) : (sortedDict es).Perm (dictOf es) :=
  List.perm_insertionSort _ _

theorem mem_sortedDict {e : String × Value} (h : e ∈ sortedDict es) : e ∈ es :=
  (dictOf_spec es).2.1 e ((sortedDict_perm es).mem_iff.mp h)

theorem sortedDict_nodup (es : List (String × Value)) : ((sortedDict es).map Prod.fst).Nodup :=
  ((sortedDict_perm es).map Prod.fst).nodup_iff.mpr (dictOf_spec es).1

theorem sortedDict_again (es : List (String × Value)) :
    sortedDict (sortedDict es) = sortedDict es := by
  have hsorted : (sortedDict es).Pairwise fun a b => a.1 ≤ b.1 := List.pairwise_insertionSort _ _
  rw [sortedDict,ControlPlane.SignedForm.dictOf_distinct (sortedDict_nodup es)]
  exact List.Pairwise.insertionSort_eq hsorted

end Dictionaries

section Fields

variable (htext : ∀ s, rt.str (.str s) = s)
include htext

theorem choice_again {choices : List String} {message message' s : String}
    (h : choice rt choices message v = .ok s) : choice rt choices message' (.str s) = .ok s := by
  unfold choice at h ⊢
  split at h
  · next hmem =>
    obtain rfl := Except.ok.inj h
    rw [normalized_again htext,if_pos hmem]
  · cases h

theorem consentGrant_again {basis s : String} (h : consentGrant rt basis v = .ok s) :
    consentGrant rt basis (.str s) = .ok s := by
  unfold consentGrant at h ⊢
  split
  · next hbasis =>
    rw [if_pos hbasis] at h
    have hs := identifier_eq (identifier_again htext "consent grant_id" h)
    rw [← hs]
    exact identifier_again htext _ h
  · next hbasis =>
    rw [if_neg hbasis] at h
    split at h
    · obtain rfl := Except.ok.inj h
      rw [normalized_str htext,if_pos (by decide)]
    · cases h

theorem tokens_again {name : String} {vs : List Value} {tokens : List String}
    (h : vs.mapM (capabilityToken rt name) = .ok tokens) {kept : List String}
    (hkept : ∀ t ∈ kept, t ∈ tokens) :
    (kept.map Value.str).mapM (capabilityToken rt name) = .ok kept := by
  refine mapM_fixed fun t ht => ?_
  obtain ⟨w,-,hw⟩ := mem_mapM h (hkept t ht)
  exact capabilityToken_again htext _ hw

theorem consentOf_again {consent : Consent} (h : consentOf rt v = .ok consent) :
    consentOf rt consent.toValue = .ok consent := by
  simp only [consentOf,bind_ok,raiseIf_ok,fetched_ok,not_lt] at h
  obtain ⟨fields,-,basis,hbasis,grant,hgrant,entries,-,_,hnonempty,tokens,htokens,_,hshort,hval⟩ := h
  obtain rfl := Except.ok.inj hval
  have hscope : ∀ t ∈ sortedStrings tokens.dedup, t ∈ tokens := fun t ht =>
    List.mem_dedup.mp (mem_sortedStrings.mp ht)
  have hnodup : (sortedStrings tokens.dedup).Nodup :=
    (sortedStrings_perm _).nodup_iff.mpr (List.nodup_dedup _)
  have hlength := (sortedStrings_perm tokens.dedup).length_eq
  have hsome : tokens.dedup ≠ [] := by
    intro hnil
    have hlen := mapM_length htokens
    have htoken : ∀ t ∈ tokens, False := fun t ht => by
      have hmem := List.mem_dedup.mpr ht
      rw [hnil] at hmem
      cases hmem
    rw [List.eq_nil_iff_forall_not_mem.mpr htoken] at hlen
    rw [List.length_eq_zero_iff.mp hlen.symm] at hnonempty
    exact hnonempty rfl
  simp only [consentOf,bind_ok,raiseIf_ok,fetched_ok,not_lt]
  refine ⟨_,exact_ok.mpr ⟨rfl,.of_keys rfl⟩,basis,?_,grant,?_,(sortedStrings tokens.dedup).map .str,?_,(),?_,
    sortedStrings tokens.dedup,tokens_again htext htokens hscope,(),?_,?_⟩
  · simpa [item,Value.fieldOr] using choice_again htext hbasis
  · simpa [item,Value.fieldOr] using consentGrant_again htext hgrant
  · simp [item,Value.fieldOr,itemsOf]
  · rw [List.isEmpty_iff,List.map_eq_nil_iff,← List.length_eq_zero_iff,hlength,
      List.length_eq_zero_iff]
    exact hsome
  · rw [List.Nodup.dedup hnodup,hlength]
    exact hshort
  · rw [List.Nodup.dedup hnodup,sortedStrings_congr (sortedStrings_perm _)]
    rfl

end Fields

section Forbidden

mutual

/-- No key of the value, at any depth, has a forbidden normal form, and nothing in it is binary. -/
def Clean (rt : Runtime) : Value → Prop
  | .map entries => CleanEntries rt entries
  | .list items => CleanItems rt items
  | .bin _ => False
  | _ => True

def CleanEntries (rt : Runtime) : List (Value × Value) → Prop
  | [] => True
  | (key,child) :: entries =>
    normalized rt key ∉ forbiddenKeys ∧ Clean rt child ∧ CleanEntries rt entries

def CleanItems (rt : Runtime) : List Value → Prop
  | [] => True
  | child :: items => Clean rt child ∧ CleanItems rt items

end

theorem clean_map {es : Fields} : Clean rt (.map es) ↔
    ∀ e ∈ es, normalized rt e.1 ∉ forbiddenKeys ∧ Clean rt e.2 := by
  rw [Clean]
  induction es with
  | nil => simp [CleanEntries]
  | cons e es ih =>
    obtain ⟨key,child⟩ := e
    rw [CleanEntries,ih,List.forall_mem_cons,and_assoc]

theorem clean_list {vs : List Value} : Clean rt (.list vs) ↔ ∀ v ∈ vs, Clean rt v := by
  rw [Clean]
  induction vs with
  | nil => simp [CleanItems]
  | cons v vs ih => rw [CleanItems,ih,List.forall_mem_cons]

/-- `_reject_forbidden` raises nothing exactly for the clean values. -/
theorem rejectForbidden_iff (v : Value) (path : String) :
    rejectForbidden rt path v = .ok () ↔ Clean rt v := by
  induction v using Value.nested generalizing path with
  | scalar v hlist hmap =>
    cases v with
    | list vs => exact absurd rfl (hlist vs)
    | map es => exact absurd rfl (hmap es)
    | bin b => simp [rejectForbidden,Clean]
    | _ => simp [rejectForbidden,Clean]
  | list vs ih =>
    rw [rejectForbidden,Clean]
    generalize 0 = index
    induction vs generalizing index with
    | nil => simp [rejectForbiddenItems,CleanItems]
    | cons v vs ihs =>
      obtain ⟨hv,hvs⟩ := List.forall_mem_cons.mp ih
      simp only [rejectForbiddenItems,CleanItems,bind_ok,hv]
      simp only [ihs hvs,exists_const]
  | map es ih =>
    rw [rejectForbidden,Clean]
    induction es with
    | nil => simp [rejectForbiddenEntries,CleanEntries]
    | cons e es ihs =>
      obtain ⟨key,child⟩ := e
      obtain ⟨hv,hvs⟩ := List.forall_mem_cons.mp ih
      simp only [rejectForbiddenEntries,CleanEntries,bind_ok,raiseIf_ok]
      constructor
      · rintro ⟨_,hkey,_,hchild,hrest⟩
        exact ⟨hkey,(hv _).mp hchild,(ihs hvs).mp hrest⟩
      · rintro ⟨hkey,hchild,hrest⟩
        exact ⟨(),hkey,(),(hv _).mpr hchild,(ihs hvs).mpr hrest⟩

end Forbidden

section Values

variable (htext : ∀ s, rt.str (.str s) = s)

theorem batteryValue_again {w : Value} (h : batteryValue v = .ok w) : batteryValue w = .ok w := by
  simp only [batteryValue,bind_ok,raiseIf_ok,integer_ok] at h
  obtain ⟨fields,-,percent,⟨-,hpercent⟩,_,hbounds,hval⟩ := h
  obtain rfl := Except.ok.inj hval
  simp only [batteryValue,bind_ok,raiseIf_ok,integer_ok]
  refine ⟨_,exact_ok.mpr ⟨rfl,.of_keys rfl⟩,percent,⟨?_,hpercent⟩,(),?_,?_⟩
  · simp [item,Value.fieldOr]
  · simpa [item,Value.fieldOr] using hbounds
  · simp [item,Value.fieldOr,pure,Except.pure]

theorem categoryDuration_ok {e : Value × Value} {p : String × Value}
    (h : categoryDuration rt e = .ok p) : capabilityToken rt "app category" e.1 = .ok p.1 ∧
      ∃ i, p.2 = .int i ∧ 0 ≤ i := by
  simp only [categoryDuration,bind_ok,integer_ok] at h
  obtain ⟨category,hcategory,duration,⟨-,hduration⟩,hval⟩ := h
  obtain rfl := Except.ok.inj hval
  exact ⟨hcategory,duration,rfl,hduration⟩

theorem textEntries_map (es : List (String × Value)) :
    textEntries es = es.map fun e => ((.str e.1,e.2) : Value × Value) := rfl

/-- Entries read into a dictionary are read again from the sorted dictionary. -/
theorem entries_again {f : Value × Value → Result (String × Value)} {es : Fields}
    {ps : List (String × Value)} (h : es.mapM f = .ok ps)
    (hf : ∀ e p, f e = .ok p → f (.str p.1,p.2) = .ok p) :
    (textEntries (sortedDict ps)).mapM f = .ok (sortedDict ps) := by
  refine mapM_fixed (g := fun p : String × Value => ((.str p.1,p.2) : Value × Value)) fun p hp => ?_
  obtain ⟨e,-,he⟩ := mem_mapM h (mem_sortedDict hp)
  exact hf e p he

theorem metricValues_forall₂ {vs ws : List Value} : metricValues rt vs = .ok ws ↔
    List.Forall₂ (fun v w => metricValue rt v = .ok w) vs ws := by
  have hmap : metricValues rt vs = vs.mapM (metricValue rt) := by
    induction vs with
    | nil => rfl
    | cons v vs ih => rw [metricValues,ih,List.mapM_cons]
  rw [hmap,mapM_forall₂]

include htext

theorem networkValue_again {w : Value} (h : networkValue rt v = .ok w) :
    networkValue rt w = .ok w := by
  simp only [networkValue,bind_ok,raiseIf_ok] at h
  obtain ⟨fields,-,transport,htransport,_,hmetered,hval⟩ := h
  obtain rfl := Except.ok.inj hval
  simp only [networkValue,bind_ok,raiseIf_ok]
  refine ⟨_,exact_ok.mpr ⟨rfl,.of_keys rfl⟩,transport,?_,(),?_,?_⟩
  · simpa [item,Value.fieldOr] using choice_again htext htransport
  · simpa [item,Value.fieldOr] using hmetered
  · simp [item,Value.fieldOr,pure,Except.pure]

theorem presenceValue_again {w : Value} (h : presenceValue rt v = .ok w) :
    presenceValue rt w = .ok w := by
  simp only [presenceValue,bind_ok] at h
  obtain ⟨fields,-,state,hstate,hval⟩ := h
  obtain rfl := Except.ok.inj hval
  simp only [presenceValue,bind_ok]
  refine ⟨_,exact_ok.mpr ⟨rfl,.of_keys rfl⟩,state,?_,rfl⟩
  · simpa [item,Value.fieldOr] using choice_again htext hstate

theorem selfReportValue_again {w : Value} (h : selfReportValue rt v = .ok w) :
    selfReportValue rt w = .ok w := by
  simp only [selfReportValue,bind_ok,raiseIf_ok] at h
  obtain ⟨fields,-,_,-,report,hreport,hval⟩ := h
  obtain rfl := Except.ok.inj hval
  simp only [selfReportValue,bind_ok,raiseIf_ok]
  refine ⟨_,exact_ok.mpr ⟨rfl,.of_keys rfl⟩,(),?_,report,?_,rfl⟩
  · simp [item,Value.fieldOr,Value.isStr]
  · simpa [item,Value.fieldOr] using text_again htext _ hreport

theorem appWindowValue_again {w : Value} (h : appWindowValue rt v = .ok w) :
    appWindowValue rt w = .ok w := by
  simp only [appWindowValue,bind_ok,raiseIf_ok,fetched_ok,integer_ok,not_lt] at h
  obtain ⟨fields,-,entries,-,_,hnonempty,_,hshort,durations,hdurations,switches,⟨-,hswitches⟩,
    hval⟩ := h
  obtain rfl := Except.ok.inj hval
  have hlength : (sortedDict durations).length = (dictOf durations).length :=
    (sortedDict_perm durations).length_eq
  obtain ⟨-,-,hle,hsome⟩ := dictOf_spec durations
  have hread := mapM_length hdurations
  have hagain : (textEntries (sortedDict durations)).mapM (categoryDuration rt) =
      .ok (sortedDict durations) := by
    refine entries_again hdurations fun e p hp => ?_
    obtain ⟨hcategory,i,hi,hnonneg⟩ := categoryDuration_ok hp
    simp only [categoryDuration,bind_ok,integer_ok]
    refine ⟨p.1,capabilityToken_again htext _ hcategory,i,⟨hi,hnonneg⟩,?_⟩
    rw [← hi]
    rfl
  simp only [appWindowValue,bind_ok,raiseIf_ok,fetched_ok,integer_ok,not_lt]
  refine ⟨_,exact_ok.mpr ⟨rfl,.of_keys rfl⟩,textEntries (sortedDict durations),?_,(),?_,(),?_,
    sortedDict durations,hagain,switches,⟨?_,hswitches⟩,?_⟩
  · simp [item,Value.fieldOr,Value.asMap]
  · rw [List.isEmpty_iff,textEntries_map,List.map_eq_nil_iff,← List.length_eq_zero_iff,hlength,
      List.length_eq_zero_iff]
    apply hsome
    rintro rfl
    rw [List.length_nil] at hread
    rw [List.length_eq_zero_iff.mp hread.symm] at hnonempty
    exact hnonempty rfl
  · rw [textEntries_map,List.length_map,hlength]
    omega
  · simp [item,Value.fieldOr]
  · rw [sortedDict_again]
    rfl

theorem observationValue_again {type : String} {w : Value}
    (h : observationValue rt type v = .ok w) : observationValue rt type w = .ok w := by
  unfold observationValue at h ⊢
  split_ifs at h ⊢
  · exact batteryValue_again h
  · exact networkValue_again htext h
  · exact presenceValue_again htext h
  · exact selfReportValue_again htext h
  · exact appWindowValue_again htext h

theorem observation_again {o : Observation} (h : observation rt v = .ok o) :
    observation rt o.toValue = .ok o := by
  simp only [observation,bind_ok,timestamp,integer_ok] at h
  obtain ⟨fields,-,type,htype,id,hid,observed,⟨-,hobserved⟩,value,hvalue,_,hclean,hval⟩ := h
  obtain rfl := Except.ok.inj hval
  simp only [observation,bind_ok,timestamp,integer_ok]
  refine ⟨_,exact_ok.mpr ⟨rfl,.of_keys rfl⟩,type,?_,id,?_,observed,⟨?_,hobserved⟩,value,?_,(),hclean,rfl⟩
  · simpa [item,Value.fieldOr] using choice_again htext htype
  · simpa [item,Value.fieldOr] using identifier_again htext _ hid
  · simp [item,Value.fieldOr]
  · simpa [item,Value.fieldOr] using observationValue_again htext hvalue

theorem responseOption_again {o : ResponseOption} (h : responseOption rt v = .ok o) :
    responseOption rt o.toValue = .ok o := by
  simp only [responseOption,bind_ok] at h
  obtain ⟨fields,-,actionId,hid,label,hlabel,hval⟩ := h
  obtain rfl := Except.ok.inj hval
  simp only [responseOption,bind_ok]
  refine ⟨_,exact_ok.mpr ⟨rfl,.of_keys rfl⟩,actionId,?_,label,?_,rfl⟩
  · simpa [item,Value.fieldOr] using capabilityToken_again htext _ hid
  · simpa [item,Value.fieldOr] using text_again htext _ hlabel

/-- A metric is kept as it is when it is read again. -/
theorem metricValue_again (v : Value) {w : Value} (h : metricValue rt v = .ok w) :
    metricValue rt w = .ok w := by
  induction v using Value.nested generalizing w with
  | scalar v hlist hmap =>
    cases v with
    | list vs => exact absurd rfl (hlist vs)
    | map es => exact absurd rfl (hmap es)
    | bin b => cases h
    | float bits =>
      simp only [metricValue,bind_ok,raiseIf_ok,not_not] at h
      obtain ⟨_,hfinite,hval⟩ := h
      obtain rfl := Except.ok.inj hval
      simp only [metricValue,bind_ok,raiseIf_ok,not_not]
      exact ⟨(),hfinite,rfl⟩
    | str s =>
      simp only [metricValue,bind_ok] at h
      obtain ⟨normal,hnormal,hval⟩ := h
      obtain rfl := Except.ok.inj hval
      simp only [metricValue,bind_ok]
      exact ⟨normal,text_again htext _ hnormal,rfl⟩
    | nil => exact Except.ok.inj h ▸ h
    | bool b => exact Except.ok.inj h ▸ h
    | int i => exact Except.ok.inj h ▸ h
  | list vs ih =>
    simp only [metricValue,bind_ok,raiseIf_ok,metricValues_forall₂] at h
    obtain ⟨_,hshort,ws,hws,hval⟩ := h
    obtain rfl := Except.ok.inj hval
    simp only [metricValue,bind_ok,raiseIf_ok,metricValues_forall₂]
    refine ⟨(),hws.length_eq ▸ hshort,ws,?_,rfl⟩
    rw [List.forall₂_same]
    intro w hw
    obtain ⟨v,hv,hvw⟩ : ∃ v ∈ vs, metricValue rt v = .ok w :=
      mem_mapM (mapM_forall₂.mpr hws) hw
    exact ih v hv hvw
  | map es ih => cases h

end Values

end Anet.CompanionProtocol
