import Anet.RelationshipClaims

/-! Books that receive the same claims and withdrawals end with the same content, whatever the
order; and a book is read back as it was saved. -/
namespace Anet.RelationshipClaims

open Packet (need)

namespace Dict

variable {α : Type} {d : Dict α}

theorem mem_of_get {k : String} {v : α} (h : d.get k = some v) : (k,v) ∈ d := by
  obtain ⟨e,he,rfl⟩ := Option.map_eq_some_iff.mp h
  have hkey : e.1 = k := by simpa using List.find?_some he
  rw [← hkey]
  exact List.mem_of_find?_eq_some he

theorem get_of_mem (hnodup : (d.map Prod.fst).Nodup) {k : String} {v : α} (h : (k,v) ∈ d) :
    d.get k = some v := by
  cases hget : d.get k with
  | none =>
    have hnone := Option.map_eq_none_iff.mp hget
    have hne := List.find?_eq_none.mp hnone (k,v) h
    simp at hne
  | some v' =>
    have hsame := List.inj_on_of_nodup_map hnodup (mem_of_get hget) h rfl
    simpa using congrArg Prod.snd hsame

theorem get_append (d : Dict α) (k : String) (v : α) (k' : String) :
    (d ++ [(k,v)]).get k' = (d.get k').or (if k = k' then some v else none) := by
  unfold get
  rw [List.find?_append,Option.map_or]
  by_cases hk : k = k' <;> simp [hk]

theorem get_none_iff {k : String} : d.get k = none ↔ k ∉ d.map Prod.fst := by
  unfold get
  rw [Option.map_eq_none_iff,List.find?_eq_none]
  constructor
  · rintro h hk
    obtain ⟨e,he,rfl⟩ := List.mem_map.mp hk
    simpa using h e he
  · intro h e he
    have hne : e.1 ≠ k := fun heq => h (heq ▸ List.mem_map_of_mem he)
    simpa using hne

/-- The entries in the order of their keys. -/
def sortedEntries (d : Dict α) : Dict α :=
  (sortedStrings (d.map Prod.fst)).filterMap fun k => (d.get k).map fun v => (k,v)

theorem sortedEntries_values (d : Dict α) : d.sortedEntries.map Prod.snd = d.sortedValues := by
  unfold sortedEntries sortedValues
  rw [List.map_filterMap]
  congr 1
  funext k
  cases d.get k <;> rfl

theorem mem_sortedEntries {k : String} {v : α} : (k,v) ∈ d.sortedEntries ↔ d.get k = some v := by
  simp only [sortedEntries,List.mem_filterMap,Option.map_eq_some_iff,Prod.mk.injEq]
  constructor
  · rintro ⟨k',-,v',hget,rfl,rfl⟩
    exact hget
  · intro h
    refine ⟨k,?_,v,h,rfl,rfl⟩
    unfold sortedStrings
    rw [(List.perm_insertionSort _ _).mem_iff]
    exact List.mem_map_of_mem (mem_of_get h)

theorem keys_filterMap (f : String → Option α) (ks : List String) :
    (((ks.filterMap fun k => (f k).map fun v => (k,v)) : Dict α).map Prod.fst).Sublist ks := by
  induction ks with
  | nil => exact List.Sublist.refl _
  | cons k ks ih =>
    cases hf : f k with
    | none => simpa [hf] using ih.trans (List.sublist_cons_self k ks)
    | some v => simpa [hf] using ih

theorem sortedEntries_nodup (hnodup : (d.map Prod.fst).Nodup) :
    (d.sortedEntries.map Prod.fst).Nodup := by
  refine List.Nodup.sublist (keys_filterMap d.get _) ?_
  unfold sortedStrings
  exact ((List.perm_insertionSort _ _).nodup_iff).mpr hnodup

theorem get_sortedEntries (hnodup : (d.map Prod.fst).Nodup) (k : String) :
    d.sortedEntries.get k = d.get k := by
  apply Option.ext
  intro v
  constructor
  · exact fun h => mem_sortedEntries.mp (mem_of_get h)
  · exact fun h => get_of_mem (sortedEntries_nodup hnodup) (mem_sortedEntries.mpr h)

/-- Rows with ids of their own make the dictionary of them. -/
theorem ofRows_entries {key : α → Result String} {duplicate : PyError} (rows acc : Dict α)
    (hkeys : ∀ e ∈ rows, key e.2 = .ok e.1) (hnodup : ((acc ++ rows).map Prod.fst).Nodup) :
    ofRows key duplicate (rows.map Prod.snd) acc = .ok (acc ++ rows) := by
  induction rows generalizing acc with
  | nil => simp [ofRows]
  | cons e rows ih =>
    have hfresh : acc.get e.1 = none := by
      rw [get_none_iff]
      intro hmem
      rw [List.map_append,List.nodup_append] at hnodup
      exact hnodup.2.2 e.1 hmem e.1 (by simp) rfl
    have hrest := ih (acc ++ [e]) (fun x hx => hkeys x (List.mem_cons_of_mem _ hx)) (by simpa using hnodup)
    rw [List.append_assoc,List.singleton_append] at hrest
    simp only [List.map_cons,ofRows]
    exact bind_ok.mpr ⟨e.1,hkeys e (List.mem_cons_self ..),
      bind_ok.mpr ⟨(),by simp [hfresh],hrest⟩⟩

end Dict

/-- The conversions of the interpreter on values of the expected type. -/
structure ReadLaws (rt : Runtime) : Prop where
  str_text : ∀ s, rt.str (.str s) = s
  int_int : ∀ i, rt.int (.int i) = .ok i
  list_list : ∀ l, rt.list (.list l) = .ok l
  dict_map : ∀ e, rt.dict (.map e) = .ok e

variable {lib : ClaimLibrary}

theorem bytesField_b64e (laws : ReadLaws lib.rt) (b : Bytes) :
    bytesField lib (.str (b64e b)) = .ok b := by
  simp [bytesField,laws.str_text,b64d_b64e]

theorem map_str (laws : ReadLaws lib.rt) (l : List String) :
    (l.map Value.str).map lib.rt.str = l := by
  rw [List.map_map]
  conv_rhs => rw [← List.map_id l]
  exact List.map_congr_left fun s _ => laws.str_text s

theorem cardFromDict_cardDict (laws : ReadLaws lib.rt) {card : PeerCard}
    (hverify : card.verify lib.rt lib.crypto lib.urls = .ok ()) :
    cardFromDict lib (cardDict card) = .ok card := by
  simp [cardFromDict,cardDict,laws.dict_map,laws.int_int,laws.list_list,laws.str_text,need,
    Value.fieldOr,bytesField_b64e laws,map_str laws,hverify,bind,Except.bind,pure,
    Except.pure]

theorem labelList_str (labels : List String) :
    RelationshipProposal.labelList (.list (labels.map .str)) = .ok labels := by
  unfold RelationshipProposal.labelList
  induction labels with
  | nil => rfl
  | cons s labels ih =>
    simp only [List.map_cons,List.mapM_cons]
    exact bind_ok.mpr ⟨s,rfl,bind_ok.mpr ⟨labels,ih,rfl⟩⟩

theorem proposal_roundTrip (laws : ReadLaws lib.rt) {p : RelationshipProposal}
    (hcard : p.proposerCard.verify lib.rt lib.crypto lib.urls = .ok ()) :
    RelationshipProposal.fromDict lib p.toDict = .ok p := by
  unfold RelationshipProposal.fromDict
  refine bind_ok.mpr ⟨_,laws.dict_map _,bind_ok.mpr ⟨(),expectFields_of_keys
    RelationshipProposal.fieldNames rfl ⟨List.Subset.refl _,List.Subset.refl _⟩,?_⟩⟩
  simp [laws.int_int,laws.str_text,need,bytesField_b64e laws,labelList_str,
    cardFromDict_cardDict laws hcard,bind,Except.bind,pure,Except.pure]

/-- The cards in a proposal that verifies do. -/
theorem proposal_card {p : RelationshipProposal} {now : ℤ} {active : Bool}
    (h : p.verify lib now active = .ok ()) :
    p.proposerCard.verify lib.rt lib.crypto lib.urls = .ok () := by
  simp only [RelationshipProposal.verify,bind_ok] at h
  obtain ⟨_,_,_,_,_,hcard,_⟩ := h
  exact hcard

theorem claim_cards {c : MutualRelationshipClaim} {now : ℤ} (h : c.verify lib now = .ok ()) :
    c.proposal.proposerCard.verify lib.rt lib.crypto lib.urls = .ok () ∧
      c.accepterCard.verify lib.rt lib.crypto lib.urls = .ok () := by
  simp only [MutualRelationshipClaim.verify,bind_ok] at h
  obtain ⟨_,_,_,hproposal,_,_,_,_,_,hcard,_⟩ := h
  exact ⟨proposal_card hproposal,hcard⟩

theorem claim_roundTrip (laws : ReadLaws lib.rt) {c : MutualRelationshipClaim} {now : ℤ}
    (h : c.verify lib now = .ok ()) : MutualRelationshipClaim.fromDict lib c.toDict = .ok c := by
  obtain ⟨hproposer,haccepter⟩ := claim_cards h
  unfold MutualRelationshipClaim.fromDict
  refine bind_ok.mpr ⟨_,laws.dict_map _,bind_ok.mpr ⟨(),expectFields_of_keys
    MutualRelationshipClaim.fieldNames rfl ⟨List.Subset.refl _,List.Subset.refl _⟩,?_⟩⟩
  simp [laws.int_int,laws.str_text,need,bytesField_b64e laws,
    proposal_roundTrip laws hproposer,cardFromDict_cardDict laws haccepter,bind,Except.bind,pure,
    Except.pure]

theorem withdrawal_roundTrip (laws : ReadLaws lib.rt) {w : RelationshipClaimWithdrawal}
    {c : MutualRelationshipClaim} {now : ℤ} (h : w.verify lib c now = .ok ()) :
    RelationshipClaimWithdrawal.fromDict lib w.toDict = .ok w := by
  simp only [RelationshipClaimWithdrawal.verify,bind_ok] at h
  obtain ⟨_,_,_,_,_,_,_,_,_,_,_,_,_,hcard,_⟩ := h
  unfold RelationshipClaimWithdrawal.fromDict
  refine bind_ok.mpr ⟨_,laws.dict_map _,bind_ok.mpr ⟨(),expectFields_of_keys
    RelationshipClaimWithdrawal.fieldNames rfl ⟨List.Subset.refl _,List.Subset.refl _⟩,?_⟩⟩
  simp [laws.int_int,laws.str_text,need,bytesField_b64e laws,
    cardFromDict_cardDict laws hcard,bind,Except.bind,pure,Except.pure]

section Clock

variable {t t' : ℤ}

theorem window_later {createdMs expiresMs : ℤ}
    (h : validateWindow createdMs expiresMs t false = .ok ()) (hle : t ≤ t') :
    validateWindow createdMs expiresMs t' false = .ok () := by
  simp only [validateWindow,bind_ok,raiseIf_ok] at h ⊢
  obtain ⟨_,hwindow,_,hlong,_,hnew,-⟩ := h
  exact ⟨(),hwindow,(),hlong,(),by omega,by simp⟩

/-- A claim that verifies verifies from then on. -/
theorem claim_later {c : MutualRelationshipClaim} (h : c.verify lib t = .ok ()) (hle : t ≤ t') :
    c.verify lib t' = .ok () := by
  simp only [MutualRelationshipClaim.verify,RelationshipProposal.verify,bind_ok,raiseIf_ok] at h ⊢
  obtain ⟨a,ha,b,⟨u,hu,v,hv,x,hx,y,hy,z,hz,m,hm,n,hn,o,ho,p,hp,q,hq,r,hr⟩,d,hd,e,he,f,hf,g,hg,
    i,hi,j,hj,k,hk,l,hl⟩ := h
  exact ⟨a,ha,b,⟨u,hu,v,hv,x,hx,y,hy,z,hz,m,hm,n,hn,o,ho,p,hp,q,window_later hq hle,r,hr⟩,d,hd,e,he,
    f,hf,g,hg,i,hi,j,hj,k,by omega,l,hl⟩

theorem withdrawal_later {w : RelationshipClaimWithdrawal} {c : MutualRelationshipClaim}
    (h : w.verify lib c t = .ok ()) (hle : t ≤ t') : w.verify lib c t' = .ok () := by
  simp only [RelationshipClaimWithdrawal.verify,bind_ok,raiseIf_ok] at h ⊢
  obtain ⟨a,ha,b,hb,d,hd,e,he,f,hf,g,hg,i,hi,j,hj,k,hk,l,hl,m⟩ := h
  exact ⟨a,ha,b,hb,d,hd,e,claim_later he hle,f,hf,g,hg,i,hi,j,hj,k,hk,l,by omega,m⟩

end Clock

namespace RelationshipClaimBook

variable {b b' : RelationshipClaimBook} {t t' now : ℤ}

/-- What a book holds verifies at a time, under its own ids, each withdrawal with its claim. -/
structure Valid (lib : ClaimLibrary) (t : ℤ) (b : RelationshipClaimBook) : Prop where
  claimKeys : (b.claims.map Prod.fst).Nodup
  withdrawalKeys : (b.withdrawals.map Prod.fst).Nodup
  claims : ∀ e ∈ b.claims, e.2.claimId lib = .ok e.1 ∧ e.2.verify lib t = .ok ()
  withdrawals : ∀ e ∈ b.withdrawals, e.2.withdrawalId lib = .ok e.1 ∧
    ∃ c, b.claims.get e.2.claimId = some c ∧ e.2.verify lib c t = .ok ()

theorem Valid.empty (lib : ClaimLibrary) (t : ℤ) : Valid lib t empty := by
  constructor <;> simp [RelationshipClaimBook.empty]

theorem Valid.later (h : Valid lib t b) (hle : t ≤ t') : Valid lib t' b := by
  refine ⟨h.claimKeys,h.withdrawalKeys,fun e he => ?_,fun e he => ?_⟩
  · obtain ⟨hid,hverify⟩ := h.claims e he
    exact ⟨hid,claim_later hverify hle⟩
  · obtain ⟨hid,c,hc,hverify⟩ := h.withdrawals e he
    exact ⟨hid,c,hc,withdrawal_later hverify hle⟩

/-- Two books with the same content. -/
def Same (b b' : RelationshipClaimBook) : Prop :=
  (∀ id, b'.claims.get id = b.claims.get id) ∧ ∀ id, b'.withdrawals.get id = b.withdrawals.get id

theorem mapM_ok {α β γ : Type} {f : β → Result γ} {g : α → β} {k : α → γ} {l : List α}
    (h : ∀ a ∈ l, f (g a) = .ok (k a)) : (l.map g).mapM f = .ok (l.map k) := by
  induction l with
  | nil => rfl
  | cons a l ih =>
    simp only [List.map_cons,List.mapM_cons]
    exact bind_ok.mpr ⟨k a,h a (List.mem_cons_self ..),
      bind_ok.mpr ⟨l.map k,ih fun x hx => h x (List.mem_cons_of_mem _ hx),rfl⟩⟩

/-- The rows of a saved dictionary make the dictionary of its sorted entries. -/
theorem ofRows_sorted {α : Type} {d : Dict α} {key : α → Result String} (duplicate : PyError)
    (hnodup : (d.map Prod.fst).Nodup) (hkeys : ∀ e ∈ d, key e.2 = .ok e.1) :
    Dict.ofRows key duplicate d.sortedValues [] = .ok d.sortedEntries := by
  rw [← Dict.sortedEntries_values]
  refine Dict.ofRows_entries d.sortedEntries [] (fun e he => ?_) ?_
  · exact hkeys e (Dict.mem_of_get (Dict.mem_sortedEntries.mp he))
  · simpa using Dict.sortedEntries_nodup hnodup

theorem sortedValues_mem {α : Type} {d : Dict α} {v : α} (h : v ∈ d.sortedValues) :
    ∃ id, (id,v) ∈ d := by
  rw [← Dict.sortedEntries_values] at h
  obtain ⟨e,he,rfl⟩ := List.mem_map.mp h
  exact ⟨e.1,Dict.mem_of_get (Dict.mem_sortedEntries.mp he)⟩

theorem Valid.sorted (h : Valid lib t b) :
    Valid lib t ⟨b.claims.sortedEntries,b.withdrawals.sortedEntries⟩ := by
  refine ⟨Dict.sortedEntries_nodup h.claimKeys,Dict.sortedEntries_nodup h.withdrawalKeys,
    fun e he => h.claims e (Dict.mem_of_get (Dict.mem_sortedEntries.mp he)),fun e he => ?_⟩
  obtain ⟨hid,c,hc,hverify⟩ := h.withdrawals e (Dict.mem_of_get (Dict.mem_sortedEntries.mp he))
  exact ⟨hid,c,(Dict.get_sortedEntries h.claimKeys _).trans hc,hverify⟩

/-- A saved book is read back with the same content while its objects verify. -/
theorem Valid.reload (laws : ReadLaws lib.rt) (h : Valid lib now b) :
    ∃ b', RelationshipClaimBook.reload lib b.save now = .ok b' ∧ Same b b' ∧ Valid lib now b' := by
  refine ⟨⟨b.claims.sortedEntries,b.withdrawals.sortedEntries⟩,?_,
    ⟨Dict.get_sortedEntries h.claimKeys,Dict.get_sortedEntries h.withdrawalKeys⟩,h.sorted⟩
  have hclaims : (b.claims.sortedValues.map (·.toDict)).mapM (readClaim lib now) =
      .ok b.claims.sortedValues := by
    have hread : ∀ c ∈ b.claims.sortedValues, readClaim lib now c.toDict = .ok c := by
      intro c hc
      obtain ⟨id,hmem⟩ := sortedValues_mem hc
      have hverify := (h.claims _ hmem).2
      exact bind_ok.mpr ⟨c.toDict,rfl,bind_ok.mpr ⟨c,claim_roundTrip laws hverify,
        bind_ok.mpr ⟨(),hverify,rfl⟩⟩⟩
    simpa using mapM_ok hread
  have hwithdrawals : (b.withdrawals.sortedValues.map (·.toDict)).mapM
      (readWithdrawal lib now b.claims.sortedEntries) = .ok b.withdrawals.sortedValues := by
    have hread : ∀ w ∈ b.withdrawals.sortedValues,
        readWithdrawal lib now b.claims.sortedEntries w.toDict = .ok w := by
      intro w hw
      obtain ⟨id,hmem⟩ := sortedValues_mem hw
      obtain ⟨-,c,hc,hverify⟩ := h.withdrawals _ hmem
      have hfound : b.claims.sortedEntries.get w.claimId = some c := by
        rw [Dict.get_sortedEntries h.claimKeys]
        exact hc
      exact bind_ok.mpr ⟨w.toDict,rfl,bind_ok.mpr ⟨w,withdrawal_roundTrip laws hverify,
        bind_ok.mpr ⟨c,fetched_ok.mpr hfound,bind_ok.mpr ⟨(),hverify,rfl⟩⟩⟩⟩
    simpa using mapM_ok hread
  have hclaimRows := ofRows_sorted (.value "relationship claim book contains a duplicate")
    h.claimKeys fun e he => (h.claims e he).1
  have hwithdrawalRows := ofRows_sorted
    (.value "relationship claim book contains a duplicate withdrawal")
    h.withdrawalKeys fun e he => (h.withdrawals e he).1
  unfold RelationshipClaimBook.reload
  refine bind_ok.mpr ⟨_,rfl,bind_ok.mpr ⟨claimBookVersion,laws.int_int _,
    bind_ok.mpr ⟨(),raiseIf_ok.mpr (by simp),bind_ok.mpr ⟨_,rfl,bind_ok.mpr ⟨_,hclaims,
    bind_ok.mpr ⟨_,hclaimRows,?_⟩⟩⟩⟩⟩⟩
  exact bind_ok.mpr ⟨_,rfl,bind_ok.mpr ⟨_,hwithdrawals,bind_ok.mpr ⟨_,hwithdrawalRows,rfl⟩⟩⟩

theorem add_cases {c : MutualRelationshipClaim} {fresh : Bool}
    (h : b.add lib c now = .ok (fresh,b')) : c.verify lib now = .ok () ∧
      ∃ id, c.claimId lib = .ok id ∧
        (((∃ c', b.claims.get id = some c') ∧ b' = b) ∨
          (b.claims.get id = none ∧ b' = { b with claims := b.claims ++ [(id,c)] })) := by
  simp only [add,bind_ok] at h
  obtain ⟨_,hverify,id,hid,h⟩ := h
  refine ⟨hverify,id,hid,?_⟩
  split at h
  · next hsome =>
    cases h
    exact .inl ⟨Option.isSome_iff_exists.mp hsome,rfl⟩
  · next hnone =>
    cases h
    exact .inr ⟨by simpa using hnone,rfl⟩

theorem addWithdrawal_cases {w : RelationshipClaimWithdrawal} {fresh : Bool}
    (h : b.addWithdrawal lib w now = .ok (fresh,b')) :
    ∃ c id, b.claims.get w.claimId = some c ∧ w.verify lib c now = .ok () ∧
      w.withdrawalId lib = .ok id ∧
        (((∃ w', b.withdrawals.get id = some w') ∧ b' = b) ∨
          (b.withdrawals.get id = none ∧ b' = { b with withdrawals := b.withdrawals ++ [(id,w)] })) := by
  simp only [addWithdrawal,claim,bind_ok,fetched_ok] at h
  obtain ⟨found,⟨normal,hnormal,hfound⟩,c,rfl,_,hverify,id,hid,h⟩ := h
  have hc := Except.ok.inj hfound
  have hsame : w.claimId = normal := by
    have hv := hverify
    simp only [RelationshipClaimWithdrawal.verify,bind_ok,raiseIf_ok] at hv
    obtain ⟨_,_,normal',hnormal',_,heq,_⟩ := hv
    rw [hnormal] at hnormal'
    cases hnormal'
    simpa using heq
  rw [← hsame] at hc
  refine ⟨c,id,hc,hverify,hid,?_⟩
  split at h
  · next hsome =>
    cases h
    exact .inl ⟨Option.isSome_iff_exists.mp hsome,rfl⟩
  · next hnone =>
    cases h
    exact .inr ⟨by simpa using hnone,rfl⟩

theorem nodup_append_key {α : Type} {d : Dict α} {id : String} {v : α}
    (hnodup : (d.map Prod.fst).Nodup) (hnone : d.get id = none) :
    ((d ++ [(id,v)]).map Prod.fst).Nodup := by
  rw [List.map_append,List.nodup_append]
  refine ⟨hnodup,by simp,?_⟩
  rintro a ha b hb rfl
  rw [List.map_singleton,List.mem_singleton] at hb
  rw [hb] at ha
  exact Dict.get_none_iff.mp hnone ha

theorem get_append_old {α : Type} {d : Dict α} {id id' : String} {v v' : α}
    (h : d.get id' = some v') : (d ++ [(id,v)] : Dict α).get id' = some v' := by
  rw [Dict.get_append,h]
  rfl

theorem Valid.add (h : Valid lib t b) (hle : t ≤ now) {c : MutualRelationshipClaim} {fresh : Bool}
    (hadd : b.add lib c now = .ok (fresh,b')) : Valid lib now b' := by
  have hold := h.later hle
  obtain ⟨hverify,id,hid,⟨-,rfl⟩ | ⟨hnone,rfl⟩⟩ := add_cases hadd
  · exact hold
  · refine ⟨nodup_append_key hold.claimKeys hnone,hold.withdrawalKeys,fun e he => ?_,fun e he => ?_⟩
    · rcases List.mem_append.mp he with he | he
      · exact hold.claims e he
      · rw [List.mem_singleton.mp he]
        exact ⟨hid,hverify⟩
    · obtain ⟨hwid,c',hc',hv⟩ := hold.withdrawals e he
      exact ⟨hwid,c',get_append_old hc',hv⟩

theorem Valid.addWithdrawal (h : Valid lib t b) (hle : t ≤ now) {w : RelationshipClaimWithdrawal}
    {fresh : Bool} (hadd : b.addWithdrawal lib w now = .ok (fresh,b')) : Valid lib now b' := by
  have hold := h.later hle
  obtain ⟨c,id,hc,hverify,hid,⟨-,rfl⟩ | ⟨hnone,rfl⟩⟩ := addWithdrawal_cases hadd
  · exact hold
  · refine ⟨hold.claimKeys,nodup_append_key hold.withdrawalKeys hnone,hold.claims,fun e he => ?_⟩
    rcases List.mem_append.mp he with he | he
    · exact hold.withdrawals e he
    · rw [List.mem_singleton.mp he]
      exact ⟨hid,c,hc,hverify⟩

/-- A book that has lost nothing. -/
def Grows (b b' : RelationshipClaimBook) : Prop :=
  (∀ id c, b.claims.get id = some c → b'.claims.get id = some c) ∧
    ∀ id w, b.withdrawals.get id = some w → b'.withdrawals.get id = some w

theorem Grows.refl (b : RelationshipClaimBook) : Grows b b := ⟨fun _ _ h => h,fun _ _ h => h⟩

theorem Grows.trans {b'' : RelationshipClaimBook} (h : Grows b b') (h' : Grows b' b'') :
    Grows b b'' :=
  ⟨fun id c hc => h'.1 id c (h.1 id c hc),fun id w hw => h'.2 id w (h.2 id w hw)⟩

theorem Same.grows (h : Same b b') : Grows b b' :=
  ⟨fun id _ hc => (h.1 id).trans hc,fun id _ hw => (h.2 id).trans hw⟩

theorem Same.symm (h : Same b b') : Same b' b := ⟨fun id => (h.1 id).symm,fun id => (h.2 id).symm⟩

theorem add_grows {c : MutualRelationshipClaim} {fresh : Bool}
    (h : b.add lib c now = .ok (fresh,b')) : Grows b b' := by
  obtain ⟨-,id,-,⟨-,rfl⟩ | ⟨-,rfl⟩⟩ := add_cases h
  · exact .refl b'
  · exact ⟨fun _ _ hc => get_append_old hc,fun _ _ hw => hw⟩

theorem addWithdrawal_grows {w : RelationshipClaimWithdrawal} {fresh : Bool}
    (h : b.addWithdrawal lib w now = .ok (fresh,b')) : Grows b b' := by
  obtain ⟨c,id,-,-,-,⟨-,rfl⟩ | ⟨-,rfl⟩⟩ := addWithdrawal_cases h
  · exact .refl b'
  · exact ⟨fun _ _ hc => hc,fun _ _ hw => get_append_old hw⟩

theorem mem_sortedValues {α : Type} {d : Dict α} {v : α} :
    v ∈ d.sortedValues ↔ ∃ id, d.get id = some v := by
  rw [← Dict.sortedEntries_values]
  constructor
  · intro h
    obtain ⟨e,he,rfl⟩ := List.mem_map.mp h
    exact ⟨e.1,Dict.mem_sortedEntries.mp he⟩
  · rintro ⟨id,hid⟩
    exact List.mem_map_of_mem (Dict.mem_sortedEntries.mpr hid)

/-- A claim is inactive when the book has it and a withdrawal of it. -/
theorem isActive_false {claimId : String} : b.isActive claimId = .ok false ↔
    ∃ id c, claimIdText claimId = .ok id ∧ b.claims.get id = some c ∧
      ∃ wid w, b.withdrawals.get wid = some w ∧ w.claimId = id := by
  simp only [isActive,claim,withdrawalsFor,bind_ok,fetched_ok]
  constructor
  · rintro ⟨found,⟨id,hid,hfound⟩,c,rfl,ws,⟨id',hid',hws⟩,hempty⟩
    rw [hid] at hid'
    cases hid'
    cases hws
    refine ⟨id,c,hid,Except.ok.inj hfound,?_⟩
    have hfilter := Except.ok.inj hempty
    rw [List.isEmpty_eq_false_iff_exists_mem] at hfilter
    obtain ⟨w,hw⟩ := hfilter
    rw [List.mem_filter,mem_sortedValues] at hw
    obtain ⟨⟨wid,hwid⟩,hclaim⟩ := hw
    exact ⟨wid,w,hwid,by simpa using hclaim⟩
  · rintro ⟨id,c,hid,hc,wid,w,hw,rfl⟩
    refine ⟨some c,⟨w.claimId,hid,by rw [hc]; rfl⟩,c,rfl,_,⟨w.claimId,hid,rfl⟩,?_⟩
    refine congrArg Except.ok ?_
    rw [List.isEmpty_eq_false_iff_exists_mem]
    exact ⟨w,List.mem_filter.mpr ⟨mem_sortedValues.mpr ⟨wid,hw⟩,by simp⟩⟩

theorem isActive_grows {claimId : String} (h : Grows b b') (hfalse : b.isActive claimId = .ok false) :
    b'.isActive claimId = .ok false := by
  obtain ⟨id,c,hid,hc,wid,w,hw,hclaim⟩ := isActive_false.mp hfalse
  exact isActive_false.mpr ⟨id,c,hid,h.1 id c hc,wid,w,h.2 wid w hw,hclaim⟩

theorem isActive_cases (b : RelationshipClaimBook) (claimId : String) :
    (∃ e, claimIdText claimId = .error e ∧ b.isActive claimId = .error e) ∨
      ∃ id, claimIdText claimId = .ok id ∧ ((b.claims.get id = none ∧ b.isActive claimId =
        .error (.value "relationship claim is not stored")) ∨
        ∃ active, b.isActive claimId = .ok active ∧ b.claims.get id ≠ none) := by
  unfold isActive claim withdrawalsFor
  cases hid : claimIdText claimId with
  | error e => exact .inl ⟨e,rfl,rfl⟩
  | ok id =>
    refine .inr ⟨id,rfl,?_⟩
    cases hc : b.claims.get id with
    | none => exact .inl ⟨rfl,by simp [bind,Except.bind,pure,Except.pure,hc,fetched]⟩
    | some c =>
      refine .inr ⟨(b.withdrawals.sortedValues.filter fun w => w.claimId = id).isEmpty,?_,by simp⟩
      simp [bind,Except.bind,pure,Except.pure,hc,fetched]

/-- The status of a claim depends on the content of the book. -/
theorem isActive_same (h : Same b b') (claimId : String) :
    b'.isActive claimId = b.isActive claimId := by
  rcases isActive_cases b claimId with ⟨e,he,hb⟩ | ⟨id,hid,⟨hnone,hb⟩ | ⟨active,hb,hsome⟩⟩
  · rcases isActive_cases b' claimId with ⟨e',he',hb'⟩ | ⟨id',hid',-⟩
    · rw [he] at he'
      cases he'
      rw [hb,hb']
    · rw [he] at hid'
      cases hid'
  · rcases isActive_cases b' claimId with ⟨e',he',-⟩ | ⟨id',hid',⟨-,hb'⟩ | ⟨-,-,hsome'⟩⟩
    · rw [hid] at he'
      cases he'
    · rw [hb,hb']
    · rw [hid] at hid'
      cases hid'
      rw [h.1] at hsome'
      exact absurd hnone hsome'
  · rcases isActive_cases b' claimId with ⟨e',he',-⟩ | ⟨id',hid',⟨hnone',-⟩ | ⟨active',hb',-⟩⟩
    · rw [hid] at he'
      cases he'
    · rw [hid] at hid'
      cases hid'
      rw [h.1] at hnone'
      exact absurd hnone' hsome
    · rw [hb,hb']
      cases active with
      | false =>
        have hfalse := isActive_grows h.grows hb
        rw [hb'] at hfalse
        exact hfalse
      | true =>
        cases active' with
        | false =>
          have hfalse := isActive_grows h.symm.grows hb'
          rw [hb] at hfalse
          cases hfalse
        | true => rfl

/-- Calls on a book under a clock that does not go back. -/
inductive Step (lib : ClaimLibrary) : ℤ × RelationshipClaimBook → ℤ × RelationshipClaimBook → Prop
  | add (t now : ℤ) (b b' : RelationshipClaimBook) (c : MutualRelationshipClaim) (fresh : Bool)
      (hle : t ≤ now) (h : b.add lib c now = .ok (fresh,b')) : Step lib (t,b) (now,b')
  | addWithdrawal (t now : ℤ) (b b' : RelationshipClaimBook) (w : RelationshipClaimWithdrawal)
      (fresh : Bool) (hle : t ≤ now) (h : b.addWithdrawal lib w now = .ok (fresh,b')) :
      Step lib (t,b) (now,b')
  | reload (t now : ℤ) (b b' : RelationshipClaimBook) (hle : t ≤ now)
      (h : RelationshipClaimBook.reload lib b.save now = .ok b') : Step lib (t,b) (now,b')

theorem Valid.step (laws : ReadLaws lib.rt) {s s' : ℤ × RelationshipClaimBook}
    (h : Valid lib s.1 s.2) (hstep : Step lib s s') : Valid lib s'.1 s'.2 ∧ Grows s.2 s'.2 := by
  cases hstep with
  | add t now b b' c fresh hle hadd => exact ⟨h.add hle hadd,add_grows hadd⟩
  | addWithdrawal t now b b' w fresh hle hadd =>
    exact ⟨h.addWithdrawal hle hadd,addWithdrawal_grows hadd⟩
  | reload t now b b' hle hreload =>
    obtain ⟨read,hread,hsame,hvalid⟩ := (h.later hle).reload laws
    rw [hreload] at hread
    cases hread
    exact ⟨hvalid,hsame.grows⟩

theorem Valid.run (laws : ReadLaws lib.rt) {s s' : ℤ × RelationshipClaimBook}
    (h : Valid lib s.1 s.2) (hrun : Reaches (Step lib) s s') :
    Valid lib s'.1 s'.2 ∧ Grows s.2 s'.2 := by
  have hkept : ∀ x y, Valid lib x.1 x.2 → Step lib x y → Valid lib y.1 y.2 :=
    fun x y hx hstep => (hx.step laws hstep).1
  exact ⟨Reaches.invariant (I := fun x => Valid lib x.1 x.2) hkept h hrun,
    Reaches.preorder (I := fun x => Valid lib x.1 x.2) (R := fun x y => Grows x.2 y.2)
      (fun x => .refl x.2) (fun _ _ _ => Grows.trans) hkept
      (fun x y hx hstep => (hx.step laws hstep).2) h hrun⟩

end RelationshipClaimBook
end Anet.RelationshipClaims
