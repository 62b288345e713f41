import Anet.CompanionKinds

/-! What validating a companion message gives is its own normal form, whatever the spelling of the
ids in it, holds nothing that is forbidden, and is short where its fields are. -/
namespace Anet.CompanionProtocol

variable {rt : Runtime} {v : Value} {c : ℤ} {ns : List (String × Value)} {get get' : String → Value}

/-- The bytes of a map whose entries are of known names and sizes. -/
def entriesSize (sizes : List (String × ℕ)) : ℕ :=
  (sizes.map fun p => 5 + 4 * p.1.toList.length + p.2).sum

/-- The fields of the base that have a bounded size. -/
def baseSizes : List (String × ℕ) :=
  [("protocol",5 + 4 * 16),("version",9),("object_type",5 + 4 * 20),("created_ms",9),("expires_ms",9)]

/-- How a kind of messages reads its fields: each of its names once, apart from those of the base and
allowed, by a lawful reader, and how long all of them can be together. -/
structure Normal (rt : Runtime) (k : MessageKind) (readers : ℤ → List Reader) (size : ℕ) : Prop where
  names : ∀ c, (readers c).map Reader.name = k.additional
  apart : k.additional.Nodup ∧ ∀ name ∈ k.baseNames, name ∉ k.additional
  allowed : ∀ name ∈ k.baseNames ++ k.additional, lower (strip name) ∉ forbiddenKeys
  read : ReadBy rt k readers
  lawful : ∀ c, ∀ r ∈ readers c, r.Lawful rt
  metrics : ∀ c, ∀ r ∈ readers c, r.name = "metrics" → r = metricsReader rt
  objectType : k.objectType.toList.length ≤ 20
  size : ∀ c, entriesSize (baseSizes ++ (readers c).map fun r => (r.name,r.bound)) ≤ size

section Projection

variable {k : MessageKind} {es fs : Fields} {body : Value} {readers : ℤ → List Reader} {size : ℕ}

theorem find_new {e : String × Value} (hnodup : (ns.map Prod.fst).Nodup) (he : e ∈ ns) :
    (ns.find? fun n => e.1 = n.1) = some e := by
  induction ns with
  | nil => cases he
  | cons n ns ih =>
    rw [List.map_cons,List.nodup_cons] at hnodup
    rw [List.find?_cons]
    rcases List.mem_cons.mp he with rfl | he
    · simp
    · have hne : ¬ e.1 = n.1 := fun heq => hnodup.1 (heq ▸ List.mem_map_of_mem he)
      simp only [hne,decide_false]
      exact ih hnodup.2 he

theorem find_old {name : String} (h : name ∉ ns.map Prod.fst) :
    (ns.find? fun n => name = n.1) = none := by
  rw [List.find?_eq_none]
  intro n hn heq
  exact h ((of_decide_eq_true heq) ▸ List.mem_map_of_mem hn)

/-- The parts of an accepted message. -/
structure Projected (rt : Runtime) (k : MessageKind) (es fs : Fields) (ns : List (String × Value))
    (createdMs expiresMs : ℤ) : Prop where
  based : Based rt k.objectType k.idName k.additional k.maxTtlMs es createdMs expiresMs
  news : k.news rt (item es) createdMs = .ok ns
  result : fs = override es ns

theorem project_ok : project k rt body = .ok fs ↔ ∃ es, body = .map es ∧
    ∃ ns createdMs expiresMs, Projected rt k es fs ns createdMs expiresMs := by
  simp only [project,bind_ok,validateBaseWithin_iff]
  constructor
  · rintro ⟨base,⟨hbody,-,hbased⟩,ns,hnews,hval⟩
    exact ⟨base.fields,hbody,ns,_,_,hbased,hnews,(Except.ok.inj hval).symm⟩
  · rintro ⟨es,rfl,ns,createdMs,expiresMs,h⟩
    exact ⟨⟨es,item es k.idName,createdMs,expiresMs⟩,⟨rfl,rfl,h.based⟩,ns,h.news,
      congrArg Except.ok h.result.symm⟩

theorem Normal.new_names (hk : Normal rt k readers size) (hnews : k.news rt get c = .ok ns) :
    ns.map Prod.fst = k.additional := by
  obtain ⟨hread,-⟩ := hk.read _ _ _ hnews
  rw [← hk.names c]
  generalize readers c = rs at hread
  clear hnews
  induction hread with
  | nil => rfl
  | cons h _ ih => rw [List.map_cons,List.map_cons,h.1,ih]

/-- Every new field was read by a reader of its name. -/
theorem Normal.reader (hk : Normal rt k readers size) (hnews : k.news rt get c = .ok ns)
    {e : String × Value} (he : e ∈ ns) :
    ∃ r ∈ readers c, r.name = e.1 ∧ r.reads (get r.name) e.2 := by
  obtain ⟨hread,-⟩ := hk.read _ _ _ hnews
  generalize readers c = rs at hread ⊢
  clear hnews
  induction hread with
  | nil => cases he
  | @cons r e' _ _ h _ ih =>
    rcases List.mem_cons.mp he with rfl | he
    · exact ⟨r,List.mem_cons_self ..,h.1.symm,h.2⟩
    · obtain ⟨r',hr',hread⟩ := ih he
      exact ⟨r',List.mem_cons_of_mem _ hr',hread⟩

/-- Fields that the readers read alike give the same. -/
theorem Normal.same (hk : Normal rt k readers size) (hnews : k.news rt get c = .ok ns)
    (h : ∀ r ∈ readers c, ∀ e ∈ ns, e.1 = r.name → r.reads (get r.name) e.2 →
      r.reads (get' r.name) e.2) : k.news rt get' c = .ok ns := by
  obtain ⟨hread,hsame⟩ := hk.read _ _ _ hnews
  refine hsame get' ?_
  clear hsame hnews
  generalize readers c = rs at hread h
  induction hread with
  | nil => exact .nil
  | @cons r e rs ns hre _ ih =>
    refine .cons (h r (List.mem_cons_self ..) e (List.mem_cons_self ..) hre.1 hre.2) (ih ?_)
    intro r' hr' e' he'
    exact h r' (List.mem_cons_of_mem _ hr') e' (List.mem_cons_of_mem _ he')

/-- The result is accepted as it is. -/
theorem project_again (hk : Normal rt k readers size) (h : project k rt body = .ok fs) :
    project k rt (.map fs) = .ok fs := by
  obtain ⟨es,-,ns,createdMs,expiresMs,hp⟩ := project_ok.mp h
  obtain rfl := hp.result
  have hnames := hk.new_names hp.news
  have hnodup : (ns.map Prod.fst).Nodup := hnames ▸ hk.apart.1
  refine project_ok.mpr ⟨_,rfl,ns,createdMs,expiresMs,?_,?_,(override_again es ns).symm⟩
  · apply hp.based.overridden
    intro name hname
    exact find_old (hnames ▸ hk.apart.2 name hname)
  · refine hk.same hp.news fun r hr e he hname hread => ?_
    have hmem : e.1 ∈ k.additional := hnames ▸ List.mem_map_of_mem he
    have hitem : item (override es ns) e.1 = e.2 :=
      item_overridden (hp.based.fields.fields _ (List.mem_append_right _ hmem)) (find_new hnodup he)
    rw [← hname,hitem]
    exact (hk.lawful _ r hr).again _ _ hread

/-- What is replaced or the same anyway is the same after it is replaced. -/
theorem override_same {R : String → Value → Value → Prop} {es' : Fields} {required : List String}
    (hsame : SameEntries R es es') (hknown : ∀ e ∈ es, ∃ r ∈ required, e.1.isStr r)
    (h : ∀ name ∈ required, ∀ v v', R name v v' → name ∈ ns.map Prod.fst ∨ v' = v) :
    override es' ns = override es ns := by
  induction hsame with
  | nil => rfl
  | @cons e e' es es' he _ ih =>
    obtain ⟨key,old⟩ := e
    obtain ⟨key',new⟩ := e'
    obtain ⟨rfl : key' = key,hvalue⟩ := he
    rw [List.forall_mem_cons] at hknown
    rw [override_cons,override_cons,ih hknown.2]
    rcases hvalue with hvalue | ⟨name,hname,hrelated⟩
    · rw [show new = old from hvalue]
    · obtain ⟨r,hr,hkey⟩ := hknown.1
      obtain rfl : r = name := Value.str.inj ((Value.isStr_iff.mp hkey).symm.trans hname)
      rcases h r hr _ _ hrelated with hmem | hnew
      · obtain ⟨n,hn,hnr⟩ := List.mem_map.mp hmem
        cases hfind : ns.find? fun n => key'.isStr n.1 with
        | some n => rfl
        | none =>
          have hno := List.find?_eq_none.mp hfind n hn
          rw [hnr] at hno
          exact absurd hkey hno
      · rw [show new = old from hnew]

/-- The fields of the base, but for the id of the message, have no other spelling. -/
theorem spelled_base {own name : String}
    (hname : name ∈ ["protocol","version","object_type",own,"created_ms","expires_ms"]) :
    ∀ v v', name ≠ own ∧ Spelled rt name v v' → v' = v := by
  rintro v v' ⟨hne,hspelled⟩
  have hplain : ∀ name ∈ ["protocol","version","object_type","created_ms","expires_ms"],
      name ∉ idFields ∧ name ∉ nestedFields := by decide
  have hmem : name ∈ ["protocol","version","object_type","created_ms","expires_ms"] := by
    simp only [List.mem_cons,hne,false_or] at hname ⊢
    exact hname
  exact hspelled.plain (hplain name hmem).1 (hplain name hmem).2

/-- Another spelling of the ids gives the same result. -/
theorem project_respelled (hk : Normal rt k readers size) {es' : Fields}
    (hsame : Respelled rt k.idName es es') (h : project k rt (.map es) = .ok fs) :
    project k rt (.map es') = .ok fs := by
  obtain ⟨es₁,hes,ns,createdMs,expiresMs,hp⟩ := project_ok.mp h
  obtain rfl := Value.map.inj hes
  have hb := hp.based
  have hbase {name : String} (hname : name ∈ k.baseNames) : item es' name = item es name :=
    (hsame.item name).2.elim id (spelled_base hname _ _)
  have hexact := hb.fields.same hsame
  refine project_ok.mpr ⟨es',rfl,ns,createdMs,expiresMs,?_,?_,?_⟩
  · refine ⟨?_,?_,?_,hexact,?_,?_,?_,hb.started,hb.lasts,hb.short⟩
    · change (item es' "protocol").isStr _
      rw [hbase (by simp [MessageKind.baseNames])]
      exact hb.protocol
    · change equalsVersion (item es' "version")
      rw [hbase (by simp [MessageKind.baseNames])]
      exact hb.version
    · change (item es' "object_type").isStr _
      rw [hbase (by simp [MessageKind.baseNames])]
      exact hb.objectType
    · rw [hbase (by simp [MessageKind.baseNames])]
      exact hb.identified
    · rw [hbase (by simp [MessageKind.baseNames])]
      exact hb.created
    · rw [hbase (by simp [MessageKind.baseNames])]
      exact hb.expires
  · refine hk.same hp.news fun r hr e _ _ hread => ?_
    rcases (hsame.item r.name).2 with hitem | ⟨-,hspelled⟩
    · rw [hitem]
      exact hread
    · exact (hk.lawful _ r hr).spelled _ _ _ hspelled hread
  · rw [hp.result]
    symm
    refine override_same hsame hb.fields.known fun name hname v v' hrelated => ?_
    rcases List.mem_append.mp hname with hname | hname
    · exact .inr (spelled_base hname v v' hrelated)
    · exact .inl (hk.new_names hp.news ▸ hname)

/-- An entry of the result is a new one, or one of the base that stands for its field. -/
theorem mem_override {e : Value × Value} (hkeys : (es.map Prod.fst).Nodup) (h : e ∈ override es ns) :
    ∃ old, (e.1,old) ∈ es ∧ ∀ name, e.1 = .str name →
      (∃ n ∈ ns, n.1 = name ∧ e.2 = n.2) ∨ (name ∉ ns.map Prod.fst ∧ e.2 = item es name) := by
  induction es with
  | nil => cases h
  | cons x es ih =>
    obtain ⟨key,old⟩ := x
    rw [List.map_cons,List.nodup_cons] at hkeys
    rw [override_cons] at h
    rcases List.mem_cons.mp h with rfl | h
    · refine ⟨old,List.mem_cons_self ..,?_⟩
      rintro name (rfl : key = .str name)
      have hsame : (fun n : String × Value => (Value.str name).isStr n.1) =
          fun n => decide (name = n.1) := by
        funext n
        simp [Value.isStr]
      rw [hsame]
      cases hfind : ns.find? fun n => decide (name = n.1) with
      | some n =>
        have hname : name = n.1 := by simpa using List.find?_some hfind
        exact .inl ⟨n,List.mem_of_find?_eq_some hfind,hname.symm,rfl⟩
      | none =>
        refine .inr ⟨fun hmem => ?_,?_⟩
        · obtain ⟨n,hn,rfl⟩ := List.mem_map.mp hmem
          have hnone := List.find?_eq_none.mp hfind n hn
          simp at hnone
        · show old = item _ name
          rw [item,Value.fieldOr,Value.field_cons,if_pos (by simp [Value.isStr])]
          rfl
    · obtain ⟨old',hold,hvalue⟩ := ih hkeys.2 h
      refine ⟨old',List.mem_cons_of_mem _ hold,fun name hname => ?_⟩
      refine (hvalue name hname).imp_right fun hkept => ⟨hkept.1,?_⟩
      have hne : ¬ key.isStr name := by
        intro hkey
        rw [Value.isStr_iff] at hkey
        have hmem : e.1 ∈ es.map Prod.fst := List.mem_map.mpr ⟨(e.1,old'),hold,rfl⟩
        rw [hname,← hkey] at hmem
        exact hkeys.1 hmem
      rw [hkept.2,item,item,Value.fieldOr,Value.fieldOr,Value.field_cons,if_neg hne]

/-- What has the text of an id is no container and not binary. -/
def IdsAreScalar (rt : Runtime) : Prop := ∀ v, isHex 32 (normalized rt v) →
  (∀ es, v ≠ .map es) ∧ (∀ vs, v ≠ .list vs) ∧ ∀ b, v ≠ .bin b

/-- The fields of the base are clean. -/
theorem Based.clean {objectType idName : String} {additional : List String} {maxTtlMs : ℤ}
    {createdMs expiresMs : ℤ} (hids : IdsAreScalar rt)
    (h : Based rt objectType idName additional maxTtlMs es createdMs expiresMs) {name : String}
    (hname : name ∈ ["protocol","version","object_type",idName,"created_ms","expires_ms"]) :
    Clean rt (item es name) := by
  have hstr {s : String} (hs : (item es name).isStr s) : Clean rt (item es name) := by
    rw [Value.isStr_iff.mp hs]
    simp [Clean]
  simp only [List.mem_cons,List.not_mem_nil,or_false] at hname
  rcases hname with rfl | rfl | rfl | rfl | rfl | rfl
  · exact hstr h.protocol
  · have hversion := h.version
    change equalsVersion (item es "version") at hversion
    cases hitem : item es "version" with
    | map es' => simp [hitem,equalsVersion] at hversion
    | list vs => simp [hitem,equalsVersion] at hversion
    | bin b => simp [hitem,equalsVersion] at hversion
    | _ => simp [Clean]
  · exact hstr h.objectType
  · obtain ⟨id,hid⟩ := h.identified
    obtain ⟨hmap,hlist,hbin⟩ := hids _ (identifier_hex hid)
    cases hitem : item es name with
    | map es' => exact absurd hitem (hmap es')
    | list vs => exact absurd hitem (hlist vs)
    | bin b => exact absurd hitem (hbin b)
    | _ => simp [Clean]
  · rw [h.created]
    simp [Clean]
  · rw [h.expires]
    simp [Clean]

/-- The result holds no forbidden key and nothing binary. -/
theorem project_clean (htext : ∀ s, rt.str (.str s) = s) (hids : IdsAreScalar rt)
    (hk : Normal rt k readers size) (hkeys : (es.map Prod.fst).Nodup)
    (h : project k rt (.map es) = .ok fs) : Clean rt (.map fs) := by
  obtain ⟨es',hes,ns,createdMs,expiresMs,hp⟩ := project_ok.mp h
  obtain rfl := Value.map.inj hes
  obtain rfl := hp.result
  have hnames := hk.new_names hp.news
  rw [clean_map]
  intro e he
  obtain ⟨old,hold,hvalue⟩ := mem_override hkeys he
  obtain ⟨name,hname,hstr⟩ := hp.based.fields.known _ hold
  rw [Value.isStr_iff] at hstr
  have hallowed := hk.allowed name hname
  refine ⟨by rw [show e.1 = .str name from hstr,normalized_str htext]; exact hallowed,?_⟩
  rcases hvalue name hstr with ⟨n,hn,-,hnew⟩ | ⟨hout,hitem⟩
  · rw [hnew]
    obtain ⟨r,hr,-,hread⟩ := hk.reader hp.news hn
    exact (hk.lawful _ r hr).clean _ _ hread
  · rw [hitem]
    refine hp.based.clean hids ((List.mem_append.mp hname).resolve_right ?_)
    exact fun hadditional => hout (hnames ▸ hadditional)

/-- The bytes of entries of different keys, each of a known name and size. -/
theorem entries_le {sizes : List (String × ℕ)} (hkeys : (es.map Prod.fst).Nodup)
    (h : ∀ e ∈ es, ∃ p ∈ sizes, e.1 = .str p.1 ∧ e.2.wire.length ≤ p.2) :
    (wireEntries es).length ≤ entriesSize sizes := by
  induction es generalizing sizes with
  | nil => simp [wireEntries]
  | cons e es ih =>
    obtain ⟨key,value⟩ := e
    rw [List.map_cons,List.nodup_cons] at hkeys
    rw [List.forall_mem_cons] at h
    obtain ⟨⟨p,hp,rfl,hvalue⟩,hrest⟩ := h
    have htail : (wireEntries es).length ≤ entriesSize (sizes.erase p) := by
      refine ih hkeys.2 fun e he => ?_
      obtain ⟨q,hq,hname,hsize⟩ := hrest e he
      have hne : q ≠ p := by
        intro heq
        exact hkeys.1 (List.mem_map.mpr ⟨e,he,by rw [hname,heq]⟩)
      exact ⟨q,(List.mem_erase_of_ne hne).mpr hq,hname,hsize⟩
    have hkey := Packet.wire_str_le p.1
    have hsum : entriesSize sizes =
        5 + 4 * p.1.toList.length + p.2 + entriesSize (sizes.erase p) := by
      unfold entriesSize
      rw [((List.perm_cons_erase hp).map _).sum_nat,List.map_cons,List.sum_cons]
    have hshort : value.wire.length ≤ p.2 := hvalue
    rw [wireEntries,List.length_append,List.length_append]
    omega

/-- The entries that have a bounded size, but for the id of the message. -/
def closedEntries (own : String) (fields : Fields) : Fields :=
  fields.filter fun e => !(own :: openFields).any fun name => e.1.isStr name

theorem override_keys (es : Fields) (news : List (String × Value)) :
    (override es news).map Prod.fst = es.map Prod.fst := by
  induction es with
  | nil => rfl
  | cons e es ih =>
    obtain ⟨key,old⟩ := e
    rw [override_cons,List.map_cons,List.map_cons,ih]

theorem version_le (h : equalsVersion v) : v.wire.length ≤ 9 := by
  cases v with
  | int i => exact (length_int i).le
  | bool b => simp [Value.wire]
  | float bits => simp [Value.wire]
  | _ => cases h

/-- The fields of the base are short, but for the id of the message. -/
theorem Based.short_fields {objectType own : String} {additional : List String} {maxTtlMs : ℤ}
    {createdMs expiresMs : ℤ} (htype : objectType.toList.length ≤ 20)
    (h : Based rt objectType own additional maxTtlMs es createdMs expiresMs) {name : String}
    (hname : name ∈ ["protocol","version","object_type",own,"created_ms","expires_ms"])
    (hown : name ≠ own) : ∃ p ∈ baseSizes, name = p.1 ∧ (item es name).wire.length ≤ p.2 := by
  simp only [List.mem_cons,List.not_mem_nil,or_false,hown,false_or] at hname
  rcases hname with rfl | rfl | rfl | rfl | rfl
  · refine ⟨("protocol",5 + 4 * 16),by simp [baseSizes],rfl,?_⟩
    rw [show item es "protocol" = .str companionProtocol from Value.isStr_iff.mp h.protocol]
    exact str_le (by decide)
  · exact ⟨("version",9),by simp [baseSizes],rfl,version_le h.version⟩
  · refine ⟨("object_type",5 + 4 * 20),by simp [baseSizes],rfl,?_⟩
    rw [show item es "object_type" = .str objectType from Value.isStr_iff.mp h.objectType]
    exact str_le htype
  · refine ⟨("created_ms",9),by simp [baseSizes],rfl,?_⟩
    rw [h.created]
    exact (length_int _).le
  · refine ⟨("expires_ms",9),by simp [baseSizes],rfl,?_⟩
    rw [h.expires]
    exact (length_int _).le

/-- The result has a size of its kind, but for the id of the message and the open fields. -/
theorem project_size (hk : Normal rt k readers size) (hkeys : (es.map Prod.fst).Nodup)
    (h : project k rt (.map es) = .ok fs) :
    (wireEntries (closedEntries k.idName fs)).length ≤ size := by
  obtain ⟨es',hes,ns,createdMs,expiresMs,hp⟩ := project_ok.mp h
  obtain rfl := Value.map.inj hes
  obtain rfl := hp.result
  have hnodup : ((closedEntries k.idName (override es ns)).map Prod.fst).Nodup := by
    refine List.Nodup.sublist (List.filter_sublist.map _) ?_
    rw [override_keys]
    exact hkeys
  refine (entries_le hnodup fun e he => ?_).trans (hk.size createdMs)
  obtain ⟨he,hclosed⟩ := List.mem_filter.mp he
  obtain ⟨old,hold,hvalue⟩ := mem_override hkeys he
  obtain ⟨name,hname,hstr⟩ := hp.based.fields.known _ hold
  have hkey : e.1 = .str name := Value.isStr_iff.mp hstr
  have hopen : name ≠ k.idName ∧ name ∉ openFields := by
    rw [hkey] at hclosed
    have hnot : ¬ name = k.idName ∧ ∀ x ∈ openFields, ¬ name = x := by
      simpa [Value.isStr] using hclosed
    exact ⟨hnot.1,fun hmem => hnot.2 name hmem rfl⟩
  have hbase (hitem : e.2 = item es name) (hname : name ∈ k.baseNames) :
      ∃ p ∈ baseSizes ++ (readers createdMs).map fun r => (r.name,r.bound),
        e.1 = .str p.1 ∧ e.2.wire.length ≤ p.2 := by
    obtain ⟨p,hp,rfl,hle⟩ := hp.based.short_fields hk.objectType hname hopen.1
    exact ⟨p,List.mem_append_left _ hp,hkey,hitem ▸ hle⟩
  rcases hvalue name hkey with ⟨n,hn,rfl,hnew⟩ | ⟨hout,hitem⟩
  · obtain ⟨r,hr,hrn,hread⟩ := hk.reader hp.news hn
    refine ⟨(r.name,r.bound),List.mem_append_right _ (List.mem_map_of_mem hr),?_,?_⟩
    · rw [hkey,hrn]
    · rw [hnew]
      exact (hk.lawful _ r hr).bounded (hrn ▸ hopen.2) _ _ hread
  · refine hbase hitem ((List.mem_append.mp hname).resolve_right fun hadditional => ?_)
    exact hout (hk.new_names hp.news ▸ hadditional)

/-- Metrics are as long as their nesting allows. -/
theorem project_metrics (hk : Normal rt k readers size) (h : project k rt body = .ok fs)
    (hmetrics : "metrics" ∈ k.additional) :
    (item fs "metrics").wire.length ≤ metricsSize (nesting (item fs "metrics")) := by
  obtain ⟨es,-,ns,createdMs,expiresMs,hp⟩ := project_ok.mp h
  obtain rfl := hp.result
  have hnames := hk.new_names hp.news
  obtain ⟨n,hn,hname⟩ := List.mem_map.mp (hnames.symm ▸ hmetrics)
  have hitem : item (override es ns) "metrics" = n.2 :=
    item_overridden (hp.based.fields.fields _ (List.mem_append_right _ hmetrics))
      (by rw [← hname]; exact find_new (hnames ▸ hk.apart.1) hn)
  obtain ⟨r,hr,hrn,hread⟩ := hk.reader hp.news hn
  rw [hk.metrics _ r hr (hrn.trans hname)] at hread
  rw [hitem]
  exact metrics_le hread

end Projection

section Kinds

/-- The names of every kind are apart from those of the base, and none of them is forbidden. -/
theorem kinds_named : ∀ k ∈ [batchMessage,episodeMessage,interventionMessage,responseMessage,
    requestMessage,decisionMessage],
    (k.additional.Nodup ∧ ∀ name ∈ k.baseNames, name ∉ k.additional) ∧
      ∀ name ∈ k.baseNames ++ k.additional, lower (strip name) ∉ forbiddenKeys := by
  decide +kernel

variable (htext : ∀ s, rt.str (.str s) = s)
include htext

omit htext in
theorem metrics_absent (k : MessageKind) {readers : List Reader}
    (hnames : readers.map Reader.name = k.additional) (h : "metrics" ∉ k.additional) :
    ∀ r ∈ readers, r.name = "metrics" → r = metricsReader rt :=
  fun _ hr hname => absurd (hnames ▸ hname ▸ List.mem_map_of_mem hr) h

theorem batch_normal : Normal rt batchMessage (fun _ => batchReaders rt) 4700000 where
  names _ := rfl
  apart := (kinds_named _ (by simp)).1
  allowed := (kinds_named _ (by simp)).2
  read := batch_read
  lawful _ := by
    simp only [batchReaders,List.forall_mem_cons]
    exact ⟨source_lawful htext,time_lawful (by decide),time_lawful (by decide),
      choice_lawful htext (by decide) (by decide),consent_lawful htext,observations_lawful htext,
      fun _ h => absurd h List.not_mem_nil⟩
  metrics _ := metrics_absent batchMessage rfl (by decide)
  objectType := by decide
  size _ := by
    simp [entriesSize,baseSizes,batchReaders,fieldReader,listReader,maxBatchObservations]

theorem episode_normal : Normal rt episodeMessage (fun _ => episodeReaders rt) 30000 where
  names _ := rfl
  apart := (kinds_named _ (by simp)).1
  allowed := (kinds_named _ (by simp)).2
  read := episode_read
  lawful _ := by
    simp only [episodeReaders,List.forall_mem_cons]
    exact ⟨source_lawful htext,ids_lawful htext (by decide),
      choice_lawful htext (by decide) (by decide),
      time_lawful (by decide),time_lawful (by decide),choice_lawful htext (by decide) (by decide),
      consent_lawful htext,token_lawful htext (by decide),metrics_lawful htext,
      fun _ h => absurd h List.not_mem_nil⟩
  metrics _ := by
    simp [episodeReaders,fieldReader,listReader,metricsReader]
  objectType := by decide
  size _ := by
    simp [entriesSize,baseSizes,episodeReaders,fieldReader,listReader,metricsReader]

theorem intervention_normal :
    Normal rt interventionMessage (fun _ => interventionReaders rt) 50000 where
  names _ := rfl
  apart := (kinds_named _ (by simp)).1
  allowed := (kinds_named _ (by simp)).2
  read := intervention_read
  lawful _ := by
    simp only [interventionReaders,List.forall_mem_cons]
    exact ⟨human_lawful htext,node_lawful htext (by decide),
      choice_lawful htext (by decide) (by decide),
      choice_lawful htext (by decide) (by decide),text_lawful htext (by decide),
      text_lawful htext (by decide),id_lawful htext (by decide),options_lawful htext,
      ids_lawful htext (by decide),
      fun _ h => absurd h List.not_mem_nil⟩
  metrics _ := metrics_absent interventionMessage rfl (by decide)
  objectType := by decide
  size _ := by
    simp [entriesSize,baseSizes,interventionReaders,fieldReader,listReader,maxOptions,maxTextChars]

theorem response_normal : Normal rt responseMessage (fun _ => responseReaders rt) 10000 where
  names _ := rfl
  apart := (kinds_named _ (by simp)).1
  allowed := (kinds_named _ (by simp)).2
  read := response_read
  lawful _ := by
    simp only [responseReaders,List.forall_mem_cons]
    exact ⟨id_lawful htext (by decide),human_lawful htext,node_lawful htext (by decide),
      choice_lawful htext (by decide) (by decide),responseAction_lawful htext,
      text_lawful htext (by decide),
      fun _ h => absurd h List.not_mem_nil⟩
  metrics _ := metrics_absent responseMessage rfl (by decide)
  objectType := by decide
  size _ := by
    simp [entriesSize,baseSizes,responseReaders,fieldReader,maxSelfReportChars]

theorem request_normal : Normal rt requestMessage (requestReaders rt) 12000 where
  names _ := rfl
  apart := (kinds_named _ (by simp)).1
  allowed := (kinds_named _ (by simp)).2
  read := request_read
  lawful createdMs := by
    simp only [requestReaders,List.forall_mem_cons]
    exact ⟨human_lawful htext,node_lawful htext (by decide),action_lawful htext,
      scope_lawful htext createdMs,text_lawful htext (by decide),id_lawful htext (by decide),
      fun _ h => absurd h List.not_mem_nil⟩
  metrics _ := metrics_absent requestMessage rfl (by decide)
  objectType := by decide
  size _ := by
    simp [entriesSize,baseSizes,requestReaders,fieldReader]

theorem decision_normal : Normal rt decisionMessage (decisionReaders rt) 12000 where
  names _ := rfl
  apart := (kinds_named _ (by simp)).1
  allowed := (kinds_named _ (by simp)).2
  read := decision_read
  lawful createdMs := by
    simp only [decisionReaders,List.forall_mem_cons]
    exact ⟨id_lawful htext (by decide),human_lawful htext,node_lawful htext (by decide),
      choice_lawful htext (by decide) (by decide),text_lawful htext (by decide),
      id_lawful htext (by decide),action_lawful htext,scope_lawful htext createdMs,
      fun _ h => absurd h List.not_mem_nil⟩
  metrics _ := metrics_absent decisionMessage rfl (by decide)
  objectType := by decide
  size _ := by
    simp [entriesSize,baseSizes,decisionReaders,fieldReader]

end Kinds

/-- The kinds of messages, each with the size that its short fields can have. -/
def messageKinds : List (String × MessageKind × ℕ) :=
  [(observationBatchKind,batchMessage,4700000),(episodeKind,episodeMessage,30000),
    (interventionKind,interventionMessage,50000),(userResponseKind,responseMessage,10000),
    (approvalRequestKind,requestMessage,12000),(approvalDecisionKind,decisionMessage,12000)]

def messageKind (kind : String) : Option (MessageKind × ℕ) := messageKinds.lookup (lower (strip kind))

section Messages

variable {kind : String} {k : MessageKind} {size : ℕ} {body : Value} {fs : Fields}

theorem lookup_cons_if {name s : String} {k : MessageKind × ℕ} {ks : List (String × MessageKind × ℕ)} :
    ((name,k) :: ks).lookup s = if s = name then some k else ks.lookup s := by
  by_cases h : s = name
  · simp [h]
  · rw [if_neg h,List.lookup_cons,beq_eq_false_iff_ne.mpr h]

theorem validateCompanionMessage_ok : validateCompanionMessage rt kind body = .ok fs ↔
    ∃ k size, messageKind kind = some (k,size) ∧ project k rt body = .ok fs := by
  have hproject : validateCompanionMessage rt kind body = (match messageKind kind with
      | some k => project k.1 rt body
      | none => .error (.value "unsupported Companion kind")) := by
    simp only [validateCompanionMessage,messageKind,messageKinds,lookup_cons_if,List.lookup_nil,
      request_project,decision_project]
    split_ifs <;> rfl
  rw [hproject]
  cases hkind : messageKind kind with
  | none => simp
  | some k =>
    constructor
    · intro h
      exact ⟨k.1,k.2,rfl,h⟩
    · rintro ⟨k',size,hk,h⟩
      obtain rfl := Option.some.inj hk
      exact h

theorem normal_of_kind (htext : ∀ s, rt.str (.str s) = s) (h : messageKind kind = some (k,size)) :
    ∃ readers, Normal rt k readers size := by
  have hmem : ∃ name, (name,k,size) ∈ messageKinds := by
    obtain ⟨before,after,hsplit,-⟩ := List.lookup_eq_some_iff.mp h
    exact ⟨_,hsplit ▸ List.mem_append_right _ (List.mem_cons_self ..)⟩
  obtain ⟨name,hmem⟩ := hmem
  simp only [messageKinds,List.mem_cons,Prod.mk.injEq,List.not_mem_nil,or_false] at hmem
  rcases hmem with ⟨-,rfl,rfl⟩ | ⟨-,rfl,rfl⟩ | ⟨-,rfl,rfl⟩ | ⟨-,rfl,rfl⟩ | ⟨-,rfl,rfl⟩ | ⟨-,rfl,rfl⟩
  · exact ⟨_,batch_normal htext⟩
  · exact ⟨_,episode_normal htext⟩
  · exact ⟨_,intervention_normal htext⟩
  · exact ⟨_,response_normal htext⟩
  · exact ⟨_,request_normal htext⟩
  · exact ⟨_,decision_normal htext⟩

/-- Only maps are accepted. -/
theorem accepted_map (h : validateCompanionMessage rt kind body = .ok fs) : ∃ es, body = .map es := by
  obtain ⟨k,size,-,hproject⟩ := validateCompanionMessage_ok.mp h
  obtain ⟨es,hes,-⟩ := project_ok.mp hproject
  exact ⟨es,hes⟩

/-- Validating a message gives what is valid as it is, is the same for other spellings of the ids in it
but the message's own, holds nothing forbidden or binary, and has a size of its kind, where the ids of
nodes and humans, the message's own id and the nesting of metrics are left out. -/
theorem companion_message_normal (htext : ∀ s, rt.str (.str s) = s) (hids : IdsAreScalar rt)
    (hkeys : ∀ es, body = .map es → (es.map Prod.fst).Nodup)
    (h : validateCompanionMessage rt kind body = .ok fs) :
    validateCompanionMessage rt kind (.map fs) = .ok fs ∧ Clean rt (.map fs) ∧
      ∃ k size, messageKind kind = some (k,size) ∧
        (∀ es es', body = .map es → Respelled rt k.idName es es' →
          validateCompanionMessage rt kind (.map es') = .ok fs) ∧
        (wireEntries (closedEntries k.idName fs)).length ≤ size ∧
        ("metrics" ∈ k.additional →
          (item fs "metrics").wire.length ≤ metricsSize (nesting (item fs "metrics"))) := by
  obtain ⟨es,rfl⟩ := accepted_map h
  obtain ⟨k,size,hkind,hproject⟩ := validateCompanionMessage_ok.mp h
  obtain ⟨readers,hk⟩ := normal_of_kind htext hkind
  have haccepted {body : Value} (hbody : project k rt body = .ok fs) :
      validateCompanionMessage rt kind body = .ok fs :=
    validateCompanionMessage_ok.mpr ⟨k,size,hkind,hbody⟩
  have hdistinct := hkeys es rfl
  refine ⟨haccepted (project_again hk hproject),project_clean htext hids hk hdistinct hproject,k,size,
    hkind,?_,project_size hk hdistinct hproject,project_metrics hk hproject⟩
  rintro es₁ es' hes hsame
  obtain rfl := Value.map.inj hes
  exact haccepted (project_respelled hk hsame hproject)

section Sample

theorem plain_ids : IdsAreScalar answerRuntime := by
  intro v hv
  refine ⟨?_,?_,?_⟩
  all_goals
    rintro w rfl
    change isHex 32 (lower (strip "")) at hv
    exact absurd hv (by decide)

theorem asked_keys (requestId : String) : ((asked requestId).map Prod.fst).Nodup := by
  have hnames : (requestMessage.baseNames ++ requestFields).Nodup := by decide
  change ((requestMessage.baseNames ++ requestFields).map Value.str).Nodup
  exact hnames.map str_injective

theorem asked_message {requestId : String} (h : isHex 32 (lower (strip requestId))) :
    validateCompanionMessage answerRuntime approvalRequestKind (.map (asked requestId)) =
      .ok (askedBody requestId).fields := by
  refine validateCompanionMessage_ok.mpr ⟨requestMessage,12000,by rfl,?_⟩
  rw [← request_project,asked_accepted h]
  rfl

theorem companion_message_normal_sample :
    validateCompanionMessage answerRuntime approvalRequestKind (.map (askedBody upperId).fields) =
      .ok (askedBody upperId).fields ∧ Clean answerRuntime (.map (askedBody upperId).fields) := by
  obtain ⟨hagain,hclean,-⟩ := companion_message_normal (fun _ => rfl) plain_ids
    (fun es hes => Value.map.inj hes ▸ asked_keys upperId) (@asked_message upperId (by decide))
  exact ⟨hagain,hclean⟩

theorem length_le_wire (s : String) : s.toList.length ≤ (Value.str s).wire.length := by
  have hutf8 : s.toList.length ≤ (utf8 s).length := by
    rw [utf8]
    induction s.toList with
    | nil => simp
    | cons c cs ih =>
      have hsize := String.length_utf8EncodeChar c
      have hpos := c.utf8Size_pos
      simp only [List.flatMap_cons,List.length_append,List.length_cons,hsize]
      omega
  simp only [Value.wire,List.length_cons,List.length_append,length_wordBytes]
  omega

theorem field_mem {es : Fields} {name : String} (h : Value.field es name = some v) :
    (.str name,v) ∈ es := by
  induction es with
  | nil => cases h
  | cons e es ih =>
    obtain ⟨key,old⟩ := e
    rw [Value.field_cons] at h
    split at h
    · next hkey =>
      rw [Value.isStr_iff.mp hkey,Option.some.inj h]
      exact List.mem_cons_self ..
    · exact List.mem_cons_of_mem _ (ih h)

theorem entry_le_wire {es : Fields} {e : Value × Value} (h : e ∈ es) :
    e.2.wire.length ≤ (Value.map es).wire.length := by
  have hentries : e.2.wire.length ≤ (wireEntries es).length := by
    induction es with
    | nil => cases h
    | cons x es ih =>
      obtain ⟨key,value⟩ := x
      rw [wireEntries,List.length_append,List.length_append]
      rcases List.mem_cons.mp h with rfl | h
      · show value.wire.length ≤ _
        omega
      · have hrest := ih h
        omega
  simp only [Value.wire,List.length_cons,List.length_append,length_wordBytes]
  omega

/-- A human id with a tail of any length. -/
def longHuman (n : ℕ) : String := String.ofList (['h','u','1'] ++ List.replicate (17 + n) 'a')

theorem longHuman_accepted (n : ℕ) :
    humanId answerRuntime (.str (longHuman n)) = .ok (longHuman n) := by
  have hplain : ∀ c ∈ (longHuman n).toList, isPySpace c = false ∧ lowerChar c = c := by
    have hall : ∀ c ∈ ['h','u','1','a'], isPySpace c = false ∧ lowerChar c = c := by
      simp [isPySpace,lowerChar]
    intro c hc
    refine hall c ?_
    simp only [longHuman,String.toList_ofList,List.mem_append,List.mem_replicate] at hc
    rcases hc with hc | ⟨-,rfl⟩
    · exact List.mem_append_left ['a'] hc
    · simp
  have hlower : (longHuman n).toList.map lowerChar = (longHuman n).toList := by
    conv_rhs => rw [← List.map_id (longHuman n).toList]
    exact List.map_congr_left fun c hc => (hplain c hc).2
  have hnormal : normalized answerRuntime (.str (longHuman n)) = longHuman n := by
    rw [normalized_str fun _ => rfl,strip_none fun c hc => (hplain c hc).1,lower,hlower,
      String.ofList_toList]
  have hscoped : isScopedId "hu1" (longHuman n) := by
    simp [isScopedId,startsWith,longHuman]
  rw [humanId,hnormal,if_pos hscoped]

theorem asked_id {requestId : String} (h : isHex 32 (lower (strip requestId))) :
    item (askedBody requestId).fields "request_id" = .str requestId := by
  obtain ⟨fields,hfields,hchecked⟩ := validateApprovalRequest_iff.mp (asked_accepted h)
  obtain rfl := Value.map.inj hfields
  rw [hchecked.item_requestId]
  rfl

/-- The request with another human id. -/
def askedBy (human : String) : Fields := override (asked lowerId) [("human_id",.str human)]

theorem askedBy_accepted {human : String} (h : humanId answerRuntime (.str human) = .ok human) :
    ∃ fs, validateCompanionMessage answerRuntime approvalRequestKind (.map (askedBy human)) = .ok fs ∧
      (.str "human_id",.str human) ∈ fs := by
  obtain ⟨fields,hfields,hchecked⟩ :=
    validateApprovalRequest_iff.mp (@asked_accepted lowerId (by decide))
  obtain rfl := Value.map.inj hfields
  have hitem {name : String} (hname : name ≠ "human_id") :
      item (askedBy human) name = item (asked lowerId) name :=
    fieldOr_kept _ (by simp [hname])
  let r : ApprovalRequestBody := { askedBody lowerId with humanId := human }
  have hrequest : validateApprovalRequest answerRuntime (.map (askedBy human)) =
      .ok { r with fields := override (askedBy human) r.normalFields } := by
    refine validateApprovalRequest_iff.mpr ⟨_,rfl,hchecked.based.overridden (by simp),?_,?_,?_,?_,?_,
      ?_,?_,rfl⟩
    · rw [hitem (by decide)]
      exact hchecked.requestId
    · exact h
    · rw [hitem (by decide)]
      exact hchecked.device
    · rw [hitem (by decide)]
      exact hchecked.action
    · rw [hitem (by decide)]
      exact hchecked.scope
    · rw [hitem (by decide)]
      exact hchecked.risk
    · rw [hitem (by decide)]
      exact hchecked.nonce
  refine ⟨override (askedBy human) r.normalFields,validateCompanionMessage_ok.mpr
    ⟨requestMessage,12000,by rfl,?_⟩,?_⟩
  · rw [← request_project,hrequest]
    rfl
  · apply field_mem
    rw [field_overridden,askedBy,field_overridden]
    rfl

/-- Metrics that are as long as two to their nesting. -/
def pairs : ℕ → Value
  | 0 => .int 0
  | n + 1 => .list [pairs n,pairs n]

theorem pairs_kept (n : ℕ) : metricValue answerRuntime (pairs n) = .ok (pairs n) := by
  induction n with
  | zero => rfl
  | succ n ih =>
    simp only [pairs,metricValue,metricValues,bind_ok,raiseIf_ok]
    exact ⟨(),by simp,_,⟨_,ih,_,⟨_,ih,_,rfl,rfl⟩,rfl⟩,rfl⟩

theorem pairs_clean (n : ℕ) : Clean answerRuntime (pairs n) := by
  induction n with
  | zero => simp [pairs,Clean]
  | succ n ih =>
    rw [pairs,clean_list]
    simp [ih]

theorem le_pairs (n : ℕ) : 2 ^ n ≤ (pairs n).wire.length := by
  induction n with
  | zero => simp [pairs,Value.wire]
  | succ n ih =>
    simp only [pairs,Value.wire,wireItems,List.length_cons,List.length_append,length_wordBytes,pow_succ,
      List.length_nil]
    omega

def watchedConsent : Consent := ⟨"device-essential","",["device.battery"]⟩

theorem watchedConsent_kept : consentOf answerRuntime watchedConsent.toValue = .ok watchedConsent := by
  rfl

/-- An episode with one metric. -/
def watched (metric : Value) : Fields :=
  [(.str "protocol",.str companionProtocol),(.str "version",.int 1),
    (.str "object_type",.str "episode"),(.str "episode_id",.str lowerId),
    (.str "created_ms",.int 1000),(.str "expires_ms",.int 4000),
    (.str "source_node_id",.str "an1aaaaaaaaaaaaaaaaa"),
    (.str "source_batch_ids",.list [.str lowerId]),(.str "episode_type",.str "device.battery-window"),
    (.str "window_start_ms",.int 500),(.str "window_end_ms",.int 900),
    (.str "data_level",.str "operational"),
    (.str "consent",watchedConsent.toValue),
    (.str "transform_version",.str "v1"),(.str "metrics",.map [(.str "level",metric)])]

theorem watched_news {metric : Value} (hkept : metricValue answerRuntime metric = .ok metric)
    (hclean : Clean answerRuntime metric) : ∃ ns,
      episodeNews answerRuntime (item (watched metric)) 1000 = .ok ns ∧
        ("metrics",.map [(.str "level",metric)]) ∈ ns := by
  have hids : idList answerRuntime "source batch ID" [.str lowerId] = .ok [lowerId] := by rfl
  have hname : capabilityToken answerRuntime "episode metric name" (.str "level") = .ok "level" := by
    rfl
  have hlevel : metricEntry answerRuntime (.str "level",metric) = .ok ("level",metric) :=
    metricEntry_ok.mpr ⟨hname,hkept⟩
  have hentries : [((.str "level",metric) : Value × Value)].mapM (metricEntry answerRuntime) =
      .ok [("level",metric)] := by
    rw [mapM_forall₂]
    exact .cons hlevel .nil
  have hforbidden : rejectForbidden answerRuntime "metrics"
      (.map (textEntries (dictOf [("level",metric)]))) = .ok () := by
    rw [rejectForbidden_iff]
    exact record_clean (fun _ => rfl) [("level",metric)] (by simp; decide) (by simpa using hclean)
  have htype : choice answerRuntime (episodeContracts.map Prod.fst) "unsupported P0 episode type"
      (.str "device.battery-window") = .ok "device.battery-window" := by rfl
  have hnode : sourceNodeId answerRuntime (.str "an1aaaaaaaaaaaaaaaaa") = .ok "an1aaaaaaaaaaaaaaaaa" := by
    rfl
  have hdata : dataLevel answerRuntime (.str "operational") = .ok "operational" := by rfl
  have hversion : capabilityToken answerRuntime "transform_version" (.str "v1") = .ok "v1" := by rfl
  simp only [episodeNews,windowOf,bind_ok,raiseIf_ok,fetched_ok,itemsOf_ok,not_lt,not_or]
  refine ⟨_,⟨[.str lowerId],rfl,(),by simp,[lowerId],hids,(),⟨by simp [maxSourceBatches],by simp⟩,
    "device.battery-window",htype,(500,900),⟨500,rfl,900,rfl,(),by decide,rfl⟩,
    [(.str "level",metric)],rfl,(),by simp [maxMetrics],[("level",metric)],hentries,(),hforbidden,
    watchedConsent,watchedConsent_kept,("device-essential","device.battery"),rfl,(),by decide,(),
    by decide,"an1aaaaaaaaaaaaaaaaa",hnode,"operational",hdata,"v1",hversion,rfl⟩,?_⟩
  simp [sortedDict,dictOf,dictPut,textEntries]

theorem watched_accepted {metric : Value} (hkept : metricValue answerRuntime metric = .ok metric)
    (hclean : Clean answerRuntime metric) :
    ∃ fs, validateCompanionMessage answerRuntime episodeKind (.map (watched metric)) = .ok fs ∧
      item fs "metrics" = .map [(.str "level",metric)] := by
  obtain ⟨ns,hnews,hmem⟩ := watched_news hkept hclean
  have hid : identifier answerRuntime "episode_id" (.str lowerId) = .ok lowerId := by rfl
  have hbased : Based answerRuntime "episode" "episode_id" episodeMessage.additional maxBodyTtlMs
      (watched metric) 1000 4000 := by
    exact ⟨rfl,rfl,rfl,.of_keys rfl,⟨_,hid⟩,rfl,rfl,(by decide : (1 : ℤ) ≤ 1000),
      (by decide : (1000 : ℤ) < 4000),(by decide : (4000 - 1000 : ℤ) ≤ maxBodyTtlMs)⟩
  have hk : Normal answerRuntime episodeMessage _ _ := episode_normal fun _ => rfl
  have hnodup : (ns.map Prod.fst).Nodup := hk.new_names hnews ▸ hk.apart.1
  refine ⟨override (watched metric) ns,validateCompanionMessage_ok.mpr ⟨episodeMessage,30000,by rfl,?_⟩,
    item_overridden rfl (find_new hnodup hmem)⟩
  exact project_ok.mpr ⟨_,rfl,ns,1000,4000,hbased,hnews,rfl⟩

/-- Two spellings of one request id that give different results; requests and metrics of any size. -/
theorem upper_request_apart :
    (∃ fs fs', validateCompanionMessage answerRuntime approvalRequestKind (.map (asked lowerId)) =
        .ok fs ∧
      validateCompanionMessage answerRuntime approvalRequestKind (.map (asked upperId)) = .ok fs' ∧
      normalized answerRuntime (.str upperId) = normalized answerRuntime (.str lowerId) ∧ fs ≠ fs') ∧
    (∀ n, ∃ body fs, validateCompanionMessage answerRuntime approvalRequestKind body = .ok fs ∧
      n ≤ (Value.map fs).wire.length) ∧
    ∀ n, ∃ body fs, validateCompanionMessage answerRuntime episodeKind body = .ok fs ∧
      n ≤ (item fs "metrics").wire.length := by
  have hlower : lower (strip lowerId) = lowerId := normal_hex (n := 32) (by decide)
  have hupper : lower (strip upperId) = lowerId := by decide
  refine ⟨⟨_,_,@asked_message lowerId (by decide),@asked_message upperId (by decide),?_,?_⟩,
    fun n => ?_,fun n => ?_⟩
  · rw [normalized_str fun _ => rfl,normalized_str fun _ => rfl,hlower,hupper]
  · intro h
    have hid := @asked_id lowerId (by decide)
    rw [h,@asked_id upperId (by decide)] at hid
    exact absurd (Value.str.inj hid) (by decide)
  · obtain ⟨fs,hfs,hmem⟩ := askedBy_accepted (longHuman_accepted n)
    refine ⟨_,fs,hfs,le_trans ?_ (entry_le_wire hmem)⟩
    refine le_trans ?_ (length_le_wire (longHuman n))
    simp [longHuman]
    omega
  · obtain ⟨fs,hfs,hmetrics⟩ := watched_accepted (pairs_kept n) (pairs_clean n)
    refine ⟨_,fs,hfs,?_⟩
    rw [hmetrics]
    exact (Nat.lt_two_pow_self.le.trans (le_pairs n)).trans
      (entry_le_wire (e := (.str "level",pairs n)) (List.mem_cons_self ..))

end Sample

end Messages

end Anet.CompanionProtocol
