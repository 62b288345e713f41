import Anet.ControlObjects
import Anet.Json

/-! The dictionary forms of the signed objects: what a constructor signs comes back from its
dictionary, in whatever order its fields are and after JSON, and what is read from a dictionary is
signed as a whole. -/
namespace Anet

open ControlPlane

namespace HumanDeviceRevocation

def fieldNames : List String :=
  ["version","object_type","human_id","human_sign_public","device_node_id","descriptor_digest",
    "sequence","previous_digest","revoked_ms","reason_code","signature"]

/-- `from_dict`. -/
def fromDict (lib : ControlLibrary) (descriptor : NodeDescriptor) (now : ℤ) (value : Value) :
    Result HumanDeviceRevocation := do
  let entries ← fetched value.asMap (.value "control-plane object must be a map")
  requireExactFields fieldNames entries
  let version ← parseInt "human device revocation version" (item entries "version")
  let humanSignPublic ← decodeBytes lib 32 "human signing public key"
    (item entries "human_sign_public")
  let descriptorDigest ← decodeBytes lib 32 "descriptor digest" (item entries "descriptor_digest")
  let sequence ← parseInt "human device revocation sequence" (item entries "sequence")
  let previousDigest ← decodeBytes lib 32 "previous digest" (item entries "previous_digest")
  let revokedMs ← parseInt "human device revocation time" (item entries "revoked_ms")
  let signature ← decodeBytes lib 64 "human device revocation signature" (item entries "signature")
  let v : HumanDeviceRevocation := ⟨lib.rt.str (item entries "human_id"),humanSignPublic,
    lib.rt.str (item entries "device_node_id"),descriptorDigest,sequence,previousDigest,revokedMs,
    lib.rt.str (item entries "reason_code"),signature,version,lib.rt.str (item entries "object_type")⟩
  v.verify lib descriptor now
  return v

end HumanDeviceRevocation

/-- `issue_human_device_revocation`, by a human with these keys. -/
def issueHumanDeviceRevocation (lib : ControlLibrary) (humanSignPublic : Bytes)
    (sign : Bytes → Bytes) (descriptor : NodeDescriptor) (sequence : ℤ) (previousDigest : Bytes)
    (reasonCode : String) (revokedMs : ℤ) : Result HumanDeviceRevocation := do
  let digest ← descriptor.digest lib
  let unsigned : HumanDeviceRevocation := ⟨lib.deriveHumanId humanSignPublic,humanSignPublic,
    descriptor.nodeId,digest,sequence,previousDigest,revokedMs,reasonCode,[],1,
    "anet.human-device-revocation.v1"⟩
  let message ← lib.rt.canonicalPack (.list unsigned.signingFields)
  let event := { unsigned with signature := sign message }
  event.verify lib descriptor revokedMs
  return event

namespace ControlPlane

variable {lib : ControlLibrary}

/-- How a field of a dictionary enters the signed list. -/
inductive FieldKind | int | text | bytes (size : ℕ) | texts

/-- The signed form of a field. -/
def signedField (lib : ControlLibrary) : FieldKind → Value → Option Value
  | .int,v => (parseInt "" v).toOption.map .int
  | .text,v => some (.str (lib.rt.str v))
  | .bytes size,v => (decodeBytes lib size "" v).toOption.map .bin
  | .texts,v => (parseTexts lib "" v).toOption.map texts

/-- The content of a dictionary that a signature is over. -/
def signedContent (lib : ControlLibrary) (layout : List (String × FieldKind))
    (entries : List (Value × Value)) : Option (List Value) :=
  layout.mapM fun f => signedField lib f.2 (item entries f.1)

/-- A class of signed objects: its fields as the signature covers them, its dictionary form, and the
checks of the class. -/
structure SignedForm (α : Type) where
  names : List String
  layout : List (String × FieldKind)
  signingFields : α → List Value
  signature : α → Bytes
  toDict : α → Value
  fromDict : ℤ → Value → Result α
  verify : ℤ → α → Result Unit
  digest : α → Result Bytes
  signer : α → Bytes
  current : ℤ → α → Prop

namespace SignedForm

variable {α : Type}

/-- What an object keeps through its dictionary: at every time at which it is current it is read back,
also from its fields in another order and from the JSON of the dictionary. -/
structure Survives (lib : ControlLibrary) (F : SignedForm α) (issuedMs : ℤ) (x : α) : Prop where
  issued : F.current issuedMs x
  verifies : ∀ now, F.current now x → F.verify now x = .ok ()
  digest : ∃ digest, F.digest x = .ok digest
  read : ∀ now, F.current now x → F.fromDict now (F.toDict x) = .ok x
  json : ∃ entries, (F.toDict x).json lib.rt = some (.map entries) ∧ ∀ entries', entries'.Perm entries →
    ∀ now, F.current now x → F.fromDict now (.map entries') = .ok x

/-- What holds of an object that was read: its dictionary has the fields of its signed content and
the signature, both dictionaries have the content that the signature is over, and this content and
the signature determine the object. -/
structure Covered (lib : ControlLibrary) (F : SignedForm α) (now : ℤ) (value : Value) (x : α) :
    Prop where
  entries : ∃ entries entries', value = .map entries ∧ F.toDict x = .map entries' ∧
    (∀ e ∈ entries, ∃ name ∈ F.layout.map Prod.fst ++ ["signature"], e.1 = .str name) ∧
    signedContent lib F.layout entries = some (F.signingFields x) ∧
    signedContent lib F.layout entries' = some (F.signingFields x)
  signed : ∃ name, verifySignature lib name (F.signer x) (F.signature x) (F.signingFields x) = .ok ()
  verified : F.verify now x = .ok ()
  determined : ∀ y, F.signingFields y = F.signingFields x → F.signature y = F.signature x → y = x

/-- How the three places of a class are aligned. -/
structure Aligned (lib : ControlLibrary) (F : SignedForm α) : Prop where
  again : ∀ now now' x, F.verify now x = .ok () → (F.verify now' x = .ok () ↔ F.current now' x)
  round : ∀ now now' x, F.verify now x = .ok () →
    F.fromDict now' (F.toDict x) = (F.verify now' x).map fun _ => x
  reads : ∀ now value x, F.fromDict now value = .ok x → ∃ entries, value = .map entries ∧
    requireExactFields F.names entries = .ok () ∧
    signedContent lib F.layout entries = some (F.signingFields x) ∧ F.verify now x = .ok ()
  reordered : ∀ now entries entries', requireExactFields F.names entries = .ok () →
    requireExactFields F.names entries' = .ok () →
    (∀ name, item entries name = item entries' name) →
    F.fromDict now (.map entries) = F.fromDict now (.map entries')
  fields : ∀ x, ∃ entries : List (String × Value), F.toDict x = .map (textEntries entries) ∧
    entries.map Prod.fst = F.names ∧
    ∀ now, F.verify now x = .ok () → ∀ e ∈ entries, e.2.json lib.rt = some e.2
  distinct : F.names.Nodup
  covers : ∀ name ∈ F.names, name ∈ F.layout.map Prod.fst ++ ["signature"]
  signs : ∀ now x, F.verify now x = .ok () →
    ∃ name, verifySignature lib name (F.signer x) (F.signature x) (F.signingFields x) = .ok ()
  digests : ∀ now x, F.verify now x = .ok () → ∃ digest, F.digest x = .ok digest
  determined : ∀ x y, F.signingFields x = F.signingFields y → F.signature x = F.signature y → x = y

section Json

variable {rt : Runtime}

theorem dictPut_new {key : String} {value : Value} {d : List (String × Value)}
    (h : key ∉ d.map Prod.fst) : dictPut key value d = d ++ [(key,value)] := by
  induction d with
  | nil => rfl
  | cons e es ih =>
    rw [List.map_cons,List.mem_cons,not_or] at h
    rw [dictPut,if_neg (fun heq => h.1 heq.symm),ih h.2]
    rfl

/-- A dictionary with distinct keys is built as it is written. -/
theorem dictOf_distinct {entries : List (String × Value)} (h : (entries.map Prod.fst).Nodup) :
    dictOf entries = entries := by
  have hfold (d : List (String × Value)) (hd : ((d ++ entries).map Prod.fst).Nodup) :
      entries.foldl (fun d e => dictPut e.1 e.2 d) d = d ++ entries := by
    induction entries generalizing d with
    | nil => simp
    | cons e es ih =>
      have hnew : e.1 ∉ d.map Prod.fst := by
        rw [List.map_append,List.nodup_append] at hd
        intro hmem
        exact hd.2.2 e.1 hmem e.1 (by simp) rfl
      rw [List.foldl_cons,dictPut_new hnew]
      have hrest : (((d ++ [(e.1,e.2)]) ++ es).map Prod.fst).Nodup := by simpa using hd
      rw [ih (List.nodup_cons.mp (by simpa using h)).2 _ hrest]
      simp
  exact hfold [] (by simpa using h)

/-- A dictionary whose keys are distinct and whose values are JSON is its own JSON. -/
theorem json_textEntries {entries : List (String × Value)} (h : (entries.map Prod.fst).Nodup)
    (hvalues : ∀ e ∈ entries, e.2.json rt = some e.2) :
    (Value.map (textEntries entries)).json rt = some (.map (textEntries entries)) := by
  have hentries : jsonEntries rt (textEntries entries) = some entries := by
    clear h
    induction entries with
    | nil => rfl
    | cons e es ih =>
      change jsonEntries rt ((.str e.1,e.2) :: textEntries es) = some (e :: es)
      rw [jsonEntries,hvalues e (by simp),ih fun e he => hvalues e (List.mem_cons_of_mem _ he)]
      rfl
  rw [Value.json,hentries]
  change some (Value.map (textEntries (dictOf entries))) = _
  rw [dictOf_distinct h]

theorem json_texts (values : List String) : (texts values).json rt = some (texts values) := by
  have hitems : jsonItems rt (values.map Value.str) = some (values.map .str) := by
    induction values with
    | nil => rfl
    | cons v vs ih =>
      rw [List.map_cons,jsonItems,ih]
      rfl
  rw [texts,Value.json,hitems]
  rfl

theorem json_int {i : ℤ} (h : -2 ^ 63 ≤ i ∧ i < 2 ^ 64) : (Value.int i).json rt = some (.int i) := by
  have hsize : i.natAbs < 10 ^ 20 := by omega
  have hprint : printable i :=
    decide_eq_true (hsize.trans_le (Nat.pow_le_pow_right (by decide) (by decide)))
  rw [Value.json,if_pos hprint]

end Json

section Fields

variable {entries entries' : List (Value × Value)} {names : List String}

theorem field_eq_some (h : (entries.map Prod.fst).Nodup) {name : String} {v : Value} :
    Value.field entries name = some v ↔ (Value.str name,v) ∈ entries := by
  induction entries with
  | nil => simp
  | cons e entries ih =>
    obtain ⟨key,old⟩ := e
    rw [List.map_cons,List.nodup_cons] at h
    rw [Value.field_cons,List.mem_cons,Prod.mk.injEq]
    by_cases hkey : key.isStr name
    · obtain rfl := Value.isStr_iff.mp hkey
      have hout : (Value.str name,v) ∉ entries := fun hmem => h.1 (List.mem_map.mpr ⟨_,hmem,rfl⟩)
      simp [Value.isStr,hout,eq_comm]
    · have hne : ¬ Value.str name = key := fun heq => hkey (Value.isStr_iff.mpr heq.symm)
      rw [if_neg hkey,ih h.2]
      simp [hne]

/-- The order of the fields does not matter. -/
theorem field_perm (hperm : entries'.Perm entries) (h : (entries.map Prod.fst).Nodup)
    (name : String) : Value.field entries' name = Value.field entries name := by
  have h' : (entries'.map Prod.fst).Nodup := (hperm.map Prod.fst).nodup_iff.mpr h
  apply Option.ext
  intro v
  rw [field_eq_some h,field_eq_some h',hperm.mem_iff]

theorem requireExactFields_perm (hperm : entries'.Perm entries) (h : (entries.map Prod.fst).Nodup)
    (hexact : requireExactFields names entries = .ok ()) :
    requireExactFields names entries' = .ok () := by
  obtain ⟨hfields,hkeys⟩ := requireExactFields_ok.mp hexact
  refine requireExactFields_ok.mpr ⟨fun name hname => ?_,fun e he => hkeys e (hperm.mem_iff.mp he)⟩
  rw [field_perm hperm h]
  exact hfields name hname

theorem textEntries_keys (entries : List (String × Value)) :
    (textEntries entries).map Prod.fst = (entries.map Prod.fst).map .str := by
  simp [textEntries,List.map_map,Function.comp_def]

end Fields

/-- The entries of a dictionary whose keys are text. -/
def fieldTexts (value : Value) : List (String × Value) :=
  (value.asMap.getD []).filterMap fun e => match e.1 with | .str s => some (s,e.2) | _ => none

section Alignment

variable {F : SignedForm α} {now : ℤ} {x : α} {value : Value}

/-- An object of an aligned class that was valid once survives its dictionary. -/
theorem Aligned.survives (h : Aligned lib F) (hx : F.verify now x = .ok ()) :
    Survives lib F now x := by
  have hagain (now' : ℤ) (hcurrent : F.current now' x) : F.verify now' x = .ok () :=
    (h.again now now' x hx).mpr hcurrent
  have hread (now' : ℤ) (hcurrent : F.current now' x) : F.fromDict now' (F.toDict x) = .ok x := by
    rw [h.round now now' x hx,hagain now' hcurrent]
    rfl
  obtain ⟨entries,hdict,hnames,hplain⟩ := h.fields x
  have hdistinct : (entries.map Prod.fst).Nodup := by
    rw [hnames]
    exact h.distinct
  have hkeys : ((textEntries entries).map Prod.fst).Nodup := by
    rw [textEntries_keys]
    exact hdistinct.map fun _ _ heq => Value.str.inj heq
  have hexact : requireExactFields F.names (textEntries entries) = .ok () :=
    requireExactFields_keys (by rw [textEntries_keys,hnames])
  refine ⟨(h.again now now x hx).mp hx,hagain,h.digests now x hx,hread,textEntries entries,?_,?_⟩
  · rw [hdict]
    exact json_textEntries hdistinct (hplain now hx)
  · intro entries' hperm now' hcurrent
    rw [h.reordered now' entries' (textEntries entries) (requireExactFields_perm hperm hkeys hexact)
      hexact fun name => ?_,← hdict]
    · exact hread now' hcurrent
    · rw [item,item,Value.fieldOr,Value.fieldOr,field_perm hperm hkeys]

/-- What is read in an aligned class is covered by its signature. -/
theorem Aligned.covered (h : Aligned lib F) (hx : F.fromDict now value = .ok x) :
    Covered lib F now value x := by
  obtain ⟨entries,rfl,hexact,hcontent,hverify⟩ := h.reads now value x hx
  have hread : F.fromDict now (F.toDict x) = .ok x := by
    rw [h.round now now x hverify,hverify]
    rfl
  obtain ⟨entries',hdict,-,hcontent',-⟩ := h.reads now _ x hread
  refine ⟨⟨entries,entries',rfl,hdict,fun e he => ?_,hcontent,hcontent'⟩,h.signs now x hverify,hverify,
    fun y hfields hsignature => h.determined y x hfields hsignature⟩
  obtain ⟨name,hname,hkey⟩ := (requireExactFields_ok.mp hexact).2 e he
  exact ⟨name,h.covers name hname,hkey⟩

end Alignment

end SignedForm

/-- msgpack writes integers of 64 bits only. -/
def PacksInts (lib : ControlLibrary) : Prop :=
  ∀ fields raw, lib.rt.canonicalPack (.list fields) = .ok raw → ∀ i, Value.int i ∈ fields →
    -2 ^ 63 ≤ i ∧ i < 2 ^ 64

/-- The integers under a valid signature. -/
theorem signed_ints (ints : PacksInts lib) {name : String} {signPublic signature : Bytes}
    {fields : List Value} (h : verifySignature lib name signPublic signature fields = .ok ()) {i : ℤ}
    (hi : Value.int i ∈ fields) : (Value.int i).json lib.rt = some (.int i) := by
  simp only [verifySignature,bind_ok] at h
  obtain ⟨_,-,raw,hraw,-⟩ := h
  exact SignedForm.json_int (ints fields raw hraw i hi)

theorem texts_injective {xs ys : List String} (h : texts xs = texts ys) : xs = ys :=
  List.map_injective_iff.mpr (fun _ _ heq => Value.str.inj heq) (Value.list.inj h)

section Reading

variable {name message : String} {size : ℕ} {v : Value} {i : ℤ} {raw : Bytes} {l : List String}

theorem parseInt_ok (h : parseInt name v = .ok i) : signedField lib .int v = some (.int i) := by
  cases v with
  | int j =>
    obtain rfl := Except.ok.inj h
    rfl
  | _ => cases h

theorem decodeBytes_ok (h : decodeBytes lib size name v = .ok raw) :
    signedField lib (.bytes size) v = some (.bin raw) := by
  simp only [decodeBytes,bind_ok,fetched_ok,validateBytes_ok] at h
  obtain ⟨raw',hraw,_,hsize,heq⟩ := h
  obtain rfl := Except.ok.inj heq
  have hagain : decodeBytes lib size "" v = .ok raw' := by
    simp only [decodeBytes,bind_ok,fetched_ok,validateBytes_ok]
    exact ⟨raw',hraw,(),hsize,rfl⟩
  rw [signedField,hagain]
  rfl

theorem signedField_text : signedField lib .text v = some (.str (lib.rt.str v)) := rfl

theorem parseTexts_ok (h : parseTexts lib message v = .ok l) :
    signedField lib .texts v = some (texts l) := by
  cases v with
  | list items =>
    obtain rfl := Except.ok.inj h
    rfl
  | _ => cases h

end Reading

section Node

def nodeForm (lib : ControlLibrary) : SignedForm NodeDescriptor where
  names := NodeDescriptor.fieldNames
  layout := [("version",.int),("object_type",.text),("node_id",.text),("sign_public",.bytes 32),
    ("box_public",.bytes 32),("label",.text),("capabilities",.texts),("sequence",.int),
    ("previous_digest",.bytes 32),("issued_ms",.int),("expires_ms",.int)]
  signingFields := NodeDescriptor.signingFields
  signature := NodeDescriptor.signature
  toDict := NodeDescriptor.toDict
  fromDict := NodeDescriptor.fromDict lib
  verify := fun now d => d.verify lib now
  digest := fun d => d.digest lib
  signer := NodeDescriptor.signPublic
  current := NodeDescriptor.Open

theorem node_signs {d : NodeDescriptor} {now : ℤ} (h : d.verify lib now = .ok ()) :
    verifySignature lib "node descriptor signature" d.signPublic d.signature d.signingFields =
      .ok () := by
  simp only [NodeDescriptor.verify,bind_ok] at h
  obtain ⟨_,-,_,-,_,-,_,-,_,-,_,-,_,-,_,-,_,-,hsignature⟩ := h
  exact hsignature

theorem node_aligned (ints : PacksInts lib) : SignedForm.Aligned lib (nodeForm lib) where
  again now now' d h := NodeDescriptor.verify_again h
  round now now' d h := NodeDescriptor.fromDict_toDict h
  reads now value d h := by
    simp only [nodeForm,NodeDescriptor.fromDict,bind_ok,fetched_ok] at h
    obtain ⟨entries,hvalue,_,hexact,capabilities,hcapabilities,version,hversion,signPublic,hsign,
      boxPublic,hbox,sequence,hsequence,previousDigest,hprevious,issuedMs,hissued,expiresMs,hexpires,
      signature,-,_,hverify,hd⟩ := h
    obtain rfl := Except.ok.inj hd
    cases value with
    | map fields =>
      obtain rfl := Option.some.inj hvalue
      refine ⟨fields,rfl,hexact,?_,hverify⟩
      simp only [signedContent,nodeForm,List.mapM_cons,List.mapM_nil,parseInt_ok hversion,
        decodeBytes_ok hsign,decodeBytes_ok hbox,parseTexts_ok hcapabilities,parseInt_ok hsequence,
        decodeBytes_ok hprevious,parseInt_ok hissued,parseInt_ok hexpires,signedField_text]
      rfl
    | _ => cases hvalue
  reordered now entries entries' hexact hexact' hitems := by
    change NodeDescriptor.fromDict lib now (.map entries) = NodeDescriptor.fromDict lib now (.map entries')
    unfold NodeDescriptor.fromDict
    change requireExactFields NodeDescriptor.fieldNames _ = _ at hexact hexact'
    simp only [Value.asMap,fetched,Option.elim_some,bind,Except.bind,hexact,hexact',hitems]
  fields d := by
    refine ⟨SignedForm.fieldTexts d.toDict,rfl,rfl,fun now h => ?_⟩
    have hint {i : ℤ} := signed_ints ints (node_signs h) (i := i)
    simp only [SignedForm.fieldTexts,NodeDescriptor.toDict,Value.asMap,Option.getD_some,
      List.filterMap_cons,List.filterMap_nil,List.forall_mem_cons]
    unfold NodeDescriptor.signingFields at hint
    exact ⟨hint (by simp),rfl,rfl,rfl,rfl,rfl,SignedForm.json_texts _,hint (by simp),rfl,hint (by simp),
      hint (by simp),rfl,
      fun _ h => absurd h List.not_mem_nil⟩
  distinct := (by decide : NodeDescriptor.fieldNames.Nodup)
  covers := by
    change ∀ name ∈ NodeDescriptor.fieldNames,_
    simp [NodeDescriptor.fieldNames,nodeForm]
  signs now d h := ⟨_,node_signs h⟩
  digests now d h := objectDigest_signed (by simp [NodeDescriptor.signingFields]) (node_signs h)
  determined d d' hfields hsignature := by
    cases d
    cases d'
    simp only [nodeForm,NodeDescriptor.signingFields,List.cons.injEq,Value.int.injEq,Value.str.injEq,
      Value.bin.injEq,and_true] at hfields hsignature
    obtain ⟨rfl,rfl,rfl,rfl,rfl,rfl,hcapabilities,rfl,rfl,rfl,rfl⟩ := hfields
    obtain rfl := texts_injective hcapabilities
    obtain rfl := hsignature
    rfl

end Node

section Reachability

variable {d : NodeDescriptor}

/-- The records of a descriptor's node. -/
def reachabilityForm (lib : ControlLibrary) (d : NodeDescriptor) : SignedForm ReachabilityRecord where
  names := ReachabilityRecord.fieldNames
  layout := [("version",.int),("object_type",.text),("node_id",.text),("descriptor_digest",.bytes 32),
    ("session_id",.text),("protocol_versions",.texts),("candidates",.texts),
    ("relay_reservation",.text),("capability_digest",.bytes 32),("sequence",.int),
    ("previous_digest",.bytes 32),("issued_ms",.int),("expires_ms",.int)]
  signingFields := ReachabilityRecord.signingFields
  signature := ReachabilityRecord.signature
  toDict := ReachabilityRecord.toDict
  fromDict := ReachabilityRecord.fromDict lib d
  verify := fun now r => r.verify lib d now
  digest := fun r => r.digest lib
  signer := fun _ => d.signPublic
  current := fun now r => (r.issuedMs ≤ now + maxClockSkewMs ∧ now < r.expiresMs) ∧ d.Open now

theorem reachability_signs {r : ReachabilityRecord} {now : ℤ} (h : r.verify lib d now = .ok ()) :
    verifySignature lib "reachability signature" d.signPublic r.signature r.signingFields =
      .ok () := by
  simp only [ReachabilityRecord.verify,bind_ok] at h
  obtain ⟨_,-,_,-,_,-,_,-,_,-,_,-,_,-,_,-,_,-,_,-,_,-,_,-,_,-,_,-,hsignature⟩ := h
  exact hsignature

theorem reachability_again {r : ReachabilityRecord} {now now' : ℤ}
    (h : r.verify lib d now = .ok ()) : r.verify lib d now' = .ok () ↔
      (r.issuedMs ≤ now' + maxClockSkewMs ∧ now' < r.expiresMs) ∧ d.Open now' := by
  simp only [ReachabilityRecord.verify,bind_ok] at h ⊢
  obtain ⟨a,ha,b,hb,c,hc,e,he,f,hf,g,hg,i,hi,j,hj,k,hk,l,hl,m,hm,n,hn,o,ho,p,hp,hsignature⟩ := h
  constructor
  · rintro ⟨_,-,_,hopen,_,-,_,-,_,-,_,-,_,-,_,-,_,-,_,-,_,-,_,-,_,-,_,hwindow,-⟩
    exact ⟨(validateWindow_again hp).mp hwindow,(NodeDescriptor.verify_again hb).mp hopen⟩
  · rintro ⟨hwindow,hopen⟩
    exact ⟨a,ha,b,(NodeDescriptor.verify_again hb).mpr hopen,c,hc,e,he,f,hf,g,hg,i,hi,j,hj,k,hk,l,hl,
      m,hm,n,hn,o,ho,p,(validateWindow_again hp).mpr hwindow,hsignature⟩

theorem reachability_aligned (ints : PacksInts lib) :
    SignedForm.Aligned lib (reachabilityForm lib d) where
  again now now' r h := reachability_again h
  round now now' r h := ReachabilityRecord.fromDict_toDict h
  reads now value r h := by
    simp only [reachabilityForm,ReachabilityRecord.fromDict,bind_ok,fetched_ok] at h
    obtain ⟨entries,hvalue,_,hexact,protocols,hprotocols,candidates,hcandidates,version,hversion,
      descriptorDigest,hbound,capabilityDigest,hcapability,sequence,hsequence,previousDigest,
      hprevious,issuedMs,hissued,expiresMs,hexpires,signature,-,_,hverify,hr⟩ := h
    obtain rfl := Except.ok.inj hr
    cases value with
    | map fields =>
      obtain rfl := Option.some.inj hvalue
      refine ⟨fields,rfl,hexact,?_,hverify⟩
      simp only [signedContent,reachabilityForm,List.mapM_cons,List.mapM_nil,parseInt_ok hversion,
        decodeBytes_ok hbound,decodeBytes_ok hcapability,parseTexts_ok hprotocols,
        parseTexts_ok hcandidates,parseInt_ok hsequence,decodeBytes_ok hprevious,parseInt_ok hissued,
        parseInt_ok hexpires,signedField_text]
      rfl
    | _ => cases hvalue
  reordered now entries entries' hexact hexact' hitems := by
    change ReachabilityRecord.fromDict lib d now (.map entries) =
      ReachabilityRecord.fromDict lib d now (.map entries')
    unfold ReachabilityRecord.fromDict
    change requireExactFields ReachabilityRecord.fieldNames _ = _ at hexact hexact'
    simp only [Value.asMap,fetched,Option.elim_some,bind,Except.bind,hexact,hexact',hitems]
  fields r := by
    refine ⟨SignedForm.fieldTexts r.toDict,rfl,rfl,fun now h => ?_⟩
    have hint {i : ℤ} := signed_ints ints (reachability_signs h) (i := i)
    simp only [SignedForm.fieldTexts,ReachabilityRecord.toDict,Value.asMap,Option.getD_some,
      List.filterMap_cons,List.filterMap_nil,List.forall_mem_cons]
    unfold ReachabilityRecord.signingFields at hint
    exact ⟨hint (by simp),rfl,rfl,rfl,rfl,SignedForm.json_texts _,SignedForm.json_texts _,rfl,rfl,
      hint (by simp),rfl,hint (by simp),hint (by simp),rfl,
      fun _ h => absurd h List.not_mem_nil⟩
  distinct := (by decide : ReachabilityRecord.fieldNames.Nodup)
  covers := by
    change ∀ name ∈ ReachabilityRecord.fieldNames,_
    simp [ReachabilityRecord.fieldNames,reachabilityForm]
  signs now r h := ⟨_,reachability_signs h⟩
  digests now r h :=
    objectDigest_signed (by simp [ReachabilityRecord.signingFields]) (reachability_signs h)
  determined r r' hfields hsignature := by
    cases r
    cases r'
    simp only [reachabilityForm,ReachabilityRecord.signingFields,List.cons.injEq,Value.int.injEq,
      Value.str.injEq,Value.bin.injEq,and_true] at hfields hsignature
    obtain ⟨rfl,rfl,rfl,rfl,rfl,hprotocols,hcandidates,rfl,rfl,rfl,rfl,rfl,rfl⟩ := hfields
    obtain rfl := texts_injective hprotocols
    obtain rfl := texts_injective hcandidates
    obtain rfl := hsignature
    rfl

end Reachability

section Grant

variable {d : NodeDescriptor}

/-- The grants for a descriptor's device. -/
def grantForm (lib : ControlLibrary) (d : NodeDescriptor) : SignedForm HumanDeviceGrant where
  names := HumanDeviceGrant.fieldNames
  layout := [("version",.int),("object_type",.text),("human_id",.text),("human_sign_public",.bytes 32),
    ("device_node_id",.text),("descriptor_digest",.bytes 32),("capabilities",.texts),
    ("sequence",.int),("previous_digest",.bytes 32),("issued_ms",.int),("expires_ms",.int)]
  signingFields := HumanDeviceGrant.signingFields
  signature := HumanDeviceGrant.signature
  toDict := HumanDeviceGrant.toDict
  fromDict := HumanDeviceGrant.fromDict lib d
  verify := fun now g => g.verify lib d now
  digest := fun g => g.digest lib
  signer := HumanDeviceGrant.humanSignPublic
  current := fun now g => g.Open now ∧ d.Open now

theorem grant_signs {g : HumanDeviceGrant} {now : ℤ} (h : g.verify lib d now = .ok ()) :
    verifySignature lib "human device grant signature" g.humanSignPublic g.signature
      g.signingFields = .ok () := by
  simp only [HumanDeviceGrant.verify,bind_ok] at h
  obtain ⟨_,-,_,-,_,-,_,-,_,-,_,-,_,-,_,-,_,-,_,-,_,-,hsignature⟩ := h
  exact hsignature

theorem grant_again {g : HumanDeviceGrant} {now now' : ℤ} (h : g.verify lib d now = .ok ()) :
    g.verify lib d now' = .ok () ↔ g.Open now' ∧ d.Open now' := by
  have hd := (HumanDeviceGrant.verify_parts h).1
  have hbound := ((HumanDeviceGrant.verify_again h hd).mp h).1
  rw [HumanDeviceGrant.verify_again h hd]
  tauto

theorem grant_aligned (ints : PacksInts lib) : SignedForm.Aligned lib (grantForm lib d) where
  again now now' g h := grant_again h
  round now now' g h := HumanDeviceGrant.fromDict_toDict h
  reads now value g h := by
    simp only [grantForm,HumanDeviceGrant.fromDict,bind_ok,fetched_ok] at h
    obtain ⟨entries,hvalue,_,hexact,capabilities,hcapabilities,version,hversion,humanSignPublic,hkey,
      descriptorDigest,hbound,sequence,hsequence,previousDigest,hprevious,issuedMs,hissued,expiresMs,
      hexpires,signature,-,_,hverify,hg⟩ := h
    obtain rfl := Except.ok.inj hg
    cases value with
    | map fields =>
      obtain rfl := Option.some.inj hvalue
      refine ⟨fields,rfl,hexact,?_,hverify⟩
      simp only [signedContent,grantForm,List.mapM_cons,List.mapM_nil,parseInt_ok hversion,
        decodeBytes_ok hkey,decodeBytes_ok hbound,parseTexts_ok hcapabilities,parseInt_ok hsequence,
        decodeBytes_ok hprevious,parseInt_ok hissued,parseInt_ok hexpires,signedField_text]
      rfl
    | _ => cases hvalue
  reordered now entries entries' hexact hexact' hitems := by
    change HumanDeviceGrant.fromDict lib d now (.map entries) =
      HumanDeviceGrant.fromDict lib d now (.map entries')
    unfold HumanDeviceGrant.fromDict
    change requireExactFields HumanDeviceGrant.fieldNames _ = _ at hexact hexact'
    simp only [Value.asMap,fetched,Option.elim_some,bind,Except.bind,hexact,hexact',hitems]
  fields g := by
    refine ⟨SignedForm.fieldTexts g.toDict,rfl,rfl,fun now h => ?_⟩
    have hint {i : ℤ} := signed_ints ints (grant_signs h) (i := i)
    simp only [SignedForm.fieldTexts,HumanDeviceGrant.toDict,Value.asMap,Option.getD_some,
      List.filterMap_cons,List.filterMap_nil,List.forall_mem_cons]
    unfold HumanDeviceGrant.signingFields at hint
    exact ⟨hint (by simp),rfl,rfl,rfl,rfl,rfl,SignedForm.json_texts _,hint (by simp),rfl,hint (by simp),
      hint (by simp),rfl,
      fun _ h => absurd h List.not_mem_nil⟩
  distinct := (by decide : HumanDeviceGrant.fieldNames.Nodup)
  covers := by
    change ∀ name ∈ HumanDeviceGrant.fieldNames,_
    simp [HumanDeviceGrant.fieldNames,grantForm]
  signs now g h := ⟨_,grant_signs h⟩
  digests now g h := objectDigest_signed (by simp [HumanDeviceGrant.signingFields]) (grant_signs h)
  determined g g' hfields hsignature := by
    cases g
    cases g'
    simp only [grantForm,HumanDeviceGrant.signingFields,List.cons.injEq,Value.int.injEq,
      Value.str.injEq,Value.bin.injEq,and_true] at hfields hsignature
    obtain ⟨rfl,rfl,rfl,rfl,rfl,rfl,hcapabilities,rfl,rfl,rfl,rfl⟩ := hfields
    obtain rfl := texts_injective hcapabilities
    obtain rfl := hsignature
    rfl

end Grant

section Revocation

variable {d : NodeDescriptor}

/-- The revocations for a descriptor's device. -/
def revocationForm (lib : ControlLibrary) (d : NodeDescriptor) :
    SignedForm HumanDeviceRevocation where
  names := HumanDeviceRevocation.fieldNames
  layout := [("version",.int),("object_type",.text),("human_id",.text),("human_sign_public",.bytes 32),
    ("device_node_id",.text),("descriptor_digest",.bytes 32),("sequence",.int),
    ("previous_digest",.bytes 32),("revoked_ms",.int),("reason_code",.text)]
  signingFields := HumanDeviceRevocation.signingFields
  signature := HumanDeviceRevocation.signature
  toDict := HumanDeviceRevocation.toDict
  fromDict := HumanDeviceRevocation.fromDict lib d
  verify := fun now v => v.verify lib d now
  digest := fun v => v.digest lib
  signer := HumanDeviceRevocation.humanSignPublic
  current := fun now v => v.revokedMs ≤ now + maxClockSkewMs ∧ d.Open now

theorem revocation_signs {v : HumanDeviceRevocation} {now : ℤ} (h : v.verify lib d now = .ok ()) :
    verifySignature lib "human device revocation signature" v.humanSignPublic v.signature
      v.signingFields = .ok () := by
  simp only [HumanDeviceRevocation.verify,bind_ok] at h
  obtain ⟨_,-,_,-,_,-,_,-,_,-,_,-,_,-,_,-,_,-,_,-,hsignature⟩ := h
  exact hsignature

theorem revocation_again {v : HumanDeviceRevocation} {now now' : ℤ}
    (h : v.verify lib d now = .ok ()) : v.verify lib d now' = .ok () ↔
      v.revokedMs ≤ now' + maxClockSkewMs ∧ d.Open now' := by
  simp only [HumanDeviceRevocation.verify,bind_ok] at h ⊢
  obtain ⟨a,ha,b,hb,c,hc,e,he,f,hf,g,hg,i,hi,j,hj,k,hk,l,hl,hsignature⟩ := h
  rw [raiseIf_ok,not_or,not_le,not_lt] at hk
  constructor
  · rintro ⟨_,-,_,hopen,_,-,_,-,_,-,_,-,_,-,_,-,_,htime,-⟩
    rw [raiseIf_ok,not_or,not_lt] at htime
    exact ⟨htime.2,(NodeDescriptor.verify_again hb).mp hopen⟩
  · rintro ⟨htime,hopen⟩
    refine ⟨a,ha,b,(NodeDescriptor.verify_again hb).mpr hopen,c,hc,e,he,f,hf,g,hg,i,hi,j,hj,k,?_,l,hl,
      hsignature⟩
    rw [raiseIf_ok,not_or,not_le,not_lt]
    exact ⟨hk.1,htime⟩

theorem revocation_sizes {v : HumanDeviceRevocation} {now : ℤ} (h : v.verify lib d now = .ok ()) :
    v.humanSignPublic.length = 32 ∧ v.descriptorDigest.length = 32 ∧ v.previousDigest.length = 32 ∧
      v.signature.length = 64 := by
  obtain ⟨-,-,-,hbound,-,hprevious⟩ := HumanDeviceRevocation.verify_parts h
  have hsignature := verifySignature_size (revocation_signs h)
  simp only [HumanDeviceRevocation.verify,verifyHuman,bind_ok,validateBytes_ok] at h
  obtain ⟨_,-,_,-,_,⟨_,-,_,hkey,-⟩,-⟩ := h
  exact ⟨hkey,hbound,hprevious,hsignature⟩

theorem revocation_round {v : HumanDeviceRevocation} {now now' : ℤ}
    (h : v.verify lib d now = .ok ()) : HumanDeviceRevocation.fromDict lib d now' v.toDict =
      (v.verify lib d now').map fun _ => v := by
  obtain ⟨hkey,hbound,hprevious,hsignature⟩ := revocation_sizes h
  have hkeys : requireExactFields HumanDeviceRevocation.fieldNames (v.toDict.asMap.getD []) =
      .ok () := requireExactFields_keys rfl
  have hvalue : v.toDict = .map (v.toDict.asMap.getD []) := rfl
  rw [hvalue]
  generalize hentries : v.toDict.asMap.getD [] = entries at hkeys
  have hitems : item entries "version" = .int v.version ∧
      item entries "human_sign_public" = digestText v.humanSignPublic ∧
      item entries "descriptor_digest" = digestText v.descriptorDigest ∧
      item entries "sequence" = .int v.sequence ∧
      item entries "previous_digest" = digestText v.previousDigest ∧
      item entries "revoked_ms" = .int v.revokedMs ∧
      item entries "signature" = digestText v.signature ∧ item entries "human_id" = .str v.humanId ∧
      item entries "device_node_id" = .str v.deviceNodeId ∧
      item entries "reason_code" = .str v.reasonCode ∧
      item entries "object_type" = .str v.objectType := by
    subst hentries
    exact ⟨rfl,rfl,rfl,rfl,rfl,rfl,rfl,rfl,rfl,rfl,rfl⟩
  obtain ⟨h1,h2,h3,h4,h5,h6,h7,h8,h9,h10,h11⟩ := hitems
  simp only [HumanDeviceRevocation.fromDict,Value.asMap,fetched,Option.elim_some,hkeys,h1,h2,h3,h4,h5,
    h6,h7,h8,h9,h10,h11,parseInt,decodeBytes_text hkey,decodeBytes_text hbound,
    decodeBytes_text hprevious,decodeBytes_text hsignature,lib.str_text,bind,Except.bind]
  cases HumanDeviceRevocation.verify lib d now' v <;> rfl

theorem revocation_aligned (ints : PacksInts lib) :
    SignedForm.Aligned lib (revocationForm lib d) where
  again now now' v h := revocation_again h
  round now now' v h := revocation_round h
  reads now value v h := by
    simp only [revocationForm,HumanDeviceRevocation.fromDict,bind_ok,fetched_ok] at h
    obtain ⟨entries,hvalue,_,hexact,version,hversion,humanSignPublic,hkey,descriptorDigest,hbound,
      sequence,hsequence,previousDigest,hprevious,revokedMs,hrevoked,signature,-,_,hverify,hv⟩ := h
    obtain rfl := Except.ok.inj hv
    cases value with
    | map fields =>
      obtain rfl := Option.some.inj hvalue
      refine ⟨fields,rfl,hexact,?_,hverify⟩
      simp only [signedContent,revocationForm,List.mapM_cons,List.mapM_nil,parseInt_ok hversion,
        decodeBytes_ok hkey,decodeBytes_ok hbound,parseInt_ok hsequence,decodeBytes_ok hprevious,
        parseInt_ok hrevoked,signedField_text]
      rfl
    | _ => cases hvalue
  reordered now entries entries' hexact hexact' hitems := by
    change HumanDeviceRevocation.fromDict lib d now (.map entries) =
      HumanDeviceRevocation.fromDict lib d now (.map entries')
    unfold HumanDeviceRevocation.fromDict
    change requireExactFields HumanDeviceRevocation.fieldNames _ = _ at hexact hexact'
    simp only [Value.asMap,fetched,Option.elim_some,bind,Except.bind,hexact,hexact',hitems]
  fields v := by
    refine ⟨SignedForm.fieldTexts v.toDict,rfl,rfl,fun now h => ?_⟩
    have hint {i : ℤ} := signed_ints ints (revocation_signs h) (i := i)
    simp only [SignedForm.fieldTexts,HumanDeviceRevocation.toDict,Value.asMap,Option.getD_some,
      List.filterMap_cons,List.filterMap_nil,List.forall_mem_cons]
    unfold HumanDeviceRevocation.signingFields at hint
    exact ⟨hint (by simp),rfl,rfl,rfl,rfl,rfl,hint (by simp),rfl,hint (by simp),rfl,rfl,
      fun _ h => absurd h List.not_mem_nil⟩
  distinct := (by decide : HumanDeviceRevocation.fieldNames.Nodup)
  covers := by
    change ∀ name ∈ HumanDeviceRevocation.fieldNames,_
    simp [HumanDeviceRevocation.fieldNames,revocationForm]
  signs now v h := ⟨_,revocation_signs h⟩
  digests now v h :=
    objectDigest_signed (by simp [HumanDeviceRevocation.signingFields]) (revocation_signs h)
  determined v v' hfields hsignature := by
    cases v
    cases v'
    simp only [revocationForm,HumanDeviceRevocation.signingFields,List.cons.injEq,Value.int.injEq,
      Value.str.injEq,Value.bin.injEq,and_true] at hfields hsignature
    obtain ⟨rfl,rfl,rfl,rfl,rfl,rfl,rfl,rfl,rfl,rfl⟩ := hfields
    obtain rfl := hsignature
    rfl

end Revocation

/-- What the signing constructors produce survives its dictionary form and its JSON, and what is read
from a dictionary is covered by its signature, in each of the four classes. -/
theorem control_dicts_round_trip (ints : PacksInts lib) :
    (∀ identity capabilities sequence previousDigest issuedMs ttlMs d,
      issueNodeDescriptor lib identity capabilities sequence previousDigest issuedMs ttlMs = .ok d →
      (nodeForm lib).Survives lib issuedMs d) ∧
    (∀ now value d, NodeDescriptor.fromDict lib now value = .ok d →
      (nodeForm lib).Covered lib now value d) ∧
    ∀ descriptor : NodeDescriptor,
      (∀ identity protocolVersions candidates relayReservation capabilityDigest sequence
          previousDigest sessionId issuedMs ttlMs r,
        issueReachabilityRecord lib identity descriptor protocolVersions candidates relayReservation
          capabilityDigest sequence previousDigest sessionId issuedMs ttlMs = .ok r →
        (reachabilityForm lib descriptor).Survives lib issuedMs r) ∧
      (∀ now value r, ReachabilityRecord.fromDict lib descriptor now value = .ok r →
        (reachabilityForm lib descriptor).Covered lib now value r) ∧
      (∀ humanSignPublic sign capabilities sequence previousDigest issuedMs ttlMs g,
        issueHumanDeviceGrant lib humanSignPublic sign descriptor capabilities sequence previousDigest
          issuedMs ttlMs = .ok g → (grantForm lib descriptor).Survives lib issuedMs g) ∧
      (∀ now value g, HumanDeviceGrant.fromDict lib descriptor now value = .ok g →
        (grantForm lib descriptor).Covered lib now value g) ∧
      (∀ humanSignPublic sign sequence previousDigest reasonCode revokedMs v,
        issueHumanDeviceRevocation lib humanSignPublic sign descriptor sequence previousDigest
          reasonCode revokedMs = .ok v → (revocationForm lib descriptor).Survives lib revokedMs v) ∧
      ∀ now value v, HumanDeviceRevocation.fromDict lib descriptor now value = .ok v →
        (revocationForm lib descriptor).Covered lib now value v := by
  refine ⟨?_,?_,fun descriptor => ⟨?_,?_,?_,?_,?_,?_⟩⟩
  · intro identity capabilities sequence previousDigest issuedMs ttlMs d h
    simp only [issueNodeDescriptor,bind_ok] at h
    obtain ⟨_,-,_,hverify,hd⟩ := h
    obtain rfl := Except.ok.inj hd
    exact (node_aligned ints).survives hverify
  · exact fun now value d h => (node_aligned ints).covered h
  · intro identity protocolVersions candidates relayReservation capabilityDigest sequence
      previousDigest sessionId issuedMs ttlMs r h
    simp only [issueReachabilityRecord,bind_ok] at h
    obtain ⟨_,-,_,-,_,-,_,hverify,hr⟩ := h
    obtain rfl := Except.ok.inj hr
    exact (reachability_aligned ints).survives hverify
  · exact fun now value r h => (reachability_aligned ints).covered h
  · intro humanSignPublic sign capabilities sequence previousDigest issuedMs ttlMs g h
    simp only [issueHumanDeviceGrant,bind_ok] at h
    obtain ⟨_,-,_,-,_,hverify,hg⟩ := h
    obtain rfl := Except.ok.inj hg
    exact (grant_aligned ints).survives hverify
  · exact fun now value g h => (grant_aligned ints).covered h
  · intro humanSignPublic sign sequence previousDigest reasonCode revokedMs v h
    simp only [issueHumanDeviceRevocation,bind_ok] at h
    obtain ⟨_,-,_,-,_,hverify,hv⟩ := h
    obtain rfl := Except.ok.inj hv
    exact (revocation_aligned ints).survives hverify
  · exact fun now value v h => (revocation_aligned ints).covered h

/-- msgpack keeps to 64 bits. -/
theorem packsInts_plain : PacksInts plainControl := by
  intro fields raw h i hi
  change packValue (.list (canonicalItems .msgpack fields)) = .ok raw at h
  have hfits : itemsFit (canonicalItems .msgpack fields) := by
    by_contra hno
    rw [packValue,if_neg (by simp [Value.fits,hno])] at h
    cases h
  clear h
  induction fields with
  | nil => cases hi
  | cons v vs ih =>
    simp only [canonicalItems,itemsFit,Bool.and_eq_true] at hfits
    rcases List.mem_cons.mp hi with rfl | hi
    · simpa [Value.canonical,Value.fits] using hfits.1
    · exact ih hi hfits.2

/-- A human that is not the device revokes it. -/
def sampleRevocation : Result HumanDeviceRevocation :=
  issueHumanDeviceRevocation plainControl (plainKey 2) (plainIdentity 2).sign
    (plainDescriptor 1 1 genesisDigest 1000 60000) 1 genesisDigest "lost" 2000

theorem control_dicts_round_trip_sample : ∃ v, sampleRevocation = .ok v ∧
    (revocationForm plainControl (plainDescriptor 1 1 genesisDigest 1000 60000)).Survives plainControl
      2000 v := by
  have hissue : sampleRevocation.toOption.isSome := by decide +kernel
  obtain ⟨v,hv⟩ := Option.isSome_iff_exists.mp hissue
  have hok : sampleRevocation = .ok v := toOption_eq_some.mp hv
  refine ⟨v,hok,?_⟩
  rw [sampleRevocation] at hok
  exact ((control_dicts_round_trip packsInts_plain).2.2 _).2.2.2.2.1 _ _ _ _ _ _ v hok

end ControlPlane
end Anet
