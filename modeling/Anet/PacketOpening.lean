import Anet.PacketBodies

/-! Opening what was sealed: the recipient reads back what the sender sealed, at any time of the
packet's life. -/
namespace Anet

/-- The conversions of the interpreter on values of their own type. -/
structure ConversionLaws (rt : Runtime) : Prop where
  str_text : ∀ s, rt.str (.str s) = s
  int_int : ∀ i, rt.int (.int i) = .ok i
  bytes_bin : ∀ b, rt.bytes (.bin b) = .ok b
  list_list : ∀ vs, rt.list (.list vs) = .ok vs

/-- What opening relies on: msgpack reads back what it writes when every key of a map is a scalar,
two key pairs agree on one secret, and decryption undoes encryption. -/
structure OpenLaws (rt : Runtime) (text : Object → String) (lib : SealCrypto) : Prop extends
    ConversionLaws rt where
  text_str : Object.TextAgrees rt text
  unpack_pack : ∀ v raw, v.scalarKeys → rt.packb v = .ok raw → rt.unpackb raw = .ok v
  pack_nonempty : ∀ v raw, rt.packb v = .ok raw → 0 < raw.length
  exchange_comm : ∀ x y publicX publicY, lib.publicKey x = .ok publicX →
    lib.publicKey y = .ok publicY → lib.exchange x publicY = lib.exchange y publicX
  decrypt_encrypt : ∀ key nonce plaintext aad,
    lib.decrypt key nonce (lib.encrypt key nonce plaintext aad) aad = .ok plaintext

theorem ok_bind {α β : Type} (a : α) (f : α → Result β) : (Except.ok a >>= f) = f a := rfl

namespace Packet

variable {rt : Runtime} {text : Object → String} {lib : SealCrypto}

section Sealing

variable {sender : Sender} {kind : String} {createdMs : ℤ} {a : SealArguments} {body : Object}

/-- The inner map before its signature, with the body as the sender has it. -/
def innerObject (sender : Sender) (kind : String) (createdMs : ℤ) (a : SealArguments)
    (body : Object) : List (Object × Object) :=
  [(.str "v",.int innerVersion),(.str "sid",.str sender.nodeId),
    (.str "spk",.bytes sender.signPublic),(.str "bpk",.bytes sender.boxPublic),
    (.str "kind",.str kind),(.str "ts",.int createdMs),(.str "body",body),
    (.str "causal",.list (a.causal.map .str)),
    (.str "codec",.str (if a.codec = "" then "msgpack" else a.codec)),(.str "reply",.str a.replyTo)]

/-- The signed and packed inner map: `_inner_fields` reads its values in order. -/
def sealObject (rt : Runtime) (text : Object → String) (lib : SealCrypto) (sender : Sender)
    (kind : String) (createdMs : ℤ) (a : SealArguments) (body : Object) : Result Bytes := do
  let inner := innerObject sender kind createdMs a body
  let message ← (Object.list (inner.map Prod.snd)).canonicalPack text rt
  let signature := lib.sign sender.signPrivate message
  let value ← (Object.dict (inner ++ ([(.str "sig",.bytes signature)] : List (Object × Object)))).packed
  rt.pack value

/-- `seal_packet` on a body with tuples and byte arrays, in place of the body among the
arguments. -/
def sealMessage (rt : Runtime) (text : Object → String) (lib : SealCrypto) (sender : Sender)
    (recipient : Recipient) (a : SealArguments) (body : Object) (draw : SealDraw) :
    Result Bytes := do
  let kind := lower (strip a.kind)
  raiseIf (¬ isKind kind) (.value "invalid message kind")
  let qos := lower (strip a.qos)
  raiseIf (qos ∉ ["control","interactive","normal","bulk"]) (.value "invalid packet QoS class")
  raiseIf (a.version ∉ [(1 : ℤ),2,3]) (.value "unsupported packet version")
  let target ← sealTarget rt recipient a
  let encoded ← sealObject rt text lib sender kind draw.createdMs a body
  let plaintext ← sealPlaintext a.paddingMin draw.padding encoded
  let raw ← sealOuter rt lib recipient a qos target draw plaintext
  let _ ← inspectPacket rt draw.inspectedMs raw false
  return raw

theorem packedItems_texts (ss : List String) :
    Object.packedItems (ss.map .str) = .ok (ss.map .str) := by
  induction ss with
  | nil => rfl
  | cons s ss ih =>
    rw [List.map_cons,Object.packedItems,ih]
    rfl

theorem innerObject_packed (signature : Bytes) :
    (Object.dict (innerObject sender kind createdMs a body ++
        [(.str "sig",.bytes signature)])).packed = (body.packed >>= fun v =>
      .ok (signedInner (innerEntries sender kind createdMs { a with body := v }) signature)) := by
  simp only [innerObject,List.cons_append,List.nil_append,Object.packed,Object.packedEntries,
    packedItems_texts,ok_bind]
  cases body.packed <;> rfl

theorem innerFields_object {v : Value} (hv : body.packed = .ok v) :
    Object.packedItems ((innerObject sender kind createdMs a body).map Prod.snd) =
      .ok ((innerEntries sender kind createdMs { a with body := v }).map Prod.snd) := by
  simp only [innerObject,List.map_cons,List.map_nil,Object.packed,Object.packedItems,
    packedItems_texts,ok_bind,hv]
  rfl

theorem innerObject_scalarKeys (hkeys : body.scalarKeys) :
    Object.itemsScalar ((innerObject sender kind createdMs a body).map Prod.snd) := by
  have htexts : ∀ ss : List String, Object.itemsScalar (ss.map .str) = true := by
    intro ss
    induction ss with
    | nil => rfl
    | cons s ss ih => exact ih
  simp [innerObject,Object.itemsScalar,Object.scalarKeys,hkeys,htexts]

/-- What is signed is the values of the inner map in order, also once the signature is in it. -/
theorem innerFields_append (reads : ConversionLaws rt) (extra : Fields) :
    innerFields rt (innerEntries sender kind createdMs a ++ extra) =
      .ok ((innerEntries sender kind createdMs a).map Prod.snd) := by
  simp [innerFields,innerEntries,need,Value.fieldOr,reads.str_text,reads.int_int,
    reads.bytes_bin,reads.list_list,bind,Except.bind,pure,Except.pure]

theorem innerFields_values (reads : ConversionLaws rt) :
    innerFields rt (innerEntries sender kind createdMs a) =
      .ok ((innerEntries sender kind createdMs a).map Prod.snd) := by
  have hvalues := @innerFields_append rt sender kind createdMs a reads []
  rw [List.append_nil] at hvalues
  exact hvalues

/-- A body without tuples among its keys is signed and packed as what is read back of it. -/
theorem sealObject_ok (reads : ConversionLaws rt) (htext : Object.TextAgrees rt text)
    (hkeys : body.scalarKeys) {encoded : Bytes} :
    sealObject rt text lib sender kind createdMs a body = .ok encoded ↔ ∃ v, body.packed = .ok v ∧
      sealInner rt lib sender kind createdMs { a with body := v } = .ok encoded := by
  have hmessage : ∀ v, body.packed = .ok v →
      (Object.list ((innerObject sender kind createdMs a body).map Prod.snd)).canonicalPack text rt =
        rt.canonicalPack
          (.list ((innerEntries sender kind createdMs { a with body := v }).map Prod.snd)) := by
    intro v hv
    have hcanonical := Object.canonical_packed htext
      (.list ((innerObject sender kind createdMs a body).map Prod.snd))
      (innerObject_scalarKeys hkeys) (bind_ok.mpr ⟨_,innerFields_object hv,rfl⟩)
    rw [Object.canonicalPack,hcanonical]
    rfl
  constructor
  · intro h
    simp only [sealObject,innerObject_packed,bind_ok] at h
    obtain ⟨message,hsigned,value,⟨v,hv,hvalue⟩,hpack⟩ := h
    cases hvalue
    refine ⟨v,hv,?_⟩
    simp only [sealInner,innerFields_values reads,bind_ok]
    exact ⟨_,rfl,message,(hmessage v hv).symm.trans hsigned,hpack⟩
  · rintro ⟨v,hv,h⟩
    simp only [sealInner,innerFields_values reads,bind_ok] at h
    obtain ⟨fields,hfields,message,hsigned,hpack⟩ := h
    cases hfields
    simp only [sealObject,innerObject_packed,bind_ok]
    exact ⟨message,(hmessage v hv).trans hsigned,_,⟨v,hv,rfl⟩,hpack⟩

theorem sealMessage_ok (reads : ConversionLaws rt) (htext : Object.TextAgrees rt text)
    (hkeys : body.scalarKeys) {recipient : Recipient} {draw : SealDraw} {raw : Bytes} :
    sealMessage rt text lib sender recipient a body draw = .ok raw ↔ ∃ v, body.packed = .ok v ∧
      sealPacket rt lib sender recipient { a with body := v } draw = .ok raw := by
  simp only [sealMessage,sealPacket,bind_ok,sealObject_ok reads htext hkeys]
  constructor
  · rintro ⟨_,hkind,_,hqos,_,hversion,target,htarget,encoded,⟨v,hv,hencoded⟩,hrest⟩
    exact ⟨v,hv,_,hkind,_,hqos,_,hversion,target,htarget,encoded,hencoded,hrest⟩
  · rintro ⟨v,hv,_,hkind,_,hqos,_,hversion,target,htarget,encoded,hencoded,hrest⟩
    exact ⟨_,hkind,_,hqos,_,hversion,target,htarget,encoded,⟨v,hv,hencoded⟩,hrest⟩

end Sealing

section Opening

variable {recipient : Recipient} {a : SealArguments} {qos : String} {mode : KeyMode}
  {publicKey : Bytes} {keyId : String} {draw : SealDraw} {ciphertext raw : Bytes} {info : PacketInfo}

/-- The outer map of a sealed packet. -/
def outerFields (recipient : Recipient) (a : SealArguments) (qos : String) (mode : KeyMode)
    (keyId : String) (draw : SealDraw) (ciphertext : Bytes) : Fields :=
  textEntries (outerEntries recipient a qos mode keyId draw) ++ [(.str "ct",.bin ciphertext)]

/-- What the relays read of a sealed packet; version 1 has no class. -/
def sealedInfo (recipient : Recipient) (a : SealArguments) (qos : String) (mode : KeyMode)
    (keyId : String) (draw : SealDraw) (raw : Bytes) : PacketInfo :=
  ⟨draw.packetId,recipient.nodeId,draw.createdMs,draw.createdMs + clampTtl a.ttlSeconds * 1000,
    clampHops a.maxHops,if a.version = 1 then "normal" else qos,raw,mode,keyId,a.version⟩

theorem sealTarget_cases (h : sealTarget rt recipient a = .ok (mode,publicKey,keyId)) :
    (a.prekeyPublic = none ∧ mode = .static ∧ publicKey = recipient.boxPublic ∧ keyId = "") ∨
      (a.prekeyPublic = some publicKey ∧ mode = .opk ∧ 3 ≤ a.version ∧
        keyId = derivedPrekeyId rt publicKey) := by
  unfold sealTarget at h
  split at h
  · next hkey =>
    simp only [bind_ok,raiseIf_ok,not_not] at h
    obtain ⟨_,hid,hval⟩ := h
    cases hval
    exact .inl ⟨hkey,rfl,rfl,hid⟩
  · next key hkey =>
    simp only [bind_ok,raiseIf_ok,not_not,not_lt] at h
    obtain ⟨_,hversion,_,-,_,hid,hval⟩ := h
    cases hval
    exact .inr ⟨hkey,rfl,hversion,hid⟩

theorem outerFields_scalarKeys : (Value.map (outerFields recipient a qos mode keyId draw
    ciphertext)).scalarKeys := by
  unfold outerFields outerEntries
  split <;> rfl

theorem signedInner_scalarKeys {sender : Sender} {kind : String} {createdMs : ℤ}
    (hbody : a.body.scalarKeys) (signature : Bytes) :
    (signedInner (innerEntries sender kind createdMs a) signature).scalarKeys := by
  have hcausal : itemsScalar (a.causal.map .str) = true :=
    (itemsScalar_iff _).mpr fun v hv => by
      obtain ⟨s,-,rfl⟩ := List.mem_map.mp hv
      rfl
  simp [signedInner,innerEntries,Value.scalarKeys,entriesScalar,Value.scalar,hbody,hcausal]

theorem outerFields_reads (reads : ConversionLaws rt) (recipient : Recipient) (a : SealArguments)
    (qos : String) (mode : KeyMode) (keyId : String) (draw : SealDraw) (ciphertext : Bytes) :
    let fields := outerFields recipient a qos mode keyId draw ciphertext
    (need fields "v" >>= rt.int) = .ok a.version ∧
      (need fields "epk" >>= rt.bytes) = .ok draw.ephemeralPublic ∧
      (need fields "nonce" >>= rt.bytes) = .ok draw.nonce ∧
      (need fields "ct" >>= rt.bytes) = .ok ciphertext := by
  by_cases h : 3 ≤ a.version <;>
    simp [need,outerFields,outerEntries,textEntries,h,reads.int_int,reads.bytes_bin,
      ok_bind]

theorem need_append_ct {es : Fields} {v : Value} {name : String} (h : name ≠ "ct") :
    need (es ++ [(.str "ct",v)]) name = need es name := by
  have hct : ¬ "ct" = name := Ne.symm h
  simp [need,Value.field,List.find?_append,hct]

/-- The ciphertext is not among the fields it authenticates. -/
theorem aadFields_append_ct (es : Fields) (v : Value) :
    aadFields rt (es ++ [(.str "ct",v)]) = aadFields rt es := by
  have hneed : ∀ name ∈ ["v","id","dst","ts","exp","hops","epk","nonce","qos","km","kid"],
      need (es ++ [(.str "ct",v)]) name = need es name := by
    intro name hname
    refine need_append_ct ?_
    rintro rfl
    revert hname
    decide
  simp only [List.forall_mem_cons] at hneed
  simp only [aadFields,hneed]

theorem outerFields_defaults (recipient : Recipient) (a : SealArguments) (qos : String)
    (mode : KeyMode) (keyId : String) (draw : SealDraw) (ciphertext : Bytes) :
    let fields := outerFields recipient a qos mode keyId draw ciphertext
    Value.fieldOr fields "v" (.int 0) = .int a.version ∧
      Value.fieldOr fields "id" (.str "") = .str draw.packetId ∧
      Value.fieldOr fields "dst" (.str "") = .str recipient.nodeId ∧
      Value.fieldOr fields "ts" (.int 0) = .int draw.createdMs ∧
      Value.fieldOr fields "exp" (.int 0) =
        .int (draw.createdMs + clampTtl a.ttlSeconds * 1000) ∧
      Value.fieldOr fields "hops" (.int 0) = .int (clampHops a.maxHops) ∧
      Value.fieldOr fields "qos" (.str "") = .str qos := by
  by_cases h : 3 ≤ a.version <;>
    simp [Value.fieldOr,outerFields,outerEntries,textEntries,h]

theorem keyMode_text (mode : KeyMode) : keyMode (modeText mode) = some mode := by
  cases mode <;> rfl

theorem outerKey_sealed (reads : ConversionLaws rt)
    (htarget : (mode = .static ∧ keyId = "") ∨ 3 ≤ a.version) {key : KeyMode × String}
    (h : outerKey rt a.version (outerFields recipient a qos mode keyId draw ciphertext) = .ok key) :
    key = (mode,keyId) := by
  simp only [outerKey,bind_ok,fetched_ok] at h
  obtain ⟨read,hread,_,-,_,-,hval⟩ := h
  by_cases hversion : 3 ≤ a.version
  · have hfields : Value.fieldOr (outerFields recipient a qos mode keyId draw ciphertext) "km"
          (.str "") = .str (modeText mode) ∧
        Value.fieldOr (outerFields recipient a qos mode keyId draw ciphertext) "kid" (.str "") =
          .str keyId := by
      simp [Value.fieldOr,outerFields,outerEntries,textEntries,hversion]
    have hlate : ¬ a.version ≤ 2 := by omega
    rw [if_neg hlate,hfields.1,reads.str_text,keyMode_text] at hread
    rw [if_neg hlate,hfields.2,reads.str_text] at hval
    cases hread
    cases hval
    rfl
  · obtain ⟨rfl,rfl⟩ : mode = .static ∧ keyId = "" := htarget.resolve_right hversion
    have hearly : a.version ≤ 2 := by omega
    rw [if_pos hearly] at hread hval
    cases hread
    cases hval
    rfl

/-- What is read of a sealed outer map is what it was sealed with. -/
theorem validateOuter_sealed (reads : ConversionLaws rt)
    (htarget : (mode = .static ∧ keyId = "") ∨ 3 ≤ a.version) {now : ℤ}
    (h : validateOuter rt now (outerFields recipient a qos mode keyId draw ciphertext) raw =
      .ok info) : info = sealedInfo recipient a qos mode keyId draw raw := by
  obtain ⟨hv,hid,hdst,hts,hexp,hhops,hqos⟩ := outerFields_defaults recipient a qos mode keyId draw
    ciphertext
  simp only [validateOuter,bind_ok,hv,hid,hdst,hts,hexp,hhops,hqos,reads.int_int,reads.str_text,
    Except.ok.injEq] at h
  obtain ⟨_,rfl,_,-,_,-,_,-,_,-,_,rfl,_,rfl,_,rfl,_,-,_,-,_,-,_,-,_,-,_,-,key,hkey,_,-,_,-,hval⟩ := h
  obtain rfl := outerKey_sealed reads htarget hkey
  cases hval
  rfl

theorem target_versions (h : sealTarget rt recipient a = .ok (mode,publicKey,keyId)) :
    (mode = .static ∧ keyId = "") ∨ 3 ≤ a.version := by
  rcases sealTarget_cases h with ⟨-,hmode,-,hid⟩ | ⟨-,-,hversion,-⟩
  · exact .inl ⟨hmode,hid⟩
  · exact .inr hversion

theorem inspected_outer {fields : Fields} (hunpack : rt.unpack raw = .ok (.map fields)) {now : ℤ}
    (h : inspectPacket rt now raw false = .ok info) : validateOuter rt now fields raw = .ok info := by
  obtain ⟨-,value,read,hvalue,hread,hvalid,-⟩ := inspectPacket_ok.mp h
  obtain rfl := Except.ok.inj (hunpack.symm.trans hvalue)
  cases hread
  exact hvalid

theorem unpack_sealed (laws : OpenLaws rt text lib)
    (hraw : rt.packb (.map (outerFields recipient a qos mode keyId draw ciphertext)) = .ok raw)
    {now : ℤ} (h : inspectPacket rt now raw false = .ok info) :
    rt.unpack raw = .ok (.map (outerFields recipient a qos mode keyId draw ciphertext)) := by
  have hsize := (inspectPacket_ok.mp h).1
  rw [Runtime.unpack,if_neg (not_lt.mpr hsize)]
  exact laws.unpack_pack _ _ outerFields_scalarKeys hraw

/-- What opening does with the plaintext of a packet. -/
def openInner (rt : Runtime) (crypto : Crypto) (info : PacketInfo) (plaintext : Bytes) :
    Result OpenedMessage := do
  let inner ← innerMap rt plaintext
  let sender ← authenticate rt crypto inner
  let kind := rt.str (Value.fieldOr inner "kind" (.str ""))
  raiseIf (¬ isKind kind) (.value "invalid inner message kind")
  let causal ← rt.list (Value.fieldOr inner "causal" (.list []))
  let createdMs ← rt.int (Value.fieldOr inner "ts" (.int 0))
  return ⟨info.packetId,sender.1,sender.2.1,sender.2.2,kind,createdMs,
    Value.fieldOr inner "body" .nil,causal.map rt.str,
    rt.str (Value.fieldOr inner "codec" (.str "msgpack")),
    rt.str (Value.fieldOr inner "reply" (.str "")),info.qos,info.keyMode,info.prekeyId⟩

/-- The identity and the private key that a packet is sealed to. -/
structure SealedTo (lib : SealCrypto) (recipient : Recipient) (a : SealArguments)
    (identity : Identity) (prekeyPrivate : Option Bytes) : Prop where
  address : recipient.nodeId = identity.nodeId
  box : a.prekeyPublic = none → prekeyPrivate = none ∧ recipient.boxPublic = identity.boxPublic ∧
    lib.publicKey identity.boxPrivate = .ok identity.boxPublic
  prekey : ∀ publicKey, a.prekeyPublic = some publicKey → ∃ privateKey,
    prekeyPrivate = some privateKey ∧ privateKey.length = 32 ∧
      lib.publicKey privateKey = .ok publicKey

variable {identity : Identity} {prekeyPrivate : Option Bytes}

/-- The recipient takes the private half of the key that the packet was sealed to. -/
theorem recipientKey_sealed (hto : SealedTo lib recipient a identity prekeyPrivate)
    (htarget : sealTarget rt recipient a = .ok (mode,publicKey,keyId)) (qos : String)
    (draw : SealDraw) (raw : Bytes) :
    ∃ privateKey, lib.publicKey privateKey = .ok publicKey ∧
      recipientKey rt lib.toCrypto identity (sealedInfo recipient a qos mode keyId draw raw)
        prekeyPrivate = .ok (privateKey,publicKey) := by
  rcases sealTarget_cases htarget with ⟨hnone,rfl,rfl,rfl⟩ | ⟨hsome,rfl,-,rfl⟩
  · obtain ⟨rfl,hbox,hpublic⟩ := hto.box hnone
    rw [hbox]
    exact ⟨identity.boxPrivate,hpublic,rfl⟩
  · obtain ⟨privateKey,rfl,hlength,hpublic⟩ := hto.prekey _ hsome
    refine ⟨privateKey,hpublic,?_⟩
    unfold recipientKey sealedInfo
    exact bind_ok.mpr ⟨privateKey,rfl,bind_ok.mpr ⟨(),raiseIf_passes (not_not.mpr hlength),
      bind_ok.mpr ⟨_,hpublic,bind_ok.mpr ⟨(),raiseIf_passes (not_not.mpr rfl),rfl⟩⟩⟩⟩

/-- Opening a sealed packet reaches the plaintext that was sealed. -/
theorem openPacket_sealed (laws : OpenLaws rt text lib)
    (hto : SealedTo lib recipient a identity prekeyPrivate)
    (hephemeral : lib.publicKey draw.ephemeralPrivate = .ok draw.ephemeralPublic)
    (htarget : sealTarget rt recipient a = .ok (mode,publicKey,keyId)) {plaintext : Bytes}
    (hseal : sealOuter rt lib recipient a qos (mode,publicKey,keyId) draw plaintext = .ok raw)
    {now : ℤ} (hinspect : inspectPacket rt now raw false = .ok info) :
    openPacket rt lib.toCrypto identity now raw prekeyPrivate =
      openInner rt lib.toCrypto (sealedInfo recipient a qos mode keyId draw raw) plaintext := by
  simp only [sealOuter,bind_ok] at hseal
  obtain ⟨shared,hshared,symmetric,hsymmetric,aad,haad,packedAad,hpacked,hraw⟩ := hseal
  obtain ⟨privateKey,hprivate,hkey⟩ := recipientKey_sealed hto htarget qos draw raw
  have hunpack := unpack_sealed laws hraw hinspect
  obtain rfl := validateOuter_sealed laws.toConversionLaws (target_versions htarget)
    (inspected_outer hunpack hinspect)
  obtain ⟨hv,hepk,hnonce,hct⟩ := outerFields_reads laws.toConversionLaws recipient a qos mode keyId draw
    (lib.encrypt symmetric draw.nonce plaintext packedAad)
  have hdestination : ¬ (sealedInfo recipient a qos mode keyId draw raw).destinationId ≠
      identity.nodeId := not_not.mpr hto.address
  have hsecret : lib.exchange privateKey draw.ephemeralPublic = .ok shared := by
    rw [laws.exchange_comm _ _ _ _ hprivate hephemeral]
    exact hshared
  have haad' : aadFields rt (outerFields recipient a qos mode keyId draw
      (lib.encrypt symmetric draw.nonce plaintext packedAad)) = .ok aad := by
    rw [outerFields,aadFields_append_ct]
    exact haad
  have hsymmetric' : key rt lib.toCrypto shared a.version
      (sealedInfo recipient a qos mode keyId draw raw).packetId publicKey draw.ephemeralPublic
      (sealedInfo recipient a qos mode keyId draw raw).keyMode
      (sealedInfo recipient a qos mode keyId draw raw).prekeyId = .ok symmetric := hsymmetric
  simp only [openPacket,hinspect,ok_bind,raiseIf_passes hdestination,hunpack,Value.asMap,fetched,
    Option.elim_some,hkey,hsecret,hv,hepk,hnonce,hct,hsymmetric',haad',hpacked,
    laws.decrypt_encrypt]
  rfl

/-- The keys of a sender belong together, and its signatures verify. -/
structure Sender.Keyed (lib : SealCrypto) (sender : Sender) : Prop where
  sign_length : sender.signPublic.length = 32
  box_length : sender.boxPublic.length = 32
  nodeId : lib.deriveNodeId sender.signPublic sender.boxPublic = sender.nodeId
  verifies : ∀ message,
    lib.verify sender.signPublic (lib.sign sender.signPrivate message) message = .ok ()

variable {sender : Sender} {kind : String} {createdMs : ℤ} {encoded plaintext signature : Bytes}

/-- The padding is dropped and the inner map is read back. -/
theorem innerMap_sealed (laws : OpenLaws rt text lib) {inner : Fields} {padding : ℕ → Bytes}
    (hplaintext : sealPlaintext a.paddingMin padding encoded = .ok plaintext)
    (hpack : rt.packb (.map inner) = .ok encoded) (hkeys : (Value.map inner).scalarKeys)
    (hversion : Value.fieldOr inner "v" (.int 0) = .int innerVersion) :
    innerMap rt plaintext = .ok inner := by
  obtain ⟨hbucket,rfl⟩ := sealPlaintext_ok hplaintext
  have hneeded := le_bucketSize a.paddingMin (4 + encoded.length)
  have hpositive := laws.pack_nonempty _ _ hpack
  unfold maxPlaintextBytes at hbucket
  have hsize : bigEndian (wordBytes 4 encoded.length) = encoded.length :=
    wordValue_wordBytes (by omega)
  have htake : ∀ rest : Bytes, (wordBytes 4 encoded.length ++ encoded ++ rest).take 4 =
      wordBytes 4 encoded.length := by
    intro rest
    rw [List.append_assoc,List.take_left' (length_wordBytes 4 _)]
  have hdrop : ∀ rest : Bytes, ((wordBytes 4 encoded.length ++ encoded ++ rest).drop 4).take
      encoded.length = encoded := by
    intro rest
    rw [List.append_assoc,List.drop_left' (length_wordBytes 4 _),List.take_left]
  have hunpack : rt.unpack encoded = .ok (.map inner) := by
    rw [Runtime.unpack,if_neg (by unfold maxWireBytes; omega)]
    exact laws.unpack_pack _ _ hkeys hpack
  unfold innerMap
  simp only [htake,hsize,hdrop,hunpack,bind_ok,raiseIf_ok,fetched_ok,List.length_append,
    length_wordBytes]
  refine ⟨(),by omega,(),by omega,_,rfl,inner,rfl,innerVersion,?_,(),not_not.mpr rfl,rfl⟩
  rw [hversion,laws.int_int]

theorem signedInner_reads : let inner := innerEntries sender kind createdMs a ++
      [(.str "sig",.bin signature)]
    Value.fieldOr inner "v" (.int 0) = .int innerVersion ∧
      Value.fieldOr inner "spk" emptyBytes = .bin sender.signPublic ∧
      Value.fieldOr inner "bpk" emptyBytes = .bin sender.boxPublic ∧
      Value.fieldOr inner "sid" (.str "") = .str sender.nodeId ∧
      Value.fieldOr inner "sig" emptyBytes = .bin signature ∧
      Value.fieldOr inner "kind" (.str "") = .str kind ∧
      Value.fieldOr inner "ts" (.int 0) = .int createdMs ∧
      Value.fieldOr inner "body" .nil = a.body ∧
      Value.fieldOr inner "causal" (.list []) = .list (a.causal.map .str) ∧
      Value.fieldOr inner "codec" (.str "msgpack") =
        .str (if a.codec = "" then "msgpack" else a.codec) ∧
      Value.fieldOr inner "reply" (.str "") = .str a.replyTo := by
  simp [Value.fieldOr,innerEntries]

theorem authenticate_sealed (reads : ConversionLaws rt) (hsender : sender.Keyed lib) {message : Bytes}
    (hmessage : rt.canonicalPack
      (.list ((innerEntries sender kind createdMs a).map Prod.snd)) = .ok message) :
    authenticate rt lib.toCrypto (innerEntries sender kind createdMs a ++
      [(.str "sig",.bin (lib.sign sender.signPrivate message))]) =
        .ok (sender.nodeId,sender.signPublic,sender.boxPublic) := by
  obtain ⟨-,hsign,hbox,hid,hsig,-⟩ := @signedInner_reads a sender kind createdMs
    (lib.sign sender.signPrivate message)
  have hlengths : ¬ (sender.signPublic.length ≠ 32 ∨ sender.boxPublic.length ≠ 32) := by
    rw [not_or,not_not,not_not]
    exact ⟨hsender.sign_length,hsender.box_length⟩
  unfold authenticate
  rw [hsign,hbox,hid,hsig,reads.bytes_bin,reads.bytes_bin,reads.bytes_bin,reads.str_text]
  refine bind_ok.mpr ⟨_,rfl,bind_ok.mpr ⟨_,rfl,bind_ok.mpr ⟨(),raiseIf_passes hlengths,?_⟩⟩⟩
  refine bind_ok.mpr ⟨(),raiseIf_passes (not_not.mpr hsender.nodeId),bind_ok.mpr ⟨_,rfl,?_⟩⟩
  refine bind_ok.mpr ⟨_,innerFields_append reads _,bind_ok.mpr ⟨message,hmessage,?_⟩⟩
  exact bind_ok.mpr ⟨(),hsender.verifies message,rfl⟩

/-- The recipient reads what the sender put into the inner map. -/
theorem openInner_sealed (laws : OpenLaws rt text lib) (hsender : sender.Keyed lib)
    (hkind : isKind kind) (hbody : a.body.scalarKeys) {padding : ℕ → Bytes}
    (hencoded : sealInner rt lib sender kind createdMs a = .ok encoded)
    (hplaintext : sealPlaintext a.paddingMin padding encoded = .ok plaintext) (info : PacketInfo) :
    openInner rt lib.toCrypto info plaintext = .ok ⟨info.packetId,sender.nodeId,sender.signPublic,
      sender.boxPublic,kind,createdMs,a.body,a.causal,if a.codec = "" then "msgpack" else a.codec,
      a.replyTo,info.qos,info.keyMode,info.prekeyId⟩ := by
  simp only [sealInner,innerFields_values laws.toConversionLaws,bind_ok,Except.ok.injEq] at hencoded
  obtain ⟨_,rfl,message,hmessage,hpack⟩ := hencoded
  obtain ⟨hv,-,-,-,-,hread,hts,hcontent,hcausal,hcodec,hreply⟩ := @signedInner_reads a sender kind
    createdMs (lib.sign sender.signPrivate message)
  have hinner := innerMap_sealed laws hplaintext hpack (signedInner_scalarKeys hbody _) hv
  have htexts : (a.causal.map Value.str).map rt.str = a.causal := by
    have hid : rt.str ∘ Value.str = id := funext fun s => laws.str_text s
    rw [List.map_map,hid,List.map_id]
  unfold openInner
  refine bind_ok.mpr ⟨_,hinner,bind_ok.mpr ⟨_,authenticate_sealed laws.toConversionLaws hsender hmessage,?_⟩⟩
  simp only [hread,hts,hcontent,hcausal,hcodec,hreply,laws.str_text,laws.list_list,laws.int_int,
    ok_bind,htexts,raiseIf_passes (not_not.mpr hkind)]
  rfl

/-- What a message says after it was sealed and opened. -/
def sentMessage (sender : Sender) (a : SealArguments) (body : Value) (mode : KeyMode)
    (keyId : String) (draw : SealDraw) : OpenedMessage :=
  ⟨draw.packetId,sender.nodeId,sender.signPublic,sender.boxPublic,lower (strip a.kind),
    draw.createdMs,body,a.causal,if a.codec = "" then "msgpack" else a.codec,a.replyTo,
    if a.version = 1 then "normal" else lower (strip a.qos),mode,keyId⟩

theorem sealPacket_opens (laws : OpenLaws rt text lib) (hsender : sender.Keyed lib)
    (hto : SealedTo lib recipient a identity prekeyPrivate)
    (hephemeral : lib.publicKey draw.ephemeralPrivate = .ok draw.ephemeralPublic)
    (hbody : a.body.scalarKeys) (h : sealPacket rt lib sender recipient a draw = .ok raw) :
    ∃ mode publicKey keyId, sealTarget rt recipient a = .ok (mode,publicKey,keyId) ∧
      ∀ now, draw.createdMs ≤ now + maxClockSkewMs →
        now < draw.createdMs + clampTtl a.ttlSeconds * 1000 →
          openPacket rt lib.toCrypto identity now raw prekeyPrivate =
            .ok (sentMessage sender a a.body mode keyId draw) := by
  simp only [sealPacket,bind_ok,raiseIf_ok,not_not] at h
  obtain ⟨_,hkind,_,-,_,-,⟨mode,publicKey,keyId⟩,htarget,encoded,hencoded,plaintext,hplaintext,wire,
    hseal,info,hinspect,hval⟩ := h
  obtain rfl := Except.ok.inj hval
  refine ⟨mode,publicKey,keyId,htarget,fun now hstart hend => ?_⟩
  have hread : info = sealedInfo recipient a (lower (strip a.qos)) mode keyId draw wire := by
    simp only [sealOuter,bind_ok] at hseal
    obtain ⟨_,-,_,-,_,-,_,-,hraw⟩ := hseal
    exact validateOuter_sealed laws.toConversionLaws (target_versions htarget)
      (inspected_outer (unpack_sealed laws hraw hinspect) hinspect)
  subst hread
  rw [openPacket_sealed laws hto hephemeral htarget hseal
      (inspectPacket_later hinspect hstart hend),
    openInner_sealed laws hsender hkind hbody hencoded hplaintext]
  rfl

end Opening
section Sample

def stamp (n : ℕ) (b : Bytes) : Bytes := (b ++ List.replicate n 0).take n

theorem length_stamp (n : ℕ) (b : Bytes) : (stamp n b).length = n := by
  rw [stamp,List.length_take,List.length_append,List.length_replicate]
  omega

/-- Keys that are their own public halves, and a cipher that adds its tag. -/
def openLibrary : SealCrypto where
  publicKey := .ok
  exchange x y := .ok (List.zipWith (· + ·) x y)
  hkdf _ _ shared := shared
  decrypt key nonce ciphertext aad :=
    let plaintext := ciphertext.take (ciphertext.length - 16)
    if ciphertext = plaintext ++ stamp 16 (key ++ nonce ++ aad ++ plaintext) then .ok plaintext
    else .error .invalidTag
  verify signPublic signature message :=
    if signature = stamp 64 (signPublic ++ message) then .ok () else .error .invalidSignature
  deriveNodeId _ _ := "an1sender234567890ab"
  sign signPrivate message := stamp 64 (signPrivate ++ message)
  encrypt key nonce plaintext aad := plaintext ++ stamp 16 (key ++ nonce ++ aad ++ plaintext)

def openRuntime : Runtime :=
  { Runtime.plain unpackValue with
    str := fun v => match v with | .str s => s | _ => ""
    packb := packValue }

/-- `str` of a key is `str` of what is read back of it. -/
def packedText (k : Object) : String :=
  match k.packed with
  | .ok v => openRuntime.str v
  | .error _ => ""

theorem open_laws : OpenLaws openRuntime packedText openLibrary where
  str_text _ := rfl
  int_int _ := rfl
  bytes_bin _ := rfl
  list_list _ := rfl
  text_str := by
    intro k v _ hv
    simp only [packedText,hv]
  unpack_pack := fun v raw _ h => unpackValue_packValue h
  pack_nonempty := by
    intro v raw h
    change packValue v = .ok raw at h
    unfold packValue at h
    split at h
    · cases h
      exact wire_pos v
    · cases h
  exchange_comm := by
    intro x y publicX publicY hx hy
    cases hx
    cases hy
    exact congrArg Except.ok (List.zipWith_comm_of_comm fun a b => UInt8.add_comm a b)
  decrypt_encrypt := by
    intro key nonce plaintext aad
    simp only [openLibrary,List.length_append,length_stamp,Nat.add_sub_cancel,List.take_left,
      if_true]

theorem openRuntime_short (v : Value) (h : v.fits) : (Value.str (openRuntime.str v)).fits := by
  cases v with
  | str s => exact h
  | _ => exact (by decide : (Value.str "").fits = true)

theorem packing_laws : SealLaws openRuntime openLibrary :=
  packValue_laws rfl rfl (fun _ => rfl) openRuntime_short (fun _ => rfl) (fun _ => rfl)
    (fun _ => rfl) (fun _ _ _ _ => by simp [openLibrary,length_stamp])
    fun _ _ => length_stamp ..

def openSender : Sender :=
  ⟨"an1sender234567890ab",List.replicate 32 1,List.replicate 32 2,List.replicate 32 1⟩

def openIdentity : Identity := ⟨"an1recipient567890ab",List.replicate 32 3,List.replicate 32 3⟩

def openRecipient : Recipient := ⟨"an1recipient567890ab",List.replicate 32 3⟩

def openArguments : SealArguments :=
  ⟨" Note ",.nil,86400,8,["earlier"],"","",512,"bulk",none,"",2⟩

def openDraw : SealDraw where
  createdMs := 1000
  packetId := "0123456789abcdef0123456789abcdef"
  packetId_hex := by decide
  padding n := List.replicate n 6
  padding_length n := List.length_replicate
  ephemeralPrivate := List.replicate 32 4
  ephemeralPublic := List.replicate 32 4
  nonce := List.replicate 12 5
  inspectedMs := 1000

def openBody : Object := .dict [(.str "parts",.tuple [.str "work",.bytearray [1,2]])]

def openedBody : Value := .map [(.str "parts",.list [.str "work",.bin [1,2]])]

/-- The arguments with the body as it is read back. -/
def packedArguments : SealArguments := { openArguments with body := openedBody }

theorem openBody_packed : openBody.packed = .ok openedBody := rfl

theorem open_ready : SealReady openRuntime openLibrary openSender openRecipient packedArguments
    .static openRecipient.boxPublic "" openDraw where
  kind := by decide
  target := rfl
  outer := ⟨.inl rfl,by decide,.inl ⟨rfl,rfl⟩,by decide,by decide,by decide,by decide⟩
  inner := by decide
  padding := by decide
  keyLength := rfl
  exchange := ⟨_,rfl⟩
  inspected := by decide

theorem openRuntime_packs {v : Value} (h : v.fits) : openRuntime.packb v = .ok v.wire := if_pos h

theorem open_sealable : Sealable openRuntime openSender (lower (strip packedArguments.kind))
    openDraw.createdMs packedArguments :=
  ⟨⟨_,openRuntime_packs (by decide)⟩,by decide +kernel⟩

/-- The sample body is sealed, and its packet passes the inspection during its life. -/
theorem openBody_seals : ∃ raw,
    sealMessage openRuntime packedText openLibrary openSender openRecipient openArguments openBody
        openDraw = .ok raw ∧
      inspectPacket openRuntime 5000 raw false =
        .ok (sealedInfo openRecipient packedArguments "bulk" .static "" openDraw raw) := by
  obtain ⟨raw,hseal,hinspect⟩ := sealPacket_ok packing_laws open_ready open_sealable
  have hmessage := (sealMessage_ok open_laws.toConversionLaws open_laws.text_str (by decide)).mpr
    ⟨openedBody,openBody_packed,hseal⟩
  exact ⟨raw,hmessage,hinspect 5000 (by decide) (by decide)⟩

theorem openSender_keyed : openSender.Keyed openLibrary where
  sign_length := rfl
  box_length := rfl
  nodeId := rfl
  verifies _ := if_pos rfl

theorem openIdentity_sealed : SealedTo openLibrary openRecipient openArguments openIdentity none where
  address := rfl
  box _ := ⟨rfl,rfl,rfl⟩
  prekey := by
    intro publicKey h
    cases h

end Sample

end Packet

end Anet
