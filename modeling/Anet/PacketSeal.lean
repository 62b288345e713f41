import Anet.CanonicalEncoding
import Anet.Json
import Anet.Packet
import Anet.MsgPack
import Mathlib.Data.Nat.Size

/-! Sealing a packet: the inner map is signed, packed, padded to a power of two and
encrypted to the recipient. Only the size of the packed inner map and its depth decide
whether a packet comes out. -/
namespace Anet

/-- What sealing calls in the cryptography package besides `Crypto`. -/
structure SealCrypto extends Crypto where
  sign : (signPrivate message : Bytes) → Bytes
  encrypt : (key nonce plaintext aad : Bytes) → Bytes

namespace Packet

/-- The sender's identity, as sealing reads it. -/
structure Sender where
  nodeId : String
  signPublic : Bytes
  boxPublic : Bytes
  signPrivate : Bytes

structure Recipient where
  nodeId : String
  boxPublic : Bytes

/-- The arguments of `seal_packet`. -/
structure SealArguments where
  kind : String
  body : Value
  ttlSeconds : ℤ
  maxHops : ℤ
  causal : List String
  codec : String
  replyTo : String
  paddingMin : ℤ
  qos : String
  prekeyPublic : Option Bytes
  prekeyId : String
  version : ℤ

/-- The clock and the random draws of one sealing. -/
structure SealDraw where
  createdMs : ℤ
  packetId : String
  packetId_hex : isHex 32 packetId
  padding : ℕ → Bytes
  padding_length : ∀ n, (padding n).length = n
  ephemeralPrivate : Bytes
  ephemeralPublic : Bytes
  nonce : Bytes
  inspectedMs : ℤ

def clampTtl (ttlSeconds : ℤ) : ℤ := max 30 (min ttlSeconds maxTtlSeconds)
def clampHops (maxHops : ℤ) : ℤ := max 1 (min maxHops 32)

/-- The key mode, the key and the key id a packet is sealed with. -/
def sealTarget (rt : Runtime) (recipient : Recipient) (a : SealArguments) :
    Result (KeyMode × Bytes × String) :=
  match a.prekeyPublic with
  | none => do
    raiseIf (a.prekeyId ≠ "") (.value "prekey ID requires a prekey public key")
    return (.static,recipient.boxPublic,a.prekeyId)
  | some publicKey => do
    raiseIf (a.version < 3) (.value "one-time prekeys require packet version 3")
    raiseIf (publicKey.length ≠ 32) (.value "prekey public key must be 32 bytes")
    let id := lower (strip a.prekeyId)
    raiseIf (id ≠ derivedPrekeyId rt publicKey) (.value "prekey ID does not match public key")
    return (.opk,publicKey,id)

/-- The inner map before its signature. -/
def innerEntries (sender : Sender) (kind : String) (createdMs : ℤ) (a : SealArguments) : Fields :=
  [(.str "v",.int innerVersion),(.str "sid",.str sender.nodeId),(.str "spk",.bin sender.signPublic),
    (.str "bpk",.bin sender.boxPublic),(.str "kind",.str kind),(.str "ts",.int createdMs),
    (.str "body",a.body),(.str "causal",.list (a.causal.map .str)),
    (.str "codec",.str (if a.codec = "" then "msgpack" else a.codec)),(.str "reply",.str a.replyTo)]

def signedInner (inner : Fields) (signature : Bytes) : Value :=
  .map (inner ++ [(.str "sig",.bin signature)])

/-- The signed and packed inner map. -/
def sealInner (rt : Runtime) (lib : SealCrypto) (sender : Sender) (kind : String) (createdMs : ℤ)
    (a : SealArguments) : Result Bytes := do
  let inner := innerEntries sender kind createdMs a
  let signed ← innerFields rt inner
  let message ← rt.canonicalPack (.list signed)
  rt.pack (signedInner inner (lib.sign sender.signPrivate message))

/-- The smallest bucket: a power of two from the configured minimum on. -/
def leastBucket (paddingMin : ℤ) : ℕ :=
  let bucket := (max 256 paddingMin).toNat
  if bucket &&& (bucket - 1) = 0 then bucket else 2 ^ (bucket - 1).size

/-- The bucket of a plaintext. -/
def bucketSize (paddingMin : ℤ) (needed : ℕ) : ℕ :=
  if leastBucket paddingMin < needed then 2 ^ (needed - 1).size else leastBucket paddingMin

/-- The padded plaintext. -/
def sealPlaintext (paddingMin : ℤ) (padding : ℕ → Bytes) (encoded : Bytes) : Result Bytes := do
  let needed := 4 + encoded.length
  let bucket := bucketSize paddingMin needed
  raiseIf (maxPlaintextBytes < bucket) (.value "message is too large")
  return wordBytes 4 encoded.length ++ encoded ++ padding (bucket - needed)

def modeText : KeyMode → String
  | .static => "static"
  | .opk => "opk"

/-- The outer map before its ciphertext. -/
def outerEntries (recipient : Recipient) (a : SealArguments) (qos : String) (mode : KeyMode)
    (keyId : String) (draw : SealDraw) : List (String × Value) :=
  ([("v",.int a.version),("id",.str draw.packetId),("dst",.str recipient.nodeId),
    ("ts",.int draw.createdMs),("exp",.int (draw.createdMs + clampTtl a.ttlSeconds * 1000)),
    ("hops",.int (clampHops a.maxHops)),("epk",.bin draw.ephemeralPublic),("nonce",.bin draw.nonce),
    ("qos",.str qos)] : List (String × Value)) ++
    if 3 ≤ a.version then [("km",.str (modeText mode)),("kid",.str keyId)] else []

/-- The encryption of a plaintext into the outer map. -/
def sealOuter (rt : Runtime) (lib : SealCrypto) (recipient : Recipient) (a : SealArguments)
    (qos : String) (target : KeyMode × Bytes × String) (draw : SealDraw) (plaintext : Bytes) :
    Result Bytes := do
  let shared ← lib.exchange draw.ephemeralPrivate target.2.1
  let outer := textEntries (outerEntries recipient a qos target.1 target.2.2 draw)
  let symmetric ← key rt lib.toCrypto shared a.version draw.packetId target.2.1 draw.ephemeralPublic
    target.1 target.2.2
  let aad ← aadFields rt outer
  let packedAad ← rt.canonicalPack (.list aad)
  rt.pack (.map (outer ++
    ([(.str "ct",.bin (lib.encrypt symmetric draw.nonce plaintext packedAad))] : Fields)))

/-- `seal_packet`. -/
def sealPacket (rt : Runtime) (lib : SealCrypto) (sender : Sender) (recipient : Recipient)
    (a : SealArguments) (draw : SealDraw) : Result Bytes := do
  let kind := lower (strip a.kind)
  raiseIf (¬ isKind kind) (.value "invalid message kind")
  let qos := lower (strip a.qos)
  raiseIf (qos ∉ ["control","interactive","normal","bulk"]) (.value "invalid packet QoS class")
  raiseIf (a.version ∉ [(1 : ℤ),2,3]) (.value "unsupported packet version")
  let target ← sealTarget rt recipient a
  let encoded ← sealInner rt lib sender kind draw.createdMs a
  let plaintext ← sealPlaintext a.paddingMin draw.padding encoded
  let raw ← sealOuter rt lib recipient a qos target draw plaintext
  let _ ← inspectPacket rt draw.inspectedMs raw false
  return raw

end Packet

theorem raiseIf_passes {c : Prop} [Decidable c] {e : PyError} (h : ¬ c) : raiseIf c e = .ok () :=
  raiseIf_ok.mpr h

/-- The encoder takes the value. -/
def Runtime.Packs (rt : Runtime) (v : Value) : Prop := ∃ raw, rt.packb v = .ok raw

def Runtime.packedSize (rt : Runtime) (v : Value) : ℕ := ((rt.packb v).toOption.getD []).length

/-- What sealing relies on in msgpack, whose depth is limited, and in the cryptography
package: a list or a map packs when each of its values packs one level down, a map is a
header followed by its entries, and no form is longer than the 32-bit one. -/
structure SealLaws (rt : Runtime) (lib : SealCrypto) : Prop where
  str_text : ∀ s, rt.str (.str s) = s
  int_int : ∀ i, rt.int (.int i) = .ok i
  bytes_bin : ∀ b, rt.bytes (.bin b) = .ok b
  list_list : ∀ vs, rt.list (.list vs) = .ok vs
  unpack_pack : ∀ v raw, rt.packb v = .ok raw → rt.unpackb raw = .ok v
  pack_list : ∀ vs, rt.Packs (.list vs) ↔ vs.length < 2 ^ 32 ∧ ∀ v ∈ vs, rt.Packs (.list [v])
  pack_map : ∀ es, rt.Packs (.map es) ↔
    es.length < 2 ^ 32 ∧ ∀ e ∈ es, rt.Packs (.list [e.1]) ∧ rt.Packs (.list [e.2])
  pack_item : ∀ v, rt.Packs (.list [v]) → rt.Packs v
  pack_flat : ∀ v : Value, v.fits → v.flat → rt.Packs (.list [v])
  pack_canonical : ∀ v, rt.Packs (.list [v]) → rt.Packs (.list [v.canonical rt])
  map_size : ∃ header : ℕ → ℕ, ∀ es, rt.Packs (.map es) → rt.packedSize (.map es) =
    header es.length + (es.map fun e => rt.packedSize e.1 + rt.packedSize e.2).sum
  bin_size : ∀ b b' : Bytes, b.length = b'.length →
    rt.packedSize (.bin b) = rt.packedSize (.bin b')
  size_wire : ∀ v raw, rt.packb v = .ok raw → raw.length ≤ v.wire.length
  encrypt_length : ∀ key nonce plaintext aad,
    (lib.encrypt key nonce plaintext aad).length = plaintext.length + 16
  sign_length : ∀ key message, (lib.sign key message).length = 64

theorem Runtime.packedSize_ok {rt : Runtime} {v : Value} {raw : Bytes} (h : rt.packb v = .ok raw) :
    rt.packedSize v = raw.length := by
  simp [Runtime.packedSize,h,Except.toOption]

theorem itemsFit_iff (vs : List Value) : itemsFit vs = true ↔ ∀ v ∈ vs, v.fits = true := by
  induction vs with
  | nil => simp [itemsFit]
  | cons v vs ih => simp [itemsFit,ih]

theorem entriesFit_iff (es : List (Value × Value)) :
    entriesFit es = true ↔ ∀ e ∈ es, e.1.fits = true ∧ e.2.fits = true := by
  induction es with
  | nil => simp [entriesFit]
  | cons e es ih =>
    obtain ⟨k,v⟩ := e
    simp [entriesFit,ih,and_assoc]

namespace Packet

variable {rt : Runtime} {lib : SealCrypto}

section Buckets

theorem size_bucket {m n : ℕ} (h : m ≤ 2 ^ n) : 2 ^ (m - 1).size ≤ 2 ^ n := by
  have hpow : 0 < 2 ^ n := Nat.two_pow_pos n
  exact Nat.pow_le_pow_right (by omega) (Nat.size_le.mpr (by omega))

theorem le_size_bucket (m : ℕ) : m ≤ 2 ^ (m - 1).size := by
  have hlt := Nat.lt_size_self (m - 1)
  omega

theorem leastBucket_le {paddingMin : ℤ} {n : ℕ} (h : (max 256 paddingMin).toNat ≤ 2 ^ n) :
    leastBucket paddingMin ≤ 2 ^ n := by
  simp only [leastBucket]
  split
  · exact h
  · exact size_bucket h

/-- The bucket is within a power of two as soon as the content and the minimum are. -/
theorem bucketSize_le {paddingMin : ℤ} {needed n : ℕ} (h : (max 256 paddingMin).toNat ≤ 2 ^ n) :
    bucketSize paddingMin needed ≤ 2 ^ n ↔ needed ≤ 2 ^ n := by
  have hleast := leastBucket_le h
  have hneeded := le_size_bucket needed
  unfold bucketSize
  split
  · exact ⟨fun hbucket => hneeded.trans hbucket,size_bucket⟩
  · exact ⟨fun _ => by omega,fun _ => hleast⟩

theorem le_leastBucket (paddingMin : ℤ) : 256 ≤ leastBucket paddingMin := by
  have hsize := le_size_bucket (max 256 paddingMin).toNat
  simp only [leastBucket]
  split <;> omega

theorem le_bucketSize (paddingMin : ℤ) (needed : ℕ) : needed ≤ bucketSize paddingMin needed := by
  have hneeded := le_size_bucket needed
  unfold bucketSize
  split <;> omega

theorem bucketSize_pos (paddingMin : ℤ) (needed : ℕ) : 256 ≤ bucketSize paddingMin needed := by
  have hleast := le_leastBucket paddingMin
  have hneeded := le_size_bucket needed
  unfold bucketSize
  split <;> omega

end Buckets

section Inner

variable {sender : Sender} {kind : String} {createdMs : ℤ} {a : SealArguments}

theorem mem_canonicalItems {v : Value} {vs : List Value} (h : v ∈ canonicalItems rt vs) :
    ∃ u ∈ vs, v = u.canonical rt := by
  induction vs with
  | nil => simp [canonicalItems] at h
  | cons u vs ih =>
    rw [canonicalItems,List.mem_cons] at h
    rcases h with rfl | h
    · exact ⟨u,List.mem_cons_self ..,rfl⟩
    · obtain ⟨u',hu',hv⟩ := ih h
      exact ⟨u',List.mem_cons_of_mem _ hu',hv⟩

theorem length_canonicalItems (vs : List Value) : (canonicalItems rt vs).length = vs.length := by
  induction vs with
  | nil => rfl
  | cons v vs ih => simp [canonicalItems,ih]

/-- A list whose items pack one level down packs in its canonical form. -/
theorem canonicalPack_list (laws : SealLaws rt lib) (vs : List Value) (hlength : vs.length < 2 ^ 32)
    (h : ∀ v ∈ vs, rt.Packs (.list [v])) : ∃ raw, rt.canonicalPack (.list vs) = .ok raw := by
  have hpacks : rt.Packs (.list (canonicalItems rt vs)) := by
    refine (laws.pack_list _).mpr ⟨by rwa [length_canonicalItems],fun v hv => ?_⟩
    obtain ⟨u,hu,rfl⟩ := mem_canonicalItems hv
    exact laws.pack_canonical u (h u hu)
  simp only [Runtime.canonicalPack,Value.canonical]
  exact hpacks

/-- What is signed is the values of the inner map, in order. -/
theorem innerFields_entries (laws : SealLaws rt lib) :
    innerFields rt (innerEntries sender kind createdMs a) =
      .ok ((innerEntries sender kind createdMs a).map Prod.snd) := by
  simp [innerFields,innerEntries,need,Value.fieldOr,laws.str_text,laws.int_int,
    laws.bytes_bin,laws.list_list,bind,Except.bind,pure,Except.pure]

/-- The inner map without its body. -/
def emptyInner (sender : Sender) (kind : String) (createdMs : ℤ) (a : SealArguments) : Fields :=
  innerEntries sender kind createdMs { a with body := .nil }

/-- The bytes of a packed inner map around its body. -/
def envelopeSize (rt : Runtime) (sender : Sender) (kind : String) (createdMs : ℤ)
    (a : SealArguments) : ℕ :=
  rt.packedSize (signedInner (emptyInner sender kind createdMs a) (List.replicate 64 0))

/-- An entry of the inner map is that of the body or one of the map without it. -/
theorem innerEntries_cases {e : Value × Value} (he : e ∈ innerEntries sender kind createdMs a) :
    e = (.str "body",a.body) ∨ e ∈ emptyInner sender kind createdMs a := by
  simp only [emptyInner,innerEntries,List.mem_cons] at he ⊢
  rcases he with he | he | he | he | he | he | he | he <;> simp only [he,true_or,or_true]

theorem emptyInner_flat {e : Value × Value} (he : e ∈ emptyInner sender kind createdMs a) :
    e.1.flat = true ∧ e.2.flat = true := by
  revert e
  simp [emptyInner,innerEntries,Value.flat,Value.scalar]

/-- The values of the inner map pack one level down, the body apart. -/
theorem inner_packs (laws : SealLaws rt lib)
    (hfits : entriesFit (emptyInner sender kind createdMs a)) {e : Value × Value}
    (he : e ∈ innerEntries sender kind createdMs a) :
    rt.Packs (.list [e.1]) ∧ (rt.Packs (.list [e.2]) ∨ e.2 = a.body) := by
  rcases innerEntries_cases he with rfl | he
  · exact ⟨laws.pack_flat (.str "body") (by decide) rfl,.inr rfl⟩
  · obtain ⟨hkey,hvalue⟩ := (entriesFit_iff _).mp hfits e he
    obtain ⟨hflatKey,hflatValue⟩ := emptyInner_flat he
    exact ⟨laws.pack_flat _ hkey hflatKey,.inl (laws.pack_flat _ hvalue hflatValue)⟩

/-- A signed inner map packs when its body packs one level down. -/
theorem signedInner_packs (laws : SealLaws rt lib)
    (hfits : entriesFit (emptyInner sender kind createdMs a)) (signature : Bytes)
    (hsignature : signature.length = 64) :
    rt.Packs (signedInner (innerEntries sender kind createdMs a) signature) ↔
      rt.Packs (.list [a.body]) := by
  have hsigned : rt.Packs (.list [Value.bin signature]) :=
    laws.pack_flat _ (by simp [Value.fits,hsignature]) rfl
  rw [signedInner,laws.pack_map]
  constructor
  · rintro ⟨-,hentries⟩
    exact (hentries (.str "body",a.body) (by simp [innerEntries])).2
  · refine fun hbody => ⟨by simp [innerEntries],fun e he => ?_⟩
    rcases List.mem_append.mp he with he | he
    · obtain ⟨hkey,hvalue | hvalue⟩ := inner_packs laws hfits he
      · exact ⟨hkey,hvalue⟩
      · exact ⟨hkey,hvalue ▸ hbody⟩
    · obtain rfl := List.mem_singleton.mp he
      exact ⟨laws.pack_flat (.str "sig") (by decide) rfl,hsigned⟩

/-- The body takes the place of the nil of an empty envelope. -/
theorem signedInner_size (laws : SealLaws rt lib)
    (hfits : entriesFit (emptyInner sender kind createdMs a)) {signature : Bytes}
    (hsignature : signature.length = 64) (hbody : rt.Packs (.list [a.body])) :
    rt.packedSize (signedInner (innerEntries sender kind createdMs a) signature) +
        rt.packedSize .nil = envelopeSize rt sender kind createdMs a + rt.packedSize a.body := by
  obtain ⟨header,hsize⟩ := laws.map_size
  have hnil : rt.Packs (.list [Value.nil]) := laws.pack_flat _ rfl rfl
  have hfull := hsize _ ((signedInner_packs laws hfits signature hsignature).mpr hbody)
  have hempty := hsize _ ((signedInner_packs (a := { a with body := .nil }) laws hfits
    (List.replicate 64 0) (by simp)).mpr hnil)
  have hsame := laws.bin_size signature (List.replicate 64 0) (by simp [hsignature])
  simp only [innerEntries,List.cons_append,List.nil_append,List.map_cons,List.map_nil,
    List.sum_cons,List.sum_nil,List.length_cons,List.length_nil] at hfull hempty
  simp only [signedInner,envelopeSize,emptyInner,innerEntries,List.cons_append,List.nil_append]
  rw [hfull,hempty,hsame]
  omega

/-- The inner map can be signed and packed when its body packs one level down. -/
theorem sealInner_ok (laws : SealLaws rt lib)
    (hfits : entriesFit (emptyInner sender kind createdMs a)) :
    (∃ encoded, sealInner rt lib sender kind createdMs a = .ok encoded) ↔
      rt.Packs (.list [a.body]) := by
  simp only [sealInner,innerFields_entries laws,bind_ok,Runtime.pack,Except.ok.injEq]
  constructor
  · rintro ⟨encoded,_,rfl,message,-,hpack⟩
    exact (signedInner_packs laws hfits _ (laws.sign_length _ _)).mp ⟨encoded,hpack⟩
  · intro hbody
    obtain ⟨message,hmessage⟩ := canonicalPack_list laws
      ((innerEntries sender kind createdMs a).map Prod.snd) (by simp [innerEntries]) (by
        intro v hv
        obtain ⟨e,he,rfl⟩ := List.mem_map.mp hv
        obtain ⟨-,hvalue | hvalue⟩ := inner_packs laws hfits he
        · exact hvalue
        · exact hvalue ▸ hbody)
    obtain ⟨encoded,hencoded⟩ := (signedInner_packs laws hfits _
      (laws.sign_length sender.signPrivate message)).mpr hbody
    exact ⟨encoded,_,rfl,message,hmessage,hencoded⟩

theorem sealInner_size (laws : SealLaws rt lib)
    (hfits : entriesFit (emptyInner sender kind createdMs a)) {encoded : Bytes}
    (h : sealInner rt lib sender kind createdMs a = .ok encoded) :
    encoded.length + rt.packedSize .nil =
      envelopeSize rt sender kind createdMs a + rt.packedSize a.body := by
  have hbody := (sealInner_ok laws hfits).mp ⟨encoded,h⟩
  simp only [sealInner,innerFields_entries laws,bind_ok,Runtime.pack,Except.ok.injEq] at h
  obtain ⟨_,rfl,message,-,hpack⟩ := h
  rw [← Runtime.packedSize_ok hpack]
  exact signedInner_size laws hfits (laws.sign_length _ _) hbody

/-- What can be sealed: the body packs inside the inner map, and the packed map with its
length fits the largest bucket. -/
def Sealable (rt : Runtime) (sender : Sender) (kind : String) (createdMs : ℤ) (a : SealArguments) :
    Prop :=
  rt.Packs (.list [a.body]) ∧ 4 + envelopeSize rt sender kind createdMs a + rt.packedSize a.body ≤
    maxPlaintextBytes + rt.packedSize .nil

theorem sealPlaintext_ok {padding : ℕ → Bytes} {encoded plaintext : Bytes}
    (h : sealPlaintext a.paddingMin padding encoded = .ok plaintext) :
    bucketSize a.paddingMin (4 + encoded.length) ≤ maxPlaintextBytes ∧
      plaintext = wordBytes 4 encoded.length ++ encoded ++
        padding (bucketSize a.paddingMin (4 + encoded.length) - (4 + encoded.length)) := by
  simp only [sealPlaintext,bind_ok,raiseIf_ok,not_lt] at h
  obtain ⟨_,hbucket,hval⟩ := h
  cases hval
  exact ⟨hbucket,rfl⟩

/-- The padded plaintext exists exactly for what can be sealed. -/
theorem sealed_plaintext (laws : SealLaws rt lib)
    (hfits : entriesFit (emptyInner sender kind createdMs a))
    (hmin : (max 256 a.paddingMin).toNat ≤ maxPlaintextBytes) (padding : ℕ → Bytes) :
    (∃ plaintext, (sealInner rt lib sender kind createdMs a >>=
        sealPlaintext a.paddingMin padding) = .ok plaintext) ↔
      Sealable rt sender kind createdMs a := by
  have hbucket : ∀ needed, bucketSize a.paddingMin needed ≤ maxPlaintextBytes ↔
      needed ≤ maxPlaintextBytes := by
    intro needed
    exact bucketSize_le (n := 23) hmin
  simp only [bind_ok]
  constructor
  · rintro ⟨plaintext,encoded,hinner,hplain⟩
    have hlimit := (hbucket _).mp (sealPlaintext_ok hplain).1
    have hsize := sealInner_size laws hfits hinner
    exact ⟨(sealInner_ok laws hfits).mp ⟨encoded,hinner⟩,by omega⟩
  · rintro ⟨hbody,hlimit⟩
    obtain ⟨encoded,hinner⟩ := (sealInner_ok laws hfits).mpr hbody
    have hsize := sealInner_size laws hfits hinner
    have hfree : ¬ maxPlaintextBytes < bucketSize a.paddingMin (4 + encoded.length) :=
      not_lt.mpr ((hbucket _).mpr (by omega))
    refine ⟨wordBytes 4 encoded.length ++ encoded ++ padding (bucketSize a.paddingMin
      (4 + encoded.length) - (4 + encoded.length)),encoded,hinner,?_⟩
    rw [sealPlaintext,raiseIf_passes hfree]
    rfl

end Inner

section Outer

theorem scalar_flat {v : Value} (h : v.scalar) : v.flat := by
  cases v <;> first | rfl | cases h

variable {recipient : Recipient} {a : SealArguments} {qos : String} {mode : KeyMode}
  {keyId : String} {draw : SealDraw}

/-- The draws and the arguments that an outer map can be made of. -/
structure OuterFit (recipient : Recipient) (a : SealArguments) (qos : String) (mode : KeyMode)
    (keyId : String) (draw : SealDraw) : Prop where
  version : a.version = 2 ∨ a.version = 3
  qos : qos ∈ ["control","interactive","normal","bulk"]
  target : (mode = .static ∧ keyId = "") ∨ mode = .opk ∧ isHex 32 keyId ∧ a.version = 3
  address : startsWith recipient.nodeId "an1" ∧ 20 ≤ recipient.nodeId.toList.length ∧
    recipient.nodeId.toList.length ≤ 128
  created : 0 < draw.createdMs ∧ draw.createdMs < 2 ^ 62
  ephemeral : draw.ephemeralPublic.length = 32
  nonce : draw.nonce.length = 12

theorem OuterFit.keyId_length (hfit : OuterFit recipient a qos mode keyId draw) :
    keyId.toList.length ≤ 32 := by
  rcases hfit.target with ⟨-,rfl⟩ | ⟨-,hhex,-⟩
  · decide
  · simp only [isHex,Bool.and_eq_true,decide_eq_true_eq] at hhex
    omega

/-- The outer map with its ciphertext. -/
def outerValue (recipient : Recipient) (a : SealArguments) (qos : String) (mode : KeyMode)
    (keyId : String) (draw : SealDraw) (ciphertext : Bytes) : Value :=
  .map (textEntries (outerEntries recipient a qos mode keyId draw) ++
    ([(.str "ct",.bin ciphertext)] : Fields))

theorem clampTtl_range (ttlSeconds : ℤ) :
    30 ≤ clampTtl ttlSeconds ∧ clampTtl ttlSeconds ≤ maxTtlSeconds := by
  unfold clampTtl maxTtlSeconds
  omega

theorem clampHops_range (maxHops : ℤ) : 1 ≤ clampHops maxHops ∧ clampHops maxHops ≤ 32 := by
  unfold clampHops
  omega

/-- What is authenticated is the values of the outer map, in order. -/
theorem aadFields_entries (laws : SealLaws rt lib)
    (hfit : OuterFit recipient a qos mode keyId draw) :
    aadFields rt (textEntries (outerEntries recipient a qos mode keyId draw)) =
      .ok ((outerEntries recipient a qos mode keyId draw).map Prod.snd) := by
  rcases hfit.version with h | h <;>
    simp [aadFields,outerEntries,textEntries,need,laws.str_text,laws.int_int,
      laws.bytes_bin,h,bind,Except.bind,pure,Except.pure,Except.map]

theorem fromHexChars_isSome (n : ℕ) {cs : List Char} (hlength : cs.length = 2 * n)
    (h : ∀ c ∈ cs, isHexDigit c) : (fromHexChars cs).isSome := by
  induction n generalizing cs with
  | zero =>
    obtain rfl := List.length_eq_zero_iff.mp (by omega : cs.length = 0)
    rfl
  | succ n ih =>
    match cs,hlength,h with
    | c :: d :: cs,hlength,h =>
      have hvalue : ∀ c, isHexDigit c → ∃ v, hexDigitValue c = some v := by
        intro c hc
        simp only [isHexDigit,Bool.or_eq_true,Bool.and_eq_true,decide_eq_true_eq] at hc
        unfold hexDigitValue
        split
        · exact ⟨_,rfl⟩
        · rw [if_pos (by tauto)]
          exact ⟨_,rfl⟩
      have hspace : isAsciiSpace c = false := by
        have hrange := hexDigit_range (h c (by simp))
        have hblank : c ≠ ' ' := by
          rintro rfl
          revert hrange
          decide
        simp only [isAsciiSpace,hblank,decide_false,Bool.false_or,Bool.and_eq_false_iff,
          decide_eq_false_iff_not]
        omega
      obtain ⟨v,hv⟩ := hvalue c (h c (by simp))
      obtain ⟨w,hw⟩ := hvalue d (h d (by simp))
      obtain ⟨rest,hrest⟩ := Option.isSome_iff_exists.mp
        (ih (show cs.length = 2 * n by simp only [List.length_cons] at hlength; omega)
          fun x hx => h x (by simp [hx]))
      simp [fromHexChars,hspace,hv,hw,hrest]

theorem fromHex_isSome (n : ℕ) {s : String} (h : isHex (2 * n) s) : (fromHex s).isSome := by
  simp only [isHex,Bool.and_eq_true,decide_eq_true_eq,List.all_eq_true] at h
  exact fromHexChars_isSome n h.1 h.2

theorem checkLifetime_outer {createdMs now : ℤ} (hcreated : 0 < createdMs)
    (hstart : createdMs ≤ now) (ttlSeconds maxHops : ℤ) :
    checkLifetime createdMs (createdMs + clampTtl ttlSeconds * 1000) (clampHops maxHops) now =
      .ok () := by
  have httl := clampTtl_range ttlSeconds
  have hhops := clampHops_range maxHops
  unfold maxTtlSeconds at httl
  simp only [checkLifetime,bind_ok,raiseIf_ok,maxClockSkewMs,maxTtlSeconds]
  exact ⟨(),by omega,(),raiseIf_passes (by omega),(),raiseIf_passes (by omega),(),
    raiseIf_passes (by omega),by omega⟩

theorem outerKey_outer (laws : SealLaws rt lib) (hfit : OuterFit recipient a qos mode keyId draw)
    (ciphertext : Bytes) :
    outerKey rt a.version (textEntries (outerEntries recipient a qos mode keyId draw) ++
      [(.str "ct",.bin ciphertext)]) = .ok (mode,keyId) := by
  rcases hfit.target with ⟨rfl,rfl⟩ | ⟨rfl,hid,hversion⟩
  · rcases hfit.version with h | h <;>
      simp [outerKey,outerEntries,textEntries,Value.fieldOr,laws.str_text,h,keyMode,
        modeText,raiseIf,fetched,bind,Except.bind,pure,Except.pure]
  · simp [outerKey,outerEntries,textEntries,Value.fieldOr,laws.str_text,hversion,keyMode,
      modeText,raiseIf,fetched,hid,bind,Except.bind,pure,Except.pure]

theorem outer_reads (hfit : OuterFit recipient a qos mode keyId draw) (ciphertext : Bytes) :
    let fields := textEntries (outerEntries recipient a qos mode keyId draw) ++
      [(.str "ct",.bin ciphertext)]
    Value.fieldOr fields "v" (.int 0) = .int a.version ∧
      Value.fieldOr fields "id" (.str "") = .str draw.packetId ∧
      Value.fieldOr fields "dst" (.str "") = .str recipient.nodeId ∧
      Value.fieldOr fields "ts" (.int 0) = .int draw.createdMs ∧
      Value.fieldOr fields "exp" (.int 0) =
        .int (draw.createdMs + clampTtl a.ttlSeconds * 1000) ∧
      Value.fieldOr fields "hops" (.int 0) = .int (clampHops a.maxHops) ∧
      Value.fieldOr fields "epk" emptyBytes = .bin draw.ephemeralPublic ∧
      Value.fieldOr fields "nonce" emptyBytes = .bin draw.nonce ∧
      Value.fieldOr fields "qos" (.str "") = .str qos ∧
      Value.fieldOr fields "ct" emptyBytes = .bin ciphertext := by
  rcases hfit.version with h | h <;>
    simp [Value.fieldOr,outerEntries,textEntries,h]

/-- A packed outer map passes the inspection at any time of the packet's life. -/
theorem inspectPacket_outer (laws : SealLaws rt lib)
    (hfit : OuterFit recipient a qos mode keyId draw) {ciphertext raw : Bytes}
    (hciphertext : 32 ≤ ciphertext.length ∧ ciphertext.length ≤ maxPlaintextBytes + 16)
    (hpack : rt.packb (outerValue recipient a qos mode keyId draw ciphertext) = .ok raw)
    (hraw : raw.length ≤ maxWireBytes) {now : ℤ} (hstart : draw.createdMs ≤ now)
    (hend : now < draw.createdMs + clampTtl a.ttlSeconds * 1000) :
    inspectPacket rt now raw false = .ok ⟨draw.packetId,recipient.nodeId,draw.createdMs,
      draw.createdMs + clampTtl a.ttlSeconds * 1000,clampHops a.maxHops,qos,raw,mode,keyId,
      a.version⟩ := by
  have hunpack : rt.unpack raw = .ok (outerValue recipient a qos mode keyId draw ciphertext) := by
    rw [Runtime.unpack,if_neg (by omega)]
    exact laws.unpack_pack _ _ hpack
  have hvalid : validateOuter rt now (textEntries (outerEntries recipient a qos mode keyId draw) ++
      [(.str "ct",.bin ciphertext)]) raw = .ok ⟨draw.packetId,recipient.nodeId,draw.createdMs,
        draw.createdMs + clampTtl a.ttlSeconds * 1000,clampHops a.maxHops,qos,raw,mode,keyId,
        a.version⟩ := by
    obtain ⟨hv,hid,hdst,hts,hexp,hhops,hepk,hnonce,hqos,hct⟩ := outer_reads hfit ciphertext
    have hlife := checkLifetime_outer hfit.created.1 hstart a.ttlSeconds a.maxHops
    have hkey := outerKey_outer laws hfit ciphertext
    have hhex := draw.packetId_hex
    simp only [isHex,Bool.and_eq_true,decide_eq_true_eq] at hhex
    have hread := fromHex_isSome 16 draw.packetId_hex
    have hversion : ¬ a.version ∉ [(1 : ℤ),2,3] := by
      rcases hfit.version with h | h <;> simp [h]
    have hnotone : a.version ≠ 1 := by
      rcases hfit.version with h | h <;> simp [h]
    have haddress := hfit.address
    simp only [validateOuter,hv,hid,hdst,hts,hexp,hhops,hepk,hnonce,hqos,hct,laws.int_int,
      laws.str_text,laws.bytes_bin,hlife,hkey,hnotone,if_false,bind_ok,Except.ok.injEq,exists_eq_left']
    have hdestination : ¬ (¬ startsWith recipient.nodeId "an1" = true ∨
        recipient.nodeId.toList.length < 20) := by
      rw [not_or,not_not]
      exact ⟨haddress.1,by omega⟩
    exact ⟨(),raiseIf_passes hversion,(),raiseIf_passes (not_not.mpr hhex.1),(),
      raiseIf_passes (by simpa [← Option.isSome_iff_ne_none] using hread),(),
      raiseIf_passes hdestination,(),trivial,(),raiseIf_passes (not_not.mpr hfit.ephemeral),(),
      raiseIf_passes (not_not.mpr hfit.nonce),(),raiseIf_passes (not_not.mpr hfit.qos),(),
      raiseIf_passes (by omega),rfl⟩
  have hexpired : ¬ (¬ (false : Bool) ∧ draw.createdMs + clampTtl a.ttlSeconds * 1000 ≤ now) := by
    omega
  exact inspectPacket_ok.mpr ⟨hraw,_,_,hunpack,rfl,hvalid,hexpired⟩

theorem wireEntries_le (es : List (Value × Value)) (bound : ℕ)
    (h : ∀ e ∈ es, e.1.wire.length + e.2.wire.length ≤ bound) :
    (wireEntries es).length ≤ bound * es.length := by
  induction es with
  | nil => simp [wireEntries]
  | cons e es ih =>
    obtain ⟨k,v⟩ := e
    have hhead : k.wire.length + v.wire.length ≤ bound := h (k,v) (by simp)
    have htail := ih fun e he => h e (by simp [he])
    simp only [wireEntries,List.length_append,List.length_cons,Nat.mul_succ]
    omega

theorem wireEntries_append (es es' : List (Value × Value)) :
    wireEntries (es ++ es') = wireEntries es ++ wireEntries es' := by
  induction es with
  | nil => rfl
  | cons e es ih =>
    obtain ⟨k,v⟩ := e
    simp only [List.cons_append,wireEntries,ih,List.append_assoc]

theorem wire_str_le (s : String) : (Value.str s).wire.length ≤ 5 + 4 * s.toList.length := by
  have hutf8 := utf8_length_le s
  simp only [Value.wire,List.length_cons,List.length_append,length_wordBytes]
  omega

theorem str_fits {s : String} (h : s.toList.length ≤ 1024) : (Value.str s).fits := by
  have hutf8 := utf8_length_le s
  simp only [Value.fits,decide_eq_true_eq]
  omega

/-- The entries of an outer map are small scalars. -/
theorem outerEntries_fit (hfit : OuterFit recipient a qos mode keyId draw) {e : String × Value}
    (he : e ∈ outerEntries recipient a qos mode keyId draw) :
    e.1.toList.length ≤ 5 ∧ e.2.fits ∧ e.2.scalar ∧ e.2.wire.length ≤ 600 := by
  have hid := draw.packetId_hex
  simp only [isHex,Bool.and_eq_true,decide_eq_true_eq] at hid
  have hdst := hfit.address.2.2
  have hcreated := hfit.created
  have httl := clampTtl_range a.ttlSeconds
  have hhops := clampHops_range a.maxHops
  have hkey := hfit.keyId_length
  have hmode : (modeText mode).toList.length ≤ 32 := by cases mode <;> decide
  have hclass : qos.toList.length ≤ 32 := by
    have hqos := hfit.qos
    simp only [List.mem_cons,List.not_mem_nil,or_false] at hqos
    rcases hqos with rfl | rfl | rfl | rfl <;> decide
  have hversion : a.version = 2 ∨ a.version = 3 := hfit.version
  have hint : ∀ i : ℤ, 0 ≤ i → i < 2 ^ 63 → (Value.int i).fits ∧ (Value.int i).scalar ∧
      (Value.int i).wire.length ≤ 600 := by
    intro i hlow hhigh
    refine ⟨?_,rfl,?_⟩
    · simp only [Value.fits,Bool.and_eq_true,decide_eq_true_eq]
      omega
    · simp [Value.wire]
  have hstr : ∀ s : String, s.toList.length ≤ 128 → (Value.str s).fits ∧ (Value.str s).scalar ∧
      (Value.str s).wire.length ≤ 600 := by
    intro s hs
    have hwire := wire_str_le s
    exact ⟨str_fits (by omega),rfl,by omega⟩
  have hbin : ∀ b : Bytes, b.length ≤ 32 → (Value.bin b).fits ∧ (Value.bin b).scalar ∧
      (Value.bin b).wire.length ≤ 600 := by
    intro b hb
    refine ⟨?_,rfl,?_⟩
    · simp only [Value.fits,decide_eq_true_eq]
      omega
    · simp only [Value.wire,List.length_cons,List.length_append,length_wordBytes]
      omega
  unfold maxTtlSeconds at httl
  unfold outerEntries at he
  rcases List.mem_append.mp he with he | he
  · simp only [List.mem_cons,List.not_mem_nil,or_false] at he
    rcases he with rfl | rfl | rfl | rfl | rfl | rfl | rfl | rfl | rfl
    · exact ⟨(by decide : "v".toList.length ≤ 5),hint _ (by omega) (by omega)⟩
    · exact ⟨(by decide : "id".toList.length ≤ 5),hstr _ (by omega)⟩
    · exact ⟨(by decide : "dst".toList.length ≤ 5),hstr _ hdst⟩
    · exact ⟨(by decide : "ts".toList.length ≤ 5),hint _ (by omega) (by omega)⟩
    · exact ⟨(by decide : "exp".toList.length ≤ 5),hint _ (by omega) (by omega)⟩
    · exact ⟨(by decide : "hops".toList.length ≤ 5),hint _ (by omega) (by omega)⟩
    · exact ⟨(by decide : "epk".toList.length ≤ 5),hbin _ (by rw [hfit.ephemeral])⟩
    · exact ⟨(by decide : "nonce".toList.length ≤ 5),hbin _ (by rw [hfit.nonce]; decide)⟩
    · exact ⟨(by decide : "qos".toList.length ≤ 5),hstr _ (by omega)⟩
  · split at he
    · simp only [List.mem_cons,List.not_mem_nil,or_false] at he
      rcases he with rfl | rfl
      · exact ⟨(by decide : "km".toList.length ≤ 5),hstr _ (by omega)⟩
      · exact ⟨(by decide : "kid".toList.length ≤ 5),hstr _ (by omega)⟩
    · cases he

theorem outerEntries_length (recipient : Recipient) (a : SealArguments) (qos : String)
    (mode : KeyMode) (keyId : String) (draw : SealDraw) :
    (outerEntries recipient a qos mode keyId draw).length ≤ 11 := by
  unfold outerEntries
  split <;> simp

theorem outerValue_packs (laws : SealLaws rt lib) (hfit : OuterFit recipient a qos mode keyId draw)
    (ciphertext : Bytes) (hciphertext : ciphertext.length ≤ maxPlaintextBytes + 16) :
    ∃ raw, rt.packb (outerValue recipient a qos mode keyId draw ciphertext) = .ok raw ∧
      raw.length ≤ maxWireBytes := by
  unfold maxPlaintextBytes at hciphertext
  have hlength := outerEntries_length recipient a qos mode keyId draw
  have hpacks : rt.Packs (outerValue recipient a qos mode keyId draw ciphertext) := by
    refine (laws.pack_map _).mpr ⟨?_,fun e he => ?_⟩
    · simp only [textEntries,List.length_append,List.length_map,List.length_singleton]
      omega
    · rcases List.mem_append.mp he with he | he
      · obtain ⟨x,hx,rfl⟩ := List.mem_map.mp he
        obtain ⟨hkey,hfits,hscalar,-⟩ := outerEntries_fit hfit hx
        exact ⟨laws.pack_flat _ (str_fits (by omega)) rfl,laws.pack_flat _ hfits (scalar_flat hscalar)⟩
      · obtain rfl := List.mem_singleton.mp he
        refine ⟨laws.pack_flat (.str "ct") (by decide) rfl,laws.pack_flat _ ?_ rfl⟩
        simp only [Value.fits,decide_eq_true_eq]
        omega
  obtain ⟨raw,hraw⟩ := hpacks
  refine ⟨raw,hraw,(laws.size_wire _ _ hraw).trans ?_⟩
  have hentries : (wireEntries (textEntries (outerEntries recipient a qos mode keyId draw))).length ≤
      625 * (textEntries (outerEntries recipient a qos mode keyId draw)).length := by
    refine wireEntries_le _ _ fun e he => ?_
    obtain ⟨x,hx,rfl⟩ := List.mem_map.mp he
    obtain ⟨hkey,-,-,hwire⟩ := outerEntries_fit hfit hx
    have hname := wire_str_le x.1
    dsimp only
    omega
  have hname : (utf8 "ct").length = 2 := by decide
  simp only [outerValue,Value.wire,wireEntries_append,wireEntries,List.length_cons,
    List.length_append,List.length_nil,length_wordBytes,textEntries,List.length_map]
    at hentries hlength ⊢
  unfold maxWireBytes
  omega

/-- An outer map can be made around any plaintext of a bucket, and it passes the inspection at any
time of the packet's life. -/
theorem sealOuter_ok (laws : SealLaws rt lib) (hfit : OuterFit recipient a qos mode keyId draw)
    {publicKey shared : Bytes} (plaintext : Bytes)
    (hshared : lib.exchange draw.ephemeralPrivate publicKey = .ok shared)
    (hpublic : publicKey.length = 32)
    (hplaintext : 16 ≤ plaintext.length ∧ plaintext.length ≤ maxPlaintextBytes) :
    ∃ raw, sealOuter rt lib recipient a qos (mode,publicKey,keyId) draw plaintext = .ok raw ∧
      ∀ now, draw.createdMs ≤ now → now < draw.createdMs + clampTtl a.ttlSeconds * 1000 →
        inspectPacket rt now raw false = .ok ⟨draw.packetId,recipient.nodeId,draw.createdMs,
          draw.createdMs + clampTtl a.ttlSeconds * 1000,clampHops a.maxHops,qos,raw,mode,keyId,
          a.version⟩ := by
  have hkey : ∃ symmetric, key rt lib.toCrypto shared a.version draw.packetId publicKey
      draw.ephemeralPublic mode keyId = .ok symmetric := by
    obtain ⟨salt,hsalt⟩ := Option.isSome_iff_exists.mp (fromHex_isSome 16 draw.packetId_hex)
    rcases hfit.version with h | h
    · exact ⟨lib.hkdf salt (v1Domain ++ publicKey ++ draw.ephemeralPublic) shared,
        by simp [key,h,hsalt,fetched,bind,Except.bind,pure,Except.pure]⟩
    · obtain ⟨info,hinfo⟩ := canonicalPack_list laws ([.str "ainet/sealed-packet/v3",
        .bin publicKey,.bin draw.ephemeralPublic,.str (modeText mode),.str keyId]) (by simp) (by
          intro v hv
          simp only [List.mem_cons,List.not_mem_nil,or_false] at hv
          rcases hv with rfl | rfl | rfl | rfl | rfl
          · exact laws.pack_flat _ (by decide) rfl
          · exact laws.pack_flat _ (by simp [Value.fits,hpublic]) rfl
          · exact laws.pack_flat _ (by simp [Value.fits,hfit.ephemeral]) rfl
          · exact laws.pack_flat _ (by cases mode <;> decide) rfl
          · exact laws.pack_flat _ (str_fits (by have hlength := hfit.keyId_length; omega)) rfl)
      refine ⟨lib.hkdf salt info shared,?_⟩
      cases mode <;>
        simp_all [key,modeText,fetched,bind,Except.bind,pure,Except.pure]
  obtain ⟨symmetric,hsymmetric⟩ := hkey
  have haad : ∃ packed, rt.canonicalPack (.list ((outerEntries recipient a qos mode keyId draw).map
      Prod.snd)) = .ok packed := by
    have hlength := outerEntries_length recipient a qos mode keyId draw
    refine canonicalPack_list laws _ (by rw [List.length_map]; omega) fun v hv => ?_
    obtain ⟨e,he,rfl⟩ := List.mem_map.mp hv
    obtain ⟨-,hfits,hscalar,-⟩ := outerEntries_fit hfit he
    exact laws.pack_flat _ hfits (scalar_flat hscalar)
  obtain ⟨packed,hpacked⟩ := haad
  have hciphertext := laws.encrypt_length symmetric draw.nonce plaintext packed
  obtain ⟨raw,hraw,hsize⟩ := outerValue_packs laws hfit
    (lib.encrypt symmetric draw.nonce plaintext packed) (by omega)
  refine ⟨raw,?_,fun now hstart hend => inspectPacket_outer laws hfit ⟨by omega,by omega⟩ hraw hsize
    hstart hend⟩
  simp only [sealOuter,hshared,hsymmetric,aadFields_entries laws hfit,hpacked,bind_ok,
    Except.ok.injEq,exists_eq_left']
  exact hraw

end Outer

section Seal

variable {sender : Sender} {recipient : Recipient} {a : SealArguments} {mode : KeyMode}
  {publicKey : Bytes} {keyId : String} {draw : SealDraw}

/-- Arguments and draws that leave the content as the only reason to fail. -/
structure SealReady (rt : Runtime) (lib : SealCrypto) (sender : Sender) (recipient : Recipient)
    (a : SealArguments) (mode : KeyMode) (publicKey : Bytes) (keyId : String) (draw : SealDraw) :
    Prop where
  kind : isKind (lower (strip a.kind))
  target : sealTarget rt recipient a = .ok (mode,publicKey,keyId)
  outer : OuterFit recipient a (lower (strip a.qos)) mode keyId draw
  inner : entriesFit (emptyInner sender (lower (strip a.kind)) draw.createdMs a)
  padding : (max 256 a.paddingMin).toNat ≤ maxPlaintextBytes
  keyLength : publicKey.length = 32
  exchange : ∃ shared, lib.exchange draw.ephemeralPrivate publicKey = .ok shared
  inspected : draw.createdMs ≤ draw.inspectedMs ∧
    draw.inspectedMs < draw.createdMs + clampTtl a.ttlSeconds * 1000

theorem sealTarget_opk {publicKey : Bytes} (hkey : a.prekeyPublic = some publicKey)
    (hversion : 3 ≤ a.version) (hlength : publicKey.length = 32)
    (hid : lower (strip a.prekeyId) = derivedPrekeyId rt publicKey) :
    sealTarget rt recipient a = .ok (.opk,publicKey,lower (strip a.prekeyId)) := by
  unfold sealTarget
  rw [hkey]
  dsimp only
  rw [raiseIf_passes (not_lt.mpr hversion),raiseIf_passes (not_not.mpr hlength),
    raiseIf_passes (not_not.mpr hid)]
  rfl

theorem sealPacket_reads (h : SealReady rt lib sender recipient a mode publicKey keyId draw) :
    sealPacket rt lib sender recipient a draw = (do
      let encoded ← sealInner rt lib sender (lower (strip a.kind)) draw.createdMs a
      let plaintext ← sealPlaintext a.paddingMin draw.padding encoded
      let raw ← sealOuter rt lib recipient a (lower (strip a.qos)) (mode,publicKey,keyId) draw
        plaintext
      let _ ← inspectPacket rt draw.inspectedMs raw false
      return raw) := by
  have hversion : ¬ a.version ∉ [(1 : ℤ),2,3] := by
    rcases h.outer.version with hv | hv <;> simp [hv]
  unfold sealPacket
  dsimp only
  rw [raiseIf_passes (not_not.mpr h.kind),raiseIf_passes (not_not.mpr h.outer.qos),
    raiseIf_passes hversion,h.target]
  rfl

/-- Only what can be sealed is sealed. -/
theorem sealPacket_sealable (laws : SealLaws rt lib)
    (h : SealReady rt lib sender recipient a mode publicKey keyId draw) {raw : Bytes}
    (hraw : sealPacket rt lib sender recipient a draw = .ok raw) :
    Sealable rt sender (lower (strip a.kind)) draw.createdMs a := by
  rw [sealPacket_reads h] at hraw
  simp only [bind_ok] at hraw
  obtain ⟨encoded,hencoded,plaintext,hplaintext,-⟩ := hraw
  exact (sealed_plaintext laws h.inner h.padding draw.padding).mp
    ⟨plaintext,bind_ok.mpr ⟨encoded,hencoded,hplaintext⟩⟩

/-- What can be sealed becomes a packet that passes the inspection during its life. -/
theorem sealPacket_ok (laws : SealLaws rt lib)
    (h : SealReady rt lib sender recipient a mode publicKey keyId draw)
    (hsealable : Sealable rt sender (lower (strip a.kind)) draw.createdMs a) :
    ∃ raw, sealPacket rt lib sender recipient a draw = .ok raw ∧
      ∀ now, draw.createdMs ≤ now → now < draw.createdMs + clampTtl a.ttlSeconds * 1000 →
        inspectPacket rt now raw false = .ok ⟨draw.packetId,recipient.nodeId,draw.createdMs,
          draw.createdMs + clampTtl a.ttlSeconds * 1000,clampHops a.maxHops,lower (strip a.qos),raw,
          mode,keyId,a.version⟩ := by
  obtain ⟨plaintext,hplaintext⟩ :=
    (sealed_plaintext laws h.inner h.padding draw.padding).mpr hsealable
  obtain ⟨encoded,hencoded,hplaintext⟩ := bind_ok.mp hplaintext
  obtain ⟨hbucket,hvalue⟩ := sealPlaintext_ok hplaintext
  have hneeded := le_bucketSize a.paddingMin (4 + encoded.length)
  have hleast := bucketSize_pos a.paddingMin (4 + encoded.length)
  have hlength := congrArg List.length hvalue
  simp only [List.length_append,length_wordBytes,draw.padding_length] at hlength
  obtain ⟨shared,hshared⟩ := h.exchange
  obtain ⟨raw,hraw,hinspect⟩ := sealOuter_ok laws h.outer plaintext hshared
    h.keyLength ⟨by omega,by omega⟩
  refine ⟨raw,?_,hinspect⟩
  rw [sealPacket_reads h,hencoded]
  simp only [bind_ok]
  exact ⟨encoded,rfl,plaintext,hplaintext,raw,hraw,_,hinspect _ h.inspected.1 h.inspected.2,rfl⟩

end Seal

end Packet
section Codec

theorem length_lastEntries_le (es : List (String × Value)) :
    (lastEntries es).length ≤ es.length := by
  induction es with
  | nil => rfl
  | cons x es ih =>
    rw [lastEntries]
    split
    · simp only [List.length_cons]
      omega
    · simp only [List.length_cons]
      omega

section Canonical

variable {rt : Runtime}

theorem length_canonicalEntries (es : List (Value × Value)) :
    (canonicalEntries rt es).length = es.length := by
  induction es with
  | nil => rfl
  | cons e es ih =>
    obtain ⟨k,v⟩ := e
    simp [canonicalEntries,ih]

mutual

/-- The canonical form of a value that fits fits, when the texts of its keys do. -/
theorem canonical_fits (hstr : ∀ v : Value, v.fits → (Value.str (rt.str v)).fits) (v : Value)
    (h : v.fits) : (v.canonical rt).fits := by
  match v with
  | .nil => exact h
  | .bool _ => exact h
  | .int _ => simpa only [Value.canonical] using h
  | .float _ => exact h
  | .str _ => simpa only [Value.canonical] using h
  | .bin _ => simpa only [Value.canonical] using h
  | .list vs =>
    simp only [Value.fits,Bool.and_eq_true,decide_eq_true_eq,Value.canonical,
      Packet.length_canonicalItems] at h ⊢
    exact ⟨h.1,canonicalItems_fit hstr vs h.2⟩
  | .map es =>
    simp only [Value.fits,Bool.and_eq_true,decide_eq_true_eq,Value.canonical] at h ⊢
    have hsorted := length_lastEntries_le
      ((canonicalEntries rt es).insertionSort fun a b => a.1 ≤ b.1)
    rw [List.length_insertionSort,length_canonicalEntries] at hsorted
    refine ⟨by omega,(entriesFit_iff _).mpr fun e he => ?_⟩
    obtain ⟨x,hx,rfl⟩ := mem_lastEntries he
    exact canonicalEntries_fit hstr es h.2 x ((List.mem_insertionSort _).mp hx)

theorem canonicalItems_fit (hstr : ∀ v : Value, v.fits → (Value.str (rt.str v)).fits)
    (vs : List Value) (h : itemsFit vs) : itemsFit (canonicalItems rt vs) := by
  match vs with
  | [] => rfl
  | v :: vs =>
    simp only [itemsFit,canonicalItems,Bool.and_eq_true] at h ⊢
    exact ⟨canonical_fits hstr v h.1,canonicalItems_fit hstr vs h.2⟩

theorem canonicalEntries_fit (hstr : ∀ v : Value, v.fits → (Value.str (rt.str v)).fits)
    (es : List (Value × Value)) (h : entriesFit es) (x : String × Value)
    (hx : x ∈ canonicalEntries rt es) : (Value.str x.1).fits ∧ x.2.fits := by
  match es with
  | [] => cases hx
  | (k,v) :: es =>
    simp only [entriesFit,Bool.and_eq_true] at h
    rw [canonicalEntries] at hx
    rcases List.mem_cons.mp hx with rfl | hx
    · exact ⟨hstr k h.1.1,canonical_fits hstr v h.1.2⟩
    · exact canonicalEntries_fit hstr es h.2 x hx

end

end Canonical

theorem length_wireEntries (es : List (Value × Value)) :
    (wireEntries es).length = (es.map fun e => e.1.wire.length + e.2.wire.length).sum := by
  induction es with
  | nil => rfl
  | cons e es ih =>
    obtain ⟨k,v⟩ := e
    simp only [wireEntries,List.length_append,ih,List.map_cons,List.sum_cons]

/-- The codec of the sample runtimes follows what sealing relies on. -/
theorem packValue_laws {rt : Runtime} {lib : SealCrypto} (hpack : rt.packb = packValue)
    (hunpack : rt.unpackb = unpackValue) (hstr : ∀ s, rt.str (.str s) = s)
    (hshort : ∀ v : Value, v.fits → (Value.str (rt.str v)).fits)
    (hint : ∀ i, rt.int (.int i) = .ok i) (hbytes : ∀ b, rt.bytes (.bin b) = .ok b)
    (hlist : ∀ vs, rt.list (.list vs) = .ok vs)
    (hencrypt : ∀ key nonce plaintext aad,
      (lib.encrypt key nonce plaintext aad).length = plaintext.length + 16)
    (hsign : ∀ key message, (lib.sign key message).length = 64) : SealLaws rt lib := by
  have hpacks : ∀ v, rt.Packs v ↔ v.fits := by
    intro v
    unfold Runtime.Packs
    rw [hpack]
    unfold packValue
    split <;> simp_all
  have hitem : ∀ v : Value, (Value.list [v]).fits = v.fits := by
    intro v
    simp [Value.fits,itemsFit]
  have hsize : ∀ v : Value, v.fits → rt.packedSize v = v.wire.length := by
    intro v hv
    exact Runtime.packedSize_ok (by rw [hpack,packValue,if_pos hv])
  exact {
    str_text := hstr
    int_int := hint
    bytes_bin := hbytes
    list_list := hlist
    unpack_pack := by
      intro v raw h
      rw [hpack] at h
      rw [hunpack]
      exact unpackValue_packValue h
    pack_list := by
      intro vs
      simp only [hpacks,hitem]
      simp [Value.fits,itemsFit_iff]
    pack_map := by
      intro es
      simp only [hpacks,hitem]
      simp [Value.fits,entriesFit_iff]
    pack_item := by
      intro v h
      rw [hpacks,hitem] at h
      exact (hpacks v).mpr h
    pack_flat := by
      intro v hfits _
      rw [hpacks,hitem]
      exact hfits
    pack_canonical := by
      intro v h
      rw [hpacks,hitem] at h ⊢
      exact canonical_fits hshort v h
    map_size := by
      refine ⟨fun _ => 5,fun es hes => ?_⟩
      have hfits := (hpacks _).mp hes
      have hentries : ∀ e ∈ es, e.1.fits = true ∧ e.2.fits = true := by
        simp only [Value.fits,Bool.and_eq_true] at hfits
        exact (entriesFit_iff es).mp hfits.2
      have hsum : (es.map fun e => rt.packedSize e.1 + rt.packedSize e.2) =
          es.map fun e => e.1.wire.length + e.2.wire.length := by
        refine List.map_congr_left fun e he => ?_
        rw [hsize _ (hentries e he).1,hsize _ (hentries e he).2]
      rw [hsize _ hfits,hsum,← length_wireEntries]
      simp only [Value.wire,List.length_cons,List.length_append,length_wordBytes]
    bin_size := by
      intro b b' h
      have hfits : (Value.bin b).fits = (Value.bin b').fits := by simp [Value.fits,h]
      unfold Runtime.packedSize
      rw [hpack]
      unfold packValue
      rw [hfits]
      split
      · simp [Except.toOption,Value.wire,h]
      · rfl
    size_wire := by
      intro v raw h
      rw [hpack] at h
      unfold packValue at h
      split at h
      · cases h
        exact le_rfl
      · cases h
    encrypt_length := hencrypt
    sign_length := hsign }

end Codec

end Anet
