import Anet.CarrierFrames
import Anet.MsgPack

/-! What a node leaves in a channel, its peer finds and reads: the channels of the two
sides agree, the receiver's channels cover the age and the skew of a frame, padding
comes off again, and a stored packet fits a frame unless it is too large. -/
namespace Anet

/-- What the carriers rely on in msgpack and in the cryptography package. -/
structure CarrierLaws (rt : Runtime) (lib : CarrierCrypto) : Prop where
  unpack_pack : ∀ v raw, rt.packb v = .ok raw → rt.unpackb raw = .ok v
  pack_bin : ∀ entries k b raw, rt.packb (.map entries) = .ok raw → (k,Value.bin b) ∈ entries →
    b.length ≤ raw.length
  str_text : ∀ s, rt.str (.str s) = s
  int_int : ∀ i, rt.int (.int i) = .ok i
  bytes_bin : ∀ b, rt.bytes (.bin b) = .ok b
  decrypt_encrypt : ∀ key nonce plaintext aad,
    lib.decrypt key nonce (lib.encrypt key nonce plaintext aad) aad = .ok plaintext
  encrypt_length : ∀ key nonce plaintext aad,
    (lib.encrypt key nonce plaintext aad).length = plaintext.length + 16
  pack_fits : ∀ v : Value, v.fits → ∃ raw, rt.packb v = .ok raw ∧ raw.length ≤ v.wire.length
  sign_length : ∀ key message, (lib.sign key message).length ≤ 64

/-- Two nodes that hold each other's cards: the ids are theirs, the key agreement succeeds and
agrees, and the first one's signatures verify under its card. -/
structure CarrierPair (lib : CarrierCrypto) (sender receiver : CarrierIdentity)
    (senderCard receiverCard : PeerCard) : Prop where
  sender_id : senderCard.nodeId = sender.nodeId
  receiver_id : receiverCard.nodeId = receiver.nodeId
  agree : ∃ shared, lib.exchange sender.boxPrivate receiverCard.boxPublic = .ok shared ∧
    lib.exchange receiver.boxPrivate senderCard.boxPublic = .ok shared
  short : (utf8 sender.nodeId).length + (utf8 receiver.nodeId).length ≤ 512
  signs : ∀ message,
    lib.verify senderCard.signPublic (lib.sign sender.signPrivate message) message = .ok ()

namespace Carrier

open Packet (Fields need)

variable {rt : Runtime} {lib : CarrierCrypto} {sender receiver : CarrierIdentity}
  {senderCard receiverCard : PeerCard}

section Padding

variable {padding : ℕ → Bytes} {raw plaintext : Bytes}

theorem le_frameTarget (required : ℕ) : required ≤ frameTarget required := by
  have hsize : required - 1 < 2 ^ Nat.size (required - 1) := Nat.lt_size_self (required - 1)
  simp only [frameTarget]
  split <;> omega

/-- The padding comes off again. -/
theorem unpad_pad (hraw : 0 < raw.length)
    (h : padFramePlaintext padding raw = .ok plaintext) : unpadFramePlaintext plaintext = .ok raw := by
  simp only [padFramePlaintext,bind_ok,raiseIf_ok] at h
  obtain ⟨-,hlimit,h⟩ := h
  obtain rfl := Except.ok.inj h
  have hbound : raw.length < 256 ^ 4 := by
    have htarget := le_frameTarget (4 + raw.length)
    simp only [maxDropBytes,carrierWireReserveBytes] at hlimit
    omega
  have htake : (wordBytes 4 raw.length ++ raw ++ padding (frameTarget (4 + raw.length) -
      (4 + raw.length))).take 4 = wordBytes 4 raw.length := by
    rw [List.append_assoc]
    exact List.take_left' (length_wordBytes 4 raw.length)
  have hdrop : (wordBytes 4 raw.length ++ raw ++ padding (frameTarget (4 + raw.length) -
      (4 + raw.length))).drop 4 = raw ++ padding (frameTarget (4 + raw.length) -
      (4 + raw.length)) := by
    rw [List.append_assoc]
    exact List.drop_left' (length_wordBytes 4 raw.length)
  simp only [unpadFramePlaintext,bind_ok,raiseIf_ok,htake,hdrop,wordValue_wordBytes hbound,
    List.length_append,length_wordBytes]
  refine ⟨(),by omega,(),by omega,?_⟩
  simp [pure,Except.pure]

end Padding

section Channels

/-- A traversal returns what each element gives. -/
theorem mapM_mem {α β : Type} {f : α → Result β} {l : List α} {l' : List β}
    (h : l.mapM f = .ok l') {a : α} (ha : a ∈ l) {b : β} (hb : f a = .ok b) : b ∈ l' := by
  induction l generalizing l' with
  | nil => cases ha
  | cons x xs ih =>
    simp only [List.mapM_cons,bind_ok] at h
    obtain ⟨y,hy,ys,hys,h⟩ := h
    obtain rfl := Except.ok.inj h
    rcases List.mem_cons.mp ha with rfl | hmem
    · obtain rfl := Except.ok.inj (hy.symm.trans hb)
      exact List.mem_cons_self
    · exact List.mem_cons_of_mem _ (ih hys hmem)

theorem sortedStrings_pair (a b : String) : sortedStrings [a,b] = sortedStrings [b,a] :=
  sortedStrings_congr (.swap b a [])

/-- Both sides derive the same channel. -/
theorem channel_agrees (hp : CarrierPair lib sender receiver senderCard receiverCard)
    (version epoch : ℤ) : outboundChannel rt lib sender receiverCard version epoch =
      inboundChannel rt lib receiver senderCard version epoch := by
  obtain ⟨shared,hsender,hreceiver⟩ := hp.agree
  simp only [outboundChannel,inboundChannel,deriveChannel,hsender,hreceiver,hp.sender_id,
    hp.receiver_id,sortedStrings_pair sender.nodeId receiver.nodeId,and_self,true_or,
    or_true]

/-- The receiver's epochs cover every frame that is neither too new nor too old. -/
theorem epoch_covered {t now : ℤ} (hnew : t ≤ now + maxClockSkewMs)
    (hold : now - maxFrameAgeMs ≤ t) : t / channelEpochMs ∈
      (List.range (channelHistoryEpochs + 1)).map (fun offset : ℕ => now / channelEpochMs - offset) ++
        [now / channelEpochMs + 1] := by
  have hcurrent : now / channelEpochMs ≤ t / channelEpochMs + 5 ∧
      t / channelEpochMs ≤ now / channelEpochMs + 1 := by
    simp only [channelEpochMs,maxClockSkewMs,maxFrameAgeMs] at *
    omega
  simp only [List.mem_append,List.mem_map,List.mem_singleton]
  by_cases hahead : t / channelEpochMs = now / channelEpochMs + 1
  · exact Or.inr hahead
  · refine Or.inl ⟨(now / channelEpochMs - t / channelEpochMs).toNat,?_,?_⟩
    · rw [List.mem_range,channelHistoryEpochs]
      omega
    · omega

/-- The channel a frame is filed under is among those the receiver scans. -/
theorem mem_inboundChannels {t now version epoch : ℤ} {channel : CarrierChannel}
    {channels : List CarrierChannel}
    (hp : CarrierPair lib sender receiver senderCard receiverCard)
    (hversion : version ∈ [legacyCarrierVersion,carrierVersion])
    (hepoch : frameEpoch version t = .ok epoch)
    (hchannel : outboundChannel rt lib sender receiverCard version epoch = .ok channel)
    (hnew : t ≤ now + maxClockSkewMs) (hold : now - maxFrameAgeMs ≤ t)
    (h : inboundChannels rt lib receiver senderCard now = .ok channels) : channel ∈ channels := by
  rw [channel_agrees hp] at hchannel
  simp only [inboundChannels,bind_ok] at h
  obtain ⟨current,hcurrent,rotating,hrotating,legacy,hlegacy,h⟩ := h
  obtain rfl := Except.ok.inj h
  simp only [List.mem_cons,List.not_mem_nil,or_false] at hversion
  rcases hversion with rfl | rfl
  · obtain rfl : epoch = 0 := by
      rw [frameEpoch,if_neg (by decide)] at hepoch
      exact (Except.ok.inj hepoch).symm
    rw [hlegacy] at hchannel
    obtain rfl := Except.ok.inj hchannel
    simp
  · rw [frameEpoch,if_pos (by decide),epochAt] at hepoch
    split at hepoch
    · cases hepoch
    rename_i hpos
    obtain rfl := Except.ok.inj hepoch
    rw [epochAt] at hcurrent
    split at hcurrent
    · cases hcurrent
    obtain rfl := Except.ok.inj hcurrent
    refine List.mem_append_left _ (mapM_mem hrotating ?_ hchannel)
    refine List.mem_filter.mpr ⟨epoch_covered hnew hold,?_⟩
    have hnonneg : 0 ≤ t / channelEpochMs := Int.ediv_nonneg (by omega) (by decide)
    simpa using hnonneg

end Channels

section Frames

variable {version epoch createdMs depth : ℤ} {kind : FrameKind} {packetId senderId recipientId : String}
  {salt signature raw : Bytes} {random : FrameRandom}

/-- The body as it is packed. -/
def signedBody (version epoch : ℤ) (kind : FrameKind) (senderId recipientId : String)
    (createdMs : ℤ) (salt : Bytes) (packetId : String) (depth : ℤ) (raw signature : Bytes) : Fields :=
  unsignedBody version epoch kind senderId recipientId createdMs salt packetId depth raw ++
    ([(.str "sig",.bin signature)] : Fields)

/-- What is signed, as a list of values. -/
def signedFields (version epoch : ℤ) (kind : FrameKind) (senderId recipientId : String)
    (createdMs : ℤ) (salt : Bytes) (packetId : String) (depth : ℤ) (raw : Bytes) : List Value :=
  ([.int version,.str kind.text,.str senderId,.str recipientId] : List Value) ++
    epochFields version epoch ++
      ([.int createdMs,.bin salt,.str packetId,.int depth,.bin raw] : List Value)

theorem frameFields_unsigned (laws : CarrierLaws rt lib) : frameFields rt (unsignedBody version
    epoch kind senderId recipientId createdMs salt packetId depth raw) = .ok (signedFields version
    epoch kind senderId recipientId createdMs salt packetId depth raw) := by
  by_cases hv : carrierVersion ≤ version <;>
    simp [frameFields,unsignedBody,signedFields,bodyEpoch,epochFields,need,
      Value.fieldOr,laws.int_int,laws.bytes_bin,laws.str_text,hv,bind,Except.bind,pure,Except.pure]

/-- The signature and its own field are not part of what is signed. -/
theorem frameFields_signed (laws : CarrierLaws rt lib) : frameFields rt (signedBody version epoch
    kind senderId recipientId createdMs salt packetId depth raw signature) = .ok (signedFields
    version epoch kind senderId recipientId createdMs salt packetId depth raw) := by
  by_cases hv : carrierVersion ≤ version <;>
    simp [frameFields,signedBody,unsignedBody,signedFields,bodyEpoch,epochFields,need,
      Value.fieldOr,laws.int_int,laws.bytes_bin,laws.str_text,hv,bind,Except.bind,pure,Except.pure]

theorem deriveChannel_fields {self : CarrierIdentity} {peer : PeerCard} {channel : CarrierChannel}
    (h : deriveChannel rt lib self peer senderId recipientId version epoch = .ok channel) :
    version ∈ [legacyCarrierVersion,carrierVersion] ∧ channel.version = version ∧
      (carrierVersion ≤ version → channel.epoch = epoch) := by
  simp only [deriveChannel,bind_ok,raiseIf_ok,not_not] at h
  obtain ⟨_,-,_,hversion,_,-,_,-,_,-,_,-,h⟩ := h
  obtain rfl := Except.ok.inj h
  refine ⟨hversion,rfl,?_⟩
  intro hv
  have hnew : version ≠ legacyCarrierVersion := by
    simp only [carrierVersion,legacyCarrierVersion] at *
    omega
  exact if_neg hnew

/-- The parts of a frame that was encoded. -/
structure Encoded (rt : Runtime) (lib : CarrierCrypto) (sender : CarrierIdentity)
    (receiverCard : PeerCard) (kind : FrameKind) (packetId : String) (raw : Bytes)
    (depth createdMs version : ℤ) (random : FrameRandom) (channel : CarrierChannel)
    (name : String) (wire : Bytes) : Prop where
  valid : packetIdText packetId = .ok packetId
  filed : ∃ epoch, frameEpoch version createdMs = .ok epoch ∧
    outboundChannel rt lib sender receiverCard version epoch = .ok channel ∧
    ∃ message plaintext framed bound,
      rt.canonicalPack (.list (signedFields version epoch kind sender.nodeId receiverCard.nodeId
        createdMs random.salt packetId depth raw)) = .ok message ∧
      rt.pack (.map (signedBody version epoch kind sender.nodeId receiverCard.nodeId createdMs
        random.salt packetId depth raw (lib.sign sender.signPrivate message))) = .ok plaintext ∧
      padded version random.padding plaintext = .ok framed ∧ aad rt channel = .ok bound ∧
      rt.pack (.map [(.str "v",.int version),(.str "n",.bin random.nonce),
        (.str "ct",.bin (lib.encrypt channel.encryptionKey random.nonce framed bound))]) = .ok wire
  size : wire.length ≤ maxDropBytes
  named : filename rt lib channel kind.text packetId = .ok name

theorem encodeFrame_parts (laws : CarrierLaws rt lib) {channel : CarrierChannel} {name : String}
    {wire : Bytes} (h : encodeFrame rt lib sender receiverCard kind packetId raw depth createdMs
      version random = .ok (channel,name,wire)) : Encoded rt lib sender receiverCard kind packetId
        raw depth createdMs version random channel name wire := by
  simp only [encodeFrame,frameFields_unsigned laws,bind_ok,raiseIf_ok,Except.ok.injEq,
    exists_eq_left'] at h
  obtain ⟨id,hid,epoch,hepoch,channel',hchannel,message,hmessage,plaintext,hplain,framed,hframed,
    bound,hbound,wire',hwire,-,hsize,name',hname,h⟩ := h
  obtain ⟨rfl,hrest⟩ := Prod.mk.inj (Except.ok.inj h)
  obtain ⟨rfl,rfl⟩ := Prod.mk.inj hrest
  have hsame : id = packetId := by
    simp only [packetIdText,bind_ok] at hid
    obtain ⟨_,-,_,-,hid⟩ := hid
    exact (Except.ok.inj hid).symm
  subst hsame
  exact ⟨hid,⟨epoch,hepoch,hchannel,message,plaintext,framed,bound,hmessage,hplain,hframed,hbound,
    hwire⟩,by omega,hname⟩

/-- Unpacking a plaintext that fits the frame. -/
theorem unpack_pack (laws : CarrierLaws rt lib) {v : Value} {packed : Bytes}
    (h : rt.pack v = .ok packed) (hsize : packed.length ≤ maxDropBytes) :
    rt.unpack packed = .ok v := by
  rw [Runtime.unpack,if_neg]
  · exact laws.unpack_pack v packed h
  · simp only [maxWireBytes,maxDropBytes] at *
    omega

theorem unpadded_padded {padding : ℕ → Bytes} {plaintext framed : Bytes}
    (h : padded version padding plaintext = .ok framed) (hpos : 0 < plaintext.length) :
    unpadded version framed = .ok plaintext ∧ plaintext.length ≤ framed.length := by
  unfold padded at h
  unfold unpadded
  split at h
  · rename_i hv
    rw [if_pos hv]
    refine ⟨unpad_pad hpos h,?_⟩
    simp only [padFramePlaintext,bind_ok] at h
    obtain ⟨-,-,h⟩ := h
    obtain rfl := Except.ok.inj h
    simp only [List.length_append]
    omega
  · rename_i hv
    rw [if_neg hv]
    obtain rfl := Except.ok.inj h
    exact ⟨rfl,le_rfl⟩

theorem checkEpoch_signed (laws : CarrierLaws rt lib) {channel : CarrierChannel}
    (h : carrierVersion ≤ version → channel.epoch = epoch) :
    checkEpoch rt version channel (signedBody version epoch kind senderId recipientId createdMs
      salt packetId depth raw signature) = .ok () := by
  unfold checkEpoch
  split
  · rename_i hv
    have hepoch : Value.fieldOr (signedBody version epoch kind senderId recipientId createdMs salt
        packetId depth raw signature) "e" (.int (-1)) = .int epoch := by
      simp [Value.fieldOr,signedBody,unsignedBody,hv]
    rw [hepoch,laws.int_int,h hv]
    simp [raiseIf,bind,Except.bind]
  · rfl

theorem checkTimestampEpoch_frame {channel : CarrierChannel}
    (hepoch : frameEpoch version createdMs = .ok epoch)
    (h : carrierVersion ≤ version → channel.epoch = epoch) :
    checkTimestampEpoch version createdMs channel = .ok () := by
  unfold checkTimestampEpoch
  split
  · rename_i hv
    rw [frameEpoch,if_pos hv] at hepoch
    rw [hepoch,h hv]
    simp [raiseIf,bind,Except.bind]
  · rfl

/-- A frame reads back as what was put into it. -/
theorem decode_encode (laws : CarrierLaws rt lib)
    (hp : CarrierPair lib sender receiver senderCard receiverCard) {channel : CarrierChannel}
    {name : String} {wire : Bytes} {now : ℤ} {frame : CarrierFrame}
    (h : Encoded rt lib sender receiverCard kind packetId raw depth createdMs version random
      channel name wire)
    (hnew : createdMs ≤ now + maxClockSkewMs) (hold : now - maxFrameAgeMs ≤ createdMs)
    (hopen : ∀ epoch signature, openBody rt senderCard now (signedBody version epoch kind
      sender.nodeId receiverCard.nodeId createdMs random.salt packetId depth raw signature) kind
      packetId name = .ok frame) :
    decodeFrame rt lib receiver senderCard channel now name wire = .ok frame := by
  obtain ⟨epoch,hepoch,hchannel,message,plaintext,framed,bound,hmessage,hplain,hframed,hbound,
    hwire⟩ := h.filed
  obtain ⟨hversion,hcversion,hcepoch⟩ := deriveChannel_fields hchannel
  have hsalt : random.salt.length ≤ plaintext.length :=
    laws.pack_bin _ (.str "salt") _ _ hplain (by simp [signedBody,unsignedBody])
  have hct : (lib.encrypt channel.encryptionKey random.nonce framed bound).length ≤ wire.length :=
    laws.pack_bin _ (.str "ct") _ _ hwire (by simp)
  rw [laws.encrypt_length] at hct
  have hsize := h.size
  have hunpadded : unpadded version framed = .ok plaintext ∧ plaintext.length ≤ framed.length := by
    refine unpadded_padded hframed ?_
    rw [random.salt_length] at hsalt
    omega
  have hunpack := unpack_pack laws hwire hsize
  have hbody := unpack_pack laws hplain (by omega)
  simp only [decodeFrame,bind_ok,raiseIf_ok,fetched_ok,not_not]
  refine ⟨(),by omega,_,hunpack,_,rfl,version,?_,(),hversion,(),hcversion.symm,random.nonce,?_,(),
    random.nonce_length,_,?_,bound,hbound,framed,laws.decrypt_encrypt _ _ _ _,plaintext,
    hunpadded.1,_,hbody,_,rfl,version,?_,(),rfl,(),?_,(),?_,createdMs,?_,(),?_,(),?_,random.salt,
    ?_,(),random.salt_length,_,?_,_,frameFields_signed laws,message,hmessage,(),hp.signs message,
    kind,?_,packetId,?_,name,h.named,(),rfl,?_⟩
  · simp [Value.fieldOr,laws.int_int]
  · simp [Value.fieldOr,laws.bytes_bin]
  · simp [Value.fieldOr,laws.bytes_bin]
  · simp [Value.fieldOr,signedBody,unsignedBody,laws.int_int]
  · exact checkEpoch_signed laws hcepoch
  · simp [Value.fieldOr,signedBody,unsignedBody,Value.isStr,hp.sender_id,
      hp.receiver_id]
  · simp [Value.fieldOr,signedBody,unsignedBody,laws.int_int]
  · omega
  · exact checkTimestampEpoch_frame hepoch hcepoch
  · simp [Value.fieldOr,signedBody,unsignedBody,laws.bytes_bin]
  · by_cases hv : carrierVersion ≤ version <;>
      simp [Value.fieldOr,signedBody,unsignedBody,laws.bytes_bin,hv]
  · cases kind <;> simp [Value.fieldOr,signedBody,unsignedBody,laws.str_text,
      frameKind,FrameKind.text]
  · have hpid : Value.fieldOr (signedBody version epoch kind sender.nodeId receiverCard.nodeId
        createdMs random.salt packetId depth raw (lib.sign sender.signPrivate message)) "pid"
        (.str "") = .str packetId := by
      simp [Value.fieldOr,signedBody,unsignedBody]
    rw [hpid,laws.str_text]
    exact h.valid
  · exact hopen _ _

end Frames

section Publishing

variable {version epoch createdMs depth : ℤ} {kind : FrameKind} {packetId senderId recipientId : String}
  {salt signature raw : Bytes} {random : FrameRandom}

theorem canonicalPack_total (laws : CarrierLaws rt lib) {v : Value} (h : (v.canonical rt).fits) :
    ∃ packed, rt.canonicalPack v = .ok packed := by
  obtain ⟨packed,hpacked,-⟩ := laws.pack_fits _ h
  exact ⟨packed,hpacked⟩

theorem b64Chars_length (bytes : Bytes) : (b64Chars bytes).length ≤ 2 * bytes.length := by
  induction bytes using b64Chars.induct with
  | case1 => simp [b64Chars]
  | case2 a => simp [b64Chars]
  | case3 a b => simp [b64Chars]
  | case4 a b c rest ih =>
    simp only [b64Chars,List.length_cons]
    omega

theorem utf8_token_length (bytes : Bytes) : (utf8 (b64e (bytes.take 20))).length ≤ 160 := by
  have hchars := b64Chars_length (bytes.take 20)
  have hutf8 := utf8_length_le (b64e (bytes.take 20))
  rw [b64e,String.toList_ofList] at hutf8
  have htake := List.length_take_le 20 bytes
  rw [b64e]
  omega

/-- The epoch of a time that fits a clock. -/
theorem frameEpoch_total (hpos : 0 ≤ createdMs) (hclock : createdMs < 2 ^ 62) (version : ℤ) :
    ∃ epoch, frameEpoch version createdMs = .ok epoch ∧ 0 ≤ epoch ∧ epoch < 2 ^ 62 := by
  unfold frameEpoch epochAt
  split
  · rw [if_neg (by omega)]
    refine ⟨_,rfl,Int.ediv_nonneg hpos (by decide),?_⟩
    have hle : createdMs / channelEpochMs ≤ createdMs := Int.ediv_le_self _ hpos
    omega
  · exact ⟨0,rfl,le_rfl,by omega⟩

theorem canonical_epochFields (version epoch : ℤ) (items : List Value) :
    canonicalItems rt (items ++ epochFields version epoch) =
      canonicalItems rt items ++ epochFields version epoch := by
  induction items with
  | nil => by_cases hv : carrierVersion ≤ version <;> simp [epochFields,hv,canonicalItems,Value.canonical]
  | cons v vs ih => simp only [List.cons_append,canonicalItems,ih]

theorem itemsFit_epochFields {items : List Value} (hlow : 0 ≤ epoch) (hhigh : epoch < 2 ^ 62)
    (h : itemsFit items) : itemsFit (items ++ epochFields version epoch) := by
  induction items with
  | nil =>
    by_cases hv : carrierVersion ≤ version <;> simp [epochFields,hv,itemsFit,Value.fits]
    omega
  | cons v vs ih =>
    simp only [List.cons_append,itemsFit,Bool.and_eq_true] at h ⊢
    exact ⟨h.1,ih h.2⟩

theorem length_epochFields (version epoch : ℤ) : (epochFields version epoch).length ≤ 1 := by
  unfold epochFields
  split <;> simp

theorem length_canonicalItems (items : List Value) :
    (canonicalItems rt items).length = items.length := by
  induction items with
  | nil => rfl
  | cons v vs ih => simp [canonicalItems,ih]

/-- Fields with an epoch after them are packed. -/
theorem pack_epochFields (laws : CarrierLaws rt lib) {items : List Value} (hlow : 0 ≤ epoch)
    (hhigh : epoch < 2 ^ 62) (hlength : items.length < 100)
    (h : itemsFit (canonicalItems rt items)) :
    ∃ packed, rt.canonicalPack (.list (items ++ epochFields version epoch)) = .ok packed := by
  apply canonicalPack_total laws
  rw [Value.canonical,canonical_epochFields,Value.fits,Bool.and_eq_true]
  refine ⟨?_,itemsFit_epochFields hlow hhigh h⟩
  have hepoch := length_epochFields version epoch
  rw [List.length_append,length_canonicalItems]
  simp only [decide_eq_true_eq]
  omega

theorem canonicalItems_strs (names : List String) :
    canonicalItems rt (names.map .str) = names.map .str := by
  induction names with
  | nil => rfl
  | cons x xs ih => simp [canonicalItems,Value.canonical,ih]

theorem itemsFit_strs {names : List String} (h : ∀ x ∈ names, (utf8 x).length < 2 ^ 32) :
    itemsFit (names.map .str) := by
  induction names with
  | nil => rfl
  | cons x xs ih =>
    rw [List.map_cons,itemsFit,Bool.and_eq_true]
    refine ⟨?_,ih fun y hy => h y (List.mem_cons_of_mem _ hy)⟩
    simpa [Value.fits] using h x List.mem_cons_self

theorem version_fits (h : version ∈ [legacyCarrierVersion,carrierVersion]) :
    (Value.int version).fits := by
  simp only [List.mem_cons,List.not_mem_nil,or_false] at h
  rcases h with rfl | rfl <;> decide

/-- The two nodes always derive a channel. -/
theorem outboundChannel_total (laws : CarrierLaws rt lib)
    (hp : CarrierPair lib sender receiver senderCard receiverCard)
    (hversion : version ∈ [legacyCarrierVersion,carrierVersion]) (hlow : 0 ≤ epoch)
    (hhigh : epoch < 2 ^ 62) :
    ∃ channel, outboundChannel rt lib sender receiverCard version epoch = .ok channel ∧
      (utf8 channel.token).length ≤ 160 ∧ 0 ≤ channel.epoch ∧ channel.epoch < 2 ^ 62 ∧
      channel.version = version := by
  obtain ⟨shared,hshared,-⟩ := hp.agree
  have hshort := hp.short
  rw [← hp.receiver_id] at hshort
  generalize hfiled : (if version = legacyCarrierVersion then 0 else epoch) = filed
  have hfiled' : 0 ≤ filed ∧ filed < 2 ^ 62 := by
    rw [← hfiled]
    split <;> omega
  have hparticipants : ∀ x ∈ sortedStrings [sender.nodeId,receiverCard.nodeId],
      (utf8 x).length < 2 ^ 32 := by
    intro x hx
    have hmem := (List.perm_insertionSort (· ≤ ·) [sender.nodeId,receiverCard.nodeId]).mem_iff.mp hx
    simp only [List.mem_cons,List.not_mem_nil,or_false] at hmem
    rcases hmem with rfl | rfl <;> omega
  have hsorted : (sortedStrings [sender.nodeId,receiverCard.nodeId]).length = 2 :=
    List.length_insertionSort _ _
  have hcontext : ∃ packed, rt.canonicalPack (.list ([.str "ainet/directory-carrier",.int version,
      .list ((sortedStrings [sender.nodeId,receiverCard.nodeId]).map .str)] ++
      epochFields version filed)) = .ok packed := by
    apply pack_epochFields laws hfiled'.1 hfiled'.2 (by simp)
    have hv := version_fits hversion
    have hs := itemsFit_strs hparticipants
    simp only [canonicalItems,Value.canonical,canonicalItems_strs,itemsFit,Value.fits,
      List.length_map,hs,hsorted,Bool.and_eq_true,decide_eq_true_eq] at hv ⊢
    exact ⟨by decide,hv,⟨by omega,trivial⟩,trivial⟩
  have hdirection : ∃ packed, rt.canonicalPack (.list ([.str "direction",.str sender.nodeId,
      .str receiverCard.nodeId] ++ epochFields version filed)) = .ok packed := by
    apply pack_epochFields laws hfiled'.1 hfiled'.2 (by simp)
    simp only [canonicalItems,Value.canonical,itemsFit,Value.fits,Bool.and_eq_true,
      decide_eq_true_eq]
    exact ⟨by decide,by omega,by omega,trivial⟩
  obtain ⟨context,hcontext⟩ := hcontext
  obtain ⟨direction,hdirection⟩ := hdirection
  let material := lib.hkdf 84 (lib.sha256 context) direction shared
  have hchannel : outboundChannel rt lib sender receiverCard version epoch =
      .ok ⟨version,filed,b64e (material.take 20),(material.drop 20).take 32,
        (material.drop 52).take 32⟩ := by
    simp only [outboundChannel,deriveChannel,hfiled,bind_ok,raiseIf_ok,not_not]
    exact ⟨(),by simp,(),hversion,(),by omega,shared,hshared,context,hcontext,direction,
      hdirection,rfl⟩
  exact ⟨_,hchannel,utf8_token_length material,hfiled'.1,hfiled'.2,rfl⟩

theorem packetIdText_length (h : packetIdText packetId = .ok packetId) :
    (utf8 packetId).length ≤ 128 := by
  simp only [packetIdText,bind_ok,raiseIf_ok,not_not] at h
  obtain ⟨_,hlength,-⟩ := h
  have hle := utf8_length_le packetId
  omega

theorem utf8_kind (kind : FrameKind) : (utf8 kind.text).length ≤ 6 := by
  cases kind <;> decide

/-- A body is little longer than the packet in it. -/
theorem wire_signedBody (hid : packetIdText packetId = .ok packetId)
    (hsignature : signature.length ≤ 64) (hsalt : salt.length = 16) :
    (Value.map (signedBody version epoch kind senderId recipientId createdMs salt packetId depth raw
      signature)).wire.length ≤
      raw.length + (utf8 senderId).length + (utf8 recipientId).length + 500 := by
  have hpid := packetIdText_length hid
  have hkind := utf8_kind kind
  have hkeys : ∀ x ∈ ["v","t","sid","rid","ts","salt","pid","depth","raw","e","sig"],
      (utf8 x).length ≤ 5 := by decide
  simp only [List.forall_mem_cons] at hkeys
  unfold signedBody unsignedBody
  split <;>
    simp only [Value.wire,wireEntries,List.cons_append,List.nil_append,List.length_append,
      List.length_cons,length_wordBytes,List.length_nil,List.append_nil] <;>
    omega

theorem fits_signedBody (hid : packetIdText packetId = .ok packetId)
    (hversion : version ∈ [legacyCarrierVersion,carrierVersion]) (hlow : 0 ≤ epoch)
    (hhigh : epoch < 2 ^ 62) (hpos : 0 ≤ createdMs) (hclock : createdMs < 2 ^ 62)
    (hdepth : 0 ≤ depth ∧ depth < 2 ^ 62) (hsender : (utf8 senderId).length ≤ 512)
    (hrecipient : (utf8 recipientId).length ≤ 512) (hraw : raw.length ≤ maxDropBytes)
    (hsignature : signature.length ≤ 64) (hsalt : salt.length = 16) :
    (Value.map (signedBody version epoch kind senderId recipientId createdMs salt packetId depth raw
      signature)).fits := by
  have hpid := packetIdText_length hid
  have hkind := utf8_kind kind
  have hv := version_fits hversion
  have hkeys : ∀ x ∈ ["v","t","sid","rid","ts","salt","pid","depth","raw","e","sig"],
      (utf8 x).length < 2 ^ 32 := by decide
  simp only [List.forall_mem_cons] at hkeys
  simp only [maxDropBytes] at hraw
  unfold signedBody unsignedBody
  split <;>
    simp only [Value.fits,entriesFit,List.cons_append,List.nil_append,List.length_cons,
      List.length_nil,Bool.and_eq_true,decide_eq_true_eq,hkeys,true_and,and_true] at hv ⊢ <;>
    omega

theorem pack_signedFields (laws : CarrierLaws rt lib) (kind : FrameKind)
    (hversion : version ∈ [legacyCarrierVersion,carrierVersion])
    (hid : packetIdText packetId = .ok packetId) (hlow : 0 ≤ epoch) (hhigh : epoch < 2 ^ 62)
    (hpos : 0 ≤ createdMs) (hclock : createdMs < 2 ^ 62) (hdepth : 0 ≤ depth ∧ depth < 2 ^ 62)
    (hsender : (utf8 senderId).length ≤ 512) (hrecipient : (utf8 recipientId).length ≤ 512)
    (hraw : raw.length ≤ maxDropBytes) (hsalt : salt.length = 16) :
    ∃ packed, rt.canonicalPack (.list (signedFields version epoch kind senderId recipientId
      createdMs salt packetId depth raw)) = .ok packed := by
  have hpid := packetIdText_length hid
  have hkind := utf8_kind kind
  have hv := version_fits hversion
  simp only [maxDropBytes] at hraw
  apply canonicalPack_total laws
  unfold signedFields epochFields
  split <;>
    simp only [Value.canonical,canonicalItems,Value.fits,itemsFit,List.cons_append,
      List.nil_append,List.length_cons,List.length_nil,Bool.and_eq_true,decide_eq_true_eq,
      and_true] at hv ⊢ <;>
    omega

theorem pad_total {padding : ℕ → Bytes} {plaintext : Bytes}
    (hpadding : ∀ n, (padding n).length = n)
    (h : 4 + plaintext.length ≤ maxDropBytes - carrierWireReserveBytes) (version : ℤ) :
    ∃ framed, padded version padding plaintext = .ok framed ∧
      framed.length ≤ maxDropBytes - carrierWireReserveBytes := by
  have htarget := le_frameTarget (4 + plaintext.length)
  have hlimit : frameTarget (4 + plaintext.length) ≤ maxDropBytes - carrierWireReserveBytes := by
    simp only [frameTarget]
    split <;> omega
  unfold padded
  split
  · simp only [padFramePlaintext,bind_ok,raiseIf_ok]
    refine ⟨_,⟨(),by omega,rfl⟩,?_⟩
    simp only [List.length_append,length_wordBytes,hpadding]
    omega
  · exact ⟨plaintext,rfl,by omega⟩

/-- A packet that leaves a kilobyte of room is framed. -/
theorem encodeFrame_total (laws : CarrierLaws rt lib)
    (hp : CarrierPair lib sender receiver senderCard receiverCard)
    (hversion : version ∈ [legacyCarrierVersion,carrierVersion])
    (hid : packetIdText packetId = .ok packetId) (hpos : 0 ≤ createdMs)
    (hclock : createdMs < 2 ^ 62) (hdepth : 0 ≤ depth ∧ depth < 2 ^ 62)
    (hraw : raw.length ≤ maxDropBytes - 2048) :
    ∃ r, encodeFrame rt lib sender receiverCard kind packetId raw depth createdMs version random =
      .ok r := by
  have hshort := hp.short
  rw [← hp.receiver_id] at hshort
  obtain ⟨epoch,hepoch,hlow,hhigh⟩ := frameEpoch_total hpos hclock version
  obtain ⟨channel,hchannel,htoken,hclow,hchigh,hcversion⟩ :=
    outboundChannel_total laws hp hversion hlow hhigh
  have hmax : maxDropBytes = 12582912 := rfl
  have hreserve : carrierWireReserveBytes = 256 := rfl
  have hpid := packetIdText_length hid
  have hkind := utf8_kind kind
  obtain ⟨message,hmessage⟩ := pack_signedFields laws kind hversion hid hlow hhigh hpos hclock hdepth
    (show (utf8 sender.nodeId).length ≤ 512 by omega)
    (show (utf8 receiverCard.nodeId).length ≤ 512 by omega)
    (show raw.length ≤ maxDropBytes by omega) random.salt_length
  have hsign := laws.sign_length sender.signPrivate message
  have hplain : ∃ plaintext, rt.pack (.map (signedBody version epoch kind sender.nodeId
      receiverCard.nodeId createdMs random.salt packetId depth raw
      (lib.sign sender.signPrivate message))) = .ok plaintext ∧
      plaintext.length ≤ maxDropBytes - 1000 := by
    obtain ⟨plaintext,hplain,hplength⟩ := laws.pack_fits (.map (signedBody version epoch kind
      sender.nodeId receiverCard.nodeId createdMs random.salt packetId depth raw
      (lib.sign sender.signPrivate message))) (fits_signedBody hid hversion hlow hhigh hpos hclock
        hdepth (by omega) (by omega) (by omega) hsign random.salt_length)
    refine ⟨plaintext,hplain,hplength.trans ?_⟩
    refine (wire_signedBody hid hsign random.salt_length).trans ?_
    omega
  obtain ⟨plaintext,hplain,hplength⟩ := hplain
  obtain ⟨framed,hframed,hflength⟩ := pad_total random.padding_length
    (show 4 + plaintext.length ≤ maxDropBytes - carrierWireReserveBytes by omega) version
  have hbound : ∃ packed, aad rt channel = .ok packed := by
    apply pack_epochFields laws hclow hchigh (by simp)
    have hv := version_fits hversion
    rw [← hcversion] at hv
    simp only [canonicalItems,Value.canonical,itemsFit,Value.fits,Bool.and_eq_true,
      decide_eq_true_eq] at hv ⊢
    exact ⟨by decide,hv,by omega,trivial⟩
  obtain ⟨bound,hbound⟩ := hbound
  have hct := laws.encrypt_length channel.encryptionKey random.nonce framed bound
  have hwire : ∃ wire, rt.pack (.map [(.str "v",.int version),(.str "n",.bin random.nonce),
      (.str "ct",.bin (lib.encrypt channel.encryptionKey random.nonce framed bound))]) = .ok wire ∧
      wire.length ≤ maxDropBytes := by
    have hv := version_fits hversion
    have hkeys : (utf8 "v").length = 1 ∧ (utf8 "n").length = 1 ∧ (utf8 "ct").length = 2 := by
      decide
    have hnonce := random.nonce_length
    obtain ⟨wire,hwire,hwlength⟩ := laws.pack_fits (.map [(.str "v",.int version),
      (.str "n",.bin random.nonce),(.str "ct",.bin (lib.encrypt channel.encryptionKey random.nonce
        framed bound))]) (by
      simp only [Value.fits,entriesFit,List.length_cons,List.length_nil,Bool.and_eq_true,
        decide_eq_true_eq,and_true] at hv ⊢
      omega)
    refine ⟨wire,hwire,hwlength.trans ?_⟩
    simp only [Value.wire,wireEntries,List.length_append,List.length_cons,length_wordBytes,
      List.length_nil]
    omega
  obtain ⟨wire,hwire,hwlength⟩ := hwire
  have hname : ∃ name, filename rt lib channel kind.text packetId = .ok name := by
    obtain ⟨packed,hpacked⟩ := canonicalPack_total (v := .list [.str kind.text,.str packetId]) laws (by
      simp only [Value.canonical,canonicalItems,itemsFit,Value.fits,List.length_cons,
        List.length_nil,Bool.and_eq_true,decide_eq_true_eq,and_true]
      omega)
    exact ⟨_,bind_ok.mpr ⟨packed,hpacked,rfl⟩⟩
  obtain ⟨name,hname⟩ := hname
  refine ⟨(channel,name,wire),?_⟩
  simp only [encodeFrame,frameFields_unsigned laws,bind_ok,raiseIf_ok,Except.ok.injEq,
    exists_eq_left']
  exact ⟨packetId,hid,epoch,hepoch,channel,hchannel,message,hmessage,plaintext,hplain,framed,
    hframed,bound,hbound,wire,hwire,(),by omega,name,hname,rfl⟩

/-- A traversal succeeds when every element does. -/
theorem mapM_total {α β : Type} {f : α → Result β} {l : List α} (h : ∀ a ∈ l, ∃ b, f a = .ok b) :
    ∃ l', l.mapM f = .ok l' := by
  induction l with
  | nil => exact ⟨[],rfl⟩
  | cons a l ih =>
    obtain ⟨b,hb⟩ := h a List.mem_cons_self
    obtain ⟨l',hl'⟩ := ih fun a ha => h a (List.mem_cons_of_mem _ ha)
    exact ⟨b :: l',by simp only [List.mapM_cons,hb,hl',bind,Except.bind,pure,Except.pure]⟩

/-- The channels of a peer are derived at any time of a clock. -/
theorem inboundChannels_total (laws : CarrierLaws rt lib)
    (hp : CarrierPair lib sender receiver senderCard receiverCard) {now : ℤ} (hpos : 0 ≤ now)
    (hclock : now < 2 ^ 62) : ∃ channels, inboundChannels rt lib receiver senderCard now =
      .ok channels := by
  have hchannel : ∀ version ∈ [legacyCarrierVersion,carrierVersion], ∀ epoch, 0 ≤ epoch →
      epoch < 2 ^ 62 → ∃ channel, inboundChannel rt lib receiver senderCard version epoch =
        .ok channel := by
    intro version hversion epoch hlow hhigh
    obtain ⟨channel,hchannel,-⟩ := outboundChannel_total laws hp hversion hlow hhigh
    exact ⟨channel,channel_agrees hp version epoch ▸ hchannel⟩
  obtain ⟨legacy,hlegacy⟩ := hchannel legacyCarrierVersion (by simp) 0 le_rfl (by omega)
  have hrotating : ∀ epoch ∈ (((List.range (channelHistoryEpochs + 1)).map
      (fun offset : ℕ => now / channelEpochMs - offset) ++ [now / channelEpochMs + 1]).filter
        fun epoch => 0 ≤ epoch), ∃ channel,
      inboundChannel rt lib receiver senderCard carrierVersion epoch = .ok channel := by
    intro epoch hepoch
    rw [List.mem_filter,List.mem_append,List.mem_map,List.mem_singleton] at hepoch
    refine hchannel carrierVersion (by simp) epoch (of_decide_eq_true hepoch.2) ?_
    have hle : now / channelEpochMs < 2 ^ 61 := by
      simp only [channelEpochMs]
      omega
    rcases hepoch.1 with ⟨offset,-,rfl⟩ | rfl <;> omega
  obtain ⟨rotating,hrotating⟩ := mapM_total hrotating
  refine ⟨rotating ++ [legacy],?_⟩
  simp only [inboundChannels,bind_ok]
  exact ⟨_,by rw [epochAt,if_neg (by omega)],rotating,hrotating,legacy,hlegacy,rfl⟩

theorem frameVersion_supported (capability : String) (peer : PeerCard) :
    frameVersion capability peer ∈ [legacyCarrierVersion,carrierVersion] := by
  unfold frameVersion
  split <;> simp

/-- What inspect_packet accepts has a packet id and a hop limit. -/
theorem inspectPacket_limits {now : ℤ} {info : PacketInfo}
    (h : Packet.inspectPacket rt now raw false = .ok info) :
    packetIdText info.packetId = .ok info.packetId ∧ info.maxHops ≤ 32 := by
  obtain ⟨-,_,_,-,-,hread,-⟩ := Packet.inspectPacket_ok.mp h
  obtain ⟨-,hlength,hhex,-⟩ := Packet.validateOuter_spec hread
  refine ⟨?_,(Packet.inspectPacket_hops h).2⟩
  simp only [packetIdText,bind_ok]
  exact ⟨(),raiseIf_ok.mpr (not_not.mpr hlength),(),raiseIf_ok.mpr hhex,rfl⟩

end Publishing

section Survival

variable {capability packetId name : String} {raw wire : Bytes} {depth t now : ℤ}
  {random : FrameRandom} {channel : CarrierChannel}

/-- A packet frame is found and read as it was published. -/
theorem decode_packetFrame (laws : CarrierLaws rt lib)
    (hp : CarrierPair lib sender receiver senderCard receiverCard) {info : PacketInfo}
    (h : packetFrame rt lib capability sender receiverCard raw depth t random =
      .ok (channel,name,wire)) (hnew : t ≤ now + maxClockSkewMs) (hold : now - maxFrameAgeMs ≤ t)
    (hinspect : Packet.inspectPacket rt now raw false = .ok info) :
    decodeFrame rt lib receiver senderCard channel now name wire =
      .ok ⟨.packet,sender.nodeId,info.packetId,name,raw,depth⟩ := by
  simp only [packetFrame,bind_ok,raiseIf_ok] at h
  obtain ⟨info',hinfo,_,hdepth,h⟩ := h
  obtain rfl := Packet.inspectPacket_agree hinfo hinspect
  refine decode_encode laws hp (encodeFrame_parts laws h) hnew hold ?_
  intro epoch signature
  simp only [openBody,bind_ok,raiseIf_ok]
  refine ⟨raw,?_,info,hinspect,depth,?_,(),?_,?_⟩
  · simp [Value.fieldOr,signedBody,unsignedBody,laws.bytes_bin]
  · simp [Value.fieldOr,signedBody,unsignedBody,laws.int_int]
  · simpa using hdepth
  · simp [pure,Except.pure,hp.sender_id]

/-- So is an acknowledgement. -/
theorem decode_ackFrame (laws : CarrierLaws rt lib)
    (hp : CarrierPair lib sender receiver senderCard receiverCard)
    (h : ackFrame rt lib capability sender receiverCard packetId t random = .ok (channel,name,wire))
    (hnew : t ≤ now + maxClockSkewMs) (hold : now - maxFrameAgeMs ≤ t) :
    decodeFrame rt lib receiver senderCard channel now name wire =
      .ok ⟨.ack,sender.nodeId,packetId,name,[],0⟩ := by
  refine decode_encode laws hp (encodeFrame_parts laws h) hnew hold ?_
  intro epoch signature
  simp only [openBody,bind_ok,raiseIf_ok]
  refine ⟨[],?_,0,?_,(),?_,?_⟩
  · simp [Value.fieldOr,signedBody,unsignedBody,laws.bytes_bin]
  · simp [Value.fieldOr,signedBody,unsignedBody,laws.int_int]
  · simp
  · simp [pure,Except.pure,hp.sender_id]

/-- The channel an encoded frame is filed under is one the receiver scans. -/
theorem encoded_scanned (laws : CarrierLaws rt lib)
    (hp : CarrierPair lib sender receiver senderCard receiverCard) {kind : FrameKind} {version : ℤ}
    (h : Encoded rt lib sender receiverCard kind packetId raw depth t version random channel name
      wire) (hnew : t ≤ now + maxClockSkewMs) (hold : now - maxFrameAgeMs ≤ t)
    (hpos : 0 ≤ now) (hclock : now < 2 ^ 62) : ∃ channels,
      inboundChannels rt lib receiver senderCard now = .ok channels ∧ channel ∈ channels := by
  obtain ⟨epoch,hepoch,hchannel,-⟩ := h.filed
  obtain ⟨channels,hchannels⟩ := inboundChannels_total laws hp hpos hclock
  exact ⟨channels,hchannels,mem_inboundChannels hp (deriveChannel_fields hchannel).1 hepoch hchannel
    hnew hold hchannels⟩

/-- A stored packet at the time it is published. -/
structure PushedPacket where
  raw : Bytes
  depth : ℤ
  now : ℤ
  random : FrameRandom

/-- The packet is accepted at that time, may take one more hop and leaves room in a frame. -/
def PushedPacket.Fits (rt : Runtime) (p : PushedPacket) : Prop :=
  (∃ info, Packet.inspectPacket rt p.now p.raw false = .ok info ∧ p.depth ≤ info.maxHops) ∧
    1 ≤ p.depth ∧ 0 ≤ p.now ∧ p.now < 2 ^ 62 ∧ p.raw.length ≤ maxDropBytes - 2048

theorem packetFrame_total (laws : CarrierLaws rt lib)
    (hp : CarrierPair lib sender receiver senderCard receiverCard) {p : PushedPacket}
    (h : p.Fits rt) (capability : String) : ∃ r, packetFrame rt lib capability sender receiverCard
      p.raw p.depth p.now p.random = .ok r := by
  obtain ⟨⟨info,hinfo,hmax⟩,hdepth,hpos,hclock,hraw⟩ := h
  obtain ⟨hid,hhops⟩ := inspectPacket_limits hinfo
  have hframe : ∃ r, encodeFrame rt lib sender receiverCard .packet info.packetId p.raw p.depth
      p.now (frameVersion capability receiverCard) p.random = .ok r :=
    encodeFrame_total laws hp (frameVersion_supported capability receiverCard) hid hpos hclock
      ⟨by omega,by omega⟩ hraw
  obtain ⟨r,hr⟩ := hframe
  refine ⟨r,?_⟩
  simp only [packetFrame,bind_ok,raiseIf_ok]
  exact ⟨info,hinfo,(),by omega,hr⟩

end Survival

section Sample

/-- A digest in bytes that depends on every byte. -/
def plainDigest (bytes : Bytes) : Bytes :=
  wordBytes 20 (bytes.foldl (fun h b => (257 * h + b.toNat + 1) % 256 ^ 20) 0)

/-- Keys that are their own public half, and a cipher that appends a tag. -/
def plainCarrier : CarrierCrypto where
  exchange boxPrivate boxPublic := .ok (List.zipWith (· + ·) boxPrivate boxPublic)
  sha256 := plainDigest
  hkdf length salt info shared :=
    (plainDigest (salt ++ info ++ shared) ++ List.replicate length 0).take length
  hmacHex key message := checksum 24 (key ++ message)
  encrypt _ _ plaintext _ := plaintext ++ List.replicate 16 0
  decrypt _ _ ciphertext _ :=
    if ciphertext.length < 16 then .error .invalidTag
    else .ok (ciphertext.take (ciphertext.length - 16))
  sign signPrivate message := (signPrivate ++ message).take 64
  verify signPublic signature message :=
    if signature = (signPublic ++ message).take 64 then .ok () else .error .invalidSignature

/-- A byte string is no longer than the map it is a value of. -/
theorem bin_le_wire {entries : Fields} {k : Value} {b : Bytes} (h : (k,Value.bin b) ∈ entries) :
    b.length ≤ (Value.map entries).wire.length := by
  have hentries : b.length ≤ (wireEntries entries).length := by
    induction entries with
    | nil => cases h
    | cons e es ih =>
      obtain ⟨k',v⟩ := e
      rw [wireEntries,List.length_append,List.length_append]
      rcases List.mem_cons.mp h with heq | hmem
      · obtain ⟨rfl,rfl⟩ := Prod.mk.inj heq
        simp only [Value.wire,List.length_cons,List.length_append]
        omega
      · have hle := ih hmem
        omega
  simp only [Value.wire,List.length_cons,List.length_append]
  omega

theorem plainCarrier_laws : CarrierLaws .msgpack plainCarrier where
  unpack_pack _ _ h := unpackValue_packValue h
  pack_bin entries k b raw h hmem := by
    simp only [Runtime.msgpack,packValue] at h
    split at h
    · obtain rfl := Except.ok.inj h
      exact bin_le_wire hmem
    · cases h
  str_text _ := rfl
  int_int _ := rfl
  bytes_bin _ := rfl
  decrypt_encrypt key nonce plaintext aad := by simp [plainCarrier]
  encrypt_length key nonce plaintext aad := by simp [plainCarrier]
  pack_fits v hfits := ⟨v.wire,by simp [Runtime.msgpack,packValue,hfits],le_rfl⟩
  sign_length key message := by simp [plainCarrier]

def carriedFrom : CarrierIdentity := ⟨"an1-sender",[1],[2]⟩

def carriedTo : CarrierIdentity := ⟨"an1-receiver",[3],[4]⟩

/-- The card of a node under the plain carrier library. -/
def plainPeer (self : CarrierIdentity) : PeerCard :=
  ⟨self.nodeId,self.signPrivate,self.boxPrivate,"node",[],[],1,[],cardVersion⟩

theorem carriedPair : CarrierPair plainCarrier carriedFrom carriedTo (plainPeer carriedFrom)
    (plainPeer carriedTo) where
  sender_id := rfl
  receiver_id := rfl
  agree := ⟨[6],by decide,by decide⟩
  short := by decide
  signs message := if_pos rfl

def carriedId : String := "00000000000000000000000000000001"

/-- A packet that expires at 90000. -/
def carriedPacket : Bytes :=
  ((Runtime.msgpack.canonicalPack (.map [(.str "v",.int 1),(.str "id",.str carriedId),
    (.str "dst",.str "an1-receiver-of-packets"),(.str "ts",.int 1000),(.str "exp",.int 90000),
    (.str "hops",.int 4),(.str "epk",.bin (List.replicate 32 0)),
    (.str "nonce",.bin (List.replicate 12 0)),
    (.str "ct",.bin (List.replicate 32 0))])).toOption).getD []

def plainRandom : FrameRandom where
  salt := List.replicate 16 0
  nonce := List.replicate 12 0
  padding n := List.replicate n 0
  salt_length := List.length_replicate
  nonce_length := List.length_replicate
  padding_length _ := List.length_replicate

/-- The carried packet, pushed at a time. -/
def carriedAt (now : ℤ) : PushedPacket := ⟨carriedPacket,1,now,plainRandom⟩

/-- The frames of the pushed packets, until one is refused. -/
def carriedFrames (pushed : List PushedPacket) : Result (List (CarrierChannel × String × Bytes)) :=
  pushed.mapM fun p => packetFrame .msgpack plainCarrier "directory-carrier-v2" carriedFrom
    (plainPeer carriedTo) p.raw p.depth p.now p.random

/-- The acknowledgement of the carried packet, written at 1000. -/
def carriedAck : Result (CarrierChannel × String × Bytes) :=
  ackFrame .msgpack plainCarrier "directory-carrier-v2" carriedFrom (plainPeer carriedTo) carriedId 1000
    plainRandom

/-- What the receiver reads in a written frame at a time of its clock. -/
def carriedRead (frame : Result (CarrierChannel × String × Bytes)) (now : ℤ) :
    Result CarrierFrame := do
  let (channel,name,wire) ← frame
  decodeFrame .msgpack plainCarrier carriedTo (plainPeer carriedFrom) channel now name wire

/-- Every frame written for an accepted packet, and every acknowledgement, is found and read as it
was written while its age and the clocks allow; the frame of a packet is read where the packet
itself is still accepted. A batch of accepted packets that leave room in a frame is published. -/
theorem carrier_frames_survive (laws : CarrierLaws rt lib)
    (hp : CarrierPair lib sender receiver senderCard receiverCard) (capability : String) :
    (∀ raw depth t random channel name wire now info,
      packetFrame rt lib capability sender receiverCard raw depth t random =
        .ok (channel,name,wire) → t ≤ now + maxClockSkewMs → now - maxFrameAgeMs ≤ t → 0 ≤ now →
      now < 2 ^ 62 → Packet.inspectPacket rt now raw false = .ok info →
      (∃ channels, inboundChannels rt lib receiver senderCard now = .ok channels ∧
        channel ∈ channels) ∧
      decodeFrame rt lib receiver senderCard channel now name wire =
        .ok ⟨.packet,sender.nodeId,info.packetId,name,raw,depth⟩) ∧
    (∀ packetId t random channel name wire now,
      ackFrame rt lib capability sender receiverCard packetId t random = .ok (channel,name,wire) →
      t ≤ now + maxClockSkewMs → now - maxFrameAgeMs ≤ t → 0 ≤ now → now < 2 ^ 62 →
      (∃ channels, inboundChannels rt lib receiver senderCard now = .ok channels ∧
        channel ∈ channels) ∧
      decodeFrame rt lib receiver senderCard channel now name wire =
        .ok ⟨.ack,sender.nodeId,packetId,name,[],0⟩) ∧
    (∀ pushed : List PushedPacket, (∀ p ∈ pushed, p.Fits rt) →
      ∃ frames, pushed.mapM (fun p => packetFrame rt lib capability sender receiverCard p.raw p.depth
        p.now p.random) = .ok frames) ∧
    ∀ packetId t random, packetIdText packetId = .ok packetId → 0 ≤ t → t < 2 ^ 62 →
      ∃ r, ackFrame rt lib capability sender receiverCard packetId t random = .ok r := by
  refine ⟨?_,?_,?_,?_⟩
  · intro raw depth t random channel name wire now info hframe hnew hold hpos hclock hinspect
    refine ⟨?_,decode_packetFrame laws hp hframe hnew hold hinspect⟩
    simp only [packetFrame,bind_ok] at hframe
    obtain ⟨_,-,_,-,hframe⟩ := hframe
    exact encoded_scanned laws hp (encodeFrame_parts laws hframe) hnew hold hpos hclock
  · intro packetId t random channel name wire now hframe hnew hold hpos hclock
    exact ⟨encoded_scanned laws hp (encodeFrame_parts laws hframe) hnew hold hpos hclock,
      decode_ackFrame laws hp hframe hnew hold⟩
  · intro pushed hpushed
    exact mapM_total fun p hmem => packetFrame_total laws hp (hpushed p hmem) capability
  · intro packetId t random hid hpos hclock
    exact encodeFrame_total laws hp (frameVersion_supported capability receiverCard) hid hpos hclock
      ⟨le_rfl,by omega⟩ (Nat.zero_le _)

def carriedInspects (now : ℤ) : Bool :=
  (Packet.inspectPacket .msgpack now carriedPacket false).toOption.any fun info =>
    info.packetId = carriedId ∧ 1 ≤ info.maxHops

theorem carriedInspects_iff {now : ℤ} (h : carriedInspects now) :
    ∃ info, Packet.inspectPacket .msgpack now carriedPacket false = .ok info ∧
      info.packetId = carriedId ∧ 1 ≤ info.maxHops := by
  unfold carriedInspects at h
  cases hinspect : Packet.inspectPacket .msgpack now carriedPacket false with
  | error e => rw [hinspect] at h; cases h
  | ok info =>
    rw [hinspect] at h
    exact ⟨info,rfl,of_decide_eq_true h⟩

/-- The packet is accepted until it expires, and what becomes of its frames. -/
theorem carried_results :
    (carriedPacket.length ≤ maxDropBytes - 2048 ∧ carriedInspects 1000 ∧ carriedInspects 2000 ∧
      carriedInspects 80000) ∧
    (carriedAck.toOption.isSome ∧
      carriedRead carriedAck (1000 + 31 * 86400000 + maxClockSkewMs) = .error (.value
        "directory carrier frame timestamp is outside the acceptance window")) ∧
    (Packet.inspectPacket .msgpack 1000 carriedPacket false).toOption.isSome ∧
    (carriedFrames [carriedAt 1000]).toOption.isSome ∧
    carriedFrames [carriedAt 1000,carriedAt 90000] = .error (.value "packet expired") := by
  decide +kernel

theorem carried_fits {now : ℤ} (h : carriedInspects now) (hpos : 0 ≤ now) (hclock : now < 2 ^ 62) :
    (carriedAt now).Fits .msgpack := by
  obtain ⟨info,hinfo,-,hhops⟩ := carriedInspects_iff h
  exact ⟨⟨info,hinfo,hhops⟩,le_rfl,hpos,hclock,carried_results.1.1⟩

/-- A packet written at 1000 is read at 80000, and a batch of two is published. -/
theorem carrier_frames_survive_sample :
    (∃ channel name wire, packetFrame .msgpack plainCarrier "directory-carrier-v2" carriedFrom
      (plainPeer carriedTo) carriedPacket 1 1000 plainRandom = .ok (channel,name,wire) ∧
      decodeFrame .msgpack plainCarrier carriedTo (plainPeer carriedFrom) channel 80000 name wire =
        .ok ⟨.packet,carriedFrom.nodeId,carriedId,name,carriedPacket,1⟩) ∧
    ∃ frames, carriedFrames [carriedAt 1000,carriedAt 2000] = .ok frames := by
  have hsurvive := carrier_frames_survive plainCarrier_laws carriedPair "directory-carrier-v2"
  obtain ⟨-,hearly,hlater,hlate⟩ := carried_results.1
  obtain ⟨⟨channel,name,wire⟩,hframe⟩ := packetFrame_total plainCarrier_laws carriedPair
    (carried_fits hearly (by decide) (by decide)) "directory-carrier-v2"
  obtain ⟨info,hinfo,hid,-⟩ := carriedInspects_iff hlate
  refine ⟨⟨channel,name,wire,hframe,?_⟩,hsurvive.2.2.1 [carriedAt 1000,carriedAt 2000] ?_⟩
  · rw [← hid]
    exact (hsurvive.1 carriedPacket 1 1000 plainRandom channel name wire 80000 info hframe
      (by decide) (by decide) (by decide) (by decide) hinfo).2
  · intro p hp
    simp only [List.mem_cons,List.not_mem_nil,or_false] at hp
    rcases hp with rfl | rfl
    · exact carried_fits hearly (by decide) (by decide)
    · exact carried_fits hlater (by decide) (by decide)

/-- An acknowledgement of the greatest age is not read by a clock that is ahead, and a stored packet
that expires before its turn refuses the batch. -/
theorem aged_frame_refused :
    (carriedAck.toOption.isSome ∧
      carriedRead carriedAck (1000 + 31 * 86400000 + maxClockSkewMs) = .error (.value
        "directory carrier frame timestamp is outside the acceptance window")) ∧
    (Packet.inspectPacket .msgpack 1000 carriedPacket false).toOption.isSome ∧
    (carriedFrames [carriedAt 1000]).toOption.isSome ∧
    carriedFrames [carriedAt 1000,carriedAt 90000] = .error (.value "packet expired") :=
  carried_results.2

end Sample

end Carrier
end Anet
