import Anet.GatewayCancellation
import Anet.GatewayOutbox
import Anet.GatewayTaskIds
import Anet.PacketSeal
import Anet.PeerBook
import Anet.PeerPrekeys

/-! The dispatch of a claimed message: a prekey of the destination is reserved, the packet is
sealed and committed, and on any error the claim is released and its key burned. With a live
claim, a trusted destination and a key where one is required, only the size and the depth of
the body decide the outcome. -/
namespace Anet

open Packet PacketStore

def DispatchKind.text : DispatchKind → String
  | .request => "agent.task.request"
  | .cancel => "agent.task.cancel"

/-- The claim `dispatch_a2a_claim` is given, with its ids checked. -/
structure A2AClaim where
  owner : ConsumerId
  claimToken : Token
  encryptionReservationId : Token
  destinationPeerId : String
  kind : DispatchKind
  body : Value

inductive PrekeyPolicy | prefer | require | disable
  deriving DecidableEq

/-- What `dispatch_a2a_claim` reads of its node; `describe` is the text of an exception. -/
structure DispatchNode where
  sender : Sender
  book : PeerBook
  prekeyPolicy : PrekeyPolicy
  maxHops : ℤ
  paddingMin : ℤ
  describe : PyError → String

/-- The clock readings and the random draws of one dispatch. -/
structure DispatchDraw where
  reservedMs : ℤ
  reservation : Token
  sealing : SealDraw
  committedMs : ℤ
  retriedMs : ℤ
  nextReservation : Token

namespace PeerCard

def prekeyV2 (card : PeerCard) : Prop := "one-time-prekeys-v2" ∈ card.capabilities

instance (card : PeerCard) : Decidable card.prekeyV2 := inferInstanceAs (Decidable (_ ∈ _))

def prekeyCapable (card : PeerCard) : Prop :=
  card.prekeyV2 ∨ "one-time-prekeys-v1" ∈ card.capabilities

instance (card : PeerCard) : Decidable card.prekeyCapable := inferInstanceAs (Decidable (_ ∨ _))

/-- `min_bundle_version`. -/
def minBundleVersion (card : PeerCard) : ℤ := if card.prekeyV2 then 2 else 1

end PeerCard

namespace DispatchNode

/-- The prekey a dispatch seals to, if the policy and the destination want one. -/
def claimPrekey (node : DispatchNode) (claim : A2AClaim) (recipient : PeerCard)
    (draw : DispatchDraw) (s : PacketStore) : Result (Option ReservedPrekey) × PacketStore :=
  if node.prekeyPolicy = .require ∧ ¬ recipient.prekeyCapable then
    (.error (.runtime s!"peer {claim.destinationPeerId} does not advertise one-time prekey support"),s)
  else if node.prekeyPolicy ≠ .disable ∧ recipient.prekeyCapable then
    match reservePeerPrekey claim.destinationPeerId claim.encryptionReservationId.val
        recipient.minBundleVersion draw.reservation draw.reservedMs s with
    | (.error e,s) => (.error e,s)
    | (.ok none,s) =>
      if node.prekeyPolicy = .require then
        (.error (.runtime s!"no unexpired one-time prekey is available for {claim.destinationPeerId}"),
          s)
      else (.ok none,s)
    | (.ok (some held),s) => (.ok (some held),s)
  else (.ok none,s)

/-- The arguments the packet of a claim is sealed with. -/
def claimArguments (node : DispatchNode) (claim : A2AClaim) (recipient : PeerCard) (ttlSeconds : ℤ)
    (qos : String) (held : Option ReservedPrekey) : SealArguments :=
  ⟨claim.kind.text,claim.body,ttlSeconds,node.maxHops,[],"msgpack","",node.paddingMin,qos,
    held.map ReservedPrekey.publicKey,held.elim "" ReservedPrekey.prekeyId,
    if recipient.prekeyCapable then 3 else 2⟩

/-- The part of `dispatch_a2a_claim` inside its `try`. -/
def attemptDispatch (rt : Runtime) (lib : SealCrypto) (node : DispatchNode) (claim : A2AClaim)
    (ttlSeconds : ℤ) (qos : String) (draw : DispatchDraw) (s : PacketStore) :
    Result (Option A2ADispatch) × PacketStore :=
  match node.book.require claim.destinationPeerId with
  | .error e => (.error e,s)
  | .ok recipient =>
    match node.claimPrekey claim recipient draw s with
    | (.error e,s) => (.error e,s)
    | (.ok held,s) =>
      match sealPacket rt lib node.sender ⟨recipient.nodeId,recipient.boxPublic⟩
          (node.claimArguments claim recipient ttlSeconds qos held) draw.sealing with
      | .error e => (.error e,s)
      | .ok raw => commitA2ADispatchPacket rt claim.owner claim.claimToken raw
          (held.elim "" ReservedPrekey.prekeyId) (held.elim "" ReservedPrekey.reservationId)
          draw.committedMs s

/-- `dispatch_a2a_claim`. -/
def dispatchA2AClaim (rt : Runtime) (lib : SealCrypto) (node : DispatchNode) (claim : A2AClaim)
    (ttlSeconds : ℤ) (qos : String) (retry : RetryMs) (draw : DispatchDraw) (s : PacketStore) :
    Result (Option A2ADispatch) × PacketStore :=
  match node.attemptDispatch rt lib claim ttlSeconds qos draw s with
  | (.ok row,s) => (.ok row,s)
  | (.error e,s) =>
    match retryA2ADispatch claim.owner claim.claimToken (node.describe e) retry
        draw.nextReservation draw.retriedMs s with
    | (.error (.value _),s) => (.error e,s)
    | (.error e',s) => (.error e',s)
    | (.ok _,s) => (.error e,s)

end DispatchNode

section Reservation

variable {s : PacketStore} {peerId : String} {minVersion : ℤ}

theorem prekeyId_hex {id : String} (h : isHex 32 id) : prekeyId id = .ok id := by
  simp [prekeyId,normal_hex h,h]

theorem token_ne_empty (t : Token) : strip t.val ≠ "" := by
  intro h
  have hnormal := normal_hex t.hex
  rw [h] at hnormal
  have hhex := t.hex
  rw [← hnormal] at hhex
  revert hhex
  decide

/-- A reservation raises nothing; it finds no key only when none is held and none is free. -/
theorem reserveNext_ok (reservationId : String) (s : PacketStore) (peerId : String)
    (minVersion now : ℤ) : ∃ result s',
      s.reserveNext peerId reservationId true minVersion now = .ok (result,s') ∧
        (result = none → s.heldPeerPrekey peerId reservationId minVersion now = none ∧
          s.nextPeerPrekey peerId minVersion now = none) := by
  unfold reserveNext
  cases hheld : s.heldPeerPrekey peerId reservationId minVersion now with
  | some r => exact ⟨_,_,rfl,fun h => by cases h⟩
  | none =>
    cases hnext : s.nextPeerPrekey peerId minVersion now with
    | none => exact ⟨_,_,rfl,fun _ => ⟨rfl,rfl⟩⟩
    | some r =>
      obtain ⟨hr,hpeer,hstate⟩ := nextPeerPrekey_available hnext
      have hcount : s.peerPrekeys.count (fun x => x.peerId = peerId ∧ x.prekeyId = r.prekeyId ∧
          x.state = .available) = 1 := by
        have hle := Table.count_key_le_one (t := s.peerPrekeys) (k := (peerId,r.prekeyId))
          (p := fun x => x.peerId = peerId ∧ x.prekeyId = r.prekeyId ∧ x.state = .available)
          fun x hx => by simp [PeerPrekey.key,hx.1,hx.2.1]
        have hpos : 0 < s.peerPrekeys.count (fun x => x.peerId = peerId ∧ x.prekeyId = r.prekeyId ∧
            x.state = .available) :=
          Table.count_pos.mpr ⟨r,(Table.get_eq_some.mp hr).1,hpeer,rfl,hstate⟩
        omega
      simp only [if_true,hcount,ne_eq,not_true_eq_false,if_false]
      exact ⟨_,_,rfl,fun h => by cases h⟩

theorem reservePeerPrekey_ok (reservation drawn : Token) (now : ℤ) (htrim : strip peerId = peerId)
    (hpeer : peerId ≠ "") (hversion : minVersion ∈ [(1 : ℤ),2]) (s : PacketStore) :
    ∃ result s', reservePeerPrekey peerId reservation.val minVersion drawn now s = (.ok result,s') ∧
      s.reserveNext peerId reservation.val true minVersion now = .ok (result,s') ∧
        (result = none → s.heldPeerPrekey peerId reservation.val minVersion now = none ∧
          s.nextPeerPrekey peerId minVersion now = none) := by
  obtain ⟨result,s',hnext,hnone⟩ := reserveNext_ok reservation.val s peerId minVersion now
  refine ⟨result,s',?_,hnext,hnone⟩
  have hargument : reservationArgument reservation.val drawn = .ok (true,reservation.val) := by
    rw [reservationArgument,if_pos (token_ne_empty reservation),prekeyId_hex reservation.hex]
    rfl
  unfold reservePeerPrekey transaction
  dsimp only
  rw [htrim,raiseIf_passes hpeer,raiseIf_passes (not_not.mpr hversion),hargument]
  simp only [bind,Except.bind,hnext]

end Reservation

/-- The key is burned. -/
def PeerPrekeys.burned (t : PeerPrekeys) (k : String × String) : Prop :=
  ∃ r, t.get k = some r ∧ r.state = .burned

theorem burned_update {t : PeerPrekeys} {p : PeerPrekey → Prop} [DecidablePred p]
    {f : PeerPrekey → PeerPrekey} {hkey : ∀ r, (f r).key = r.key}
    {hmarks : ∀ r, noMarks (f r) ⊆ noMarks r} (hp : ∀ r, p r → r.state ≠ .burned)
    (hf : ∀ r, (f r).state ≠ .burned) (k : String × String) :
    PeerPrekeys.burned (t.update p f hkey hmarks) k ↔ PeerPrekeys.burned t k := by
  simp only [PeerPrekeys.burned,Table.get_update,Option.map_eq_some_iff]
  constructor
  · rintro ⟨_,⟨r,hr,rfl⟩,hburned⟩
    split at hburned
    · exact absurd hburned (hf r)
    · exact ⟨r,hr,hburned⟩
  · rintro ⟨r,hr,hburned⟩
    refine ⟨r,⟨r,hr,?_⟩,hburned⟩
    rw [if_neg fun h => hp r h hburned]

/-- The claim is the one a row of the outbox is leased under. -/
structure LiveClaim (rt : Runtime) (s : PacketStore) (claim : A2AClaim) (now : ℤ)
    (d : A2ADispatch) : Prop where
  found : s.a2aDispatches.first (fun r => r.claimedBy claim.owner.val claim.claimToken.val ∧
    now < r.leaseUntilMs) = some d
  destination : d.destinationPeerId = claim.destinationPeerId
  reservation : d.encryptionReservationId = claim.encryptionReservationId.val
  kind : d.kind = claim.kind
  body : rt.unpack d.body = .ok claim.body

/-- A public key that the ephemeral key of the draw can be exchanged with. -/
structure SealsTo (lib : SealCrypto) (draw : DispatchDraw) (publicKey : Bytes) : Prop where
  length : publicKey.length = 32
  exchange : ∃ shared, lib.exchange draw.sealing.ephemeralPrivate publicKey = .ok shared

/-- The destination is trusted, its prekeys are the verified ones of its bundles, and one is
available where the policy requires it. -/
structure TrustedPeer (rt : Runtime) (lib : SealCrypto) (node : DispatchNode) (claim : A2AClaim)
    (draw : DispatchDraw) (s : PacketStore) (card : PeerCard) : Prop where
  known : node.book.require claim.destinationPeerId = .ok card
  address : isNodeId claim.destinationPeerId
  trimmed : strip claim.destinationPeerId = claim.destinationPeerId
  boxPublic : SealsTo lib draw card.boxPublic
  prekeys : ∀ k r, s.peerPrekeys.get k = some r → r.peerId = claim.destinationPeerId →
    isHex 32 r.prekeyId ∧ r.prekeyId = derivedPrekeyId rt r.publicKey ∧ SealsTo lib draw r.publicKey
  required : node.prekeyPolicy = .require → card.prekeyCapable ∧
    ((s.heldPeerPrekey claim.destinationPeerId claim.encryptionReservationId.val
      card.minBundleVersion draw.reservedMs).isSome ∨
    (s.nextPeerPrekey claim.destinationPeerId card.minBundleVersion draw.reservedMs).isSome)

/-- The key that a dispatch took is lent to its reservation. -/
def LentTo (rt : Runtime) (lib : SealCrypto) (draw : DispatchDraw) (claim : A2AClaim)
    (card : PeerCard) (t : PeerPrekeys) (held : ReservedPrekey) : Prop :=
  card.prekeyCapable ∧ held.reservationId = claim.encryptionReservationId.val ∧
    isHex 32 held.prekeyId ∧ held.prekeyId = derivedPrekeyId rt held.publicKey ∧
      SealsTo lib draw held.publicKey ∧
        0 < t.count (PeerPrekey.reservedAs claim.destinationPeerId held.prekeyId
          claim.encryptionReservationId.val)

section Prekeys

variable {rt : Runtime} {lib : SealCrypto} {node : DispatchNode} {claim : A2AClaim}
  {draw : DispatchDraw} {s s' : PacketStore} {card : PeerCard}

theorem isNodeId_ne_empty {id : String} (h : isNodeId id) : id ≠ "" := by
  rintro rfl
  revert h
  decide

/-- A reservation lends a key to the claim and burns none. -/
theorem reserveNext_lent (h : TrustedPeer rt lib node claim draw s card)
    (hcapable : card.prekeyCapable) {held : ReservedPrekey}
    (hnext : s.reserveNext claim.destinationPeerId claim.encryptionReservationId.val true
      card.minBundleVersion draw.reservedMs = .ok (some held,s')) :
    ∃ keys, s' = { s with peerPrekeys := keys } ∧
      (∀ k, PeerPrekeys.burned keys k ↔ PeerPrekeys.burned s.peerPrekeys k) ∧
        LentTo rt lib draw claim card keys held := by
  cases hheld : s.heldPeerPrekey claim.destinationPeerId claim.encryptionReservationId.val
      card.minBundleVersion draw.reservedMs with
  | some r =>
    obtain ⟨hr,hpeer,hstate,hid,-⟩ := Table.first_some hheld
    obtain ⟨hhex,hderived,hseals⟩ := h.prekeys _ r hr hpeer
    simp only [reserveNext,if_true,hheld,Except.ok.injEq,Prod.mk.injEq,Option.some.injEq] at hnext
    obtain ⟨rfl,rfl⟩ := hnext
    exact ⟨s.peerPrekeys,rfl,fun _ => Iff.rfl,hcapable,rfl,hhex,hderived,hseals,
      Table.count_pos.mpr ⟨r,(Table.get_eq_some.mp hr).1,hpeer,rfl,hstate,hid⟩⟩
  | none =>
    simp only [reserveNext,if_true,hheld] at hnext
    split at hnext
    · cases hnext
    · next r hfree =>
      obtain ⟨hr,hpeer,hstate⟩ := nextPeerPrekey_available hfree
      obtain ⟨hhex,hderived,hseals⟩ := h.prekeys _ r hr hpeer
      split at hnext
      · cases hnext
      · simp only [Except.ok.injEq,Prod.mk.injEq,Option.some.injEq] at hnext
        obtain ⟨rfl,rfl⟩ := hnext
        refine ⟨_,rfl,burned_update (fun x hx => by rw [hx.2.2]; decide)
          (fun x => by simp [PeerPrekey.reserve]),hcapable,rfl,hhex,hderived,hseals,
            Table.count_pos.mpr ?_⟩
        refine ⟨r.reserve claim.encryptionReservationId.val draw.reservedMs,?_,hpeer,rfl,rfl,rfl⟩
        refine ((Table.get_eq_some (k := r.key)).mp ?_).1
        rw [get_reserve,hr,Option.map_some,if_pos ⟨hpeer,rfl,hstate⟩]

/-- The claim gets the key it needs. -/
theorem claimPrekey_ready (h : TrustedPeer rt lib node claim draw s card) :
    ∃ held keys, node.claimPrekey claim card draw s = (.ok held,{ s with peerPrekeys := keys }) ∧
      (∀ k, PeerPrekeys.burned keys k ↔ PeerPrekeys.burned s.peerPrekeys k) ∧
        ∀ key, held = some key → LentTo rt lib draw claim card keys key := by
  have hself : s = { s with peerPrekeys := s.peerPrekeys } := rfl
  have hpolicy : ¬ (node.prekeyPolicy = .require ∧ ¬ card.prekeyCapable) :=
    fun hbad => hbad.2 (h.required hbad.1).1
  unfold DispatchNode.claimPrekey
  rw [if_neg hpolicy]
  split
  · next hwanted =>
    have hversion : card.minBundleVersion ∈ [(1 : ℤ),2] := by
      unfold PeerCard.minBundleVersion
      split <;> simp
    obtain ⟨result,s',hreserve,hnext,hnone⟩ := reservePeerPrekey_ok
      claim.encryptionReservationId draw.reservation draw.reservedMs h.trimmed
      (isNodeId_ne_empty h.address) hversion s
    rw [hreserve]
    cases result with
    | some key =>
      obtain ⟨keys,rfl,hburned,hlent⟩ := reserveNext_lent h hwanted.2 hnext
      exact ⟨some key,keys,rfl,hburned,fun _ hkey => by cases hkey; exact hlent⟩
    | none =>
      obtain ⟨hheld,hfree⟩ := hnone rfl
      have hrequired : node.prekeyPolicy ≠ .require := by
        intro hrequire
        have havailable := (h.required hrequire).2
        rw [hheld,hfree] at havailable
        simp at havailable
      have hsame : s' = s := by
        simp only [reserveNext,if_true,hheld,hfree,Except.ok.injEq,Prod.mk.injEq,true_and] at hnext
        exact hnext.symm
      simp only [hrequired,if_false,hsame]
      exact ⟨none,s.peerPrekeys,rfl,fun _ => Iff.rfl,fun _ hkey => by cases hkey⟩
  · exact ⟨none,s.peerPrekeys,rfl,fun _ => Iff.rfl,fun _ hkey => by cases hkey⟩

/-- What a packet names and what the claim holds agree on the prekey. -/
def PrekeyAgrees (s : PacketStore) (claim : A2AClaim) (info : PacketInfo)
    (keyId reservationId : String) : Prop :=
  (info.keyMode = .static ∧ keyId = "" ∧ reservationId = "") ∨
    info.keyMode = .opk ∧ isHex 32 keyId ∧ info.prekeyId = keyId ∧
      reservationId = claim.encryptionReservationId.val ∧ 0 < s.peerPrekeys.count
        (PeerPrekey.reservedAs claim.destinationPeerId keyId claim.encryptionReservationId.val)

/-- The key of a claim is bound to its packet, and none is burned. -/
theorem bindDispatchPrekey_ready {d : A2ADispatch} {info : PacketInfo} {keyId reservationId : String}
    (hreservation : d.encryptionReservationId = claim.encryptionReservationId.val)
    (hdestination : info.destinationId = claim.destinationPeerId)
    (hagrees : PrekeyAgrees s claim info keyId reservationId) (now : ℤ) :
    ∃ key keys, dispatchPrekeyArguments info keyId reservationId = .ok key ∧
      s.bindDispatchPrekey d info key.1 key.2 now = .ok keys ∧
        ∀ k, PeerPrekeys.burned keys k ↔ PeerPrekeys.burned s.peerPrekeys k := by
  rcases hagrees with ⟨hmode,rfl,rfl⟩ | ⟨hmode,hhex,hid,rfl,hcount⟩
  · refine ⟨("",""),s.peerPrekeys,?_,?_,fun _ => Iff.rfl⟩
    · unfold dispatchPrekeyArguments
      have hempty : strip "" = "" := by decide
      simp [hmode,hempty]
    · simp only [bindDispatchPrekey,hmode]
  · have hone : s.peerPrekeys.count (PeerPrekey.reservedAs info.destinationId keyId
        claim.encryptionReservationId.val) = 1 := by
      have hle := Table.count_key_le_one (t := s.peerPrekeys) (k := (claim.destinationPeerId,keyId))
        (p := PeerPrekey.reservedAs claim.destinationPeerId keyId claim.encryptionReservationId.val)
        fun x hx => by simp [PeerPrekey.key,hx.1,hx.2.1]
      rw [hdestination]
      omega
    have hstrip : ∀ id : String, isHex 32 id → prekeyId (strip id) = .ok id := by
      intro id hid
      rw [prekeyId,strip_strip,normal_hex hid,if_pos hid]
    refine ⟨(keyId,claim.encryptionReservationId.val),s.peerPrekeys.update
      (PeerPrekey.reservedAs info.destinationId keyId claim.encryptionReservationId.val)
      (PeerPrekey.bind info.packetId now) (fun _ => rfl) (noMarks_subset _),?_,?_,?_⟩
    · unfold dispatchPrekeyArguments
      dsimp only
      rw [hmode]
      dsimp only
      rw [hstrip keyId hhex,hstrip _ claim.encryptionReservationId.hex]
      simp only [bind,Except.bind,raiseIf_passes (not_not.mpr hid)]
      rfl
    · simp only [bindDispatchPrekey,hmode,hreservation,hone,ne_eq,not_true_eq_false,if_false]
    · exact burned_update (fun x hx => by rw [hx.2.2.1]; decide) (fun x => by simp [PeerPrekey.bind])

/-- A commit inside the lease settles the row and no other, and burns no key. -/
theorem commit_ready {d : A2ADispatch} {info : PacketInfo} {raw : Bytes} {now : ℤ}
    {keyId reservationId : String} (hlive : LiveClaim rt s claim now d)
    (hinspect : inspectPacket rt now raw false = .ok info)
    (hdestination : info.destinationId = claim.destinationPeerId)
    (hfresh : s.packets.get info.packetId = none)
    (hagrees : PrekeyAgrees s claim info keyId reservationId) :
    ∃ s', commitA2ADispatchPacket rt claim.owner claim.claimToken raw keyId reservationId now s =
        (.ok (some (d.dispatch info.packetId now)),s') ∧
      (∀ k, s'.a2aDispatches.get k = if k = d.key then some (d.dispatch info.packetId now)
        else s.a2aDispatches.get k) ∧
      ∀ k, PeerPrekeys.burned s'.peerPrekeys k ↔ PeerPrekeys.burned s.peerPrekeys k := by
  obtain ⟨hget,hclaimed,hlease⟩ := Table.first_some hlive.found
  obtain ⟨key,keys,hargs,hbind,hburned⟩ :=
    bindDispatchPrekey_ready hlive.reservation hdestination hagrees now
  obtain ⟨packets,hpackets⟩ := Table.insert_noMarks s.packets (r := ⟨info.packetId,
    info.destinationId,info.createdMs,info.expiresMs,info.maxHops,0,raw,"a2a-gateway","",now,false,
    info.qos⟩) hfresh
  have hcount : s.a2aDispatches.count (fun r => r.key = d.key ∧
      r.claimedBy claim.owner.val claim.claimToken.val) = 1 := by
    have hle := Table.count_key_le_one (t := s.a2aDispatches) (k := d.key)
      (p := fun r => r.key = d.key ∧ r.claimedBy claim.owner.val claim.claimToken.val)
      fun x hx => hx.1
    have hpos : 0 < s.a2aDispatches.count (fun r => r.key = d.key ∧
        r.claimedBy claim.owner.val claim.claimToken.val) :=
      Table.count_pos.mpr ⟨d,(Table.get_eq_some.mp hget).1,rfl,hclaimed⟩
    omega
  have hsame : ¬ d.destinationPeerId ≠ info.destinationId :=
    not_not.mpr (hlive.destination.trans hdestination.symm)
  have hfound : fetched (s.a2aDispatches.first fun r =>
      r.claimedBy claim.owner.val claim.claimToken.val ∧ now < r.leaseUntilMs)
        (.value "A2A dispatch claim is stale, expired, or owned by another worker") = .ok d := by
    rw [hlive.found]
    rfl
  have hrace : ¬ s.a2aDispatches.count (fun r => r.key = d.key ∧
      r.claimedBy claim.owner.val claim.claimToken.val) ≠ 1 := not_not.mpr hcount
  have hdispatches : ∀ k, (s.a2aDispatches.update (fun r => r.key = d.key ∧
      r.claimedBy claim.owner.val claim.claimToken.val) (A2ADispatch.dispatch info.packetId now)
        (fun _ => rfl) (fun _ => by simp [A2ADispatch.marks,A2ADispatch.dispatch])).get k =
      if k = d.key then some (d.dispatch info.packetId now) else s.a2aDispatches.get k := by
    intro k
    refine (Table.get_update s.a2aDispatches _ (A2ADispatch.dispatch info.packetId now)
      (fun _ => rfl) _ k).trans ?_
    by_cases hk : k = d.key
    · rw [if_pos hk,hk,hget,Option.map_some,if_pos ⟨rfl,hclaimed⟩]
    · rw [if_neg hk]
      cases hg : s.a2aDispatches.get k with
      | none => rfl
      | some r => simp [Table.get_key hg,hk]
  unfold commitA2ADispatchPacket transaction
  simp only [hinspect,hargs,hfound,hbind,integrity_ok.mpr hpackets,raiseIf_passes hsame,
    raiseIf_passes hrace,bind,Except.bind]
  refine ⟨_,Prod.ext (congrArg Except.ok ?_) rfl,hdispatches,hburned⟩
  exact (hdispatches d.key).trans (if_pos rfl)

end Prekeys

/-- The clock and the draws of a dispatch are in order: the packet is committed in its life. -/
structure TimelyDraw (draw : DispatchDraw) (ttlSeconds : ℤ) : Prop where
  created : 0 < draw.sealing.createdMs ∧ draw.sealing.createdMs < 2 ^ 62
  inspected : draw.sealing.createdMs ≤ draw.sealing.inspectedMs ∧
    draw.sealing.inspectedMs ≤ draw.committedMs
  committed : draw.committedMs < draw.sealing.createdMs + clampTtl ttlSeconds * 1000
  ephemeral : draw.sealing.ephemeralPublic.length = 32
  nonce : draw.sealing.nonce.length = 12

/-- An identity and a configuration as they are loaded. -/
structure NodeReady (node : DispatchNode) : Prop where
  address : isNodeId node.sender.nodeId
  signPublic : node.sender.signPublic.length = 32
  boxPublic : node.sender.boxPublic.length = 32
  padding : node.paddingMin ≤ 65536

/-- A live claim on a row, with a trusted destination and a key where the policy requires one. -/
structure DispatchReady (rt : Runtime) (lib : SealCrypto) (node : DispatchNode) (claim : A2AClaim)
    (ttlSeconds : ℤ) (qos : String) (draw : DispatchDraw) (s : PacketStore) (d : A2ADispatch)
    (card : PeerCard) : Prop where
  loaded : NodeReady node
  live : LiveClaim rt s claim draw.committedMs d
  trusted : TrustedPeer rt lib node claim draw s card
  timely : TimelyDraw draw ttlSeconds
  qos : lower (strip qos) ∈ ["control","interactive","normal","bulk"]
  fresh : s.packets.get draw.sealing.packetId = none

/-- The envelope of a dispatch, as far as its size depends on it. -/
def A2AClaim.envelope (claim : A2AClaim) : SealArguments :=
  ⟨claim.kind.text,.nil,0,0,[],"msgpack","",0,"",none,"",0⟩

/-- The body of the claim packs inside the inner map, and the packed map fits the largest bucket. -/
def Dispatchable (rt : Runtime) (node : DispatchNode) (claim : A2AClaim) (createdMs : ℤ) : Prop :=
  rt.Packs (.list [claim.body]) ∧
    4 + envelopeSize rt node.sender claim.kind.text createdMs claim.envelope +
      rt.packedSize claim.body ≤ maxPlaintextBytes + rt.packedSize .nil

section Dispatch

variable {rt : Runtime} {lib : SealCrypto} {node : DispatchNode} {claim : A2AClaim}
  {ttlSeconds : ℤ} {qos : String} {retry : RetryMs} {draw : DispatchDraw} {s s' : PacketStore}
  {d : A2ADispatch} {card : PeerCard}

theorem kind_text (kind : DispatchKind) : lower (strip kind.text) = kind.text := by
  cases kind <;> decide

theorem kind_isKind (kind : DispatchKind) : isKind kind.text := by
  cases kind <;> decide

theorem claimArguments_kind (held : Option ReservedPrekey) :
    lower (strip (node.claimArguments claim card ttlSeconds qos held).kind) = claim.kind.text :=
  kind_text claim.kind

theorem sealable_iff (held : Option ReservedPrekey) :
    Sealable rt node.sender (lower (strip (node.claimArguments claim card ttlSeconds qos held).kind))
        draw.sealing.createdMs (node.claimArguments claim card ttlSeconds qos held) ↔
      Dispatchable rt node claim draw.sealing.createdMs := by
  rw [claimArguments_kind]
  exact Iff.rfl

theorem emptyInner_fits (claim : A2AClaim) (h : NodeReady node) {createdMs : ℤ}
    (hcreated : 0 < createdMs ∧ createdMs < 2 ^ 62) :
    entriesFit (emptyInner node.sender claim.kind.text createdMs claim.envelope) := by
  have haddress := h.address
  simp only [isNodeId,Bool.and_eq_true,decide_eq_true_eq] at haddress
  have hid := str_fits (s := node.sender.nodeId) (by omega)
  have hkind : (Value.str claim.kind.text).fits := by cases claim.kind <;> decide
  have hnames : ∀ name ∈ ["v","sid","spk","bpk","kind","ts","body","causal","codec","reply"],
      (Value.str name).fits = true := by decide
  have hms : (Value.int createdMs).fits := by
    simp only [Value.fits,Bool.and_eq_true,decide_eq_true_eq]
    omega
  have hsign : (Value.bin node.sender.signPublic).fits := by simp [Value.fits,h.signPublic]
  have hbox : (Value.bin node.sender.boxPublic).fits := by simp [Value.fits,h.boxPublic]
  have hcausal : (Value.list []).fits = true := by decide
  have hversion : (Value.int innerVersion).fits = true := by decide
  have hnil : Value.nil.fits = true := rfl
  have hcodec : (Value.str "msgpack").fits = true := by decide
  have hreply : (Value.str "").fits = true := by decide
  simp only [List.forall_mem_cons] at hnames
  simp only [emptyInner,innerEntries,A2AClaim.envelope,entriesFit,List.map_nil]
  simp [hnames,hid,hkind,hms,hsign,hbox,hcausal,hversion,hcodec,hreply,hnil]

/-- The envelope of a loaded node is small. -/
theorem envelopeSize_le (laws : SealLaws rt lib) (claim : A2AClaim) (h : NodeReady node)
    {createdMs : ℤ}
    (hcreated : 0 < createdMs ∧ createdMs < 2 ^ 62) :
    envelopeSize rt node.sender claim.kind.text createdMs claim.envelope ≤ 10000 := by
  have hfits := emptyInner_fits claim h hcreated
  have hpacks := (signedInner_packs (a := claim.envelope) laws hfits
    (List.replicate 64 0) (by simp)).mpr (laws.pack_flat _ rfl rfl)
  obtain ⟨raw,hraw⟩ := hpacks
  change rt.packb (signedInner (emptyInner node.sender claim.kind.text createdMs claim.envelope)
    (List.replicate 64 0)) = .ok raw at hraw
  have haddress := h.address
  simp only [isNodeId,Bool.and_eq_true,decide_eq_true_eq] at haddress
  have hid := wire_str_le node.sender.nodeId
  have hkind : (Value.str claim.kind.text).wire.length ≤ 80 := by cases claim.kind <;> decide
  have hbin : ∀ b : Bytes, b.length = 32 → (Value.bin b).wire.length ≤ 40 := by
    intro b hb
    simp only [Value.wire,List.length_cons,List.length_append,length_wordBytes]
    omega
  have hms : (Value.int createdMs).wire.length ≤ 40 := by simp [Value.wire]
  have hnames : ∀ name ∈ ["sid","spk","bpk","kind","ts"], (Value.str name).wire.length ≤ 9 := by
    decide
  simp only [List.forall_mem_cons] at hnames
  have hentries := wireEntries_le (emptyInner node.sender claim.kind.text createdMs
    claim.envelope ++ [(.str "sig",.bin (List.replicate 64 0))]) 600 (by
      simp only [emptyInner,innerEntries,A2AClaim.envelope,List.cons_append,List.nil_append,
        List.map_nil,List.forall_mem_cons]
      have hsign := hbin _ h.signPublic
      have hbox := hbin _ h.boxPublic
      have hcodec : (Value.str "codec").wire.length + (Value.str "msgpack").wire.length ≤ 600 := by
        decide
      exact ⟨by decide,by omega,by omega,by omega,by omega,by omega,by decide,by decide,hcodec,
        by decide,by decide,by simp⟩)
  rw [envelopeSize,Runtime.packedSize_ok hraw]
  refine (laws.size_wire _ _ hraw).trans ?_
  have hcount : (emptyInner node.sender claim.kind.text createdMs claim.envelope ++
      [(Value.str "sig",Value.bin (List.replicate 64 0))]).length = 11 := rfl
  rw [hcount] at hentries
  simp only [signedInner,Value.wire,List.length_cons,List.length_append,length_wordBytes]
  rw [List.length_append] at hcount
  omega

/-- What is sealed for a claim can fail for its content only. -/
theorem sealReady (h : DispatchReady rt lib node claim ttlSeconds qos draw s d card)
    {t : PeerPrekeys} {held : Option ReservedPrekey}
    (hheld : ∀ key, held = some key → LentTo rt lib draw claim card t key) :
    ∃ mode publicKey keyId, SealReady rt lib node.sender ⟨card.nodeId,card.boxPublic⟩
        (node.claimArguments claim card ttlSeconds qos held) mode publicKey keyId draw.sealing ∧
      ((held = none ∧ mode = .static) ∨
        ∃ key, held = some key ∧ mode = .opk ∧ keyId = key.prekeyId) := by
  obtain ⟨-,-,-,-,-,hid,-,-⟩ := PeerBook.require_ok h.trusted.known
  have haddress := h.trusted.address
  rw [← hid] at haddress
  simp only [isNodeId,Bool.and_eq_true,decide_eq_true_eq] at haddress
  have hkind : ∀ held, isKind
      (lower (strip (node.claimArguments claim card ttlSeconds qos held).kind)) := by
    intro held
    rw [claimArguments_kind]
    exact kind_isKind claim.kind
  have hpadding : (max 256 node.paddingMin).toNat ≤ maxPlaintextBytes := by
    have hleast := h.loaded.padding
    unfold maxPlaintextBytes
    omega
  have hversion : ∀ held, (node.claimArguments claim card ttlSeconds qos held).version = 2 ∨
      (node.claimArguments claim card ttlSeconds qos held).version = 3 := by
    intro held
    simp only [DispatchNode.claimArguments]
    split <;> simp
  have hinspected : draw.sealing.createdMs ≤ draw.sealing.inspectedMs ∧
      draw.sealing.inspectedMs < draw.sealing.createdMs + clampTtl ttlSeconds * 1000 := by
    have hstart := h.timely.inspected
    have hend := h.timely.committed
    omega
  have hinner : ∀ held, entriesFit (emptyInner node.sender
      (lower (strip (node.claimArguments claim card ttlSeconds qos held).kind))
      draw.sealing.createdMs (node.claimArguments claim card ttlSeconds qos held)) := by
    intro held
    rw [claimArguments_kind]
    exact emptyInner_fits claim h.loaded h.timely.created
  cases held with
  | none =>
    refine ⟨.static,card.boxPublic,"",⟨hkind _,rfl,?_,hinner none,hpadding,
      h.trusted.boxPublic.length,h.trusted.boxPublic.exchange,hinspected⟩,Or.inl ⟨rfl,rfl⟩⟩
    exact ⟨hversion none,h.qos,Or.inl ⟨rfl,rfl⟩,⟨haddress.1.1,haddress.1.2,haddress.2⟩,
      h.timely.created,h.timely.ephemeral,h.timely.nonce⟩
  | some key =>
    obtain ⟨hcapable,-,hhex,hderived,hseals,-⟩ := hheld key rfl
    have hthree : (node.claimArguments claim card ttlSeconds qos (some key)).version = 3 := by
      simp only [DispatchNode.claimArguments,hcapable,if_true]
    have htarget : sealTarget rt ⟨card.nodeId,card.boxPublic⟩
        (node.claimArguments claim card ttlSeconds qos (some key)) =
          .ok (.opk,key.publicKey,key.prekeyId) := by
      have hid : lower (strip key.prekeyId) = key.prekeyId := normal_hex hhex
      have hopk := @sealTarget_opk rt ⟨card.nodeId,card.boxPublic⟩
        (node.claimArguments claim card ttlSeconds qos (some key)) _ rfl hthree.ge hseals.length
        (hid.trans hderived)
      rw [hopk]
      exact congrArg (fun id => Except.ok (KeyMode.opk,key.publicKey,id)) hid
    refine ⟨.opk,key.publicKey,key.prekeyId,⟨hkind _,htarget,?_,hinner _,
      hpadding,hseals.length,hseals.exchange,hinspected⟩,Or.inr ⟨key,rfl,rfl,rfl⟩⟩
    exact ⟨hversion _,h.qos,Or.inr ⟨rfl,hhex,hthree⟩,⟨haddress.1.1,haddress.1.2,haddress.2⟩,
      h.timely.created,h.timely.ephemeral,h.timely.nonce⟩

/-- A dispatch of fitting content settles its row and no other, and burns no key. -/
theorem attempt_commits (laws : SealLaws rt lib)
    (h : DispatchReady rt lib node claim ttlSeconds qos draw s d card)
    (hfits : Dispatchable rt node claim draw.sealing.createdMs) :
    ∃ s', node.attemptDispatch rt lib claim ttlSeconds qos draw s =
        (.ok (some (d.dispatch draw.sealing.packetId draw.committedMs)),s') ∧
      (∀ k, s'.a2aDispatches.get k = if k = d.key
        then some (d.dispatch draw.sealing.packetId draw.committedMs) else s.a2aDispatches.get k) ∧
      ∀ k, PeerPrekeys.burned s'.peerPrekeys k ↔ PeerPrekeys.burned s.peerPrekeys k := by
  obtain ⟨-,-,-,-,-,hid,-,-⟩ := PeerBook.require_ok h.trusted.known
  obtain ⟨held,keys,hprekey,hburned,hheld⟩ := claimPrekey_ready h.trusted
  obtain ⟨mode,publicKey,keyId,hready,hmode⟩ := sealReady h hheld
  obtain ⟨raw,hraw,hinspect⟩ := sealPacket_ok laws hready ((sealable_iff held).mpr hfits)
  have hinspect := hinspect draw.committedMs
    (h.timely.inspected.1.trans h.timely.inspected.2) h.timely.committed
  have hlive : LiveClaim rt { s with peerPrekeys := keys } claim draw.committedMs d :=
    ⟨h.live.found,h.live.destination,h.live.reservation,h.live.kind,h.live.body⟩
  have hagrees : PrekeyAgrees { s with peerPrekeys := keys } claim
      ⟨draw.sealing.packetId,card.nodeId,draw.sealing.createdMs,
        draw.sealing.createdMs + clampTtl ttlSeconds * 1000,clampHops node.maxHops,
        lower (strip qos),raw,mode,keyId,
        (node.claimArguments claim card ttlSeconds qos held).version⟩
      (held.elim "" ReservedPrekey.prekeyId) (held.elim "" ReservedPrekey.reservationId) := by
    rcases hmode with ⟨rfl,rfl⟩ | ⟨key,rfl,rfl,rfl⟩
    · exact Or.inl ⟨rfl,rfl,rfl⟩
    · obtain ⟨-,hreservation,hhex,-,-,hcount⟩ := hheld key rfl
      exact Or.inr ⟨rfl,hhex,rfl,hreservation,hcount⟩
  obtain ⟨s',hcommit,hdispatches,hkept⟩ := commit_ready hlive hinspect hid h.fresh hagrees
  refine ⟨s',?_,hdispatches,fun k => (hkept k).trans (hburned k)⟩
  unfold DispatchNode.attemptDispatch
  rw [h.trusted.known]
  dsimp only
  rw [hprekey]
  dsimp only
  rw [hraw]
  exact hcommit

/-- Content that does not fit makes the dispatch raise. -/
theorem attempt_raises (laws : SealLaws rt lib)
    (h : DispatchReady rt lib node claim ttlSeconds qos draw s d card)
    (hfits : ¬ Dispatchable rt node claim draw.sealing.createdMs) :
    ∃ e s', node.attemptDispatch rt lib claim ttlSeconds qos draw s = (.error e,s') := by
  obtain ⟨held,keys,hprekey,-,hheld⟩ := claimPrekey_ready h.trusted
  obtain ⟨mode,publicKey,keyId,hready,-⟩ := sealReady h hheld
  unfold DispatchNode.attemptDispatch
  rw [h.trusted.known]
  dsimp only
  rw [hprekey]
  dsimp only
  cases hraw : sealPacket rt lib node.sender ⟨card.nodeId,card.boxPublic⟩
      (node.claimArguments claim card ttlSeconds qos held) draw.sealing with
  | error e => exact ⟨e,_,rfl⟩
  | ok raw => exact absurd ((sealable_iff held).mp (sealPacket_sealable laws hready hraw)) hfits

theorem dispatch_of_ok {row : Option A2ADispatch}
    (h : node.attemptDispatch rt lib claim ttlSeconds qos draw s = (.ok row,s')) :
    node.dispatchA2AClaim rt lib claim ttlSeconds qos retry draw s = (.ok row,s') := by
  unfold DispatchNode.dispatchA2AClaim
  rw [h]

theorem dispatch_of_error (retry : RetryMs) {e : PyError}
    (h : node.attemptDispatch rt lib claim ttlSeconds qos draw s = (.error e,s')) :
    ∃ e' s'', node.dispatchA2AClaim rt lib claim ttlSeconds qos retry draw s = (.error e',s'') := by
  unfold DispatchNode.dispatchA2AClaim
  rw [h]
  dsimp only
  split
  · exact ⟨_,_,rfl⟩
  · exact ⟨_,_,rfl⟩
  · exact ⟨_,_,rfl⟩

end Dispatch

/-- No key was burned and no dispatch was sent back. -/
def Calm (s s' : PacketStore) : Prop :=
  (∀ k, PeerPrekeys.burned s'.peerPrekeys k → PeerPrekeys.burned s.peerPrekeys k) ∧
    ∀ k r', s'.a2aDispatches.get k = some r' → r'.state = .retry →
      ∃ r, s.a2aDispatches.get k = some r ∧ r.state = .retry

/-- A dispatch of fitting content, or anything else that burns no key and sends no dispatch back. -/
def FittingStep (rt : Runtime) (lib : SealCrypto) (s s' : PacketStore) : Prop :=
  (∃ node claim ttlSeconds qos retry draw d card,
    DispatchReady rt lib node claim ttlSeconds qos draw s d card ∧
      Dispatchable rt node claim draw.sealing.createdMs ∧
        s' = (node.dispatchA2AClaim rt lib claim ttlSeconds qos retry draw s).2) ∨ Calm s s'

theorem calm_refl (s : PacketStore) : Calm s s := ⟨fun _ h => h,fun _ r h hr => ⟨r,h,hr⟩⟩

theorem Calm.trans {s s' s'' : PacketStore} (h : Calm s s') (h' : Calm s' s'') : Calm s s'' := by
  refine ⟨fun k hk => h.1 k (h'.1 k hk),fun k r'' hr'' hstate => ?_⟩
  obtain ⟨r',hr',hstate'⟩ := h'.2 k r'' hr'' hstate
  exact h.2 k r' hr' hstate'

theorem fittingStep_calm {rt : Runtime} {lib : SealCrypto} (laws : SealLaws rt lib)
    {s s' : PacketStore} (h : FittingStep rt lib s s') : Calm s s' := by
  rcases h with ⟨node,claim,ttlSeconds,qos,retry,draw,d,card,hready,hfits,rfl⟩ | h
  · obtain ⟨t,hattempt,hdispatches,hburned⟩ := attempt_commits laws hready hfits
    rw [dispatch_of_ok hattempt]
    refine ⟨fun k => (hburned k).mp,fun k r' hr' hstate => ?_⟩
    rw [hdispatches] at hr'
    split at hr'
    · cases hr'
      cases hstate
    · exact ⟨r',hr',hstate⟩
  · exact h

section Cancels

variable {rt : Runtime} {lib : SealCrypto} {node : DispatchNode} {claim : A2AClaim}

/-- The cancel dispatches carry packed cancellations with the reason of the gateway. -/
def CancelBodies (rt : Runtime) (s : PacketStore) : Prop :=
  ∀ k d, s.a2aDispatches.get k = some d → d.kind = .cancel → ∃ target body,
    AgentProtocol.taskCancel target cancelReason = .ok body ∧ rt.pack body.toValue = .ok d.body

theorem cancelBodies_step {s s' : PacketStore} (hs : CancelBodies rt s) (h : GatewayStep rt s s') :
    CancelBodies rt s' := by
  intro k d' hd' hkind
  rcases gatewayChange_cancel (gatewayStep_change h) hd' hkind with
    ⟨d,hd,hintent⟩ | ⟨task,draws,now,-,-,-,target,-,drawn,hnew⟩
  · simp only [A2ADispatch.intent,Prod.mk.injEq] at hintent
    obtain ⟨-,-,-,-,-,hsame,hbody⟩ := hintent
    obtain ⟨target,body,hcancel,hpack⟩ := hs k d hd (hsame ▸ hkind)
    exact ⟨target,body,hcancel,hbody ▸ hpack⟩
  · obtain ⟨-,body,-,hcancel,hpack,-⟩ := cancelDispatch_spec hnew
    exact ⟨target.anetTaskId,body,hcancel,hpack⟩

theorem run_cancelBodies {s : PacketStore} (h : Reaches (GatewayStep rt) .empty s) :
    CancelBodies rt s :=
  Reaches.invariant (I := CancelBodies rt) (fun _ _ hs hstep => cancelBodies_step hs hstep)
    (fun _ _ hd => by cases hd) h

/-- A cancellation of the gateway can always be dispatched. -/
theorem cancel_dispatchable (laws : SealLaws rt lib) (hnode : NodeReady node) {createdMs : ℤ}
    (hcreated : 0 < createdMs ∧ createdMs < 2 ^ 62) {target : String}
    {body : AgentProtocol.TaskCancel}
    (hcancel : AgentProtocol.taskCancel target cancelReason = .ok body)
    (hbody : claim.body = body.toValue) : Dispatchable rt node claim createdMs := by
  simp only [AgentProtocol.taskCancel,bind_ok,raiseIf_ok] at hcancel
  obtain ⟨_,-,_,-,id,hid,hval⟩ := hcancel
  cases hval
  have hhex := AgentProtocol.taskId_hex hid
  simp only [isHex,Bool.and_eq_true,decide_eq_true_eq] at hhex
  have hidFits := str_fits (s := id) (by omega)
  have hidWire := wire_str_le id
  have hnames : ∀ name ∈ ["protocol","version","task_id","reason"],
      (Value.str name).fits = true ∧ (Value.str name).wire.length ≤ 20 := by decide
  have hprotocol : (Value.str AgentProtocol.agentProtocol).fits = true ∧
      (Value.str AgentProtocol.agentProtocol).wire.length ≤ 30 := by decide
  have hversion : (Value.int AgentProtocol.agentProtocolVersion).fits = true ∧
      (Value.int AgentProtocol.agentProtocolVersion).wire.length ≤ 30 := by decide
  have hreason : (Value.str (strip cancelReason)).fits = true ∧
      (Value.str (strip cancelReason)).wire.length ≤ 60 := by decide
  simp only [List.forall_mem_cons] at hnames
  have hfits : (AgentProtocol.TaskCancel.toValue ⟨id,strip cancelReason⟩).fits := by
    change (decide (4 < 2 ^ 32) && entriesFit [(.str "protocol",.str AgentProtocol.agentProtocol),
      (.str "version",.int AgentProtocol.agentProtocolVersion),(.str "task_id",.str id),
      (.str "reason",.str (strip cancelReason))]) = true
    simp only [entriesFit,hnames,hprotocol,hversion,hidFits,hreason]
    decide
  have hpacks : rt.Packs (.list [claim.body]) := by
    rw [hbody]
    exact laws.pack_flat _ hfits rfl
  have henvelope := envelopeSize_le laws claim hnode hcreated
  obtain ⟨raw,hraw⟩ := laws.pack_item _ hpacks
  have hsize := laws.size_wire _ _ hraw
  have hentries := wireEntries_le [(.str "protocol",.str AgentProtocol.agentProtocol),
    (.str "version",.int AgentProtocol.agentProtocolVersion),(.str "task_id",.str id),
    (.str "reason",.str (strip cancelReason))] 200 (by
      simp only [List.forall_mem_cons]
      exact ⟨by omega,by omega,by omega,by omega,by simp⟩)
  have hwire : claim.body.wire.length ≤ 1000 := by
    rw [hbody]
    change (0xdf :: wordBytes 4 4 ++ wireEntries _).length ≤ 1000
    simp only [List.length_cons,List.length_append,length_wordBytes]
    simp only [List.length_cons,List.length_nil] at hentries
    exact (Nat.add_le_add_left hentries _).trans (by decide)
  refine ⟨hpacks,?_⟩
  rw [Runtime.packedSize_ok hraw]
  unfold maxPlaintextBytes
  omega

end Cancels

/-- A dispatch on a live claim settles its row with the drawn packet exactly when the body of the
claim packs inside the inner map and the packed map, with its length, fits the largest bucket.
Runs of such dispatches burn no key and send none back, and every cancellation that the gateway
stores is such a dispatch. -/
theorem dispatch_commits_iff (rt : Runtime) (lib : SealCrypto) (laws : SealLaws rt lib) :
    (∀ node claim ttlSeconds qos retry draw s d card,
      DispatchReady rt lib node claim ttlSeconds qos draw s d card →
      ((∃ row, (node.dispatchA2AClaim rt lib claim ttlSeconds qos retry draw s).1 = .ok (some row) ∧
        row.key = d.key ∧ row.state = .dispatched ∧ row.packetId = draw.sealing.packetId ∧
          (node.dispatchA2AClaim rt lib claim ttlSeconds qos retry draw s).2.a2aDispatches.get d.key =
            some row) ↔ Dispatchable rt node claim draw.sealing.createdMs)) ∧
    (∀ s s', Reaches (FittingStep rt lib) s s' → Calm s s') ∧
    ∀ node s k d claim createdMs, NodeReady node → Reaches (GatewayStep rt) .empty s →
      s.a2aDispatches.get k = some d → d.kind = .cancel → rt.unpack d.body = .ok claim.body →
        0 < createdMs ∧ createdMs < 2 ^ 62 → Dispatchable rt node claim createdMs := by
  refine ⟨?_,?_,?_⟩
  · intro node claim ttlSeconds qos retry draw s d card hready
    constructor
    · rintro ⟨row,hrow,-⟩
      by_contra hfits
      obtain ⟨e,t,hattempt⟩ := attempt_raises laws hready hfits
      obtain ⟨e',t',hdispatch⟩ := dispatch_of_error retry hattempt
      rw [hdispatch] at hrow
      cases hrow
    · intro hfits
      obtain ⟨t,hattempt,hdispatches,-⟩ := attempt_commits laws hready hfits
      rw [dispatch_of_ok hattempt]
      exact ⟨_,rfl,rfl,rfl,rfl,(hdispatches d.key).trans (if_pos rfl)⟩
  · intro s s' hrun
    exact Reaches.preorder (I := fun _ => True) (R := Calm) calm_refl (fun _ _ _ => Calm.trans)
      (fun _ _ _ _ => trivial) (fun _ _ _ hstep => fittingStep_calm laws hstep) trivial hrun
  · intro node s k d claim createdMs hnode hrun hd hkind hbody hcreated
    obtain ⟨target,body,hcancel,hpack⟩ := run_cancelBodies hrun k d hd hkind
    refine cancel_dispatchable laws hnode hcreated hcancel ?_
    unfold Runtime.unpack at hbody
    split at hbody
    · cases hbody
    · exact Except.ok.inj (hbody.symm.trans (laws.unpack_pack _ _ hpack))

section Sample

open A2AProtocol AgentProtocol

/-- A runtime that writes floats as text, besides the codec and the digests of the samples. -/
def dispatchRuntime : Runtime :=
  { messageRuntime with
    str := fun v => match v with | .str s => s | _ => ""
    repr := fun v => match v with | .str s => s!"'{s}'" | .float _ => "0.0" | _ => "" }

theorem dispatchRuntime_short (v : Value) (h : v.fits) :
    (Value.str (dispatchRuntime.str v)).fits := by
  cases v with
  | str s => exact h
  | _ => exact (by decide : (Value.str "").fits = true)

theorem dispatchRuntime_packs {v : Value} (h : v.fits) : dispatchRuntime.packb v = .ok v.wire :=
  if_pos h

def largeMessage : Value :=
  .map [(.str "messageId",.str "message"),(.str "role",.str "ROLE_USER"),
    (.str "contextId",.str "context"),(.str "parts",.list [.map [(.str "text",.str "work")]])]

def largeRequest (big : Value) : Value := .map [(.str "message",largeMessage),(.str "metadata",big)]

/-- The message after its normalization. -/
def sampleInbound : InboundMessage :=
  ⟨"message",[.map [(.str "text",.str "work")]],[(.str "contextId",.str "context")]⟩

def largeContext : List (Value × Value) :=
  [(.str "protocolVersion",.str "1.0"),(.str "messageId",.str "message"),
    (.str "contextId",.str "context"),(.str "taskId",.str gatewayTaskId.val),
    (.str "skillId",.str "skill"),(.str "tenant",.str "")]

def largeTaskRequest (big : List (Value × Value)) : TaskRequest :=
  ⟨gatewayTaskId.val,"work",.map [(.str "a2aMessage",.map sampleInbound.entries),
    (.str "configuration",.map []),(.str "metadata",.map big)],[],[(.str "a2a",.map largeContext)]⟩

/-- A message whose JSON is accepted becomes a task with its metadata. -/
theorem largeRequest_task (big : List (Value × Value))
    (h : jsonClone dispatchRuntime "A2A SendMessageRequest" (largeRequest (.map big)) =
      .ok (largeRequest (.map big)))
    (h' : jsonMap dispatchRuntime "A2A SendMessageRequest.metadata" (.map big) = .ok (.map big)) :
    inboundMessageToTask dispatchRuntime "" (largeRequest (.map big)) gatewayPeer ⟨"skill",[]⟩ ""
      none = .ok ⟨gatewayTaskId.val,gatewayTaskId.val,"context","message","skill",
        .map sampleInbound.entries,(largeTaskRequest big).toValue⟩ := by
  unfold inboundMessageToTask
  rw [h]
  refine bind_ok.mpr ⟨_,rfl,?_⟩
  refine bind_ok.mpr ⟨(),rfl,?_⟩
  refine bind_ok.mpr ⟨_,rfl,?_⟩
  refine bind_ok.mpr ⟨_,rfl,?_⟩
  refine bind_ok.mpr ⟨(),rfl,?_⟩
  refine bind_ok.mpr ⟨(),rfl,?_⟩
  refine bind_ok.mpr ⟨(),rfl,?_⟩
  refine bind_ok.mpr ⟨sampleInbound,rfl,?_⟩
  refine bind_ok.mpr ⟨gatewayTaskId.val,rfl,?_⟩
  refine bind_ok.mpr ⟨"skill",rfl,?_⟩
  refine bind_ok.mpr ⟨(gatewayTaskId.val,"context",sampleInbound.entries),rfl,?_⟩
  refine bind_ok.mpr ⟨.map [],rfl,?_⟩
  refine bind_ok.mpr ⟨.map big,h',?_⟩
  refine bind_ok.mpr ⟨largeTaskRequest big,rfl,?_⟩
  rfl

def largeRegistration (big : List (Value × Value)) : A2ARegistration :=
  ⟨samplePrincipal,gatewayNode,gatewayTaskId,sampleContext,sampleMessage,gatewayNode,sampleSkill,
    "","1.0",(largeTaskRequest big).toValue⟩

def largeIntent (hash : String) (raw : Bytes) : A2AIntent :=
  ⟨"principal",gatewayPeer,gatewayTaskId.val,"context","message",gatewayPeer,"skill","","1.0",
    gatewayTaskId.val,hash,raw⟩

theorem largeTaskRequest_valid (big : List (Value × Value)) :
    validateTaskRequest dispatchRuntime "" (largeTaskRequest big).toValue =
      .ok (largeTaskRequest big) := by
  have hobjective : strip "work" = "work" := by decide
  have hnonempty : ¬ strip "work" = "" := by decide
  have hshort : ¬ (strip "work").toList.length > maxObjectiveChars := by decide
  have hhex : isHex 32 gatewayTaskId.val := by decide
  have hid : taskId (if gatewayTaskId.val = "" then "" else gatewayTaskId.val) =
      .ok gatewayTaskId.val := by
    rw [if_neg (by decide)]
    simp [taskId,normal_hex hhex,hhex]
  unfold validateTaskRequest
  refine bind_ok.mpr ⟨_,rfl,?_⟩
  refine bind_ok.mpr ⟨(),raiseIf_passes hnonempty,?_⟩
  refine bind_ok.mpr ⟨(),raiseIf_passes hshort,?_⟩
  refine bind_ok.mpr ⟨gatewayTaskId.val,hid,?_⟩
  refine bind_ok.mpr ⟨[],rfl,?_⟩
  refine bind_ok.mpr ⟨[],rfl,?_⟩
  refine bind_ok.mpr ⟨(largeTaskRequest big).context,rfl,?_⟩
  change Except.ok (⟨gatewayTaskId.val,strip "work",(largeTaskRequest big).input,[],
    (largeTaskRequest big).context⟩ : TaskRequest) = _
  rw [hobjective]
  rfl

theorem largeRegistration_intent {big : List (Value × Value)}
    (h : (largeTaskRequest big).toValue.fits) :
    ∃ hash, registrationIntent dispatchRuntime "" (largeRegistration big) =
      .ok (largeIntent hash (largeTaskRequest big).toValue.wire) := by
  have hone : strip "1.0" = "1.0" := by decide
  have hempty : strip "" = "" := by decide
  have hplain : ¬ ¬ isPlainText (strip "") := by decide
  have hversion : ¬ strip "1.0" ≠ a2aProtocolVersion := by decide
  obtain ⟨hashed,hhashed⟩ : ∃ hashed,
      dispatchRuntime.canonicalPack (largeTaskRequest big).toValue = .ok hashed := by
    have hcanonical := canonical_fits dispatchRuntime_short _ h
    rw [Runtime.canonicalPack]
    exact ⟨_,dispatchRuntime_packs hcanonical⟩
  have hraw : dispatchRuntime.pack (largeTaskRequest big).toValue =
      .ok (largeTaskRequest big).toValue.wire := by
    rw [Runtime.pack]
    exact dispatchRuntime_packs h
  have hcontext : ¬ ((expectedContext (largeRegistration []) (strip "") (strip "1.0")).any fun e =>
      ¬ (Value.fieldOr largeContext e.1 .nil).isStr e.2) = true := by decide
  obtain ⟨hash,hhash⟩ : ∃ hash, dispatchRuntime.blake2s "aneta2a1" 32 hashed = hash := ⟨_,rfl⟩
  refine ⟨hash,?_⟩
  unfold registrationIntent
  refine bind_ok.mpr ⟨(),raiseIf_passes hplain,?_⟩
  refine bind_ok.mpr ⟨(),raiseIf_passes hversion,?_⟩
  refine bind_ok.mpr ⟨largeTaskRequest big,largeTaskRequest_valid big,?_⟩
  refine bind_ok.mpr ⟨largeContext,rfl,?_⟩
  refine bind_ok.mpr ⟨(),raiseIf_passes hcontext,?_⟩
  refine bind_ok.mpr ⟨hashed,hhashed,?_⟩
  refine bind_ok.mpr ⟨_,hraw,?_⟩
  rw [hhash]
  change Except.ok (⟨"principal",gatewayPeer,gatewayTaskId.val,"context","message",gatewayPeer,
    "skill",strip "",strip "1.0",gatewayTaskId.val,hash,_⟩ : A2AIntent) = _
  rw [hempty,hone]
  rfl

def boundStore : PacketStore := (bindInbound samplePrincipal).exec dispatchRuntime .empty

def largeStore (hash : String) (raw : Bytes) : PacketStore :=
  match boundStore.registerIntent (largeIntent hash raw) sampleToken 1000 with
  | .ok r => r.2
  | .error _ => .empty

def largeRow (hash : String) (raw : Bytes) : A2ADispatch :=
  (largeIntent hash raw).dispatchRow gatewayPeer sampleToken 1000

theorem largeIntent_registers (hash : String) (raw : Bytes) : ∃ r,
    boundStore.registerIntent (largeIntent hash raw) sampleToken 1000 =
      .ok (r,largeStore hash raw) :=
  ⟨_,rfl⟩

def largeClaim : GatewayOp :=
  .claim sampleOwner 1 ⟨5000,lease_low,lease_high⟩ 2000 (fun _ => sampleToken)

def claimedRow (hash : String) (raw : Bytes) : A2ADispatch :=
  (largeRow hash raw).claim "worker" sampleToken.val 7000 2000

theorem largeClaim_exec (hash : String) {raw : Bytes} {v : Value}
    (h : dispatchRuntime.unpack raw = .ok v) :
    (largeClaim.exec dispatchRuntime (largeStore hash raw)).a2aDispatches.rows =
      [claimedRow hash raw] ∧
      (largeClaim.exec dispatchRuntime (largeStore hash raw)).packets = .empty ∧
        (largeClaim.exec dispatchRuntime (largeStore hash raw)).peerPrekeys = .empty := by
  have hready : (largeStore hash raw).readyDispatches 2000 1 = [largeRow hash raw] := rfl
  obtain ⟨t,hassign,ht⟩ : ∃ t, (largeStore hash raw).a2aDispatches.assign (largeRow hash raw).key
      (A2ADispatch.claim "worker" sampleToken.val 7000 2000) (fun _ => rfl) = some t ∧
        t.rows = [claimedRow hash raw] := ⟨_,rfl,rfl⟩
  have hget : t.get (largeRow hash raw).key = some (claimedRow hash raw) :=
    Table.get_eq_some.mpr ⟨by rw [ht]; exact List.mem_singleton_self _,rfl⟩
  have hloop : claimDispatches dispatchRuntime "worker" 7000 2000 [largeRow hash raw]
      (fun _ => sampleToken) (largeStore hash raw).a2aDispatches =
        .ok ([⟨claimedRow hash raw,some v⟩],t) := by
    refine bind_ok.mpr ⟨(),rfl,bind_ok.mpr ⟨t,integrity_ok.mpr hassign,bind_ok.mpr
      ⟨claimedRow hash raw,fetched_ok.mpr hget,bind_ok.mpr ⟨v,h,bind_ok.mpr ⟨_,rfl,rfl⟩⟩⟩⟩⟩
  have hexec : largeClaim.exec dispatchRuntime (largeStore hash raw) =
      { largeStore hash raw with a2aDispatches := t } := by
    simp only [largeClaim,GatewayOp.exec]
    unfold claimA2ADispatches transaction
    dsimp only
    rw [hready]
    simp only [sampleOwner,Int.reduceAdd]
    rw [hloop]
    rfl
  rw [hexec]
  exact ⟨ht,rfl,rfl⟩

def manyFloats (n : ℕ) : Value := .list (List.replicate n (.float 0))

theorem manyFloats_json (n : ℕ) : (manyFloats n).json dispatchRuntime = some (manyFloats n) := by
  have hitems : jsonItems dispatchRuntime (List.replicate n (.float 0)) =
      some (List.replicate n (.float 0)) := by
    induction n with
    | zero => rfl
    | succ n ih =>
      rw [List.replicate_succ,jsonItems,ih]
      rfl
  rw [manyFloats,Value.json,hitems]
  rfl

theorem manyFloats_jsonSize (n : ℕ) : (manyFloats n).jsonSize dispatchRuntime ≤ 4 * n + 2 := by
  have hitems : jsonItemsSize dispatchRuntime (List.replicate n (.float 0)) = 3 * n := by
    induction n with
    | zero => rfl
    | succ n ih =>
      have hzero : (Value.float 0).jsonSize dispatchRuntime = 3 := rfl
      rw [List.replicate_succ,jsonItemsSize,ih,hzero]
      omega
  rw [manyFloats,Value.jsonSize,hitems,List.length_replicate]
  omega

theorem manyFloats_fits {n : ℕ} (h : n < 2 ^ 32) : (manyFloats n).fits := by
  simp only [manyFloats,Value.fits,List.length_replicate,h,decide_true,Bool.true_and,itemsFit_iff]
  intro v hv
  rw [List.eq_of_mem_replicate hv]
  rfl

theorem manyFloats_wire (n : ℕ) : (manyFloats n).wire.length = 5 + 9 * n := by
  have hitems : (wireItems (List.replicate n (.float 0))).length = 9 * n := by
    induction n with
    | zero => rfl
    | succ n ih =>
      rw [List.replicate_succ,wireItems,List.length_append,ih]
      simp only [Value.wire,List.length_cons,length_wordBytes]
      omega
  simp only [manyFloats,Value.wire,List.length_cons,List.length_append,length_wordBytes,hitems]

theorem largeTaskRequest_wire (v : Value) :
    (largeTaskRequest [(.str "x",v)]).toValue.wire.length + 1 =
      (largeTaskRequest [(.str "x",.nil)]).toValue.wire.length + v.wire.length := by
  simp only [largeTaskRequest,TaskRequest.toValue,Value.wire,wireEntries,List.cons_append,
    List.length_cons,List.length_append,List.length_nil,length_wordBytes,baseEntries,List.nil_append]
  omega

theorem largeTaskRequest_fits {v : Value} (h : v.fits) :
    (largeTaskRequest [(.str "x",v)]).toValue.fits := by
  have hnil : (largeTaskRequest [(.str "x",.nil)]).toValue.fits = true := by decide +kernel
  simp only [largeTaskRequest,TaskRequest.toValue,Value.fits,entriesFit,List.cons_append,
    List.length_cons,List.length_nil,baseEntries,List.nil_append,h] at hnil ⊢
  exact hnil

theorem metadata_json {v : Value} (h : v.json dispatchRuntime = some v) :
    (Value.map [(.str "x",v)]).json dispatchRuntime = some (.map [(.str "x",v)]) := by
  simp only [Value.json,jsonEntries,jsonKey,h]
  rfl

theorem largeRequest_json {v : Value} (h : v.json dispatchRuntime = some v) :
    (largeRequest (.map [(.str "x",v)])).json dispatchRuntime =
      some (largeRequest (.map [(.str "x",v)])) := by
  have hmessage : largeMessage.json dispatchRuntime = some largeMessage := rfl
  have hmap := metadata_json h
  unfold largeRequest
  rw [Value.json]
  simp only [jsonEntries,jsonKey,hmessage,hmap]
  rfl

theorem largeRequest_jsonSize (v : Value) :
    (largeRequest (.map [(.str "x",v)])).jsonSize dispatchRuntime + 4 =
      (largeRequest (.map [(.str "x",.nil)])).jsonSize dispatchRuntime +
        v.jsonSize dispatchRuntime := by
  simp only [largeRequest,Value.jsonSize,jsonEntriesSize,List.length_cons,List.length_nil]
  omega

/-- The size of a body with the floats, within the constants around it. -/
theorem largeTaskRequest_size (n : ℕ) :
    9 * n ≤ (largeTaskRequest [(.str "x",manyFloats n)]).toValue.wire.length ∧
      (largeTaskRequest [(.str "x",manyFloats n)]).toValue.wire.length ≤ 9 * n + 2000 := by
  have hwire := largeTaskRequest_wire (manyFloats n)
  have hnil : (largeTaskRequest [(.str "x",.nil)]).toValue.wire.length ≤ 1500 := by decide +kernel
  have hpos := wire_pos (largeTaskRequest [(.str "x",.nil)]).toValue
  rw [manyFloats_wire] at hwire
  omega

/-- The metadata of a request; a million zeros take four megabytes of JSON and nine of
MessagePack. -/
def largeBody (n : ℕ) : List (Value × Value) := [(.str "x",manyFloats n)]

theorem largeRequest_accepted {n : ℕ} (hn : n ≤ 1000000) :
    inboundMessageToTask dispatchRuntime "" (largeRequest (.map (largeBody n))) gatewayPeer
      ⟨"skill",[]⟩ "" none = .ok ⟨gatewayTaskId.val,gatewayTaskId.val,"context","message","skill",
        .map sampleInbound.entries,(largeTaskRequest (largeBody n)).toValue⟩ := by
  have hjson := manyFloats_json n
  have hfloats := manyFloats_jsonSize n
  have hsize := largeRequest_jsonSize (manyFloats n)
  have hnil : (largeRequest (.map [(.str "x",.nil)])).jsonSize dispatchRuntime ≤ 1500 := by
    decide
  refine largeRequest_task (largeBody n) (jsonClone_ok.mpr ⟨largeRequest_json hjson,?_⟩) ?_
  · unfold maxJsonBytes largeBody
    omega
  · refine jsonClone_ok.mpr ⟨metadata_json hjson,?_⟩
    have hname : jsonTextSize "x" = 3 := by decide
    simp only [largeBody,Value.jsonSize,jsonEntriesSize,jsonKey,Option.getD_some,hname,maxJsonBytes,
      List.length_cons,List.length_nil]
    omega

/-- The card of the destination, without prekeys. -/
def largeCard : PeerCard :=
  ⟨gatewayPeer,List.replicate 32 0,List.replicate 32 0,"node",[],[],1,[0],cardVersion⟩

/-- Signatures of the right length, a cipher that adds its tag, and one node id. -/
def dispatchCrypto : SealCrypto :=
  { plainCrypto with
    deriveNodeId := fun _ _ => gatewayPeer
    sign := fun _ _ => List.replicate 64 0
    encrypt := fun _ _ plaintext _ => plaintext ++ List.replicate 16 0 }

theorem dispatchRuntime_laws : SealLaws dispatchRuntime dispatchCrypto :=
  packValue_laws rfl rfl (fun _ => rfl) dispatchRuntime_short (fun _ => rfl) (fun _ => rfl)
    (fun _ => rfl) (fun _ _ _ _ => by simp [dispatchCrypto]) (fun _ _ => by simp [dispatchCrypto])

def dispatchNode : DispatchNode :=
  ⟨⟨"an1sendersendersender",List.replicate 32 0,List.replicate 32 0,[]⟩,
    ⟨"an1sendersendersender",none,some (.ok [largeCard])⟩,.prefer,8,512,fun _ => "ValueError: "⟩

theorem sampleNoise_length (n : ℕ) : (List.replicate n (0 : UInt8)).length = n := List.length_replicate

def sampleSeal : SealDraw :=
  ⟨3000,samplePacketId,by decide,fun n => List.replicate n 0,sampleNoise_length,[],List.replicate 32 0,
    List.replicate 12 0,3000⟩

def sampleDraw : DispatchDraw := ⟨2500,sampleToken,sampleSeal,4000,4000,sampleToken⟩

def sampleClaim (body : Value) : A2AClaim :=
  ⟨sampleOwner,sampleToken,sampleToken,gatewayPeer,.request,body⟩

theorem largeCard_known : dispatchNode.book.require gatewayPeer = .ok largeCard := by decide

/-- Any store with one claimed row and no prekeys is ready for its dispatch. -/
theorem dispatchReady_single {s : PacketStore} {hash : String} {raw : Bytes} {body : Value}
    (hrows : s.a2aDispatches.rows = [claimedRow hash raw]) (hpackets : s.packets = .empty)
    (hprekeys : s.peerPrekeys = .empty) (hbody : dispatchRuntime.unpack raw = .ok body) :
    DispatchReady dispatchRuntime dispatchCrypto dispatchNode (sampleClaim body) 86400 "interactive"
      sampleDraw s (claimedRow hash raw) largeCard where
  loaded := ⟨by decide,rfl,rfl,by decide⟩
  live := by
    refine ⟨?_,rfl,rfl,rfl,hbody⟩
    unfold Table.first
    rw [hrows]
    rfl
  trusted := by
    refine ⟨largeCard_known,(by decide : isNodeId gatewayPeer = true),
      (by decide : strip gatewayPeer = gatewayPeer),⟨rfl,_,rfl⟩,?_,fun h => by cases h⟩
    intro k r hr
    rw [hprekeys] at hr
    cases hr
  timely := ⟨by decide,by decide,by decide,rfl,rfl⟩
  qos := by decide
  fresh := by
    rw [hpackets]
    rfl

theorem dispatchRuntime_unpack {v : Value} (h : v.fits) (hsize : v.wire.length ≤ maxWireBytes) :
    dispatchRuntime.unpack v.wire = .ok v := by
  rw [Runtime.unpack,if_neg (by omega)]
  exact unpackValue_packValue (if_pos h)

/-- The dispatch of a small message is committed. -/
theorem dispatch_commits_iff_sample : ∃ row,
    (dispatchNode.dispatchA2AClaim dispatchRuntime dispatchCrypto
      (sampleClaim (largeTaskRequest []).toValue) 86400 "interactive" ⟨1000,by decide,by decide⟩
        sampleDraw (largeClaim.exec dispatchRuntime
          (largeStore "hash" (largeTaskRequest []).toValue.wire))).1 = .ok (some row) ∧
      row.state = .dispatched := by
  obtain ⟨hfits,hsize,hlist,hlimit⟩ : (largeTaskRequest []).toValue.fits ∧
      (largeTaskRequest []).toValue.wire.length ≤ maxWireBytes ∧
      (Value.list [(largeTaskRequest []).toValue]).fits ∧
      4 + envelopeSize dispatchRuntime dispatchNode.sender
          (sampleClaim (largeTaskRequest []).toValue).kind.text sampleDraw.sealing.createdMs
          (sampleClaim (largeTaskRequest []).toValue).envelope +
        dispatchRuntime.packedSize (sampleClaim (largeTaskRequest []).toValue).body ≤
          maxPlaintextBytes + dispatchRuntime.packedSize .nil := by
    decide +kernel
  have hunpack := dispatchRuntime_unpack hfits hsize
  obtain ⟨hrows,hpackets,hprekeys⟩ := largeClaim_exec "hash" hunpack
  have hdispatchable : Dispatchable dispatchRuntime dispatchNode
      (sampleClaim (largeTaskRequest []).toValue) sampleDraw.sealing.createdMs :=
    ⟨⟨_,dispatchRuntime_packs hlist⟩,hlimit⟩
  obtain ⟨row,hrow,-,hstate,-⟩ :=
    ((dispatch_commits_iff dispatchRuntime dispatchCrypto dispatchRuntime_laws).1 _ _ _ _ _ _ _ _ _
      (dispatchReady_single hrows hpackets hprekeys hunpack)).mpr hdispatchable
  exact ⟨row,hrow,hstate⟩

theorem largeRegistration_stored {big : List (Value × Value)} {hash : String} {raw : Bytes}
    (h : registrationIntent dispatchRuntime "" (largeRegistration big) = .ok (largeIntent hash raw)) :
    (GatewayOp.register (largeRegistration big) "" sampleToken 1000).exec dispatchRuntime boundStore =
      largeStore hash raw := by
  obtain ⟨r,hr⟩ := largeIntent_registers hash raw
  simp only [GatewayOp.exec]
  unfold registerA2AMessage afterCommit transaction
  simp only [h,bind,Except.bind,hr]

theorem large_dispatch {n : ℕ} (hn : n = 1000000) : ∃ s d claim draw card,
    Reaches (InboundStep dispatchRuntime) .empty s ∧
      DispatchReady dispatchRuntime dispatchCrypto dispatchNode claim 86400 "interactive" draw s d
        card ∧
        claim.body = (largeTaskRequest (largeBody n)).toValue ∧
        ¬ Dispatchable dispatchRuntime dispatchNode claim draw.sealing.createdMs := by
  have hfits : (largeTaskRequest (largeBody n)).toValue.fits :=
    largeTaskRequest_fits (manyFloats_fits (by omega))
  obtain ⟨hlow,hhigh⟩ := largeTaskRequest_size n
  obtain ⟨hash,hintent⟩ := largeRegistration_intent hfits
  have hsize : (largeTaskRequest (largeBody n)).toValue.wire.length ≤ maxWireBytes := by
    unfold maxWireBytes largeBody
    omega
  have hunpack := dispatchRuntime_unpack hfits hsize
  obtain ⟨hrows,hpackets,hprekeys⟩ := largeClaim_exec hash hunpack
  refine ⟨_,_,_,sampleDraw,largeCard,?_,dispatchReady_single hrows hpackets hprekeys hunpack,rfl,?_⟩
  · have hbound : Reaches (InboundStep dispatchRuntime) .empty boundStore :=
      .single ⟨bindInbound samplePrincipal,trivial,trivial,rfl⟩
    refine (hbound.tail ⟨.register (largeRegistration (largeBody n)) "" sampleToken 1000,trivial,?_,
      (largeRegistration_stored hintent).symm⟩).tail ⟨largeClaim,trivial,trivial,rfl⟩
    exact ⟨"",_,⟨"skill",[]⟩,"",none,_,largeRequest_accepted (by omega),rfl⟩
  · rintro ⟨-,hlimit⟩
    have hnil : dispatchRuntime.packedSize .nil = 1 := by decide
    have hbody := Runtime.packedSize_ok (dispatchRuntime_packs hfits)
    change _ + _ + dispatchRuntime.packedSize (largeTaskRequest (largeBody n)).toValue ≤ _ at hlimit
    rw [hbody,hnil] at hlimit
    unfold maxPlaintextBytes largeBody at hlimit
    omega

/-- An accepted message whose dispatch raises although the claim is live and the destination
trusted. -/
theorem oversized_dispatch_raises : ∃ s d claim draw card,
    Reaches (InboundStep dispatchRuntime) .empty s ∧
      DispatchReady dispatchRuntime dispatchCrypto dispatchNode claim 86400 "interactive" draw s d
        card ∧
        claim.body = (largeTaskRequest (largeBody 1000000)).toValue ∧
          ∀ row, (dispatchNode.dispatchA2AClaim dispatchRuntime dispatchCrypto claim 86400
            "interactive" ⟨1000,by decide,by decide⟩ draw s).1 ≠ .ok row := by
  obtain ⟨s,d,claim,draw,card,hrun,hready,hbody,hlarge⟩ := large_dispatch rfl
  refine ⟨s,d,claim,draw,card,hrun,hready,hbody,fun row hrow => ?_⟩
  obtain ⟨e,t,hattempt⟩ := attempt_raises dispatchRuntime_laws hready hlarge
  obtain ⟨e',t',hdispatch⟩ := dispatch_of_error ⟨1000,by decide,by decide⟩ hattempt
  rw [hdispatch] at hrow
  cases hrow

end Sample
end Anet
