import Anet.ClaimBooks

/-! Pairing and friendship objects: an offer that its node signs, the invite around it, the response
of a second node to the offer, and the acceptance that binds the response to the invite. -/
namespace Anet.Friendship

open Packet (need)
open RelationshipClaims (ClaimLibrary ReadLaws cardDict cardFromDict bytesField expectFields)

def pairingVersion : ℤ := 1
def offerType : String := "anet.pair.offer.v1"
def responseType : String := "anet.pair.response.v1"
def maxClockSkewMs : ℤ := 5 * 60 * 1000
def maxOfferTtlMs : ℤ := 7 * 24 * 60 * 60 * 1000
def friendshipVersion : ℤ := 1
def friendInviteType : String := "anet.friend.invite.v1"
def friendAcceptanceType : String := "anet.friend.acceptance.v1"
def friendRelationship : String := "friend"

/-- `_validate_window`. -/
def validateWindow (createdMs expiresMs now : ℤ) : Result Unit := do
  raiseIf (createdMs ≤ 0 ∨ expiresMs ≤ createdMs) (.value "invalid pairing validity window")
  raiseIf (maxOfferTtlMs < expiresMs - createdMs) (.value "pairing validity window is too long")
  raiseIf (now + maxClockSkewMs < createdMs)
    (.value "pairing object was created too far in the future")
  raiseIf (expiresMs < now) (.value "pairing object has expired")

structure PairOffer where
  offerId : String
  card : PeerCard
  createdMs : ℤ
  expiresMs : ℤ
  signature : Bytes
  version : ℤ
  objectType : String
  deriving DecidableEq

namespace PairOffer

def signingFields (o : PairOffer) : List Value :=
  [.int o.version,.str o.objectType,.str o.offerId,.int o.createdMs,.int o.expiresMs,
    cardDict o.card]

def verify (lib : ClaimLibrary) (o : PairOffer) (now : ℤ) : Result Unit := do
  raiseIf (o.version ≠ pairingVersion ∨ o.objectType ≠ offerType)
    (.value "unsupported pairing offer")
  raiseIf (o.offerId.length ≠ 32) (.value "invalid pairing offer id")
  let _ ← fetched (fromHex o.offerId) (.value "invalid pairing offer id")
  o.card.verify lib.rt lib.crypto lib.urls
  validateWindow o.createdMs o.expiresMs now
  let message ← lib.rt.canonicalPack (.list o.signingFields)
  lib.crypto.verify o.card.signPublic o.signature message

def digest (lib : ClaimLibrary) (o : PairOffer) : Result Bytes :=
  (lib.rt.canonicalPack (.list [.list o.signingFields,.bin o.signature])).map lib.sha256

def toDict (o : PairOffer) : Value :=
  .map [(.str "version",.int o.version),(.str "type",.str o.objectType),
    (.str "offer_id",.str o.offerId),(.str "created_ms",.int o.createdMs),
    (.str "expires_ms",.int o.expiresMs),(.str "card",cardDict o.card),
    (.str "signature",.str (b64e o.signature))]

def fromDict (lib : ClaimLibrary) (fields : List (Value × Value)) : Result PairOffer := do
  let version ← lib.rt.int (Value.fieldOr fields "version" (.int 0))
  let createdMs ← lib.rt.int (Value.fieldOr fields "created_ms" (.int 0))
  let expiresMs ← lib.rt.int (Value.fieldOr fields "expires_ms" (.int 0))
  let card ← (need fields "card" >>= cardFromDict lib)
  let signature ← bytesField lib (Value.fieldOr fields "signature" (.str ""))
  return ⟨lib.rt.str (Value.fieldOr fields "offer_id" (.str "")),card,createdMs,expiresMs,signature,
    version,lib.rt.str (Value.fieldOr fields "type" (.str ""))⟩

end PairOffer

structure PairResponse where
  offerId : String
  offerDigest : Bytes
  card : PeerCard
  acceptedMs : ℤ
  signature : Bytes
  version : ℤ
  objectType : String
  deriving DecidableEq

namespace PairResponse

def signingFields (r : PairResponse) : List Value :=
  [.int r.version,.str r.objectType,.str r.offerId,.bin r.offerDigest,.int r.acceptedMs,
    cardDict r.card]

def verify (lib : ClaimLibrary) (r : PairResponse) (offer : PairOffer) (now : ℤ) :
    Result Unit := do
  offer.verify lib now
  raiseIf (r.version ≠ pairingVersion ∨ r.objectType ≠ responseType)
    (.value "unsupported pairing response")
  raiseIf (r.offerId ≠ offer.offerId) (.value "pairing response is not bound to this offer")
  let digest ← offer.digest lib
  raiseIf (r.offerDigest ≠ digest) (.value "pairing response is not bound to this offer")
  raiseIf (r.card.nodeId = offer.card.nodeId) (.value "cannot pair a node with itself")
  raiseIf (r.acceptedMs < offer.createdMs - maxClockSkewMs)
    (.value "pairing response predates its offer")
  raiseIf (offer.expiresMs < r.acceptedMs) (.value "pairing response was accepted after expiry")
  raiseIf (now + maxClockSkewMs < r.acceptedMs)
    (.value "pairing response was created too far in the future")
  r.card.verify lib.rt lib.crypto lib.urls
  let message ← lib.rt.canonicalPack (.list r.signingFields)
  lib.crypto.verify r.card.signPublic r.signature message

def toDict (r : PairResponse) : Value :=
  .map [(.str "version",.int r.version),(.str "type",.str r.objectType),
    (.str "offer_id",.str r.offerId),(.str "offer_digest",.str (b64e r.offerDigest)),
    (.str "accepted_ms",.int r.acceptedMs),(.str "card",cardDict r.card),
    (.str "signature",.str (b64e r.signature))]

def fromDict (lib : ClaimLibrary) (fields : List (Value × Value)) : Result PairResponse := do
  let version ← lib.rt.int (Value.fieldOr fields "version" (.int 0))
  let digest ← bytesField lib (Value.fieldOr fields "offer_digest" (.str ""))
  let acceptedMs ← lib.rt.int (Value.fieldOr fields "accepted_ms" (.int 0))
  let card ← (need fields "card" >>= cardFromDict lib)
  let signature ← bytesField lib (Value.fieldOr fields "signature" (.str ""))
  return ⟨lib.rt.str (Value.fieldOr fields "offer_id" (.str "")),digest,card,acceptedMs,signature,
    version,lib.rt.str (Value.fieldOr fields "type" (.str ""))⟩

end PairResponse

structure FriendInvite where
  offer : PairOffer
  signature : Bytes
  relationship : String
  version : ℤ
  objectType : String
  deriving DecidableEq

namespace FriendInvite

def signingFields (i : FriendInvite) : List Value :=
  [.int i.version,.str i.objectType,.str i.relationship,i.offer.toDict]

def verify (lib : ClaimLibrary) (i : FriendInvite) (now : ℤ) : Result Unit := do
  raiseIf (i.version ≠ friendshipVersion ∨ i.objectType ≠ friendInviteType ∨
    i.relationship ≠ friendRelationship) (.value "unsupported friend invite")
  i.offer.verify lib now
  let message ← lib.rt.canonicalPack (.list i.signingFields)
  lib.crypto.verify i.offer.card.signPublic i.signature message

def digest (lib : ClaimLibrary) (i : FriendInvite) : Result Bytes :=
  (lib.rt.canonicalPack (.list [.list i.signingFields,.bin i.signature])).map lib.sha256

def toDict (i : FriendInvite) : Value :=
  .map [(.str "version",.int i.version),(.str "type",.str i.objectType),
    (.str "relationship",.str i.relationship),(.str "offer",i.offer.toDict),
    (.str "signature",.str (b64e i.signature))]

def fieldNames : List String := ["version","type","relationship","offer","signature"]

def fromDict (lib : ClaimLibrary) (fields : List (Value × Value)) : Result FriendInvite := do
  expectFields fields fieldNames "friend invite has unexpected fields"
  let version ← lib.rt.int (Value.fieldOr fields "version" (.int 0))
  let offer ← (need fields "offer" >>= lib.rt.dict >>= PairOffer.fromDict lib)
  let signature ← bytesField lib (Value.fieldOr fields "signature" (.str ""))
  return ⟨offer,signature,lib.rt.str (Value.fieldOr fields "relationship" (.str "")),version,
    lib.rt.str (Value.fieldOr fields "type" (.str ""))⟩

end FriendInvite

structure FriendAcceptance where
  invite : FriendInvite
  response : PairResponse
  inviteDigest : Bytes
  signature : Bytes
  relationship : String
  version : ℤ
  objectType : String
  deriving DecidableEq

namespace FriendAcceptance

def signingFields (a : FriendAcceptance) : List Value :=
  [.int a.version,.str a.objectType,.str a.relationship,.bin a.inviteDigest,a.response.toDict]

def verify (lib : ClaimLibrary) (a : FriendAcceptance) (now : ℤ) : Result Unit := do
  raiseIf (a.version ≠ friendshipVersion ∨ a.objectType ≠ friendAcceptanceType ∨
    a.relationship ≠ friendRelationship) (.value "unsupported friend acceptance")
  a.invite.verify lib now
  let digest ← a.invite.digest lib
  raiseIf (a.inviteDigest ≠ digest) (.value "friend acceptance is not bound to this invite")
  a.response.verify lib a.invite.offer now
  let message ← lib.rt.canonicalPack (.list a.signingFields)
  lib.crypto.verify a.response.card.signPublic a.signature message

def toDict (a : FriendAcceptance) : Value :=
  .map [(.str "version",.int a.version),(.str "type",.str a.objectType),
    (.str "relationship",.str a.relationship),(.str "invite",a.invite.toDict),
    (.str "invite_digest",.str (b64e a.inviteDigest)),(.str "response",a.response.toDict),
    (.str "signature",.str (b64e a.signature))]

def fieldNames : List String := ["version","type","relationship","invite","invite_digest",
  "response","signature"]

def fromDict (lib : ClaimLibrary) (fields : List (Value × Value)) : Result FriendAcceptance := do
  expectFields fields fieldNames "friend acceptance has unexpected fields"
  let version ← lib.rt.int (Value.fieldOr fields "version" (.int 0))
  let invite ← (need fields "invite" >>= lib.rt.dict >>= FriendInvite.fromDict lib)
  let digest ← bytesField lib (Value.fieldOr fields "invite_digest" (.str ""))
  let response ← (need fields "response" >>= lib.rt.dict >>= PairResponse.fromDict lib)
  let signature ← bytesField lib (Value.fieldOr fields "signature" (.str ""))
  return ⟨invite,response,digest,signature,
    lib.rt.str (Value.fieldOr fields "relationship" (.str "")),version,
    lib.rt.str (Value.fieldOr fields "type" (.str ""))⟩

end FriendAcceptance

variable {lib : ClaimLibrary} {now : ℤ}

/-- What an offer that verifies is: its card is one, and the card's key signed its fields. -/
structure OfferSigned (lib : ClaimLibrary) (o : PairOffer) : Prop where
  card : o.card.verify lib.rt lib.crypto lib.urls = .ok ()
  signed : ∃ message, lib.rt.canonicalPack (.list o.signingFields) = .ok message ∧
    lib.crypto.verify o.card.signPublic o.signature message = .ok ()

/-- What an invite that verifies is: the offer's key signed the offer and the relationship. -/
structure InviteSigned (lib : ClaimLibrary) (i : FriendInvite) : Prop where
  offer : OfferSigned lib i.offer
  signed : ∃ message, lib.rt.canonicalPack (.list i.signingFields) = .ok message ∧
    lib.crypto.verify i.offer.card.signPublic i.signature message = .ok ()

/-- What a response that verifies is: it answers this offer, and another card's key signed it. -/
structure ResponseSigned (lib : ClaimLibrary) (r : PairResponse) (o : PairOffer) : Prop where
  offerId : r.offerId = o.offerId
  digest : o.digest lib = .ok r.offerDigest
  other : r.card.nodeId ≠ o.card.nodeId
  card : r.card.verify lib.rt lib.crypto lib.urls = .ok ()
  signed : ∃ message, lib.rt.canonicalPack (.list r.signingFields) = .ok message ∧
    lib.crypto.verify r.card.signPublic r.signature message = .ok ()

/-- What an acceptance that verifies is: its invite and its response are of one exchange, and the
responder's key signed the digest of the one and the other. -/
structure AcceptanceSigned (lib : ClaimLibrary) (a : FriendAcceptance) : Prop where
  invite : InviteSigned lib a.invite
  digest : a.invite.digest lib = .ok a.inviteDigest
  response : ResponseSigned lib a.response a.invite.offer
  signed : ∃ message, lib.rt.canonicalPack (.list a.signingFields) = .ok message ∧
    lib.crypto.verify a.response.card.signPublic a.signature message = .ok ()

theorem offer_signed {o : PairOffer} (h : o.verify lib now = .ok ()) : OfferSigned lib o := by
  simp only [PairOffer.verify,bind_ok] at h
  obtain ⟨_,_,_,_,_,_,_,hcard,_,_,message,hmessage,hsigned⟩ := h
  exact ⟨hcard,message,hmessage,hsigned⟩

theorem invite_signed {i : FriendInvite} (h : i.verify lib now = .ok ()) :
    InviteSigned lib i := by
  simp only [FriendInvite.verify,bind_ok] at h
  obtain ⟨_,_,_,hoffer,message,hmessage,hsigned⟩ := h
  exact ⟨offer_signed hoffer,message,hmessage,hsigned⟩

theorem response_signed {r : PairResponse} {o : PairOffer} (h : r.verify lib o now = .ok ()) :
    ResponseSigned lib r o := by
  simp only [PairResponse.verify,bind_ok,raiseIf_ok,not_not] at h
  obtain ⟨_,_,_,_,_,hid,digest,hdigest,_,hbound,_,hother,_,_,_,_,_,_,_,hcard,message,hmessage,
    hsigned⟩ := h
  exact ⟨hid,hbound ▸ hdigest,hother,hcard,message,hmessage,hsigned⟩

theorem acceptance_signed {a : FriendAcceptance} (h : a.verify lib now = .ok ()) :
    AcceptanceSigned lib a := by
  simp only [FriendAcceptance.verify,bind_ok,raiseIf_ok,not_not] at h
  obtain ⟨_,_,_,hinvite,digest,hdigest,_,hbound,_,hresponse,message,hmessage,hsigned⟩ := h
  exact ⟨invite_signed hinvite,hbound ▸ hdigest,response_signed hresponse,message,hmessage,hsigned⟩

/-- Two responses are to offers of one digest if they are the same response. -/
theorem AcceptanceSigned.same_offer {a a' : FriendAcceptance} (h : AcceptanceSigned lib a)
    (h' : AcceptanceSigned lib a') (hresponse : a.response = a'.response) :
    a.invite.offer.digest lib = a'.invite.offer.digest lib := by
  rw [h.response.digest,h'.response.digest,hresponse]

end Anet.Friendship
