import Anet.ControlFields
import Anet.Transition

/-! Mutual relationship claims: a proposal signed by one actor and accepted by the other, the
withdrawals either of them signs later, and the book that keeps what verifies. -/
namespace Anet.RelationshipClaims

open Packet (need)

/-- What the claims use of the standard library and of the cryptography package. -/
structure ClaimLibrary where
  rt : Runtime
  crypto : Crypto
  urls : UrlLibrary
  sha256 : Bytes → Bytes

def relationCircles : List String := ["public","known","collab","friend","close","family"]
def claimVersion : ℤ := 1
def proposalType : String := "anet.relationship.proposal.v1"
def acceptanceType : String := "anet.relationship.acceptance.v1"
def withdrawalType : String := "anet.relationship.withdrawal.v1"
def claimBookVersion : ℤ := 2
def clockSkewMs : ℤ := 5 * 60 * 1000
def maxProposalTtlMs : ℤ := 7 * 24 * 60 * 60 * 1000
def maxRelationshipLabels : ℕ := 32
def maxLabelLength : ℕ := 128

/-- `_circle`. -/
def circleText (value : String) : Result String := do
  let circle := lower (strip value)
  raiseIf (circle ∉ relationCircles.drop 1)
    (.value "mutual relationship circle must be known or closer")
  return circle

/-- `_labels`. -/
def labelsText (values : List String) : Result (List String) := do
  let labels := sortedStrings ((values.map strip).filter fun v => v ≠ "").dedup
  raiseIf (maxRelationshipLabels < labels.length) (.value "too many mutual relationship labels")
  raiseIf (∃ v ∈ labels, maxLabelLength < v.length)
    (.value "mutual relationship label is too long")
  return labels

/-- `_proposal_id`. -/
def proposalIdText (value : String) : Result String := do
  let id := lower (strip value)
  raiseIf (id.length ≠ 32) (.value "invalid relationship proposal ID")
  let _ ← fetched (fromHex id) (.value "invalid relationship proposal ID")
  return id

/-- `_actor_id`. -/
def actorIdText (value : String) : Result String := do
  let id := lower (strip value)
  raiseIf (isControlNodeId id = false) (.value "invalid relationship claim Actor ID")
  return id

/-- `_CLAIM_ID_RE.fullmatch`. -/
def isClaimId (s : String) : Bool :=
  startsWith s "mrel_" && s.toList.length = 69 && (s.toList.drop 5).all isHexDigit

/-- `_claim_id`. -/
def claimIdText (value : String) : Result String := do
  let id := lower (strip value)
  raiseIf (isClaimId id = false) (.value "invalid mutual relationship claim ID")
  return id

/-- `_validate_window`. -/
def validateWindow (createdMs expiresMs now : ℤ) (requireActive : Bool) : Result Unit := do
  raiseIf (createdMs ≤ 0 ∨ expiresMs ≤ createdMs)
    (.value "invalid relationship proposal validity window")
  raiseIf (maxProposalTtlMs < expiresMs - createdMs)
    (.value "relationship proposal validity window is too long")
  raiseIf (now + clockSkewMs < createdMs)
    (.value "relationship proposal was created too far in the future")
  raiseIf (requireActive ∧ expiresMs < now) (.value "relationship proposal has expired")

/-- `PeerCard.to_dict`. -/
def cardDict (card : PeerCard) : Value :=
  .map [(.str "version",.int card.version),(.str "node_id",.str card.nodeId),
    (.str "sign_public",.str (b64e card.signPublic)),
    (.str "box_public",.str (b64e card.boxPublic)),(.str "label",.str card.label),
    (.str "addresses",.list (card.addresses.map .str)),
    (.str "capabilities",.list (card.capabilities.map .str)),
    (.str "created_ms",.int card.createdMs),(.str "signature",.str (b64e card.signature))]

/-- `b64d(str(value))`. -/
def bytesField (lib : ClaimLibrary) (value : Value) : Result Bytes :=
  fetched (b64d (lib.rt.str value)) (.value "Incorrect padding")

/-- `PeerCard.from_dict`. -/
def cardFromDict (lib : ClaimLibrary) (value : Value) : Result PeerCard := do
  let fields ← lib.rt.dict value
  let version ← lib.rt.int (Value.fieldOr fields "version" (.int cardVersion))
  let nodeId ← need fields "node_id"
  let signPublic ← (need fields "sign_public" >>= bytesField lib)
  let boxPublic ← (need fields "box_public" >>= bytesField lib)
  let addresses ← lib.rt.list (Value.fieldOr fields "addresses" (.list []))
  let capabilities ← lib.rt.list (Value.fieldOr fields "capabilities" (.list []))
  let createdMs ← lib.rt.int (Value.fieldOr fields "created_ms" (.int 0))
  let signature ← (need fields "signature" >>= bytesField lib)
  let card : PeerCard := ⟨lib.rt.str nodeId,signPublic,boxPublic,
    lib.rt.str (Value.fieldOr fields "label" (.str "")),addresses.map lib.rt.str,
    capabilities.map lib.rt.str,createdMs,signature,version⟩
  card.verify lib.rt lib.crypto lib.urls
  return card

/-- `set(value) != expected` raises. -/
def expectFields (fields : List (Value × Value)) (expected : List String) (message : String) :
    Result Unit :=
  raiseIf (¬ ((∀ e ∈ fields, ∃ name ∈ expected, e.1.isStr name = true) ∧
    ∀ name ∈ expected, (Value.field fields name).isSome)) (.value message)

/-- Fields whose names are the expected ones, in any order. -/
theorem expectFields_of_keys {fields : List (Value × Value)} {expected : List String}
    {message : String} (names : List String) (hkeys : fields.map Prod.fst = names.map .str)
    (hnames : names ⊆ expected ∧ expected ⊆ names) :
    expectFields fields expected message = .ok () := by
  refine raiseIf_ok.mpr (not_not.mpr ⟨fun e he => ?_,fun name hname => ?_⟩)
  · have hmem := List.mem_map_of_mem (f := Prod.fst) he
    rw [hkeys] at hmem
    obtain ⟨name,hname,hkey⟩ := List.mem_map.mp hmem
    exact ⟨name,hnames.1 hname,Value.isStr_iff.mpr hkey.symm⟩
  · rw [Value.field_isSome,hkeys]
    exact List.mem_map_of_mem (hnames.2 hname)

structure RelationshipProposal where
  proposalId : String
  proposerCard : PeerCard
  peerActorId : String
  circle : String
  labels : List String
  createdMs : ℤ
  expiresMs : ℤ
  signature : Bytes
  version : ℤ
  objectType : String
  deriving DecidableEq

namespace RelationshipProposal

def signingFields (p : RelationshipProposal) : List Value :=
  [.int p.version,.str p.objectType,.str p.proposalId,cardDict p.proposerCard,.str p.peerActorId,
    .str p.circle,.list (p.labels.map .str),.int p.createdMs,.int p.expiresMs]

def verify (lib : ClaimLibrary) (p : RelationshipProposal) (now : ℤ) (requireActive : Bool) :
    Result Unit := do
  raiseIf (p.version ≠ claimVersion ∨ p.objectType ≠ proposalType)
    (.value "unsupported relationship proposal")
  let _ ← proposalIdText p.proposalId
  p.proposerCard.verify lib.rt lib.crypto lib.urls
  let peer ← actorIdText p.peerActorId
  raiseIf (p.peerActorId ≠ peer ∨ p.peerActorId = p.proposerCard.nodeId)
    (.value "invalid relationship proposal peer Actor")
  let circle ← circleText p.circle
  raiseIf (p.circle ≠ circle) (.value "relationship proposal circle is not normalized")
  let labels ← labelsText p.labels
  raiseIf (p.labels ≠ labels) (.value "relationship proposal labels are not normalized")
  validateWindow p.createdMs p.expiresMs now requireActive
  let message ← lib.rt.canonicalPack (.list p.signingFields)
  lib.crypto.verify p.proposerCard.signPublic p.signature message

def digest (lib : ClaimLibrary) (p : RelationshipProposal) : Result Bytes :=
  (lib.rt.canonicalPack (.list [.list p.signingFields,.bin p.signature])).map lib.sha256

def toDict (p : RelationshipProposal) : Value :=
  .map [(.str "version",.int p.version),(.str "type",.str p.objectType),
    (.str "proposal_id",.str p.proposalId),(.str "proposer_card",cardDict p.proposerCard),
    (.str "peer_actor_id",.str p.peerActorId),(.str "circle",.str p.circle),
    (.str "labels",.list (p.labels.map .str)),(.str "created_ms",.int p.createdMs),
    (.str "expires_ms",.int p.expiresMs),(.str "signature",.str (b64e p.signature))]

def fieldNames : List String := ["version","type","proposal_id","proposer_card","peer_actor_id",
  "circle","labels","created_ms","expires_ms","signature"]

/-- The labels of a proposal that is read. -/
def labelList : Value → Result (List String)
  | .list items => items.mapM fun v => match v with
    | .str s => .ok s
    | _ => .error (.value "relationship proposal labels must be a string list")
  | _ => .error (.value "relationship proposal labels must be a string list")

def fromDict (lib : ClaimLibrary) (value : Value) : Result RelationshipProposal := do
  let fields ← lib.rt.dict value
  expectFields fields fieldNames "relationship proposal has unexpected fields"
  let labels ← (need fields "labels" >>= labelList)
  let version ← (need fields "version" >>= lib.rt.int)
  let objectType ← need fields "type"
  let proposalId ← need fields "proposal_id"
  let card ← (need fields "proposer_card" >>= cardFromDict lib)
  let peer ← need fields "peer_actor_id"
  let circle ← need fields "circle"
  let createdMs ← (need fields "created_ms" >>= lib.rt.int)
  let expiresMs ← (need fields "expires_ms" >>= lib.rt.int)
  let signature ← (need fields "signature" >>= bytesField lib)
  return ⟨lib.rt.str proposalId,card,lib.rt.str peer,lib.rt.str circle,labels,createdMs,expiresMs,
    signature,version,lib.rt.str objectType⟩

end RelationshipProposal

structure MutualRelationshipClaim where
  proposal : RelationshipProposal
  proposalDigest : Bytes
  accepterCard : PeerCard
  acceptedMs : ℤ
  signature : Bytes
  version : ℤ
  objectType : String
  deriving DecidableEq

namespace MutualRelationshipClaim

def signingFields (c : MutualRelationshipClaim) : List Value :=
  [.int c.version,.str c.objectType,.bin c.proposalDigest,cardDict c.accepterCard,.int c.acceptedMs]

def verify (lib : ClaimLibrary) (c : MutualRelationshipClaim) (now : ℤ) : Result Unit := do
  raiseIf (c.version ≠ claimVersion ∨ c.objectType ≠ acceptanceType)
    (.value "unsupported mutual relationship claim")
  c.proposal.verify lib now false
  let digest ← c.proposal.digest lib
  raiseIf (c.proposalDigest ≠ digest) (.value "relationship acceptance is not bound to its proposal")
  c.accepterCard.verify lib.rt lib.crypto lib.urls
  raiseIf (c.accepterCard.nodeId ≠ c.proposal.peerActorId)
    (.value "relationship acceptance came from another Actor")
  raiseIf (c.acceptedMs < c.proposal.createdMs - clockSkewMs)
    (.value "relationship acceptance predates its proposal")
  raiseIf (c.proposal.expiresMs < c.acceptedMs)
    (.value "relationship acceptance occurred after expiry")
  raiseIf (now + clockSkewMs < c.acceptedMs)
    (.value "relationship acceptance was created too far in the future")
  let message ← lib.rt.canonicalPack (.list c.signingFields)
  lib.crypto.verify c.accepterCard.signPublic c.signature message

def claimId (lib : ClaimLibrary) (c : MutualRelationshipClaim) : Result String :=
  (lib.rt.canonicalPack (.list [.list c.signingFields,.bin c.signature])).map fun raw =>
    "mrel_" ++ lib.rt.sha256 raw

def toDict (c : MutualRelationshipClaim) : Value :=
  .map [(.str "version",.int c.version),(.str "type",.str c.objectType),
    (.str "proposal",c.proposal.toDict),(.str "proposal_digest",.str (b64e c.proposalDigest)),
    (.str "accepter_card",cardDict c.accepterCard),(.str "accepted_ms",.int c.acceptedMs),
    (.str "signature",.str (b64e c.signature))]

def fieldNames : List String := ["version","type","proposal","proposal_digest","accepter_card",
  "accepted_ms","signature"]

def fromDict (lib : ClaimLibrary) (value : Value) : Result MutualRelationshipClaim := do
  let fields ← lib.rt.dict value
  expectFields fields fieldNames "mutual relationship claim has unexpected fields"
  let version ← (need fields "version" >>= lib.rt.int)
  let objectType ← need fields "type"
  let proposal ← (need fields "proposal" >>= RelationshipProposal.fromDict lib)
  let digest ← (need fields "proposal_digest" >>= bytesField lib)
  let card ← (need fields "accepter_card" >>= cardFromDict lib)
  let acceptedMs ← (need fields "accepted_ms" >>= lib.rt.int)
  let signature ← (need fields "signature" >>= bytesField lib)
  return ⟨proposal,digest,card,acceptedMs,signature,version,lib.rt.str objectType⟩

end MutualRelationshipClaim

structure RelationshipClaimWithdrawal where
  claimId : String
  withdrawingCard : PeerCard
  withdrawnMs : ℤ
  signature : Bytes
  version : ℤ
  objectType : String
  deriving DecidableEq

namespace RelationshipClaimWithdrawal

def signingFields (w : RelationshipClaimWithdrawal) : List Value :=
  [.int w.version,.str w.objectType,.str w.claimId,cardDict w.withdrawingCard,.int w.withdrawnMs]

def withdrawalId (lib : ClaimLibrary) (w : RelationshipClaimWithdrawal) : Result String :=
  (lib.rt.canonicalPack (.list [.list w.signingFields,.bin w.signature])).map fun raw =>
    "mrelw_" ++ lib.rt.sha256 raw

def verify (lib : ClaimLibrary) (w : RelationshipClaimWithdrawal) (c : MutualRelationshipClaim)
    (now : ℤ) : Result Unit := do
  raiseIf (w.version ≠ claimVersion ∨ w.objectType ≠ withdrawalType)
    (.value "unsupported relationship claim withdrawal")
  let normal ← claimIdText w.claimId
  raiseIf (w.claimId ≠ normal) (.value "relationship claim withdrawal ID is not normalized")
  c.verify lib now
  let id ← c.claimId lib
  raiseIf (w.claimId ≠ id) (.value "relationship claim withdrawal targets another claim")
  w.withdrawingCard.verify lib.rt lib.crypto lib.urls
  raiseIf (w.withdrawingCard.nodeId ≠ c.proposal.proposerCard.nodeId ∧
      w.withdrawingCard.nodeId ≠ c.accepterCard.nodeId)
    (.value "relationship claim withdrawal came from another Actor")
  raiseIf (w.withdrawnMs < c.acceptedMs - clockSkewMs)
    (.value "relationship claim withdrawal predates acceptance")
  raiseIf (now + clockSkewMs < w.withdrawnMs)
    (.value "relationship claim withdrawal was created too far in the future")
  let message ← lib.rt.canonicalPack (.list w.signingFields)
  lib.crypto.verify w.withdrawingCard.signPublic w.signature message

def toDict (w : RelationshipClaimWithdrawal) : Value :=
  .map [(.str "version",.int w.version),(.str "type",.str w.objectType),
    (.str "claim_id",.str w.claimId),(.str "withdrawing_card",cardDict w.withdrawingCard),
    (.str "withdrawn_ms",.int w.withdrawnMs),(.str "signature",.str (b64e w.signature))]

def fieldNames : List String := ["version","type","claim_id","withdrawing_card","withdrawn_ms",
  "signature"]

def fromDict (lib : ClaimLibrary) (value : Value) : Result RelationshipClaimWithdrawal := do
  let fields ← lib.rt.dict value
  expectFields fields fieldNames "relationship claim withdrawal has unexpected fields"
  let version ← (need fields "version" >>= lib.rt.int)
  let objectType ← need fields "type"
  let claimId ← need fields "claim_id"
  let card ← (need fields "withdrawing_card" >>= cardFromDict lib)
  let withdrawnMs ← (need fields "withdrawn_ms" >>= lib.rt.int)
  let signature ← (need fields "signature" >>= bytesField lib)
  return ⟨lib.rt.str claimId,card,withdrawnMs,signature,version,lib.rt.str objectType⟩

end RelationshipClaimWithdrawal

/-- A dictionary in the order of its insertions. -/
abbrev Dict (α : Type) := List (String × α)

namespace Dict

variable {α : Type}

def get (d : Dict α) (key : String) : Option α := (d.find? fun e => e.1 = key).map Prod.snd

/-- `[d[key] for key in sorted(d)]`. -/
def sortedValues (d : Dict α) : List α :=
  (sortedStrings (d.map Prod.fst)).filterMap d.get

/-- The dictionary of the rows by their ids; a second row of an id raises. -/
def ofRows (key : α → Result String) (duplicate : PyError) : List α → Dict α → Result (Dict α)
  | [],d => .ok d
  | row :: rows,d => do
    let id ← key row
    raiseIf ((d.get id).isSome = true) duplicate
    ofRows key duplicate rows (d ++ [(id,row)])

end Dict

/-- The book in memory. -/
structure RelationshipClaimBook where
  claims : Dict MutualRelationshipClaim
  withdrawals : Dict RelationshipClaimWithdrawal

namespace RelationshipClaimBook

def empty : RelationshipClaimBook := ⟨[],[]⟩

/-- `save`: the content of the file. -/
def save (b : RelationshipClaimBook) : Value :=
  .map [(.str "version",.int claimBookVersion),
    (.str "claims",.list (b.claims.sortedValues.map (·.toDict))),
    (.str "withdrawals",.list (b.withdrawals.sortedValues.map (·.toDict)))]

/-- A row of the file that is no object raises. -/
def rowDict (message : String) : Value → Result Value
  | .map entries => .ok (.map entries)
  | _ => .error (.value message)

/-- The list of rows in a field of the file. -/
def rowList (message : String) : Value → Result (List Value)
  | .list rows => .ok rows
  | _ => .error (.value message)

def readClaim (lib : ClaimLibrary) (now : ℤ) (raw : Value) : Result MutualRelationshipClaim := do
  let row ← rowDict "relationship claim book entry must be an object" raw
  let claim ← MutualRelationshipClaim.fromDict lib row
  claim.verify lib now
  return claim

def readWithdrawal (lib : ClaimLibrary) (now : ℤ) (claims : Dict MutualRelationshipClaim)
    (raw : Value) : Result RelationshipClaimWithdrawal := do
  let row ← rowDict "relationship claim book withdrawal must be an object" raw
  let withdrawal ← RelationshipClaimWithdrawal.fromDict lib row
  let claim ← fetched (claims.get withdrawal.claimId)
    (.value "relationship claim withdrawal references an unknown claim")
  withdrawal.verify lib claim now
  return withdrawal

/-- `reload`; the rows are read and checked one after the other. -/
def reload (lib : ClaimLibrary) (file : Value) (now : ℤ) : Result RelationshipClaimBook := do
  let fields ← fetched file.asMap (.value "relationship claim book must be a JSON object")
  let version ← lib.rt.int (Value.fieldOr fields "version" (.int 0))
  raiseIf (version ≠ 1 ∧ version ≠ claimBookVersion)
    (.value "unsupported relationship claim book version")
  let rawClaims ← rowList "relationship claim book claims must be a list"
    (Value.fieldOr fields "claims" .nil)
  let rows ← rawClaims.mapM (readClaim lib now)
  let claims ← Dict.ofRows (·.claimId lib) (.value "relationship claim book contains a duplicate")
    rows []
  let rawWithdrawals ← if 2 ≤ version then
      rowList "relationship claim book withdrawals must be a list"
        (Value.fieldOr fields "withdrawals" .nil)
    else pure []
  let rows ← rawWithdrawals.mapM (readWithdrawal lib now claims)
  let withdrawals ← Dict.ofRows (·.withdrawalId lib)
    (.value "relationship claim book contains a duplicate withdrawal") rows []
  return ⟨claims,withdrawals⟩

/-- `add`. -/
def add (lib : ClaimLibrary) (c : MutualRelationshipClaim) (now : ℤ) (b : RelationshipClaimBook) :
    Result (Bool × RelationshipClaimBook) := do
  c.verify lib now
  let id ← c.claimId lib
  if (b.claims.get id).isSome then return (false,b)
  else return (true,{ b with claims := b.claims ++ [(id,c)] })

/-- `claim`. -/
def claim (b : RelationshipClaimBook) (claimId : String) : Result (Option MutualRelationshipClaim) := do
  let id ← claimIdText claimId
  return b.claims.get id

/-- `add_withdrawal`. -/
def addWithdrawal (lib : ClaimLibrary) (w : RelationshipClaimWithdrawal) (now : ℤ)
    (b : RelationshipClaimBook) : Result (Bool × RelationshipClaimBook) := do
  let found ← b.claim w.claimId
  let c ← fetched found (.value "relationship claim withdrawal references an unknown claim")
  w.verify lib c now
  let id ← w.withdrawalId lib
  if (b.withdrawals.get id).isSome then return (false,b)
  else return (true,{ b with withdrawals := b.withdrawals ++ [(id,w)] })

/-- `withdrawals_for`. -/
def withdrawalsFor (b : RelationshipClaimBook) (claimId : String) :
    Result (List RelationshipClaimWithdrawal) := do
  let id ← claimIdText claimId
  return b.withdrawals.sortedValues.filter fun w => w.claimId = id

/-- `is_active`. -/
def isActive (b : RelationshipClaimBook) (claimId : String) : Result Bool := do
  let found ← b.claim claimId
  let _ ← fetched found (.value "relationship claim is not stored")
  let withdrawals ← b.withdrawalsFor claimId
  return withdrawals.isEmpty

end RelationshipClaimBook
end Anet.RelationshipClaims
