import Anet.MsgPack
import Anet.Packet

/-! Peer cards and the book of pinned peers. A card names its node by its keys and is
signed with one of them; the book is read again from its two files at every trust
boundary, and the revocation file has the last word. -/
namespace Anet

/-- A URL as `urlsplit` reads it; the port is parsed when it is asked for. -/
structure SplitUrl where
  scheme : String
  hostname : Option String
  port : Result (Option ℤ)
  username : Option String
  password : Option String
  path : String
  query : String
  fragment : String

/-- The URL functions of the standard library. -/
structure UrlLibrary where
  urlsplit : String → Result SplitUrl
  parseQsl : String → Result (List (String × String))

/-- `_ZONE_RE.fullmatch`. -/
def isZone (s : String) : Bool :=
  8 ≤ s.toList.length && s.toList.length ≤ 64 &&
    s.toList.all fun c => isAlpha c || isDigit c || c == '_' || c == '-'

/-- The query parameters of a locator, each at most once. -/
def locatorParameters : List (String × String) → List (String × String) →
    Result (List (String × String))
  | [],values => .ok values
  | (key,value) :: rest,values => do
    raiseIf (key ∉ ["scope","zone","priority"]) (.value s!"unsupported locator parameter: {key}")
    raiseIf (∃ e ∈ values, e.1 = key) (.value s!"duplicate locator parameter: {key}")
    locatorParameters rest (values ++ [(key,value)])

def parameter (values : List (String × String)) (key default : String) : String :=
  ((values.find? fun e => e.1 = key).map Prod.snd).getD default

/-- The checks of `parse_locator` on a scoped address. -/
def checkScope (rt : Runtime) (values : List (String × String)) : Result Unit := do
  let scope := parameter values "scope" ""
  let zone := parameter values "zone" ""
  raiseIf (scope ∉ ["host","lan","wan"])
    (.value "scoped locator requires scope=host, lan, or wan")
  raiseIf (scope ∈ ["host","lan"] ∧ ¬ isZone zone)
    (.value "host/lan locator requires an 8-64 character opaque zone")
  raiseIf (scope = "wan" ∧ zone ≠ "") (.value "wan locator must not include a zone")
  let priority ← fetched (rt.int (.str (parameter values "priority" "100"))).toOption
    (.value "locator priority must be an integer")
  raiseIf (¬ (0 ≤ priority ∧ priority ≤ 10000))
    (.value "locator priority must be between 0 and 10000")

/-- The checks of `parse_locator`. -/
def parseLocator (rt : Runtime) (urls : UrlLibrary) (address : String) : Result Unit := do
  let parsed ← urls.urlsplit (strip address)
  raiseIf (parsed.scheme ∉ ["tls","tcp+tls"])
    (.value s!"unsupported transport address: {address}")
  raiseIf (parsed.hostname.getD "" = "")
    (.value s!"address must include host and port: {address}")
  let port ← fetched parsed.port.toOption
    (.value s!"address contains an invalid port: {address}")
  raiseIf (¬ ∃ p ∈ port, 1 ≤ p ∧ p ≤ 65535)
    (.value s!"address must include host and port: {address}")
  raiseIf (parsed.username.isSome ∨ parsed.password.isSome)
    (.value "transport address must not contain credentials")
  raiseIf (parsed.path ∉ ["","/"] ∨ parsed.fragment ≠ "")
    (.value "transport address must not contain a path or fragment")
  let pairs ← urls.parseQsl parsed.query
  let values ← locatorParameters pairs []
  if values = [] then .ok () else checkScope rt values

structure PeerCard where
  nodeId : String
  signPublic : Bytes
  boxPublic : Bytes
  label : String
  addresses : List String
  capabilities : List String
  createdMs : ℤ
  signature : Bytes
  version : ℤ
  deriving DecidableEq

def cardVersion : ℤ := 1

namespace PeerCard

open Packet

/-- `signing_fields`. -/
def signingFields (card : PeerCard) : List Value :=
  [.int card.version,.str card.nodeId,.bin card.signPublic,.bin card.boxPublic,.str card.label,
    .list ((sortedStrings card.addresses).map .str),
    .list ((sortedStrings card.capabilities).map .str),.int card.createdMs]

/-- `verify`. -/
def verify (rt : Runtime) (crypto : Crypto) (urls : UrlLibrary) (card : PeerCard) :
    Result Unit := do
  raiseIf (card.version ≠ cardVersion)
    (.value s!"unsupported peer card version: {card.version}")
  raiseIf (card.nodeId ≠ crypto.deriveNodeId card.signPublic card.boxPublic)
    (.value "peer card node id does not match public keys")
  raiseIf (card.signature = []) (.value "peer card is unsigned")
  let message ← rt.canonicalPack (.list card.signingFields)
  crypto.verify card.signPublic card.signature message
  card.addresses.forM (parseLocator rt urls)

/-- `to_wire`. -/
def toWire (card : PeerCard) : Value :=
  .map [(.str "v",.int card.version),(.str "id",.str card.nodeId),
    (.str "spk",.bin card.signPublic),(.str "bpk",.bin card.boxPublic),
    (.str "label",.str card.label),(.str "addr",.list (card.addresses.map .str)),
    (.str "caps",.list (card.capabilities.map .str)),(.str "ts",.int card.createdMs),
    (.str "sig",.bin card.signature)]

/-- `from_wire`. -/
def fromWire (rt : Runtime) (crypto : Crypto) (urls : UrlLibrary) (value : Value) :
    Result PeerCard := do
  let fields ← fetched value.asMap (.type "peer card must be a map")
  let version ← rt.int (Value.fieldOr fields "v" (.int cardVersion))
  let nodeId ← need fields "id"
  let signPublic ← (need fields "spk" >>= rt.bytes)
  let boxPublic ← (need fields "bpk" >>= rt.bytes)
  let addresses ← rt.list (Value.fieldOr fields "addr" (.list []))
  let capabilities ← rt.list (Value.fieldOr fields "caps" (.list []))
  let createdMs ← rt.int (Value.fieldOr fields "ts" (.int 0))
  let signature ← (need fields "sig" >>= rt.bytes)
  let card : PeerCard := ⟨rt.str nodeId,signPublic,boxPublic,
    rt.str (Value.fieldOr fields "label" (.str "")),addresses.map rt.str,capabilities.map rt.str,
    createdMs,signature,version⟩
  card.verify rt crypto urls
  return card

/-- `_require_same_keys` compares these. -/
def SameKeys (card card' : PeerCard) : Prop :=
  card.signPublic = card'.signPublic ∧ card.boxPublic = card'.boxPublic

instance (card card' : PeerCard) : Decidable (SameKeys card card') :=
  inferInstanceAs (Decidable (_ ∧ _))

/-- A card that passes is named by its own keys. -/
theorem fromWire_nodeId {rt : Runtime} {crypto : Crypto} {urls : UrlLibrary} {value : Value}
    {card : PeerCard} (h : fromWire rt crypto urls value = .ok card) :
    card.nodeId = crypto.deriveNodeId card.signPublic card.boxPublic := by
  simp only [fromWire,bind_ok] at h
  obtain ⟨_,-,_,-,_,-,_,-,_,-,_,-,_,-,_,-,_,-,_,hverify,hval⟩ := h
  cases hval
  simp only [verify,bind_ok,raiseIf_ok] at hverify
  obtain ⟨_,-,_,hid,-⟩ := hverify
  simpa using hid

end PeerCard

/-- The revocation file, decoded. -/
structure RevocationFile where
  version : ℤ
  nodeIds : List String
  deriving DecidableEq

/-- The files of a peer book; `none` is a file that does not exist. -/
structure PeerBook where
  ownNodeId : String
  revocations : Option (Result RevocationFile)
  peers : Option (Result (List PeerCard))

namespace PeerBook

/-- The deny records `reload` reads. -/
def revocationList (book : PeerBook) : Result (List String) :=
  match book.revocations with
  | none => .ok []
  | some file => do
    let file ← file
    raiseIf (file.version ≠ 1) (.value "unsupported peer revocation file")
    raiseIf (∃ id ∈ file.nodeIds, id = "" ∨ id = book.ownNodeId)
      (.value "invalid peer revocation entry")
    return file.nodeIds

/-- `reload`: the cards left after the deny records. -/
def reload (book : PeerBook) : Result (List PeerCard) := do
  let revoked ← book.revocationList
  let cards ← book.peers.getD (.ok [])
  return cards.filter fun card => card.nodeId ≠ book.ownNodeId ∧ card.nodeId ∉ revoked

/-- `get` after a reload; a later card of one node replaces an earlier one. -/
def get (book : PeerBook) (nodeId : String) : Result (Option PeerCard) := do
  let cards ← book.reload
  return cards.reverse.find? fun card => card.nodeId = nodeId

/-- `require`. -/
def require (book : PeerBook) (nodeId : String) : Result PeerCard := do
  let card ← book.get nodeId
  fetched card (.key s!"unknown peer: {nodeId}")

/-- `is_trusted`. -/
def isTrusted (book : PeerBook) (nodeId : String) (signPublic boxPublic : Bytes) : Result Bool := do
  let card ← book.get nodeId
  return (card.filter fun c => c.signPublic = signPublic ∧ c.boxPublic = boxPublic).isSome

/-- The book holds a deny record for the node. -/
def Revoked (book : PeerBook) (nodeId : String) : Prop :=
  ∃ revoked, book.revocationList = .ok revoked ∧ nodeId ∈ revoked

/-- The card's keys are the ones the book pins for its node. -/
def Pins (book : PeerBook) (card : PeerCard) : Prop :=
  ∃ pinned, book.require card.nodeId = .ok pinned ∧ pinned.SameKeys card

theorem require_ok {book : PeerBook} {nodeId : String} {card : PeerCard}
    (h : book.require nodeId = .ok card) : ∃ revoked cards, book.revocationList = .ok revoked ∧
      book.peers.getD (.ok []) = .ok cards ∧ card ∈ cards ∧ card.nodeId = nodeId ∧
      nodeId ≠ book.ownNodeId ∧ nodeId ∉ revoked := by
  simp only [require,get,reload,bind_ok,fetched_ok] at h
  obtain ⟨found,⟨kept,⟨revoked,hrevoked,cards,hcards,hkept⟩,hfound⟩,hcard⟩ := h
  cases hkept
  cases hfound
  have hmem := List.mem_of_find?_eq_some hcard
  have hid : card.nodeId = nodeId := by simpa using List.find?_some hcard
  rw [List.mem_reverse,List.mem_filter] at hmem
  have hfree := of_decide_eq_true hmem.2
  rw [hid] at hfree
  exact ⟨revoked,cards,hrevoked,hcards,hmem.1,hid,hfree⟩

/-- A pinned card belongs to a node without a deny record. -/
theorem Pins.not_revoked {book : PeerBook} {card : PeerCard} (h : book.Pins card) :
    ¬ book.Revoked card.nodeId := by
  obtain ⟨pinned,hpinned,-⟩ := h
  obtain ⟨revoked,-,hrevoked,-,-,-,-,hfree⟩ := require_ok hpinned
  rintro ⟨revoked',hrevoked',hmem⟩
  have hsame : revoked' = revoked := Except.ok.inj (hrevoked'.symm.trans hrevoked)
  rw [hsame] at hmem
  exact hfree hmem

end PeerBook

/-- Signatures that hold the key and the message, and ids that depend on the keys. -/
def plainCrypto : Crypto where
  publicKey b := .ok b
  exchange _ b := .ok b
  hkdf _ _ b := b
  decrypt _ _ b _ := .ok b
  verify signPublic signature message :=
    if signature = signPublic ++ message then .ok () else .error .invalidSignature
  deriveNodeId signPublic boxPublic := "an1" ++ checksum 2 (signPublic ++ boxPublic)

/-- A library that reads no URL. -/
def plainUrls : UrlLibrary := ⟨fun _ => .error (.value "no URL"),fun _ => .ok []⟩

/-- A card without addresses of the given keys, signed with the first. -/
def plainCard (signPublic boxPublic : Bytes) : PeerCard :=
  let card : PeerCard := ⟨plainCrypto.deriveNodeId signPublic boxPublic,signPublic,boxPublic,"node",
    [],[],1,[],cardVersion⟩
  let message := ((Runtime.msgpack.canonicalPack (.list card.signingFields)).toOption).getD []
  { card with signature := signPublic ++ message }

end Anet
