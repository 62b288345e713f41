import Anet.PeerBook

/-! The link handshake. The server signs a challenge, the client answers it over its
own nonce and the certificate it saw, the server confirms. Each side's part is a
function from the frame it reads to what it signs and sends next. -/
namespace Anet

/-- What a node brings to a link: its keys, its card and its certificate's fingerprint. -/
structure LinkNode where
  signPublic : Bytes
  boxPublic : Bytes
  card : PeerCard
  tlsFingerprint : Bytes
  sign : Bytes → Bytes

structure LinkLibrary where
  rt : Runtime
  crypto : Crypto
  urls : UrlLibrary

namespace Handshake

open Packet

def linkVersion : ℤ := 1

def challengeFields (nodeId : String) (serverNonce fingerprint : Bytes) : List Value :=
  [.int linkVersion,.str "challenge",.str nodeId,.bin serverNonce,.bin fingerprint]

def authFields (clientId serverId : String) (serverNonce clientNonce fingerprint : Bytes) :
    List Value :=
  [.int linkVersion,.str "auth",.str clientId,.str serverId,.bin serverNonce,.bin clientNonce,
    .bin fingerprint]

def readyFields (serverId clientId : String) (serverNonce clientNonce fingerprint : Bytes) :
    List Value :=
  [.int linkVersion,.str "ready",.str serverId,.str clientId,.bin serverNonce,.bin clientNonce,
    .bin fingerprint]

/-- A list that one of the three handshake signatures is made over. -/
inductive LinkFields : List Value → Prop
  | challenge (nodeId : String) (serverNonce fingerprint : Bytes) :
      LinkFields (challengeFields nodeId serverNonce fingerprint)
  | auth (clientId serverId : String) (serverNonce clientNonce fingerprint : Bytes) :
      LinkFields (authFields clientId serverId serverNonce clientNonce fingerprint)
  | ready (serverId clientId : String) (serverNonce clientNonce fingerprint : Bytes) :
      LinkFields (readyFields serverId clientId serverNonce clientNonce fingerprint)

/-- A frame that must be a map with the given tag. -/
def frameOf (tag message : String) (frame : Value) : Result Fields := do
  let fields ← fetched frame.asMap (.value message)
  raiseIf (¬ (Value.fieldOr fields "t" .nil).isStr tag) (.value message)
  return fields

/-- The bytes under a name, empty when it is missing. -/
def bytesOf (rt : Runtime) (fields : Fields) (name : String) : Result Bytes :=
  rt.bytes (Value.fieldOr fields name emptyBytes)

/-- `_require_same_keys`. -/
def requireSameKeys (expected actual : PeerCard) : Result Unit :=
  raiseIf (¬ expected.SameKeys actual) (.value "peer keys differ from pinned identity")

variable (lib : LinkLibrary)

def nodeId (node : LinkNode) : String := lib.crypto.deriveNodeId node.signPublic node.boxPublic

/-- The first frame of `_server_handshake` and the message it signs. -/
def challengeFrame (node : LinkNode) (serverNonce : Bytes) : Result (Value × Bytes) := do
  let message ← lib.rt.canonicalPack (.list
    (challengeFields (nodeId lib node) serverNonce node.tlsFingerprint))
  return (.map [(.str "t",.str "challenge"),(.str "v",.int linkVersion),
    (.str "card",node.card.toWire),(.str "sn",.bin serverNonce),
    (.str "sfp",.bin node.tlsFingerprint),(.str "sig",.bin (node.sign message))],message)

/-- A client's answer as the server accepted it. -/
structure Accepted where
  card : PeerCard
  clientNonce : Bytes

/-- The checks `_server_handshake` makes on the client's frame. -/
def acceptAuth (node : LinkNode) (book : PeerBook) (serverNonce : Bytes) (frame : Value) :
    Result Accepted := do
  let auth ← frameOf "auth" "missing peer authentication" frame
  let card ← (need auth "card" >>= PeerCard.fromWire lib.rt lib.crypto lib.urls)
  let pinned ← book.require card.nodeId
  requireSameKeys pinned card
  let clientNonce ← bytesOf lib.rt auth "cn"
  raiseIf (clientNonce.length ≠ 32) (.value "invalid authentication challenge")
  let echoed ← bytesOf lib.rt auth "sn"
  raiseIf (echoed ≠ serverNonce) (.value "invalid authentication challenge")
  let signature ← bytesOf lib.rt auth "sig"
  let message ← lib.rt.canonicalPack (.list
    (authFields card.nodeId (nodeId lib node) serverNonce clientNonce node.tlsFingerprint))
  lib.crypto.verify card.signPublic signature message
  return ⟨card,clientNonce⟩

/-- The last frame of `_server_handshake` and the message it signs. -/
def readyFrame (node : LinkNode) (serverNonce : Bytes) (accepted : Accepted) :
    Result (Value × Bytes) := do
  let message ← lib.rt.canonicalPack (.list (readyFields (nodeId lib node) accepted.card.nodeId
    serverNonce accepted.clientNonce node.tlsFingerprint))
  return (.map [(.str "t",.str "ready"),(.str "sn",.bin serverNonce),
    (.str "cn",.bin accepted.clientNonce),(.str "sig",.bin (node.sign message))],message)

/-- A server's challenge as the client accepted it. -/
structure Challenge where
  card : PeerCard
  serverNonce : Bytes
  fingerprint : Bytes

/-- The checks `_client_handshake` makes on the server's challenge. -/
def acceptChallenge (expected : PeerCard) (observed : Bytes) (frame : Value) :
    Result Challenge := do
  let challenge ← frameOf "challenge" "missing server challenge" frame
  let card ← (need challenge "card" >>= PeerCard.fromWire lib.rt lib.crypto lib.urls)
  raiseIf (card.nodeId ≠ expected.nodeId)
    (.value "connected server identity does not match address owner")
  requireSameKeys expected card
  let serverNonce ← bytesOf lib.rt challenge "sn"
  let fingerprint ← bytesOf lib.rt challenge "sfp"
  raiseIf (serverNonce.length ≠ 32 ∨ fingerprint ≠ observed)
    (.value "TLS channel is not bound to server identity")
  let signature ← bytesOf lib.rt challenge "sig"
  let message ← lib.rt.canonicalPack (.list
    (challengeFields card.nodeId serverNonce fingerprint))
  lib.crypto.verify card.signPublic signature message
  return ⟨card,serverNonce,fingerprint⟩

/-- The frame `_client_handshake` answers with and the message it signs. -/
def authFrame (node : LinkNode) (challenge : Challenge) (clientNonce : Bytes) :
    Result (Value × Bytes) := do
  let message ← lib.rt.canonicalPack (.list (authFields (nodeId lib node) challenge.card.nodeId
    challenge.serverNonce clientNonce challenge.fingerprint))
  return (.map [(.str "t",.str "auth"),(.str "card",node.card.toWire),
    (.str "sn",.bin challenge.serverNonce),(.str "cn",.bin clientNonce),
    (.str "sig",.bin (node.sign message))],message)

/-- The checks `_client_handshake` makes on the server's last frame. -/
def acceptReady (node : LinkNode) (challenge : Challenge) (clientNonce : Bytes)
    (frame : Value) : Result Unit := do
  let ready ← frameOf "ready" "server did not complete authentication" frame
  let serverNonce ← bytesOf lib.rt ready "sn"
  raiseIf (serverNonce ≠ challenge.serverNonce) (.value "server authentication nonce mismatch")
  let echoed ← bytesOf lib.rt ready "cn"
  raiseIf (echoed ≠ clientNonce) (.value "server authentication nonce mismatch")
  let signature ← bytesOf lib.rt ready "sig"
  let message ← lib.rt.canonicalPack (.list (readyFields challenge.card.nodeId (nodeId lib node)
    challenge.serverNonce clientNonce challenge.fingerprint))
  lib.crypto.verify challenge.card.signPublic signature message

end Handshake
end Anet
