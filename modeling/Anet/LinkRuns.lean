import Anet.Handshake
import Anet.Sessions
import Anet.Transition
import Mathlib.Logic.Function.Basic

/-! Any number of handshakes at once. Every frame a session reads is chosen by the
adversary, who may relay, replay, reorder or make up frames; the only frames it cannot
make are those that carry an honest node's signature over something that node did not
sign. Peer files change at any time. -/
namespace Anet

open Handshake Packet

/-- The honest nodes and the libraries they share. -/
structure LinkNetwork (ι : Type) where
  lib : LinkLibrary
  nodes : ι → LinkNode

inductive Stage | running | returned | failed
  deriving DecidableEq

/-- An accepted answer, with the peer files that were read for it. -/
structure Admission where
  accepted : Accepted
  book : PeerBook

structure ServerSession (ι : Type) where
  node : ι
  nonce : Bytes
  admission : Option Admission
  stage : Stage

/-- A challenge that was answered, with the certificate fingerprint the client saw and
the nonce it drew. -/
structure Answer where
  challenge : Challenge
  observed : Bytes
  clientNonce : Bytes

structure ClientSession (ι : Type) where
  node : ι
  expected : PeerCard
  book : PeerBook
  answer : Option Answer
  stage : Stage

/-- The sessions so far, what the nodes drew and signed, and their peer files. -/
structure LinkWorld (ι : Type) where
  books : ι → PeerBook
  servers : List (ServerSession ι)
  clients : List (ClientSession ι)
  nonces : List Bytes
  signed : List (ι × Bytes)

inductive LinkAction (ι : Type)
  | book (node : ι) (book : PeerBook)
  | sign (node : ι) (message : Bytes)
  | serve (node : ι) (nonce : Bytes)
  | serverFrame (session : ℕ) (frame : Value)
  | serverEnd (session : ℕ) (returns : Bool)
  | lookup (node : ι) (peerId : String)
  | challenge (session : ℕ) (observed nonce : Bytes) (frame : Value)
  | ready (session : ℕ) (frame : Value)
  | clientEnd (session : ℕ)

namespace ServerSession

variable {ι : Type}

def welcome (admission : Admission) (s : ServerSession ι) : ServerSession ι :=
  { s with admission := some admission }

def finish (stage : Stage) (s : ServerSession ι) : ServerSession ι := { s with stage := stage }

end ServerSession

namespace ClientSession

variable {ι : Type}

def reply (answer : Answer) (c : ClientSession ι) : ClientSession ι :=
  { c with answer := some answer }

def finish (stage : Stage) (c : ClientSession ι) : ClientSession ι := { c with stage := stage }

end ClientSession

variable {ι : Type} (net : LinkNetwork ι)

namespace LinkNetwork

def idOf (n : ι) : String := nodeId net.lib (net.nodes n)

/-- The card carries the keys of the node. -/
def Owns (n : ι) (card : PeerCard) : Prop :=
  card.signPublic = (net.nodes n).signPublic ∧ card.boxPublic = (net.nodes n).boxPublic

/-- The bytes that are signed over a list of fields. -/
def packed (fields : List Value) (message : Bytes) : Prop :=
  net.lib.rt.canonicalPack (.list fields) = .ok message

/-- A frame signed in the name of an honest node carries a signature that node made. -/
def Unforged (signed : List (ι × Bytes)) (frame : Value) : Prop :=
  ∀ fields signature n message, frame.asMap = some fields →
    bytesOf net.lib.rt fields "sig" = .ok signature →
    net.lib.crypto.verify (net.nodes n).signPublic signature message = .ok () →
    (n,message) ∈ signed

/-- Packing is unambiguous, and no two nodes share a signing key. -/
structure Sound : Prop where
  injective : ∀ v v' raw, net.lib.rt.packb v = .ok raw → net.lib.rt.packb v' = .ok raw → v = v'
  distinct : ∀ n n', (net.nodes n).signPublic = (net.nodes n').signPublic → n = n'

end LinkNetwork

namespace LinkWorld

variable [DecidableEq ι]

def initial (books : ι → PeerBook) : LinkWorld ι := ⟨books,[],[],[],[]⟩

/-- `_server_handshake` up to its challenge. -/
def serve (w : LinkWorld ι) (n : ι) (nonce : Bytes) : LinkWorld ι :=
  match challengeFrame net.lib (net.nodes n) nonce with
  | .error _ => { w with nonces := nonce :: w.nonces }
  | .ok (_,message) => { w with
      servers := w.servers ++ [⟨n,nonce,none,.running⟩]
      nonces := nonce :: w.nonces
      signed := (n,message) :: w.signed }

/-- The client's frame reaches a server session, which confirms it or fails. -/
def serverFrame (w : LinkWorld ι) (i : ℕ) (frame : Value) : LinkWorld ι :=
  match w.servers[i]? with
  | none => w
  | some s =>
    if s.stage = .running ∧ s.admission.isNone then
      match acceptAuth net.lib (net.nodes s.node) (w.books s.node) s.nonce frame with
      | .error _ => { w with servers := w.servers.modify i (.finish .failed) }
      | .ok accepted =>
        match readyFrame net.lib (net.nodes s.node) s.nonce accepted with
        | .error _ => { w with servers := w.servers.modify i (.finish .failed) }
        | .ok (_,message) => { w with
            servers := w.servers.modify i (.welcome ⟨accepted,w.books s.node⟩)
            signed := (s.node,message) :: w.signed }
    else w

/-- A server session returns the card it confirmed, or its connection breaks. -/
def serverEnd (w : LinkWorld ι) (i : ℕ) (returns : Bool) : LinkWorld ι :=
  match w.servers[i]? with
  | none => w
  | some s =>
    let stage : Stage := if returns ∧ s.admission.isSome then .returned else .failed
    if s.stage = .running then { w with servers := w.servers.modify i (.finish stage) } else w

/-- The caller of `_client_handshake` looks the expected card up. -/
def lookup (w : LinkWorld ι) (n : ι) (peerId : String) : LinkWorld ι :=
  match (w.books n).require peerId with
  | .error _ => w
  | .ok card => { w with clients := w.clients ++ [⟨n,card,w.books n,none,.running⟩] }

/-- The server's challenge reaches a client session, which answers it or fails. -/
def challenge (w : LinkWorld ι) (k : ℕ) (observed nonce : Bytes) (frame : Value) : LinkWorld ι :=
  match w.clients[k]? with
  | none => w
  | some c =>
    if c.stage = .running ∧ c.answer.isNone then
      match acceptChallenge net.lib c.expected observed frame with
      | .error _ => { w with clients := w.clients.modify k (.finish .failed) }
      | .ok challenge =>
        match authFrame net.lib (net.nodes c.node) challenge nonce with
        | .error _ => { w with
            clients := w.clients.modify k (.finish .failed), nonces := nonce :: w.nonces }
        | .ok (_,message) => { w with
            clients := w.clients.modify k (.reply ⟨challenge,observed,nonce⟩)
            nonces := nonce :: w.nonces
            signed := (c.node,message) :: w.signed }
    else w

/-- The server's last frame reaches a client session, which returns or fails. -/
def ready (w : LinkWorld ι) (k : ℕ) (frame : Value) : LinkWorld ι :=
  match w.clients[k]? with
  | none => w
  | some c =>
    match c.answer with
    | none => w
    | some answer =>
      if c.stage = .running then
        match acceptReady net.lib (net.nodes c.node) answer.challenge answer.clientNonce frame with
        | .error _ => { w with clients := w.clients.modify k (.finish .failed) }
        | .ok () => { w with clients := w.clients.modify k (.finish .returned) }
      else w

/-- A client session times out or its connection breaks. -/
def clientEnd (w : LinkWorld ι) (k : ℕ) : LinkWorld ι :=
  match w.clients[k]? with
  | none => w
  | some c =>
    if c.stage = .running then { w with clients := w.clients.modify k (.finish .failed) } else w

def exec (w : LinkWorld ι) : LinkAction ι → LinkWorld ι
  | .book n book => { w with books := Function.update w.books n book }
  | .sign n message => { w with signed := (n,message) :: w.signed }
  | .serve n nonce => w.serve net n nonce
  | .serverFrame i frame => w.serverFrame net i frame
  | .serverEnd i returns => w.serverEnd i returns
  | .lookup n peerId => w.lookup n peerId
  | .challenge k observed nonce frame => w.challenge net k observed nonce frame
  | .ready k frame => w.ready net k frame
  | .clientEnd k => w.clientEnd k

/-- Nonces are fresh, frames are not forged, and what a node signs outside the handshake
is not a handshake message. -/
def Allowed (w : LinkWorld ι) : LinkAction ι → Prop
  | .sign _ message => ∀ fields, LinkFields fields → ¬ net.packed fields message
  | .serve _ nonce => nonce ∉ w.nonces
  | .serverFrame _ frame => net.Unforged w.signed frame
  | .challenge _ _ nonce frame => nonce ∉ w.nonces ∧ net.Unforged w.signed frame
  | .ready _ frame => net.Unforged w.signed frame
  | _ => True

/-- One action of a node or of the adversary. -/
def LinkStep (w w' : LinkWorld ι) : Prop := ∃ a, w.Allowed net a ∧ w' = w.exec net a

end LinkWorld
end Anet
