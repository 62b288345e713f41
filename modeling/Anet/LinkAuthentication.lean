import Anet.LinkRuns

/-! Agreement of the two sides of a link. Each signature is tied to the session that
made it, a session that accepts a signature of an honest node finds it among those
made, and a server's nonce names one session only. -/
namespace Anet

open Handshake Packet PeerBook

namespace Handshake

section Specs

variable {lib : LinkLibrary} {node : LinkNode} {book : PeerBook} {frame : Value}
  {expected : PeerCard} {observed serverNonce clientNonce message : Bytes}
  {accepted : Accepted} {challenge : Challenge}

/-- The frame carries a signature of the message under the key. -/
def Carries (lib : LinkLibrary) (frame : Value) (signPublic message : Bytes) : Prop :=
  ∃ fields signature, frame.asMap = some fields ∧ bytesOf lib.rt fields "sig" = .ok signature ∧
    lib.crypto.verify signPublic signature message = .ok ()

theorem frameOf_ok {tag text : String} {fields : Fields} (h : frameOf tag text frame = .ok fields) :
    frame.asMap = some fields := by
  simp only [frameOf,bind_ok,fetched_ok,raiseIf_ok] at h
  obtain ⟨read,hread,_,-,hval⟩ := h
  cases hval
  exact hread

/-- The server takes the answer of a pinned peer that signed for this very session. -/
theorem acceptAuth_ok (h : acceptAuth lib node book serverNonce frame = .ok accepted) :
    book.Pins accepted.card ∧
      accepted.card.nodeId =
        lib.crypto.deriveNodeId accepted.card.signPublic accepted.card.boxPublic ∧
      ∃ message, lib.rt.canonicalPack (.list (authFields accepted.card.nodeId (nodeId lib node)
          serverNonce accepted.clientNonce node.tlsFingerprint)) = .ok message ∧
        Carries lib frame accepted.card.signPublic message := by
  simp only [acceptAuth,bind_ok,requireSameKeys,raiseIf_ok] at h
  obtain ⟨auth,hframe,card,⟨_,-,hcard⟩,pinned,hpinned,_,hkeys,cn,-,_,-,_,-,_,-,signature,hsig,
    message,hmessage,_,hverify,hval⟩ := h
  cases hval
  exact ⟨⟨pinned,hpinned,not_not.mp hkeys⟩,PeerCard.fromWire_nodeId hcard,message,hmessage,auth,
    signature,frameOf_ok hframe,hsig,hverify⟩

theorem readyFrame_ok {reply : Value × Bytes}
    (h : readyFrame lib node serverNonce accepted = .ok reply) :
    lib.rt.canonicalPack (.list (readyFields (nodeId lib node) accepted.card.nodeId serverNonce
      accepted.clientNonce node.tlsFingerprint)) = .ok reply.2 := by
  simp only [readyFrame,bind_ok] at h
  obtain ⟨message,hmessage,hval⟩ := h
  cases hval
  exact hmessage

theorem challengeFrame_ok {reply : Value × Bytes}
    (h : challengeFrame lib node serverNonce = .ok reply) :
    lib.rt.canonicalPack (.list (challengeFields (nodeId lib node) serverNonce
      node.tlsFingerprint)) = .ok reply.2 := by
  simp only [challengeFrame,bind_ok] at h
  obtain ⟨message,hmessage,hval⟩ := h
  cases hval
  exact hmessage

/-- The client answers the expected peer on the channel it is connected to. -/
theorem acceptChallenge_ok (h : acceptChallenge lib expected observed frame = .ok challenge) :
    challenge.card.nodeId = expected.nodeId ∧ expected.SameKeys challenge.card ∧
      challenge.fingerprint = observed := by
  simp only [acceptChallenge,bind_ok,requireSameKeys,raiseIf_ok] at h
  obtain ⟨_,-,card,-,_,hid,_,hkeys,sn,-,fp,-,_,hbound,_,-,_,-,_,-,hval⟩ := h
  cases hval
  exact ⟨not_not.mp hid,not_not.mp hkeys,not_not.mp (not_or.mp hbound).2⟩

theorem authFrame_ok {reply : Value × Bytes}
    (h : authFrame lib node challenge clientNonce = .ok reply) :
    lib.rt.canonicalPack (.list (authFields (nodeId lib node) challenge.card.nodeId
      challenge.serverNonce clientNonce challenge.fingerprint)) = .ok reply.2 := by
  simp only [authFrame,bind_ok] at h
  obtain ⟨message,hmessage,hval⟩ := h
  cases hval
  exact hmessage

/-- The client returns when the server has signed for this very session. -/
theorem acceptReady_ok (h : acceptReady lib node challenge clientNonce frame = .ok ()) :
    ∃ message, lib.rt.canonicalPack (.list (readyFields challenge.card.nodeId (nodeId lib node)
        challenge.serverNonce clientNonce challenge.fingerprint)) = .ok message ∧
      Carries lib frame challenge.card.signPublic message := by
  simp only [acceptReady,bind_ok,raiseIf_ok] at h
  obtain ⟨ready,hframe,_,-,_,-,_,-,_,-,signature,hsig,message,hmessage,hverify⟩ := h
  exact ⟨message,hmessage,ready,signature,frameOf_ok hframe,hsig,hverify⟩

/-- The lists that are signed hold scalars only, so they are packed as they stand. -/
theorem canonicalPack_link {rt : Runtime} {fields : List Value} (h : LinkFields fields) :
    rt.canonicalPack (.list fields) = rt.packb (.list fields) := by
  cases h <;>
    simp [Runtime.canonicalPack,challengeFields,authFields,readyFields,Value.canonical,
      canonicalItems]

end Specs

end Handshake

variable {ι : Type} {net : LinkNetwork ι}

/-- Two handshake messages with the same bytes say the same. -/
theorem LinkNetwork.Sound.fields_eq (hnet : net.Sound) {fields fields' : List Value}
    {message : Bytes} (h : net.packed fields message) (h' : net.packed fields' message)
    (hl : LinkFields fields) (hl' : LinkFields fields') : fields = fields' := by
  rw [LinkNetwork.packed,canonicalPack_link hl] at h
  rw [LinkNetwork.packed,canonicalPack_link hl'] at h'
  simpa using hnet.injective _ _ _ h h'

namespace LinkWorld

/-- What one action does to the world. -/
inductive LinkChange (net : LinkNetwork ι) (w : LinkWorld ι) : LinkWorld ι → Prop
  | idle (books : ι → PeerBook) (nonces : List Bytes) (hn : w.nonces ⊆ nonces) :
      LinkChange net w { w with books := books, nonces := nonces }
  | sign (n : ι) (message : Bytes)
      (hmessage : ∀ fields, LinkFields fields → ¬ net.packed fields message) :
      LinkChange net w { w with signed := (n,message) :: w.signed }
  | serve (n : ι) (nonce message : Bytes) (hfresh : nonce ∉ w.nonces)
      (hmessage : net.packed (challengeFields (net.idOf n) nonce (net.nodes n).tlsFingerprint)
        message) :
      LinkChange net w { w with
        servers := w.servers ++ [⟨n,nonce,none,.running⟩]
        nonces := nonce :: w.nonces, signed := (n,message) :: w.signed }
  | welcome (i : ℕ) (s : ServerSession ι) (accepted : Accepted) (frame : Value) (message : Bytes)
      (hs : w.servers[i]? = some s) (hnone : s.admission = none)
      (hframe : net.Unforged w.signed frame)
      (haccept : acceptAuth net.lib (net.nodes s.node) (w.books s.node) s.nonce frame =
        .ok accepted)
      (hmessage : net.packed (readyFields (net.idOf s.node) accepted.card.nodeId s.nonce
        accepted.clientNonce (net.nodes s.node).tlsFingerprint) message) :
      LinkChange net w { w with
        servers := w.servers.modify i (.welcome ⟨accepted,w.books s.node⟩)
        signed := (s.node,message) :: w.signed }
  | endServer (i : ℕ) (s : ServerSession ι) (stage : Stage) (hs : w.servers[i]? = some s)
      (hstage : stage = .returned → s.admission.isSome) :
      LinkChange net w { w with servers := w.servers.modify i (.finish stage) }
  | lookup (n : ι) (peerId : String) (card : PeerCard)
      (hcard : (w.books n).require peerId = .ok card) :
      LinkChange net w { w with clients := w.clients ++ [⟨n,card,w.books n,none,.running⟩] }
  | reply (k : ℕ) (c : ClientSession ι) (answer : Answer) (frame : Value) (message : Bytes)
      (hc : w.clients[k]? = some c) (hnone : c.answer = none)
      (haccept : acceptChallenge net.lib c.expected answer.observed frame = .ok answer.challenge)
      (hmessage : net.packed (authFields (net.idOf c.node) answer.challenge.card.nodeId
        answer.challenge.serverNonce answer.clientNonce answer.challenge.fingerprint) message) :
      LinkChange net w { w with
        clients := w.clients.modify k (.reply answer)
        nonces := answer.clientNonce :: w.nonces, signed := (c.node,message) :: w.signed }
  | endClient (k : ℕ) (c : ClientSession ι) (stage : Stage) (nonces : List Bytes)
      (hn : w.nonces ⊆ nonces) (hc : w.clients[k]? = some c)
      (hstage : stage = .returned → ∃ answer frame, c.answer = some answer ∧
        net.Unforged w.signed frame ∧ acceptReady net.lib (net.nodes c.node) answer.challenge
          answer.clientNonce frame = .ok ()) :
      LinkChange net w { w with
        clients := w.clients.modify k (.finish stage), nonces := nonces }

section Changes

variable {w w' : LinkWorld ι}

theorem LinkChange.refl (w : LinkWorld ι) : LinkChange net w w :=
  .idle w.books w.nonces (List.Subset.refl _)

theorem serverFrame_change (i : ℕ) {frame : Value} (hframe : net.Unforged w.signed frame) :
    LinkChange net w (w.serverFrame net i frame) := by
  unfold serverFrame
  split
  · exact .refl w
  · rename_i s hs
    split_ifs with hrun
    · split
      · exact .endServer i s .failed hs nofun
      · rename_i accepted haccept
        split
        · exact .endServer i s .failed hs nofun
        · rename_i reply message hready
          exact .welcome i s accepted frame message hs (Option.isNone_iff_eq_none.mp hrun.2) hframe
            haccept (readyFrame_ok hready)
    · exact .refl w

theorem serverEnd_change (i : ℕ) (returns : Bool) :
    LinkChange net w (w.serverEnd i returns) := by
  unfold serverEnd
  split
  · exact .refl w
  · rename_i s hs
    dsimp only
    split
    · refine .endServer i s _ hs ?_
      intro hreturned
      by_cases hreturn : returns ∧ s.admission.isSome
      · exact hreturn.2
      · rw [if_neg hreturn] at hreturned
        cases hreturned
    · exact .refl w

theorem challenge_change (k : ℕ) (observed nonce : Bytes) (frame : Value) :
    LinkChange net w (w.challenge net k observed nonce frame) := by
  unfold challenge
  split
  · exact .refl w
  · rename_i c hc
    split_ifs with hrun
    · split
      · exact .endClient k c .failed w.nonces (List.Subset.refl _) hc nofun
      · rename_i challenge haccept
        split
        · exact .endClient k c .failed _ (List.subset_cons_self _ _) hc nofun
        · rename_i reply message hauth
          exact .reply k c ⟨challenge,observed,nonce⟩ frame message hc
            (Option.isNone_iff_eq_none.mp hrun.2) haccept (authFrame_ok hauth)
    · exact .refl w

theorem ready_change (k : ℕ) {frame : Value} (hframe : net.Unforged w.signed frame) :
    LinkChange net w (w.ready net k frame) := by
  unfold ready
  split
  · exact .refl w
  · rename_i c hc
    split
    · exact .refl w
    · rename_i answer hanswer
      split_ifs with hrun
      · split
        · exact .endClient k c .failed w.nonces (List.Subset.refl _) hc nofun
        · rename_i hready
          exact .endClient k c .returned w.nonces (List.Subset.refl _) hc fun _ =>
            ⟨answer,frame,hanswer,hframe,hready⟩
      · exact .refl w

/-- Every action makes one of the changes. -/
theorem link_change [DecidableEq ι] (h : LinkStep net w w') : LinkChange net w w' := by
  obtain ⟨a,ha,rfl⟩ := h
  cases a with
  | book n book => exact .idle _ w.nonces (List.Subset.refl _)
  | sign n message => exact .sign n message ha
  | serve n nonce =>
    change LinkChange net w (w.serve net n nonce)
    unfold serve
    split
    · exact .idle w.books _ (List.subset_cons_self _ _)
    · rename_i reply message hchallenge
      exact .serve n nonce message ha (challengeFrame_ok hchallenge)
  | serverFrame i frame => exact serverFrame_change i ha
  | serverEnd i returns => exact serverEnd_change i returns
  | lookup n peerId =>
    change LinkChange net w (w.lookup n peerId)
    unfold lookup
    split
    · exact .refl w
    · rename_i card hcard
      exact .lookup n peerId card hcard
  | challenge k observed nonce frame => exact challenge_change k observed nonce frame
  | ready k frame => exact ready_change k ha
  | clientEnd k =>
    change LinkChange net w (w.clientEnd k)
    unfold clientEnd
    split
    · exact .refl w
    · rename_i c hc
      split_ifs
      · exact .endClient k c .failed w.nonces (List.Subset.refl _) hc nofun
      · exact .refl w

end Changes

end LinkWorld

namespace ServerSession

/-- A session keeps its node, its nonce and what it accepted. -/
structure Later (s s' : ServerSession ι) : Prop where
  node : s'.node = s.node
  nonce : s'.nonce = s.nonce
  admission : ∀ a, s.admission = some a → s'.admission = some a

theorem Later.refl (s : ServerSession ι) : Later s s := ⟨rfl,rfl,fun _ h => h⟩

/-- What a server accepted: a pinned peer's answer, signed by the node it is the card of. -/
structure Sound (net : LinkNetwork ι) (signed : List (ι × Bytes)) (s : ServerSession ι) :
    Prop where
  returned : s.stage = .returned → s.admission.isSome
  pinned : ∀ a, s.admission = some a → a.book.Pins a.accepted.card
  named : ∀ a, s.admission = some a → a.accepted.card.nodeId =
    net.lib.crypto.deriveNodeId a.accepted.card.signPublic a.accepted.card.boxPublic
  signed : ∀ a n, s.admission = some a → net.Owns n a.accepted.card →
    ∃ message, (n,message) ∈ signed ∧ net.packed (authFields a.accepted.card.nodeId
      (net.idOf s.node) s.nonce a.accepted.clientNonce (net.nodes s.node).tlsFingerprint) message

theorem Sound.mono {signed signed' : List (ι × Bytes)} {s : ServerSession ι}
    (h : s.Sound net signed) (hsub : signed ⊆ signed') : s.Sound net signed' := by
  refine ⟨h.returned,h.pinned,h.named,?_⟩
  intro a n ha hn
  obtain ⟨message,hmem,hpack⟩ := h.signed a n ha hn
  exact ⟨message,hsub hmem,hpack⟩

end ServerSession

namespace ClientSession

structure Later (c c' : ClientSession ι) : Prop where
  node : c'.node = c.node
  expected : c'.expected = c.expected
  answer : ∀ a, c.answer = some a → c'.answer = some a

theorem Later.refl (c : ClientSession ι) : Later c c := ⟨rfl,rfl,fun _ h => h⟩

/-- What a client answered: the expected, pinned peer over the certificate it saw; and
it returns only to a confirmation that peer signed. -/
structure Sound (net : LinkNetwork ι) (signed : List (ι × Bytes)) (c : ClientSession ι) :
    Prop where
  pinned : c.book.Pins c.expected
  answered : ∀ a, c.answer = some a → a.challenge.card.nodeId = c.expected.nodeId ∧
    c.expected.SameKeys a.challenge.card ∧ a.challenge.fingerprint = a.observed
  returned : c.stage = .returned → c.answer.isSome
  signed : c.stage = .returned → ∀ a n, c.answer = some a → net.Owns n a.challenge.card →
    ∃ message, (n,message) ∈ signed ∧ net.packed (readyFields a.challenge.card.nodeId
      (net.idOf c.node) a.challenge.serverNonce a.clientNonce a.challenge.fingerprint) message

theorem Sound.mono {signed signed' : List (ι × Bytes)} {c : ClientSession ι}
    (h : c.Sound net signed) (hsub : signed ⊆ signed') : c.Sound net signed' := by
  refine ⟨h.pinned,h.answered,h.returned,?_⟩
  intro hreturned a n ha hn
  obtain ⟨message,hmem,hpack⟩ := h.signed hreturned a n ha hn
  exact ⟨message,hsub hmem,hpack⟩

end ClientSession

namespace LinkWorld

/-- A client session of the node answered the server with these nonces. -/
def Answered (w : LinkWorld ι) (n : ι) (serverId : String)
    (serverNonce clientNonce fingerprint : Bytes) : Prop :=
  ∃ (k : ℕ) (c : ClientSession ι) (a : Answer), w.clients[k]? = some c ∧ c.node = n ∧
    c.answer = some a ∧ a.challenge.card.nodeId = serverId ∧
    a.challenge.serverNonce = serverNonce ∧ a.clientNonce = clientNonce ∧
    a.challenge.fingerprint = fingerprint

/-- A server session of the node confirmed the client with these nonces. -/
def Confirmed (net : LinkNetwork ι) (w : LinkWorld ι) (n : ι) (clientId : String)
    (serverNonce clientNonce fingerprint : Bytes) : Prop :=
  ∃ (i : ℕ) (s : ServerSession ι) (a : Admission), w.servers[i]? = some s ∧ s.node = n ∧
    s.admission = some a ∧ a.accepted.card.nodeId = clientId ∧ s.nonce = serverNonce ∧
    a.accepted.clientNonce = clientNonce ∧ (net.nodes n).tlsFingerprint = fingerprint

/-- The past of a world is kept. -/
structure Extends (w w' : LinkWorld ι) : Prop where
  servers : Grows ServerSession.Later w.servers w'.servers
  clients : Grows ClientSession.Later w.clients w'.clients
  signed : w.signed ⊆ w'.signed

/-- What the signatures made so far stand for, and what the sessions rest on. -/
structure Linked (net : LinkNetwork ι) (w : LinkWorld ι) : Prop where
  auth : ∀ n message clientId serverId serverNonce clientNonce fingerprint,
    (n,message) ∈ w.signed →
    net.packed (authFields clientId serverId serverNonce clientNonce fingerprint) message →
    clientId = net.idOf n ∧ w.Answered n serverId serverNonce clientNonce fingerprint
  ready : ∀ n message serverId clientId serverNonce clientNonce fingerprint,
    (n,message) ∈ w.signed →
    net.packed (readyFields serverId clientId serverNonce clientNonce fingerprint) message →
    serverId = net.idOf n ∧ w.Confirmed net n clientId serverNonce clientNonce fingerprint
  servers : ∀ (i : ℕ) (s : ServerSession ι), w.servers[i]? = some s → s.Sound net w.signed
  clients : ∀ (k : ℕ) (c : ClientSession ι), w.clients[k]? = some c → c.Sound net w.signed
  drawn : ∀ (i : ℕ) (s : ServerSession ι), w.servers[i]? = some s → s.nonce ∈ w.nonces
  distinct : ∀ (i j : ℕ) (s t : ServerSession ι), w.servers[i]? = some s → w.servers[j]? = some t →
    s.nonce = t.nonce → i = j

section Invariant

variable {w w' : LinkWorld ι}

theorem Answered.mono {n : ι} {serverId : String} {serverNonce clientNonce fingerprint : Bytes}
    (h : w.Answered n serverId serverNonce clientNonce fingerprint) (he : w.Extends w') :
    w'.Answered n serverId serverNonce clientNonce fingerprint := by
  obtain ⟨k,c,a,hc,hn,ha,hrest⟩ := h
  obtain ⟨c',hc',hlater⟩ := he.clients k c hc
  exact ⟨k,c',a,hc',hlater.node.trans hn,hlater.answer a ha,hrest⟩

theorem Confirmed.mono {n : ι} {clientId : String} {serverNonce clientNonce fingerprint : Bytes}
    (h : w.Confirmed net n clientId serverNonce clientNonce fingerprint) (he : w.Extends w') :
    w'.Confirmed net n clientId serverNonce clientNonce fingerprint := by
  obtain ⟨i,s,a,hs,hn,ha,hid,hnonce,hrest⟩ := h
  obtain ⟨s',hs',hlater⟩ := he.servers i s hs
  exact ⟨i,s',a,hs',hlater.node.trans hn,hlater.admission a ha,hid,hlater.nonce.trans hnonce,hrest⟩

theorem LinkChange.extends (h : LinkChange net w w') : w.Extends w' := by
  have hservers := Grows.refl ServerSession.Later.refl w.servers
  have hclients := Grows.refl ClientSession.Later.refl w.clients
  have hsigned := List.Subset.refl w.signed
  cases h with
  | idle => exact ⟨hservers,hclients,hsigned⟩
  | sign => exact ⟨hservers,hclients,List.subset_cons_self _ _⟩
  | serve =>
    exact ⟨Grows.append ServerSession.Later.refl _ _,hclients,List.subset_cons_self _ _⟩
  | welcome i s accepted frame message hs hnone =>
    refine ⟨Grows.modify ServerSession.Later.refl ?_,hclients,List.subset_cons_self _ _⟩
    intro s' hs'
    have hsame : s' = s := Option.some.inj (hs'.symm.trans hs)
    refine ⟨rfl,rfl,?_⟩
    intro a ha
    rw [hsame,hnone] at ha
    cases ha
  | endServer => exact ⟨Grows.modify ServerSession.Later.refl fun s _ => ⟨rfl,rfl,fun _ h => h⟩,
      hclients,hsigned⟩
  | lookup => exact ⟨hservers,Grows.append ClientSession.Later.refl _ _,hsigned⟩
  | reply k c answer frame message hc hnone =>
    refine ⟨hservers,Grows.modify ClientSession.Later.refl ?_,List.subset_cons_self _ _⟩
    intro c' hc'
    have hsame : c' = c := Option.some.inj (hc'.symm.trans hc)
    refine ⟨rfl,rfl,?_⟩
    intro a ha
    rw [hsame,hnone] at ha
    cases ha
  | endClient => exact ⟨hservers,Grows.modify ClientSession.Later.refl fun c _ =>
      ⟨rfl,rfl,fun _ h => h⟩,hsigned⟩

/-- A message made in a step: outside the handshake, or for the session that made it. -/
theorem signed_change (h : LinkChange net w w') {n : ι} {message : Bytes}
    (hmem : (n,message) ∈ w'.signed) : (n,message) ∈ w.signed ∨
      (∀ fields, LinkFields fields → ¬ net.packed fields message) ∨
      (∃ nonce, net.packed (challengeFields (net.idOf n) nonce (net.nodes n).tlsFingerprint)
        message) ∨
      (∃ clientId serverNonce clientNonce, w'.Confirmed net n clientId serverNonce clientNonce
        (net.nodes n).tlsFingerprint ∧ net.packed (readyFields (net.idOf n) clientId serverNonce
          clientNonce (net.nodes n).tlsFingerprint) message) ∨
      ∃ serverId serverNonce clientNonce fingerprint,
        w'.Answered n serverId serverNonce clientNonce fingerprint ∧
        net.packed (authFields (net.idOf n) serverId serverNonce clientNonce fingerprint)
          message := by
  cases h with
  | idle => exact Or.inl hmem
  | endServer => exact Or.inl hmem
  | lookup => exact Or.inl hmem
  | endClient => exact Or.inl hmem
  | sign n' message' hmessage =>
    rcases List.mem_cons.mp hmem with heq | hold
    · cases heq
      exact Or.inr (Or.inl hmessage)
    · exact Or.inl hold
  | serve n' nonce message' hfresh hmessage =>
    rcases List.mem_cons.mp hmem with heq | hold
    · cases heq
      exact Or.inr (Or.inr (Or.inl ⟨nonce,hmessage⟩))
    · exact Or.inl hold
  | welcome i s accepted frame message' hs hnone hframe haccept hmessage =>
    rcases List.mem_cons.mp hmem with heq | hold
    · cases heq
      have hslot : (w.servers.modify i (.welcome ⟨accepted,w.books s.node⟩))[i]? =
          some (s.welcome ⟨accepted,w.books s.node⟩) := by simp [hs]
      exact Or.inr (Or.inr (Or.inr (Or.inl ⟨accepted.card.nodeId,s.nonce,accepted.clientNonce,
        ⟨i,_,⟨accepted,w.books s.node⟩,hslot,rfl,rfl,rfl,rfl,rfl,rfl⟩,hmessage⟩)))
    · exact Or.inl hold
  | reply k c answer frame message' hc hnone haccept hmessage =>
    rcases List.mem_cons.mp hmem with heq | hold
    · cases heq
      have hslot : (w.clients.modify k (.reply answer))[k]? = some (c.reply answer) := by
        simp [hc]
      exact Or.inr (Or.inr (Or.inr (Or.inr ⟨answer.challenge.card.nodeId,
        answer.challenge.serverNonce,answer.clientNonce,answer.challenge.fingerprint,
        ⟨k,_,answer,hslot,rfl,rfl,rfl,rfl,rfl,rfl⟩,hmessage⟩)))
    · exact Or.inl hold

theorem auth_change (hnet : net.Sound) (hw : w.Linked net) (h : LinkChange net w w') {n : ι}
    {message : Bytes} {clientId serverId : String} {serverNonce clientNonce fingerprint : Bytes}
    (hmem : (n,message) ∈ w'.signed)
    (hpack : net.packed (authFields clientId serverId serverNonce clientNonce fingerprint)
      message) :
    clientId = net.idOf n ∧ w'.Answered n serverId serverNonce clientNonce fingerprint := by
  rcases signed_change h hmem with hold | hother | ⟨_,hp⟩ | ⟨_,_,_,-,hp⟩ | ⟨_,_,_,_,hanswered,hp⟩
  · obtain ⟨hid,hanswered⟩ := hw.auth _ _ _ _ _ _ _ hold hpack
    exact ⟨hid,hanswered.mono h.extends⟩
  · exact absurd hpack (hother _ (.auth ..))
  · have heq := hnet.fields_eq hpack hp (.auth ..) (.challenge ..)
    simp [authFields,challengeFields] at heq
  · have heq := hnet.fields_eq hpack hp (.auth ..) (.ready ..)
    simp [authFields,readyFields] at heq
  · have heq := hnet.fields_eq hpack hp (.auth ..) (.auth ..)
    simp only [authFields,List.cons.injEq,Value.str.injEq,Value.bin.injEq,true_and,and_true] at heq
    obtain ⟨rfl,rfl,rfl,rfl,rfl⟩ := heq
    exact ⟨rfl,hanswered⟩

theorem ready_message_change (hnet : net.Sound) (hw : w.Linked net) (h : LinkChange net w w')
    {n : ι} {message : Bytes} {clientId serverId : String}
    {serverNonce clientNonce fingerprint : Bytes} (hmem : (n,message) ∈ w'.signed)
    (hpack : net.packed (readyFields serverId clientId serverNonce clientNonce fingerprint)
      message) :
    serverId = net.idOf n ∧
      w'.Confirmed net n clientId serverNonce clientNonce fingerprint := by
  rcases signed_change h hmem with hold | hother | ⟨_,hp⟩ | ⟨_,_,_,hconfirmed,hp⟩ | ⟨_,_,_,_,-,hp⟩
  · obtain ⟨hid,hconfirmed⟩ := hw.ready _ _ _ _ _ _ _ hold hpack
    exact ⟨hid,hconfirmed.mono h.extends⟩
  · exact absurd hpack (hother _ (.ready ..))
  · have heq := hnet.fields_eq hpack hp (.ready ..) (.challenge ..)
    simp [readyFields,challengeFields] at heq
  · have heq := hnet.fields_eq hpack hp (.ready ..) (.ready ..)
    simp only [readyFields,List.cons.injEq,Value.str.injEq,Value.bin.injEq,true_and,and_true] at heq
    obtain ⟨rfl,rfl,rfl,rfl,rfl⟩ := heq
    exact ⟨rfl,hconfirmed⟩
  · have heq := hnet.fields_eq hpack hp (.ready ..) (.auth ..)
    simp [readyFields,authFields] at heq

/-- A frame that was not forged carries a message its signer made. -/
theorem carried_signed {signed : List (ι × Bytes)} {frame : Value} {n : ι} {card : PeerCard}
    {message : Bytes} (hframe : net.Unforged signed frame) (hn : net.Owns n card)
    (h : Carries net.lib frame card.signPublic message) : (n,message) ∈ signed := by
  obtain ⟨fields,signature,hfields,hsig,hverify⟩ := h
  rw [hn.1] at hverify
  exact hframe fields signature n message hfields hsig hverify

theorem server_sound_change (hw : w.Linked net) (h : LinkChange net w w') {i : ℕ}
    {s : ServerSession ι} (hs : w'.servers[i]? = some s) : s.Sound net w'.signed := by
  have hsub := h.extends.signed
  cases h with
  | idle => exact (hw.servers i s hs).mono hsub
  | sign => exact (hw.servers i s hs).mono hsub
  | lookup => exact (hw.servers i s hs).mono hsub
  | reply => exact (hw.servers i s hs).mono hsub
  | endClient => exact (hw.servers i s hs).mono hsub
  | serve =>
    rcases getElem?_snoc hs with hold | ⟨-,rfl⟩
    · exact (hw.servers i s hold).mono hsub
    · refine ⟨fun hstage => ?_,fun a ha => ?_,fun a ha => ?_,fun a n ha => ?_⟩
      · cases hstage
      all_goals cases ha
  | welcome j t accepted frame message ht hnone hframe haccept =>
    rcases getElem?_modified hs with ⟨hold,-⟩ | ⟨t',ht',rfl,rfl⟩
    · exact (hw.servers i s hold).mono hsub
    · have hsame : t' = t := Option.some.inj (ht'.symm.trans ht)
      subst hsame
      obtain ⟨hpinned,hnamed,message',hpack,hcarries⟩ := acceptAuth_ok haccept
      refine ⟨fun _ => rfl,?_,?_,?_⟩
      · rintro a ⟨⟩
        exact hpinned
      · rintro a ⟨⟩
        exact hnamed
      · rintro a n ⟨⟩ hn
        exact ⟨message',hsub (carried_signed hframe hn hcarries),hpack⟩
  | endServer j t stage ht hstage =>
    rcases getElem?_modified hs with ⟨hold,-⟩ | ⟨t',ht',rfl,rfl⟩
    · exact hw.servers i s hold
    · have hsame : t' = t := Option.some.inj (ht'.symm.trans ht)
      subst hsame
      have hold := hw.servers j t' ht'
      exact ⟨hstage,hold.pinned,hold.named,hold.signed⟩

theorem client_sound_change (hw : w.Linked net) (h : LinkChange net w w') {k : ℕ}
    {c : ClientSession ι} (hc : w'.clients[k]? = some c) : c.Sound net w'.signed := by
  have hsub := h.extends.signed
  cases h with
  | idle => exact (hw.clients k c hc).mono hsub
  | sign => exact (hw.clients k c hc).mono hsub
  | serve => exact (hw.clients k c hc).mono hsub
  | welcome => exact (hw.clients k c hc).mono hsub
  | endServer => exact (hw.clients k c hc).mono hsub
  | lookup n peerId card hcard =>
    rcases getElem?_snoc hc with hold | ⟨-,rfl⟩
    · exact (hw.clients k c hold).mono hsub
    · obtain ⟨-,-,-,-,-,hid,-⟩ := require_ok hcard
      refine ⟨⟨card,?_,rfl,rfl⟩,fun a ha => ?_,fun hstage => ?_,fun hstage => ?_⟩
      · rw [hid]
        exact hcard
      · cases ha
      all_goals cases hstage
  | reply j d answer frame message hd hnone haccept =>
    rcases getElem?_modified hc with ⟨hold,-⟩ | ⟨d',hd',rfl,rfl⟩
    · exact (hw.clients k c hold).mono hsub
    · have hsame : d' = d := Option.some.inj (hd'.symm.trans hd)
      subst hsame
      have hold := hw.clients j d' hd'
      have hrunning : d'.stage ≠ .returned := by
        intro hreturned
        have hsome := hold.returned hreturned
        rw [hnone] at hsome
        cases hsome
      refine ⟨hold.pinned,?_,fun _ => rfl,fun hreturned => absurd hreturned hrunning⟩
      rintro a ⟨⟩
      exact acceptChallenge_ok haccept
  | endClient j d stage nonces hn hd hstage =>
    rcases getElem?_modified hc with ⟨hold,-⟩ | ⟨d',hd',rfl,rfl⟩
    · exact hw.clients k c hold
    · have hsame : d' = d := Option.some.inj (hd'.symm.trans hd)
      subst hsame
      have hold := hw.clients j d' hd'
      refine ⟨hold.pinned,hold.answered,?_,?_⟩
      · intro hreturned
        obtain ⟨answer,_,hanswer,-⟩ := hstage hreturned
        exact Option.isSome_of_eq_some hanswer
      · intro hreturned a n ha hn
        obtain ⟨answer,frame,hanswer,hframe,hready⟩ := hstage hreturned
        have hsame : a = answer := Option.some.inj (ha.symm.trans hanswer)
        subst hsame
        obtain ⟨message,hpack,hcarries⟩ := acceptReady_ok hready
        exact ⟨message,carried_signed hframe hn hcarries,hpack⟩

/-- A server session of the new world: an old one with its nonce, or one with a new nonce. -/
theorem nonce_change (h : LinkChange net w w') {i : ℕ} {s : ServerSession ι}
    (hs : w'.servers[i]? = some s) : (∃ t, w.servers[i]? = some t ∧ s.nonce = t.nonce) ∨
      (i = w.servers.length ∧ s.nonce ∉ w.nonces ∧ s.nonce ∈ w'.nonces ∧
        w'.servers.length = w.servers.length + 1) := by
  cases h with
  | idle => exact Or.inl ⟨s,hs,rfl⟩
  | sign => exact Or.inl ⟨s,hs,rfl⟩
  | lookup => exact Or.inl ⟨s,hs,rfl⟩
  | reply => exact Or.inl ⟨s,hs,rfl⟩
  | endClient => exact Or.inl ⟨s,hs,rfl⟩
  | serve n nonce message hfresh hmessage =>
    rcases getElem?_snoc hs with hold | ⟨hi,rfl⟩
    · exact Or.inl ⟨s,hold,rfl⟩
    · exact Or.inr ⟨hi,hfresh,List.mem_cons_self,by simp⟩
  | welcome =>
    rcases getElem?_modified hs with ⟨hold,-⟩ | ⟨t,ht,-,rfl⟩
    · exact Or.inl ⟨s,hold,rfl⟩
    · exact Or.inl ⟨t,ht,rfl⟩
  | endServer =>
    rcases getElem?_modified hs with ⟨hold,-⟩ | ⟨t,ht,-,rfl⟩
    · exact Or.inl ⟨s,hold,rfl⟩
    · exact Or.inl ⟨t,ht,rfl⟩

theorem linked_change (hnet : net.Sound) (hw : w.Linked net) (h : LinkChange net w w') :
    w'.Linked net := by
  have hnonces : w.nonces ⊆ w'.nonces := by
    cases h with
    | idle _ _ hn => exact hn
    | sign => exact List.Subset.refl _
    | serve => exact List.subset_cons_self _ _
    | welcome => exact List.Subset.refl _
    | endServer => exact List.Subset.refl _
    | lookup => exact List.Subset.refl _
    | reply => exact List.subset_cons_self _ _
    | endClient _ _ _ _ hn => exact hn
  refine ⟨?_,?_,?_,?_,?_,?_⟩
  · intro n message clientId serverId serverNonce clientNonce fingerprint hmem hpack
    exact auth_change hnet hw h hmem hpack
  · intro n message serverId clientId serverNonce clientNonce fingerprint hmem hpack
    exact ready_message_change hnet hw h hmem hpack
  · intro i s hs
    exact server_sound_change hw h hs
  · intro k c hc
    exact client_sound_change hw h hc
  · intro i s hs
    rcases nonce_change h hs with ⟨t,ht,hnonce⟩ | ⟨-,-,hnew,-⟩
    · rw [hnonce]
      exact hnonces (hw.drawn i t ht)
    · exact hnew
  · intro i j s t hs ht hst
    rcases nonce_change h hs with ⟨s',hs',hnonce⟩ | ⟨hi,hfresh,-⟩ <;>
      rcases nonce_change h ht with ⟨t',ht',hnonce'⟩ | ⟨hj,hfresh',-⟩
    · exact hw.distinct i j s' t' hs' ht' (hnonce.symm.trans (hst.trans hnonce'))
    · rw [← hst,hnonce] at hfresh'
      exact absurd (hw.drawn i s' hs') hfresh'
    · rw [hst,hnonce'] at hfresh
      exact absurd (hw.drawn j t' ht') hfresh
    · exact hi.trans hj.symm

theorem linked_initial (books : ι → PeerBook) : (initial books).Linked net := by
  refine ⟨?_,?_,?_,?_,?_,?_⟩ <;> simp [initial]

theorem linked_reaches [DecidableEq ι] (hnet : net.Sound) {books : ι → PeerBook}
    (h : Reaches (LinkStep net) (initial books) w) : w.Linked net := by
  refine Reaches.invariant (I := fun v => v.Linked net) ?_ (linked_initial books) h
  intro v v' hv hstep
  exact linked_change hnet hv (link_change hstep)

end Invariant

/-- The client session ran for the server's node and certificate, and the two sessions
share both nonces. -/
structure Agrees (net : LinkNetwork ι) (s : ServerSession ι) (a : Admission) (c : ClientSession ι)
    (b : Answer) : Prop where
  intended : c.expected.nodeId = net.idOf s.node
  fingerprint : b.observed = (net.nodes s.node).tlsFingerprint
  serverNonce : b.challenge.serverNonce = s.nonce
  clientNonce : b.clientNonce = a.accepted.clientNonce

/-- Agreement of the two sides, and what a returned session read in the peer files. -/
structure Authenticated (net : LinkNetwork ι) (w : LinkWorld ι) : Prop where
  server : ∀ (i : ℕ) s a n, w.servers[i]? = some s → s.stage = .returned →
    s.admission = some a → net.Owns n a.accepted.card →
    ∃ (k : ℕ) (c : ClientSession ι) (b : Answer), w.clients[k]? = some c ∧ c.node = n ∧
      c.answer = some b ∧ Agrees net s a c b
  injective : ∀ (i j k : ℕ) s t a a' c b, w.servers[i]? = some s → w.servers[j]? = some t →
    s.stage = .returned → t.stage = .returned → s.admission = some a → t.admission = some a' →
    w.clients[k]? = some c → c.answer = some b → Agrees net s a c b → Agrees net t a' c b → i = j
  client : ∀ (k : ℕ) c b n, w.clients[k]? = some c → c.stage = .returned → c.answer = some b →
    net.Owns n c.expected → ∃ (i : ℕ) (s : ServerSession ι) (a : Admission),
      w.servers[i]? = some s ∧ s.node = n ∧ s.admission = some a ∧
      a.accepted.card.nodeId = net.idOf c.node ∧ Agrees net s a c b
  serverPeer : ∀ (i : ℕ) s, w.servers[i]? = some s → s.stage = .returned →
    ∃ a, s.admission = some a ∧ a.book.Pins a.accepted.card ∧
      ¬ a.book.Revoked a.accepted.card.nodeId
  clientPeer : ∀ (k : ℕ) c, w.clients[k]? = some c → c.stage = .returned →
    ∃ b, c.answer = some b ∧ c.book.Pins b.challenge.card ∧
      ¬ c.book.Revoked b.challenge.card.nodeId

theorem Linked.authenticated {w : LinkWorld ι} (hw : w.Linked net) : w.Authenticated net := by
  refine ⟨?_,?_,?_,?_,?_⟩
  · intro i s a n hs hreturned ha hn
    obtain ⟨message,hmem,hpack⟩ := (hw.servers i s hs).signed a n ha hn
    obtain ⟨-,k,c,b,hc,hnode,hb,hid,hsn,hcn,hfp⟩ := hw.auth _ _ _ _ _ _ _ hmem hpack
    obtain ⟨hexpected,-,hobserved⟩ := (hw.clients k c hc).answered b hb
    exact ⟨k,c,b,hc,hnode,hb,hexpected.symm.trans hid,hobserved.symm.trans hfp,hsn,hcn⟩
  · intro i j k s t a a' c b hs ht hreturned hreturned' ha ha' hc hb h h'
    exact hw.distinct i j s t hs ht (h.serverNonce.symm.trans h'.serverNonce)
  · intro k c b n hc hreturned hb hn
    have hsound := hw.clients k c hc
    obtain ⟨hexpected,hkeys,hobserved⟩ := hsound.answered b hb
    have howns : net.Owns n b.challenge.card := ⟨hkeys.1.symm.trans hn.1,hkeys.2.symm.trans hn.2⟩
    obtain ⟨message,hmem,hpack⟩ := hsound.signed hreturned b n hb howns
    obtain ⟨hid,i,s,a,hs,hnode,ha,hclient,hsn,hcn,hfp⟩ := hw.ready _ _ _ _ _ _ _ hmem hpack
    refine ⟨i,s,a,hs,hnode,ha,hclient,?_,?_,hsn.symm,hcn.symm⟩
    · rw [hnode,← hexpected,hid]
    · rw [hnode,hfp,hobserved]
  · intro i s hs hreturned
    have hsound := hw.servers i s hs
    obtain ⟨a,ha⟩ := Option.isSome_iff_exists.mp (hsound.returned hreturned)
    have hpins := hsound.pinned a ha
    exact ⟨a,ha,hpins,hpins.not_revoked⟩
  · intro k c hc hreturned
    have hsound := hw.clients k c hc
    obtain ⟨b,hb⟩ := Option.isSome_iff_exists.mp (hsound.returned hreturned)
    obtain ⟨hid,hkeys,-⟩ := hsound.answered b hb
    have hpins : c.book.Pins b.challenge.card := by
      obtain ⟨pinned,hpinned,hsame⟩ := hsound.pinned
      rw [← hid] at hpinned
      exact ⟨pinned,hpinned,hsame.1.trans hkeys.1,hsame.2.trans hkeys.2⟩
    exact ⟨b,hb,hpins,hpins.not_revoked⟩

section Sample

/-- The world after the first `n` actions of a script. -/
def after [DecidableEq ι] (net : LinkNetwork ι) (actions : List (LinkAction ι))
    (w : LinkWorld ι) : ℕ → LinkWorld ι
  | 0 => w
  | n + 1 => match actions[n]? with
    | some a => (after net actions w n).exec net a
    | none => after net actions w n

theorem after_reaches [DecidableEq ι] {actions : List (LinkAction ι)} {w : LinkWorld ι}
    (h : ∀ (n : ℕ) a, actions[n]? = some a → (after net actions w n).Allowed net a) (n : ℕ) :
    Reaches (LinkStep net) w (after net actions w n) := by
  induction n with
  | zero => exact .refl
  | succ n ih =>
    rw [after]
    split
    · rename_i a ha
      exact ih.tail ⟨a,h n a ha,rfl⟩
    · exact ih

/-- Only a change of the peer files changes them. -/
theorem exec_books [DecidableEq ι] (w : LinkWorld ι) {a : LinkAction ι}
    (h : ∀ n book, a ≠ .book n book) : (w.exec net a).books = w.books := by
  cases a with
  | book n book => exact absurd rfl (h n book)
  | sign => rfl
  | serve n nonce =>
    change (w.serve net n nonce).books = _
    unfold serve
    split <;> rfl
  | serverFrame i frame =>
    change (w.serverFrame net i frame).books = _
    unfold serverFrame
    repeat' split
    all_goals rfl
  | serverEnd i returns =>
    change (w.serverEnd i returns).books = _
    unfold serverEnd
    dsimp only
    repeat' split
    all_goals rfl
  | lookup n peerId =>
    change (w.lookup n peerId).books = _
    unfold lookup
    split <;> rfl
  | challenge k observed nonce frame =>
    change (w.challenge net k observed nonce frame).books = _
    unfold challenge
    repeat' split
    all_goals rfl
  | ready k frame =>
    change (w.ready net k frame).books = _
    unfold ready
    repeat' split
    all_goals rfl
  | clientEnd k =>
    change (w.clientEnd k).books = _
    unfold clientEnd
    repeat' split
    all_goals rfl

theorem after_books [DecidableEq ι] {actions : List (LinkAction ι)} (w : LinkWorld ι)
    (h : ∀ a ∈ actions, ∀ n book, a ≠ .book n book) (n : ℕ) :
    (after net actions w n).books = w.books := by
  induction n with
  | zero => rfl
  | succ n ih =>
    rw [after]
    split
    · rename_i a ha
      exact (exec_books _ (h a (List.mem_of_getElem? ha))).trans ih
    · exact ih

def plainNode (n : UInt8) : LinkNode where
  signPublic := List.replicate 32 n
  boxPublic := List.replicate 32 (n + 1)
  card := plainCard (List.replicate 32 n) (List.replicate 32 (n + 1))
  tlsFingerprint := List.replicate 32 (n + 2)
  sign message := List.replicate 32 n ++ message

/-- A client `false` and a server `true`. -/
def twoNodes : LinkNetwork Bool where
  lib := ⟨.msgpack,plainCrypto,plainUrls⟩
  nodes n := if n then plainNode 20 else plainNode 10

theorem twoNodes_sound : twoNodes.Sound := by
  refine ⟨fun v v' raw hv hv' => packValue_injective hv hv',?_⟩
  decide

def pinningBook (n : Bool) : PeerBook :=
  ⟨twoNodes.idOf n,none,some (.ok [(twoNodes.nodes (!n)).card])⟩

/-- The client's files after the server was revoked. -/
def revokingBook : PeerBook :=
  ⟨twoNodes.idOf false,some (.ok ⟨1,[twoNodes.idOf true]⟩),some (.ok [])⟩

def serverDraw : Bytes := List.replicate 32 7
def clientDraw : Bytes := List.replicate 32 8

def frameOut (r : Result (Value × Bytes)) : Value × Bytes := r.toOption.getD (.nil,[])

def challengeOut : Value × Bytes := frameOut (challengeFrame twoNodes.lib (plainNode 20) serverDraw)

def authOut : Value × Bytes :=
  frameOut (authFrame twoNodes.lib (plainNode 10)
    ⟨(plainNode 20).card,serverDraw,(plainNode 20).tlsFingerprint⟩ clientDraw)

def readyOut : Value × Bytes :=
  frameOut (readyFrame twoNodes.lib (plainNode 20) serverDraw ⟨(plainNode 10).card,clientDraw⟩)

/-- One handshake between the two nodes, once the client has looked the server up. -/
def handshakeActions : List (LinkAction Bool) :=
  [.serve true serverDraw,.challenge 0 (plainNode 20).tlsFingerprint clientDraw challengeOut.1,
    .serverFrame 0 authOut.1,.ready 0 readyOut.1,.serverEnd 0 true]

/-- The client has looked the server up, and perhaps the server was revoked since. -/
def lookedUp (revoked : Bool) : LinkWorld Bool :=
  after twoNodes (if revoked then [.lookup false (twoNodes.idOf true),.book false revokingBook]
    else [.lookup false (twoNodes.idOf true)]) (initial pinningBook) 2

def handshakeAfter (revoked : Bool) : ℕ → LinkWorld Bool :=
  after twoNodes handshakeActions (lookedUp revoked)

/-- A frame with a signature that is in the list is not forged. -/
theorem twoNodes_unforged (n : Bool) (message : Bytes) {signed : List (Bool × Bytes)}
    {frame : Value}
    (hsig : bytesOf .msgpack (frame.asMap.getD []) "sig" =
      .ok ((twoNodes.nodes n).signPublic ++ message))
    (hmem : (n,message) ∈ signed) : twoNodes.Unforged signed frame := by
  intro fields signature n' message' hfields hsig' hverify
  rw [hfields,Option.getD_some] at hsig
  have hsame : signature = (twoNodes.nodes n).signPublic ++ message :=
    Except.ok.inj (hsig'.symm.trans hsig)
  have hform : signature = (twoNodes.nodes n').signPublic ++ message' := by
    by_contra hne
    change plainCrypto.verify _ _ _ = _ at hverify
    simp [plainCrypto,hne] at hverify
  have hlength : (twoNodes.nodes n).signPublic.length = (twoNodes.nodes n').signPublic.length := by
    cases n <;> cases n' <;> rfl
  obtain ⟨hkey,hmessage⟩ := List.append_inj (hsame.symm.trans hform) hlength
  rw [twoNodes_sound.distinct n' n hkey.symm,← hmessage]
  exact hmem

theorem lookedUp_reaches (revoked : Bool) :
    Reaches (LinkStep twoNodes) (initial pinningBook) (lookedUp revoked) := by
  refine after_reaches ?_ 2
  intro n a ha
  have hmem := List.mem_of_getElem? ha
  cases revoked with
  | true =>
    simp only [if_true,List.mem_cons,List.not_mem_nil,or_false] at hmem
    rcases hmem with rfl | rfl <;> trivial
  | false =>
    simp only [Bool.false_eq_true,if_false,List.mem_singleton] at hmem
    rw [hmem]
    trivial

theorem handshake_reaches (revoked : Bool) (n : ℕ) :
    Reaches (LinkStep twoNodes) (lookedUp revoked) (handshakeAfter revoked n) := by
  have hdraws : ∀ revoked, serverDraw ∉ (handshakeAfter revoked 0).nonces ∧
      clientDraw ∉ (handshakeAfter revoked 1).nonces := by decide +kernel
  have hchallenge : bytesOf .msgpack (challengeOut.1.asMap.getD []) "sig" =
      .ok ((twoNodes.nodes true).signPublic ++ challengeOut.2) := by decide +kernel
  have hauth : bytesOf .msgpack (authOut.1.asMap.getD []) "sig" =
      .ok ((twoNodes.nodes false).signPublic ++ authOut.2) := by decide +kernel
  have hready : bytesOf .msgpack (readyOut.1.asMap.getD []) "sig" =
      .ok ((twoNodes.nodes true).signPublic ++ readyOut.2) := by decide +kernel
  have hmade : ∀ revoked, (true,challengeOut.2) ∈ (handshakeAfter revoked 1).signed ∧
      (false,authOut.2) ∈ (handshakeAfter revoked 2).signed ∧
      (true,readyOut.2) ∈ (handshakeAfter revoked 3).signed := by decide +kernel
  obtain ⟨hserverDraw,hclientDraw⟩ := hdraws revoked
  obtain ⟨hfirst,hsecond,hthird⟩ := hmade revoked
  refine after_reaches ?_ n
  intro n a ha
  match n with
  | 0 =>
    obtain rfl : LinkAction.serve true serverDraw = a := Option.some.inj ha
    exact hserverDraw
  | 1 =>
    obtain rfl := Option.some.inj ha
    exact ⟨hclientDraw,twoNodes_unforged true challengeOut.2 hchallenge hfirst⟩
  | 2 =>
    obtain rfl := Option.some.inj ha
    exact twoNodes_unforged false authOut.2 hauth hsecond
  | 3 =>
    obtain rfl := Option.some.inj ha
    exact twoNodes_unforged true readyOut.2 hready hthird
  | 4 =>
    obtain rfl := Option.some.inj ha
    trivial
  | n + 5 => cases ha

end Sample

/-- In every run, whatever the adversary delivers, the two sides of a completed handshake
agree, and its peer was pinned with these keys and not revoked when the session looked. -/
theorem link_authenticated [DecidableEq ι] (hnet : net.Sound) (books : ι → PeerBook)
    (w : LinkWorld ι) (h : Reaches (LinkStep net) (initial books) w) : w.Authenticated net :=
  (linked_reaches hnet h).authenticated

theorem link_authenticated_sample :
    (handshakeAfter false 5).Authenticated twoNodes ∧
      (handshakeAfter false 5).servers.map ServerSession.stage = [.returned] ∧
      (handshakeAfter false 5).clients.map ClientSession.stage = [.returned] :=
  ⟨link_authenticated twoNodes_sound pinningBook _
    ((lookedUp_reaches false).trans (handshake_reaches false 5)),
    by decide +kernel,by decide +kernel⟩

/-- The card a client was given is not looked up again: a server revoked before the first
frame of the handshake completes it. -/
theorem revoked_server_returns : ∃ w w' : LinkWorld Bool,
    Reaches (LinkStep twoNodes) (initial pinningBook) w ∧ Reaches (LinkStep twoNodes) w w' ∧
      (w.books false).Revoked (twoNodes.idOf true) ∧ w.clients.map ClientSession.stage = [.running] ∧
      w.clients.map (fun c => c.answer.isSome) = [false] ∧
      (w'.books false).Revoked (twoNodes.idOf true) ∧
      w'.clients.map (fun c => (c.stage,c.expected.nodeId)) = [(.returned,twoNodes.idOf true)] := by
  have hrevoked : ((lookedUp true).books false).Revoked (twoNodes.idOf true) :=
    ⟨[twoNodes.idOf true],by decide +kernel,by simp⟩
  have hbooks : (handshakeAfter true 5).books = (lookedUp true).books := by
    refine after_books _ ?_ 5
    intro a ha n book
    simp only [handshakeActions,List.mem_cons,List.not_mem_nil,or_false] at ha
    rcases ha with rfl | rfl | rfl | rfl | rfl <;> nofun
  refine ⟨lookedUp true,handshakeAfter true 5,lookedUp_reaches true,handshake_reaches true 5,
    hrevoked,by decide +kernel,by decide +kernel,?_,by decide +kernel⟩
  rw [hbooks]
  exact hrevoked

end LinkWorld
end Anet
