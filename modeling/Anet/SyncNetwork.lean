import Anet.CarrierRoundTrip
import Anet.PacketOpening
import Anet.RunHistory
import Anet.StoreCustody

/-! Nodes that hand each other packets: sync sessions over links, of which each side handles the
packets of a batch one by one, and carriers that keep the frames of one node for another. A node
that does not run the program sends whatever it likes. -/
namespace Anet

open PacketStore Packet

/-- An entry of a batch: a packet and the depth it arrives at. -/
structure SyncItem where
  raw : Bytes
  depth : ℤ

def PendingPacket.item (p : PendingPacket) : SyncItem := ⟨p.raw,p.depth + 1⟩

/-- A packet that one node hands to another, or its acknowledgement. -/
inductive Frame
  | packet (sender recipient : String) (item : SyncItem)
  | ack (sender recipient packetId : String)

def Frame.sender : Frame → String
  | .packet sender _ _ => sender
  | .ack sender _ _ => sender

/-- How far a session has come. The server handles the request; its reply acknowledges what it has
taken; the client marks that, handles the packets of the reply and acknowledges them in turn. -/
inductive SyncStage
  | connected
  | request (todo : List SyncItem) (taken : List String)
  | reply (acked : List String) (items : List SyncItem) (sent : List String)
  | settling (todo : List SyncItem) (taken sent : List String)
  | closed

/-- The stage after a batch arrives: `_receive_items` raises when the batch is too large. -/
def SyncStage.within (maxBatch : ℤ) (items : List SyncItem) (next : SyncStage) : SyncStage :=
  if maxBatch < items.length then .closed else next

/-- A connection of two nodes that have authenticated each other. -/
structure SyncSession where
  client : String
  server : String
  pathId : String
  outgoing : List String
  stage : SyncStage

/-- What is on its way in a session. -/
def SyncSession.frames (x : SyncSession) : List Frame :=
  match x.stage with
  | .connected | .closed => []
  | .request todo taken =>
    todo.map (.packet x.client x.server) ++ taken.map (.ack x.server x.client)
  | .reply acked items _ =>
    items.map (.packet x.server x.client) ++ acked.map (.ack x.server x.client)
  | .settling todo taken _ =>
    todo.map (.packet x.server x.client) ++ taken.map (.ack x.client x.server)

/-- Nodes with their identities and limits; which of them run the program, and the packets that each
puts out itself, sealed or imported. -/
structure Mesh where
  rt : Runtime
  crypto : Crypto
  identity : String → Identity
  named : ∀ n, (identity n).nodeId = n
  maxBatch : String → ℤ
  runs : String → Prop
  puts : String → Bytes → Prop

def Mesh.opener (M : Mesh) (n : String) : Opener := ⟨M.rt,M.crypto,M.identity n⟩

/-- The stores of the nodes, the packets that each has still to process from its own spool, the
sessions, and the frames that carriers keep. -/
structure MeshState where
  store : String → PacketStore
  spool : String → List Bytes
  sessions : List SyncSession
  mail : List Frame

namespace MeshState

def empty : MeshState := ⟨fun _ => .empty,fun _ => [],[],[]⟩

def withStore (w : MeshState) (n : String) (s : PacketStore) : MeshState :=
  { w with store := Function.update w.store n s }

/-- One side of a session has done its part. -/
def turn (w : MeshState) (i : ℕ) (n : String) (s : PacketStore) (x : SyncSession) : MeshState :=
  { w with store := Function.update w.store n s, sessions := w.sessions.set i x }

/-- The frame is on its way. -/
def Carries (w : MeshState) (f : Frame) : Prop :=
  f ∈ w.mail ∨ ∃ x ∈ w.sessions, f ∈ x.frames

end MeshState

/-- The ids that an item adds to those that were accepted: one that raises is logged. -/
def noted : Result String → List String
  | .ok packetId => [packetId]
  | .error _ => []

/-- `_sync_stream`, `_handle_connection` and `_receive_items`, `process_local_spool`, the passes of
the carriers, and what a node that does not run the program can send. -/
inductive MeshStep (M : Mesh) (w : MeshState) : MeshState → Prop
  | call {n : String} (hruns : M.runs n) (c : NodeCall (M.puts n)) :
      MeshStep M w (w.withStore n (c.exec M.rt (w.store n)))
  | readSpool {n : String} (hruns : M.runs n) (limit now : ℤ) :
      MeshStep M w { w with
        spool := Function.update w.spool n ((w.store n).localPackets n limit now) }
  | spooled {n : String} {raw : Bytes} {rest : List Bytes} (hruns : M.runs n)
      (hspool : w.spool n = raw :: rest) (o : Occasion (M.puts n)) :
      MeshStep M w { (w.withStore n ((M.opener n).processSpooledPacket o raw (w.store n)).2) with
        spool := Function.update w.spool n
          (if ((M.opener n).processSpooledPacket o raw (w.store n)).1.isOk then rest else []) }
  | connect {client server : String} (hpeer : client ≠ server) (pathId : String) :
      MeshStep M w { w with sessions := w.sessions ++ [⟨client,server,pathId,[],.connected⟩] }
  | offer {i : ℕ} {x : SyncSession} {pending : List PendingPacket} {now : ℤ}
      (hx : w.sessions[i]? = some x) (hstage : x.stage = .connected) (hruns : M.runs x.client)
      (hpending : (w.store x.client).pendingForPeer x.server (M.maxBatch x.client) 1000 none none
        now = .ok pending) (markedAt : ℤ) :
      MeshStep M w (w.turn i x.client
        (markAttempt (pending.map PendingPacket.packetId) x.server "" x.pathId markedAt
          (w.store x.client))
        { x with
          outgoing := pending.map PendingPacket.packetId
          stage := .within (M.maxBatch x.server) (pending.map PendingPacket.item)
            (.request (pending.map PendingPacket.item) []) })
  | take {i : ℕ} {x : SyncSession} {item : SyncItem} {todo : List SyncItem} {taken : List String}
      (hx : w.sessions[i]? = some x) (hstage : x.stage = .request (item :: todo) taken)
      (hruns : M.runs x.server) (o : Occasion (M.puts x.server)) :
      MeshStep M w (w.turn i x.server
        ((M.opener x.server).acceptCarrierPacket o item.raw item.depth x.client
          (w.store x.server)).2
        { x with
          stage := .request todo (taken ++ noted ((M.opener x.server).acceptCarrierPacket o item.raw
            item.depth x.client (w.store x.server)).1) })
  | answer {i : ℕ} {x : SyncSession} {pending : List PendingPacket} {taken : List String} {now : ℤ}
      (hx : w.sessions[i]? = some x) (hstage : x.stage = .request [] taken)
      (hruns : M.runs x.server)
      (hpending : (w.store x.server).pendingForPeer x.client (M.maxBatch x.server) 1000 none none
        now = .ok pending) (markedAt : ℤ) :
      MeshStep M w (w.turn i x.server
        (markAttempt (pending.map PendingPacket.packetId) x.client "" x.pathId markedAt
          (w.store x.server))
        { x with
          stage := .reply taken (pending.map PendingPacket.item)
            (pending.map PendingPacket.packetId) })
  | settle {i : ℕ} {x : SyncSession} {acked sent : List String} {items : List SyncItem}
      (hx : w.sessions[i]? = some x) (hstage : x.stage = .reply acked items sent)
      (hruns : M.runs x.client) (now : ℤ) :
      MeshStep M w (w.turn i x.client
        (markAcked (acked.filter (· ∈ x.outgoing)) x.server x.pathId now (w.store x.client))
        { x with stage := .within (M.maxBatch x.client) items (.settling items [] sent) })
  | collect {i : ℕ} {x : SyncSession} {item : SyncItem} {todo : List SyncItem}
      {taken sent : List String} (hx : w.sessions[i]? = some x)
      (hstage : x.stage = .settling (item :: todo) taken sent) (hruns : M.runs x.client)
      (o : Occasion (M.puts x.client)) :
      MeshStep M w (w.turn i x.client
        ((M.opener x.client).acceptCarrierPacket o item.raw item.depth x.server
          (w.store x.client)).2
        { x with
          stage := .settling todo (taken ++ noted ((M.opener x.client).acceptCarrierPacket o
            item.raw item.depth x.server (w.store x.client)).1) sent })
  | finish {i : ℕ} {x : SyncSession} {taken sent : List String} (hx : w.sessions[i]? = some x)
      (hstage : x.stage = .settling [] taken sent) (hruns : M.runs x.server) (now : ℤ) :
      MeshStep M w (w.turn i x.server
        (markAcked (taken.filter (· ∈ sent)) x.client x.pathId now (w.store x.server))
        { x with stage := .closed })
  | drop {i : ℕ} {x : SyncSession} (hx : w.sessions[i]? = some x) :
      MeshStep M w { w with sessions := w.sessions.set i { x with stage := .closed } }
  | post {sender recipient : String} {limit retryAfterMs now : ℤ} {pathId : Option String}
      {qosAllow : Option (List String)} {pending : List PendingPacket} {p : PendingPacket}
      (hruns : M.runs sender)
      (hpending : (w.store sender).pendingForPeer recipient limit retryAfterMs pathId qosAllow
        now = .ok pending) (hp : p ∈ pending) :
      MeshStep M w { w with mail := .packet sender recipient p.item :: w.mail }
  | fetch {sender recipient : String} {item : SyncItem} (hpeer : sender ≠ recipient)
      (hruns : M.runs recipient) (hmail : .packet sender recipient item ∈ w.mail)
      (o : Occasion (M.puts recipient)) :
      MeshStep M w { (w.withStore recipient ((M.opener recipient).acceptCarrierPacket o item.raw
          item.depth sender (w.store recipient)).2) with
        mail := (noted ((M.opener recipient).acceptCarrierPacket o item.raw item.depth sender
          (w.store recipient)).1).map (.ack recipient sender) ++ w.mail }
  | acknowledged {sender recipient packetId : String} (hruns : M.runs recipient)
      (hmail : .ack sender recipient packetId ∈ w.mail)
      (hpacket : ((w.store recipient).packets.get packetId).isSome) (pathId : String) (now : ℤ) :
      MeshStep M w (w.withStore recipient
        (markAcked [packetId] sender pathId now (w.store recipient)))
  | strangeRequest {i : ℕ} {x : SyncSession} (hx : w.sessions[i]? = some x)
      (hstage : x.stage = .connected) (hstrange : ¬ M.runs x.client) (items : List SyncItem) :
      MeshStep M w { w with sessions := w.sessions.set i { x with
        stage := .within (M.maxBatch x.server) items (.request items []) } }
  | strangeReply {i : ℕ} {x : SyncSession} {items : List SyncItem} (hx : w.sessions[i]? = some x)
      (hstage : x.stage = .request items []) (hstrange : ¬ M.runs x.server)
      (acked : List String) (items' : List SyncItem) :
      MeshStep M w { w with
        sessions := w.sessions.set i { x with stage := .reply acked items' [] } }
  | strangeEnd {i : ℕ} {x : SyncSession} {acked sent : List String} {items : List SyncItem}
      (hx : w.sessions[i]? = some x) (hstage : x.stage = .reply acked items sent)
      (hstrange : ¬ M.runs x.client) (taken : List String) :
      MeshStep M w { w with sessions := w.sessions.set i { x with
        stage := .settling [] taken sent } }
  | strangeMail (f : Frame) (hstrange : ¬ M.runs f.sender) :
      MeshStep M w { w with mail := f :: w.mail }

/-- A run of the mesh from empty stores. -/
abbrev Mesh.Runs (M : Mesh) : List MeshState → MeshState → Prop :=
  Run (· = MeshState.empty) (MeshStep M)

namespace Mesh

variable (M : Mesh) (past : List MeshState) (w : MeshState)

/-- The bytes read as a packet of this id. -/
def Reads (raw : Bytes) (packetId : String) : Prop :=
  ∃ now info, inspectPacket M.rt now raw false = .ok info ∧ info.packetId = packetId

/-- Such bytes came to a node over this many links: each node on the way runs the program and handed
them on, and the first one put them out itself, or had them from a node that does not run it and
counted for itself. -/
def Came (good : Bytes → Prop) : String → ℤ → Prop :=
  Walk
    (fun n d => (d = 0 ∧ ∃ raw, good raw ∧ M.puts n raw) ∨ ∃ m item, ¬ M.runs m ∧ good item.raw ∧
      item.depth = d ∧ Once (fun v => v.Carries (.packet m n item)) past w)
    (fun m n => M.runs m ∧ ∃ item, good item.raw ∧
      Once (fun v => v.Carries (.packet m n item)) past w)

/-- A stored packet: its columns are what its bytes say, its depth is within its hop limit, a packet
of its id came over that many links, and its bytes came over some. -/
structure Held (n : String) (p : PacketRow) : Prop where
  reads : ∃ now info, inspectPacket M.rt now p.raw false = .ok info ∧ p.packetId = info.packetId ∧
    p.destinationId = info.destinationId ∧ p.maxHops = info.maxHops
  nonneg : 0 ≤ p.depth
  hops : p.depth ≤ p.maxHops
  path : M.Came past w (M.Reads · p.packetId) n p.depth
  bytes : ∃ d, M.Came past w (· = p.raw) n d

/-- A message of the Inbox: bytes that came to the node open to it. -/
def Read (n : String) (i : InboxRow) : Prop :=
  ∃ raw opened, (M.opener n).Opens raw opened ∧ (∃ d, M.Came past w (· = raw) n d) ∧
    i.packetId = opened.packetId ∧ i.senderId = opened.senderId ∧ i.kind = opened.kind ∧
    i.createdMs = opened.createdMs ∧ i.codec = opened.codec ∧ i.replyTo = opened.replyTo

/-- The node has or had the message of the packet in its Inbox, or recorded its rejection or a
receipt. -/
def Known (n packetId : String) : Prop := Once (fun v => (v.store n).Marked packetId) past w

/-- A peer that runs the program has taken a packet of this id that the node handed to it. It was in
the peer's store; if it was for the peer, the peer knows it, or held another packet of this id. -/
def Took (n peerId packetId : String) : Prop :=
  M.runs peerId → ∃ item now info, Once (fun v => v.Carries (.packet n peerId item)) past w ∧
    inspectPacket M.rt now item.raw false = .ok info ∧ info.packetId = packetId ∧
    Once (fun v => ∃ p, (v.store peerId).packets.get packetId = some p) past w ∧
    (info.destinationId = peerId → Known past w peerId packetId ∨
      Once (fun v => ∃ p, (v.store peerId).packets.get packetId = some p ∧
        p.destinationId ≠ peerId) past w)

/-- What a node that runs the program sends. -/
def Sent : Frame → Prop
  | .packet sender _ item => M.runs sender →
    (∀ k, M.Reads item.raw k → M.Came past w (M.Reads · k) sender (item.depth - 1)) ∧
      ∃ d, M.Came past w (· = item.raw) sender d
  | .ack sender recipient packetId =>
    (M.runs recipient → sender ≠ recipient) ∧ M.Took past w recipient sender packetId

/-- What is known of a node's store after a run. -/
abbrev NodeSound (n : String) (s : PacketStore) : Prop :=
  StoreSound (M.Held past w n) (M.Read past w n) (Known past w n) (M.Took past w n) n s

/-- What holds after every run. -/
structure Sound : Prop where
  stores : ∀ n, M.runs n → M.NodeSound past w n (w.store n)
  spools : ∀ n, M.runs n → ∀ raw ∈ w.spool n, ∃ d, M.Came past w (· = raw) n d
  peers : ∀ x ∈ w.sessions, x.client ≠ x.server
  sessions : ∀ x ∈ w.sessions, ∀ f ∈ x.frames, M.Sent past w f
  mail : ∀ f ∈ w.mail, M.Sent past w f

section Later

variable {M : Mesh} {past : List MeshState} {w w' : MeshState} {n : String}

theorem Came.later {good : Bytes → Prop} {d : ℤ} (h : M.Came past w good n d) :
    M.Came (w :: past) w' good n d := by
  refine Walk.mono (fun n d => Or.imp_right ?_) (fun m n => And.imp_right ?_) h
  · rintro ⟨m,item,hstrange,hgood,hdepth,hsent⟩
    exact ⟨m,item,hstrange,hgood,hdepth,hsent.later⟩
  · rintro ⟨item,hgood,hsent⟩
    exact ⟨item,hgood,hsent.later⟩

theorem Held.later {p : PacketRow} (h : M.Held past w n p) : M.Held (w :: past) w' n p :=
  ⟨h.reads,h.nonneg,h.hops,h.path.later,h.bytes.imp fun _ => Came.later⟩

theorem Read.later {i : InboxRow} (h : M.Read past w n i) : M.Read (w :: past) w' n i := by
  obtain ⟨raw,opened,hopens,⟨d,hd⟩,hfields⟩ := h
  exact ⟨raw,opened,hopens,⟨d,hd.later⟩,hfields⟩

theorem Took.later {peerId packetId : String} (h : M.Took past w n peerId packetId) :
    M.Took (w :: past) w' n peerId packetId := by
  intro hruns
  obtain ⟨item,now,info,hsent,hinfo,hid,hpresent,hhere⟩ := h hruns
  exact ⟨item,now,info,hsent.later,hinfo,hid,hpresent.later,
    fun hdestination => (hhere hdestination).imp Once.later Once.later⟩

theorem Sent.later {f : Frame} (h : M.Sent past w f) : M.Sent (w :: past) w' f := by
  cases f with
  | packet sender recipient item =>
    intro hruns
    obtain ⟨hid,d,hd⟩ := h hruns
    exact ⟨fun k hk => (hid k hk).later,d,hd.later⟩
  | ack sender recipient packetId => exact ⟨h.1,h.2.later⟩

theorem NodeSound.later {s : PacketStore} (h : M.NodeSound past w n s) :
    M.NodeSound (w :: past) w' n s :=
  h.mono (fun _ => Held.later) (fun _ => Read.later) (fun _ => Once.later)
    fun _ _ => Took.later

/-- A step that keeps a part of the state, or leaves there what may be there. -/
theorem Sound.step (h : M.Sound past w)
    (hstores : ∀ n, M.runs n → w'.store n = w.store n ∨
      M.NodeSound (w :: past) w' n (w'.store n))
    (hspools : ∀ n, M.runs n → ∀ raw ∈ w'.spool n, raw ∈ w.spool n ∨
      ∃ d, M.Came (w :: past) w' (· = raw) n d)
    (hsessions : ∀ x ∈ w'.sessions, x ∈ w.sessions ∨
      x.client ≠ x.server ∧ ∀ f ∈ x.frames, M.Sent (w :: past) w' f)
    (hmail : ∀ f ∈ w'.mail, f ∈ w.mail ∨ M.Sent (w :: past) w' f) : M.Sound (w :: past) w' := by
  refine ⟨fun n hruns => ?_,fun n hruns raw hraw => ?_,fun x hx => ?_,fun x hx => ?_,fun f hf => ?_⟩
  · rcases hstores n hruns with hsame | hsound
    · rw [hsame]
      exact (h.stores n hruns).later
    · exact hsound
  · rcases hspools n hruns raw hraw with hold | hnew
    · exact (h.spools n hruns raw hold).imp fun _ => Came.later
    · exact hnew
  · exact (hsessions x hx).elim (h.peers x) And.left
  · rcases hsessions x hx with hold | hnew
    · exact fun f hf => (h.sessions x hold f hf).later
    · exact hnew.2
  · exact (hmail f hf).elim (fun hold => (h.mail f hold).later) id

end Later

section Intake

variable {M : Mesh} {past : List MeshState} {w : MeshState} {n : String}

theorem held_stable : PacketRow.Stable (M.Held past w n) := by
  intro p h
  exact ⟨⟨h.reads,h.nonneg,h.hops,h.path,h.bytes⟩,
    fun e => ⟨h.reads,h.nonneg,h.hops,h.path,h.bytes⟩⟩

theorem read_stable : InboxRow.Stable (M.Read past w n) := fun _ h => ⟨h,h,h⟩

/-- Bytes that came over so many links may be stored at this depth. -/
theorem came_admits {raw : Bytes} {depth : ℤ}
    (hid : ∀ k, M.Reads raw k → M.Came past w (M.Reads · k) n depth)
    (hraw : ∃ d, M.Came past w (· = raw) n d) :
    PacketRow.Admits M.rt (M.Held past w n) raw depth := by
  intro now info hinfo hnonneg hhops
  have hreads : M.Reads raw info.packetId := ⟨now,info,hinfo,rfl⟩
  refine ⟨fun origin receivedFrom => ?_,fun p hp h hlt => ?_⟩
  · exact ⟨⟨now,info,hinfo,rfl,rfl,rfl⟩,hnonneg,hhops,hid _ hreads,hraw⟩
  · refine ⟨h.reads,hnonneg,hlt.le.trans h.hops,?_,h.bytes⟩
    rw [hp]
    exact hid _ hreads

theorem puts_admits {raw : Bytes} (h : M.puts n raw) :
    PacketRow.Admits M.rt (M.Held past w n) raw 0 :=
  came_admits (fun _ hk => .base (.inl ⟨rfl,raw,hk,h⟩)) ⟨0,.base (.inl ⟨rfl,raw,rfl,h⟩)⟩

/-- What a node is sent came to it over one more link. -/
theorem sent_came {m : String} {item : SyncItem} (h : M.Sent past w (.packet m n item))
    (hsent : Once (fun v => v.Carries (.packet m n item)) past w) :
    (∀ k, M.Reads item.raw k → M.Came past w (M.Reads · k) n item.depth) ∧
      ∃ d, M.Came past w (· = item.raw) n d := by
  by_cases hruns : M.runs m
  · obtain ⟨hid,d,hd⟩ := h hruns
    refine ⟨fun k hk => ?_,d + 1,hd.link ⟨hruns,item,rfl,hsent⟩⟩
    have hlink := (hid k hk).link (n := n) ⟨hruns,item,hk,hsent⟩
    rw [sub_add_cancel] at hlink
    exact hlink
  · exact ⟨fun k hk => .base (.inr ⟨m,item,hruns,hk,rfl,hsent⟩),
      item.depth,.base (.inr ⟨m,item,hruns,rfl,rfl,hsent⟩)⟩

theorem came_fills {raw : Bytes} (h : ∃ d, M.Came past w (· = raw) n d) :
    (M.opener n).Fills (M.Read past w n) raw := by
  intro opened body hopens s packed causal trusted visible now
  exact ⟨raw,opened,hopens,h,rfl,rfl,rfl,rfl,rfl,rfl⟩

/-- A pending packet is what its node has. -/
theorem pending_sent {s : PacketStore} (h : M.NodeSound past w n s) {recipient : String}
    {limit retryAfterMs now : ℤ} {pathId : Option String} {qosAllow : Option (List String)}
    {pending : List PendingPacket} {p : PendingPacket}
    (hpending : s.pendingForPeer recipient limit retryAfterMs pathId qosAllow now = .ok pending)
    (hp : p ∈ pending) (m : String) : M.Sent past w (.packet n m p.item) := by
  obtain ⟨row,hrow,-,rfl⟩ := mem_pendingForPeer hpending hp
  have hheld := h.rows _ row hrow
  refine fun _ => ⟨fun k hk => ?_,hheld.bytes⟩
  obtain ⟨now,info,hinfo,rfl⟩ := hk
  obtain ⟨now',info',hinfo',hid,-⟩ := hheld.reads
  obtain rfl := inspectPacket_agree hinfo hinfo'
  have hpath := hheld.path
  rw [hid] at hpath
  simpa only [PacketRow.pending,PendingPacket.item,add_sub_cancel_right] using hpath

end Intake

section Steps

variable {M : Mesh} {past : List MeshState} {w w' : MeshState} {n : String}

/-- A node that only handles packets stays sound: what is marked now is known. -/
theorem Sound.handled (h : M.Sound past w) (hruns : M.runs n)
    (hs : PacketStore.Handled (M.Held (w :: past) w' n) (M.Read (w :: past) w' n) (w.store n)
      (w'.store n)) :
    M.NodeSound (w :: past) w' n (w'.store n) :=
  (h.stores n hruns).later.handled hs fun _ hk => .now hk

theorem owned_admits (raw : Bytes) (hown : M.puts n raw) :
    PacketRow.Admits (M.opener n).rt (M.Held past w n) raw 0 := puts_admits hown

/-- A node that takes a packet stays sound, and may acknowledge it. -/
theorem accept_sound (h : M.Sound past w) (hruns : M.runs n) {m : String} {item : SyncItem}
    (hpeer : m ≠ n) (hcarries : w.Carries (.packet m n item))
    (hsent : M.Sent past w (.packet m n item)) (o : Occasion (M.puts n)) (w' : MeshState)
    (hw' : w'.store n =
      ((M.opener n).acceptCarrierPacket o item.raw item.depth m (w.store n)).2) :
    M.NodeSound (w :: past) w' n
        ((M.opener n).acceptCarrierPacket o item.raw item.depth m (w.store n)).2 ∧
      ∀ k ∈ noted ((M.opener n).acceptCarrierPacket o item.raw item.depth m (w.store n)).1,
        M.Sent (w :: past) w' (.ack n m k) := by
  have hcarried : Once (fun v => v.Carries (.packet m n item)) (w :: past) w' :=
    ⟨w,by simp,hcarries⟩
  obtain ⟨hid,hraw⟩ := sent_came hsent.later hcarried
  obtain ⟨hhandled,haccepted⟩ := Opener.acceptCarrierPacket_handled (o := o) held_stable
    owned_admits (came_fills hraw) (fun _ => came_admits hid hraw) m (w.store n)
  rw [← hw'] at hhandled haccepted ⊢
  have hsound := h.handled hruns hhandled
  refine ⟨hsound,fun k hk => ?_⟩
  cases hending : ((M.opener n).acceptCarrierPacket o item.raw item.depth m (w.store n)).1 with
  | error e =>
    rw [hending] at hk
    cases hk
  | ok k' =>
    rw [hending] at hk
    obtain rfl := List.mem_singleton.mp hk
    obtain ⟨now,info,p,hinfo,hk,hp,hdone⟩ := haccepted k hending
    refine ⟨fun _ => hpeer.symm,fun _ => ⟨item,now,info,hcarried,hinfo,hk,.now ⟨p,hp⟩,
      fun hdestination => ?_⟩⟩
    rcases hdone (hdestination.trans (M.named n).symm) with hdelivered | hmarked
    · by_cases hown : p.destinationId = n
      · exact .inl (hsound.settled k p hp hdelivered hown)
      · exact .inr (.now ⟨p,hp,hown⟩)
    · exact .inl (.now hmarked)

/-- What a step does at one place. -/
theorem update_store {stores : String → PacketStore} {s : PacketStore}
    {I : String → PacketStore → Prop}
    (hn : M.runs n → I n s) (m : String) (hm : M.runs m) :
    Function.update stores n s m = stores m ∨ I m (Function.update stores n s m) := by
  by_cases hmn : m = n
  · subst hmn
    rw [Function.update_self]
    exact .inr (hn hm)
  · exact .inl (Function.update_of_ne hmn ..)

theorem set_sessions {sessions : List SyncSession} {i : ℕ} {x' : SyncSession}
    {I : SyncSession → Prop} (hx' : I x') : ∀ x ∈ sessions.set i x', x ∈ sessions ∨ I x := by
  intro x hx
  rcases List.mem_or_eq_of_mem_set hx with hold | rfl
  · exact .inl hold
  · exact .inr hx'

/-- A session that goes on: what it carries it carried before, or its sender may send it. -/
theorem Sound.session (h : M.Sound past w) {i : ℕ} {x x' : SyncSession}
    (hx : w.sessions[i]? = some x) (hclient : x'.client = x.client) (hserver : x'.server = x.server)
    (hframes : ∀ f ∈ x'.frames, f ∈ x.frames ∨ M.Sent (w :: past) w' f) :
    ∀ y ∈ w.sessions.set i x', y ∈ w.sessions ∨
      y.client ≠ y.server ∧ ∀ f ∈ y.frames, M.Sent (w :: past) w' f := by
  have hmem := List.mem_of_getElem? hx
  refine set_sessions ⟨?_,fun f hf => ?_⟩
  · rw [hclient,hserver]
    exact h.peers x hmem
  · exact (hframes f hf).elim (fun hold => (h.sessions x hmem f hold).later) id

/-- One side of a session does its part. -/
theorem Sound.turn (h : M.Sound past w) {i : ℕ} {x x' : SyncSession} {s : PacketStore}
    (hx : w.sessions[i]? = some x) (hclient : x'.client = x.client) (hserver : x'.server = x.server)
    (hnode : M.NodeSound (w :: past) (w.turn i n s x') n s)
    (hframes : ∀ f ∈ x'.frames, f ∈ x.frames ∨ M.Sent (w :: past) (w.turn i n s x') f) :
    M.Sound (w :: past) (w.turn i n s x') :=
  h.step (update_store (I := M.NodeSound (w :: past) (w.turn i n s x')) fun _ => hnode)
    (fun _ _ _ hraw => .inl hraw) (h.session hx hclient hserver hframes) fun _ hf => .inl hf

section Frames

variable {x : SyncSession} {todo items : List SyncItem} {taken acked sent : List String} {f : Frame}

theorem frames_request (h : x.stage = .request todo taken) : f ∈ x.frames ↔
    f ∈ todo.map (.packet x.client x.server) ∨ f ∈ taken.map (.ack x.server x.client) := by
  simp only [SyncSession.frames,h,List.mem_append]

theorem frames_reply (h : x.stage = .reply acked items sent) : f ∈ x.frames ↔
    f ∈ items.map (.packet x.server x.client) ∨ f ∈ acked.map (.ack x.server x.client) := by
  simp only [SyncSession.frames,h,List.mem_append]

theorem frames_settling (h : x.stage = .settling todo taken sent) : f ∈ x.frames ↔
    f ∈ todo.map (.packet x.server x.client) ∨ f ∈ taken.map (.ack x.client x.server) := by
  simp only [SyncSession.frames,h,List.mem_append]

theorem frames_within {maxBatch : ℤ} {next : SyncStage}
    (hf : f ∈ ({ x with stage := .within maxBatch items next } : SyncSession).frames) :
    f ∈ ({ x with stage := next } : SyncSession).frames := by
  unfold SyncStage.within at hf
  split at hf
  · cases hf
  · exact hf

end Frames

/-- The packets of a batch may be sent. -/
theorem batch_sent {s : PacketStore} (h : M.NodeSound past w n s) {recipient : String}
    {limit retryAfterMs now : ℤ} {pathId : Option String} {qosAllow : Option (List String)}
    {pending : List PendingPacket}
    (hpending : s.pendingForPeer recipient limit retryAfterMs pathId qosAllow now = .ok pending)
    (m : String) : ∀ f ∈ (pending.map PendingPacket.item).map (.packet n m), M.Sent past w f := by
  intro f hf
  obtain ⟨_,hitem,rfl⟩ := List.mem_map.mp hf
  obtain ⟨p,hp,rfl⟩ := List.mem_map.mp hitem
  exact pending_sent h hpending hp m

theorem acks_marked {ids : List String} {a b : String} (hruns : M.runs a)
    (h : ∀ k ∈ ids, M.Sent past w (.ack b a k)) {q : String → Bool} :
    ∀ k ∈ ids.filter q, b ≠ a ∧ M.Took (w :: past) w' a b k := by
  intro k hk
  obtain ⟨hpeer,htook⟩ := h k (List.mem_of_mem_filter hk)
  exact ⟨hpeer hruns,htook.later⟩

end Steps

theorem sound_start (M : Mesh) : M.Sound [] MeshState.empty := by
  refine ⟨fun _ _ => .empty,fun n _ raw hraw => ?_,fun x hx => ?_,fun x hx => ?_,fun f hf => ?_⟩
  · cases hraw
  · cases hx
  · cases hx
  · cases hf

theorem sound_step {M : Mesh} {past : List MeshState} {w w' : MeshState} (h : M.Sound past w)
    (hstep : MeshStep M w w') : M.Sound (w :: past) w' := by
  cases hstep with
  | @call n hruns c =>
    refine h.step (update_store fun _ => ?_) (fun _ _ _ hraw => .inl hraw) (fun _ hx => .inl hx)
      fun _ hf => .inl hf
    refine nodeCall_sound held_stable read_stable owned_admits c (fun k hk => .now ?_)
      (h.stores n hruns).later
    change (Function.update w.store n _ n).Marked k
    rw [Function.update_self]
    exact hk
  | @readSpool n hruns limit now =>
    refine h.step (fun _ _ => .inl rfl) (fun m hm raw hraw => ?_) (fun _ hx => .inl hx)
      fun _ hf => .inl hf
    by_cases hmn : m = n
    · subst hmn
      dsimp only at hraw
      rw [Function.update_self] at hraw
      obtain ⟨p,hp,rfl⟩ := List.mem_map.mp hraw
      obtain ⟨hrow,-⟩ := mem_livePackets.mp (List.mem_of_mem_take hp)
      exact .inr (((h.stores m hm).rows _ p hrow).later).bytes
    · dsimp only at hraw
      rw [Function.update_of_ne hmn] at hraw
      exact .inl hraw
  | @spooled n raw rest hruns hspool o =>
    have hraw := h.spools n hruns raw (hspool ▸ List.mem_cons_self)
    refine h.step (update_store fun _ => ?_) (fun m hm raw' hraw' => .inl ?_) (fun _ hx => .inl hx)
      fun _ hf => .inl hf
    · refine (h.stores n hruns).later.handled (Opener.processSpooledPacket_handled held_stable
        owned_admits (came_fills (hraw.imp fun _ => Came.later)) _) fun k hk => .now ?_
      change (Function.update w.store n _ n).Marked k
      rw [Function.update_self]
      exact hk
    · by_cases hmn : m = n
      · subst hmn
        dsimp only at hraw'
        rw [Function.update_self] at hraw'
        split at hraw'
        · rw [hspool]
          exact List.mem_cons_of_mem _ hraw'
        · cases hraw'
      · dsimp only at hraw'
        rw [Function.update_of_ne hmn] at hraw'
        exact hraw'
  | @connect client server hpeer pathId =>
    refine h.step (fun _ _ => .inl rfl) (fun _ _ _ hraw => .inl hraw) (fun x hx => ?_)
      fun _ hf => .inl hf
    rcases List.mem_append.mp hx with hold | hnew
    · exact .inl hold
    · obtain rfl := List.mem_singleton.mp hnew
      refine .inr ⟨hpeer,fun f hf => ?_⟩
      cases hf
  | offer hx hstage hruns hpending markedAt =>
    have hnode := h.stores _ hruns
    refine h.turn hx rfl rfl (markAttempt_sound _ _ _ _ _ hnode.later) fun f hf => .inr ?_
    rcases (frames_request rfl).mp (frames_within hf) with hf | hf
    · exact (batch_sent hnode hpending _ f hf).later
    · cases hf
  | @take i x item todo taken hx hstage hruns o =>
    have hmem := List.mem_of_getElem? hx
    have hold {f : Frame} := frames_request (f := f) hstage
    have hfirst : .packet x.client x.server item ∈ x.frames := hold.mpr (.inl List.mem_cons_self)
    have haccept := accept_sound h hruns (h.peers x hmem) (.inr ⟨x,hmem,hfirst⟩)
      (h.sessions x hmem _ hfirst) o
    refine h.turn hx rfl rfl (haccept _ (Function.update_self ..)).1 fun f hf => ?_
    rcases (frames_request rfl).mp hf with hf | hf
    · exact .inl (hold.mpr (.inl (List.mem_cons_of_mem _ hf)))
    · rw [List.map_append,List.mem_append] at hf
      rcases hf with hf | hf
      · exact .inl (hold.mpr (.inr hf))
      · obtain ⟨k,hk,rfl⟩ := List.mem_map.mp hf
        exact .inr ((haccept _ (Function.update_self ..)).2 k hk)
  | answer hx hstage hruns hpending markedAt =>
    have hnode := h.stores _ hruns
    refine h.turn hx rfl rfl (markAttempt_sound _ _ _ _ _ hnode.later) fun f hf => ?_
    rcases (frames_reply rfl).mp hf with hf | hf
    · exact .inr (batch_sent hnode hpending _ f hf).later
    · exact .inl ((frames_request hstage).mpr (.inr hf))
  | @settle i x acked sent items hx hstage hruns now =>
    have hmem := List.mem_of_getElem? hx
    have hacked : ∀ k ∈ acked, M.Sent past w (.ack x.server x.client k) := fun k hk =>
      h.sessions x hmem _ ((frames_reply hstage).mpr (.inr (List.mem_map_of_mem hk)))
    refine h.turn hx rfl rfl (markAcked_sound (acks_marked hruns hacked) held_stable _ _
      (h.stores _ hruns).later) fun f hf => .inl ?_
    rcases (frames_settling rfl).mp (frames_within hf) with hf | hf
    · exact (frames_reply hstage).mpr (.inl hf)
    · cases hf
  | @collect i x item todo taken sent hx hstage hruns o =>
    have hmem := List.mem_of_getElem? hx
    have hold {f : Frame} := frames_settling (f := f) hstage
    have hfirst : .packet x.server x.client item ∈ x.frames := hold.mpr (.inl List.mem_cons_self)
    have haccept := accept_sound h hruns (h.peers x hmem).symm (.inr ⟨x,hmem,hfirst⟩)
      (h.sessions x hmem _ hfirst) o
    refine h.turn hx rfl rfl (haccept _ (Function.update_self ..)).1 fun f hf => ?_
    rcases (frames_settling rfl).mp hf with hf | hf
    · exact .inl (hold.mpr (.inl (List.mem_cons_of_mem _ hf)))
    · rw [List.map_append,List.mem_append] at hf
      rcases hf with hf | hf
      · exact .inl (hold.mpr (.inr hf))
      · obtain ⟨k,hk,rfl⟩ := List.mem_map.mp hf
        exact .inr ((haccept _ (Function.update_self ..)).2 k hk)
  | @finish i x taken sent hx hstage hruns now =>
    have hmem := List.mem_of_getElem? hx
    have hacked : ∀ k ∈ taken, M.Sent past w (.ack x.client x.server k) := fun k hk =>
      h.sessions x hmem _ ((frames_settling hstage).mpr (.inr (List.mem_map_of_mem hk)))
    refine h.turn hx rfl rfl (markAcked_sound (acks_marked hruns hacked) held_stable _ _
      (h.stores _ hruns).later) fun f hf => ?_
    cases hf
  | drop hx =>
    refine h.step (fun _ _ => .inl rfl) (fun _ _ _ hraw => .inl hraw)
      (h.session hx rfl rfl fun f hf => ?_) fun _ hf => .inl hf
    cases hf
  | post hruns hpending hp =>
    refine h.step (fun _ _ => .inl rfl) (fun _ _ _ hraw => .inl hraw) (fun _ hx => .inl hx)
      fun f hf => ?_
    rcases List.mem_cons.mp hf with rfl | hold
    · exact .inr (pending_sent (h.stores _ hruns) hpending hp _).later
    · exact .inl hold
  | @fetch sender recipient item hpeer hruns hmail o =>
    have haccept := accept_sound h hruns hpeer (.inl hmail) (h.mail _ hmail) o
    refine h.step (update_store fun _ => (haccept _ (Function.update_self ..)).1)
      (fun _ _ _ hraw => .inl hraw) (fun _ hx => .inl hx) fun f hf => ?_
    rcases List.mem_append.mp hf with hnew | hold
    · obtain ⟨k,hk,rfl⟩ := List.mem_map.mp hnew
      exact .inr ((haccept _ (Function.update_self ..)).2 k hk)
    · exact .inl hold
  | @acknowledged sender recipient packetId hruns hmail hpacket pathId now =>
    refine h.step (update_store fun _ => ?_) (fun _ _ _ hraw => .inl hraw) (fun _ hx => .inl hx)
      fun _ hf => .inl hf
    refine markAcked_sound (fun k hk => ?_) held_stable _ _ (h.stores _ hruns).later
    obtain rfl := List.mem_singleton.mp hk
    obtain ⟨hpeer,htook⟩ := h.mail _ hmail
    exact ⟨hpeer hruns,htook.later⟩
  | strangeRequest hx hstage hstrange items =>
    refine h.step (fun _ _ => .inl rfl) (fun _ _ _ hraw => .inl hraw)
      (h.session hx rfl rfl fun f hf => .inr ?_) fun _ hf => .inl hf
    rcases (frames_request rfl).mp (frames_within hf) with hf | hf
    · obtain ⟨item,-,rfl⟩ := List.mem_map.mp hf
      exact fun hruns => (hstrange hruns).elim
    · cases hf
  | @strangeReply i x items hx hstage hstrange acked items' =>
    have hpeer := h.peers x (List.mem_of_getElem? hx)
    refine h.step (fun _ _ => .inl rfl) (fun _ _ _ hraw => .inl hraw)
      (h.session hx rfl rfl fun f hf => .inr ?_) fun _ hf => .inl hf
    rcases (frames_reply rfl).mp hf with hf | hf
    · obtain ⟨item,-,rfl⟩ := List.mem_map.mp hf
      exact fun hruns => (hstrange hruns).elim
    · obtain ⟨k,-,rfl⟩ := List.mem_map.mp hf
      exact ⟨fun _ => hpeer.symm,fun hruns => (hstrange hruns).elim⟩
  | @strangeEnd i x acked sent items hx hstage hstrange taken =>
    have hpeer := h.peers x (List.mem_of_getElem? hx)
    refine h.step (fun _ _ => .inl rfl) (fun _ _ _ hraw => .inl hraw)
      (h.session hx rfl rfl fun f hf => .inr ?_) fun _ hf => .inl hf
    rcases (frames_settling rfl).mp hf with hf | hf
    · cases hf
    · obtain ⟨k,-,rfl⟩ := List.mem_map.mp hf
      exact ⟨fun _ => hpeer,fun hruns => (hstrange hruns).elim⟩
  | strangeMail f hstrange =>
    refine h.step (fun _ _ => .inl rfl) (fun _ _ _ hraw => .inl hraw) (fun _ hx => .inl hx)
      fun f' hf => ?_
    rcases List.mem_cons.mp hf with rfl | hold
    · refine .inr ?_
      cases f' with
      | packet sender recipient item => exact fun hruns => (hstrange hruns).elim
      | ack sender recipient packetId =>
        refine ⟨?_,fun hruns => (hstrange hruns).elim⟩
        rintro hruns rfl
        exact hstrange hruns
    · exact .inl hold

theorem runs_sound {M : Mesh} {past : List MeshState} {w : MeshState} (h : M.Runs past w) :
    M.Sound past w :=
  Run.invariant (I := M.Sound) (by rintro _ rfl; exact sound_start M) (fun _ _ _ => sound_step) h

section Results

variable {M : Mesh} {past : List MeshState} {w : MeshState} {n : String}

/-- In every run a packet that a peer has acknowledged was handed to it and was in its store; one
that was for the peer came to its Inbox, or its rejection or a receipt was recorded there, unless
the peer held another packet of this id for someone else. -/
theorem acked_packet_taken (h : M.Runs past w) {peerId k : String} {d : DeliveryRow}
    (hruns : M.runs n) (hpeer : M.runs peerId)
    (hd : (w.store n).deliveries.get (k,peerId) = some d) (hacked : d.state = .acked) :
    ∃ item now info, Once (fun v => v.Carries (.packet n peerId item)) past w ∧
      inspectPacket M.rt now item.raw false = .ok info ∧ info.packetId = k ∧
      Once (fun v => ∃ p, (v.store peerId).packets.get k = some p) past w ∧
      (info.destinationId = peerId → Once (fun v => (v.store peerId).Marked k) past w ∨
        Once (fun v => ∃ p, (v.store peerId).packets.get k = some p ∧ p.destinationId ≠ peerId)
          past w) :=
  (((runs_sound h).stores n hruns).acked k peerId d hd hacked).2 hpeer

/-- In every run a node's own packet that is delivered came to its Inbox, or its rejection or a
receipt was recorded. -/
theorem own_packet_settled (h : M.Runs past w) (hruns : M.runs n) {k : String} {p : PacketRow}
    (hp : (w.store n).packets.get k = some p) (hdelivered : p.delivered)
    (hown : p.destinationId = n) : Once (fun v => (v.store n).Marked k) past w :=
  ((runs_sound h).stores n hruns).settled k p hp hdelivered hown

/-- In every run a message of the Inbox came to the node in a packet for the node that someone put
out, and its sender signed what it says. -/
theorem inbox_message_signed (h : M.Runs past w) (hruns : M.runs n) {k : String} {i : InboxRow}
    (hi : (w.store n).inbox.get k = some i) :
    ∃ raw m now info, inspectPacket M.rt now raw false = .ok info ∧ info.destinationId = n ∧
      info.packetId = k ∧ (∃ d, M.Came past w (· = raw) n d) ∧ Signed M.rt M.crypto m ∧
      i.senderId = m.senderId ∧ i.kind = m.kind ∧ i.createdMs = m.createdMs ∧ i.codec = m.codec ∧
      i.replyTo = m.replyTo := by
  obtain ⟨raw,m,⟨now,key,hopen⟩,hcame,hid,hfields⟩ :=
    ((runs_sound h).stores n hruns).inbox k i hi
  obtain ⟨hsigned,info,hinfo,hdestination,hpacket⟩ := openPacket_signed hopen
  refine ⟨raw,m,now,info,hinfo,hdestination.trans (M.named n),?_,hcame,hsigned,hfields⟩
  rw [← hpacket,← hid]
  exact Table.get_key hi

end Results

section Sample

/-- Nodes of which one puts out a packet for another. -/
def ownMesh (packet : Bytes) : Mesh where
  rt := openRuntime
  crypto := openLibrary.toCrypto
  identity n := ⟨n,openIdentity.boxPublic,openIdentity.boxPrivate⟩
  named _ := rfl
  maxBatch _ := 8
  runs _ := True
  puts n raw := n = "origin" ∧ raw = packet

def ownInfo (raw : Bytes) : PacketInfo :=
  sealedInfo openRecipient packedArguments "bulk" .static "" openDraw raw

def ownMessage : OpenedMessage :=
  sentMessage openSender packedArguments openedBody .static "" openDraw

/-- Handling at one time, of a message that nothing is done with. -/
def quietOccasion (own : Bytes → Prop) : Occasion own where
  inspectedAt := 5000
  addedAt := 5000
  openedAt := 5000
  committedAt := 5000
  rejectedAt := 5000
  isTrusted _ := .ok false
  checkBody message := .ok message.body
  prepare _ _ := ⟨[],.ok (),by simp⟩
  respond _ _ := ⟨[],.ok (),by simp⟩
  describe _ := ""

theorem ownPacket_opens : ∃ raw, inspectPacket openRuntime 5000 raw false = .ok (ownInfo raw) ∧
    openPacket openRuntime openLibrary.toCrypto openIdentity 5000 raw none = .ok ownMessage := by
  obtain ⟨raw,hseal,hinfo⟩ := openBody_seals
  obtain ⟨value,hvalue,hpacket⟩ := (sealMessage_ok open_laws.toConversionLaws open_laws.text_str
    (by decide)).mp hseal
  obtain rfl := Except.ok.inj (openBody_packed.symm.trans hvalue)
  have hto : SealedTo openLibrary openRecipient packedArguments openIdentity none :=
    ⟨openIdentity_sealed.address,openIdentity_sealed.box,openIdentity_sealed.prekey⟩
  have hbody : packedArguments.body.scalarKeys :=
    Object.packed_scalarKeys openBody (by decide) hvalue
  obtain ⟨mode,publicKey,keyId,htarget,hopens⟩ := sealPacket_opens open_laws openSender_keyed hto
    rfl hbody hpacket
  cases htarget
  exact ⟨raw,hinfo,hopens 5000 (by decide) (by decide)⟩

def ownRow (origin receivedFrom : String) (depth : ℤ) (raw : Bytes) : PacketRow :=
  ⟨openDraw.packetId,openIdentity.nodeId,1000,86401000,8,depth,raw,origin,receivedFrom,5000,false,
    "bulk"⟩

def ownStore (origin receivedFrom : String) (depth : ℤ) (raw : Bytes) : PacketStore :=
  { PacketStore.empty with
    packets := (Table.empty.insert (ownRow origin receivedFrom depth raw)).getD .empty }

/-- The two nodes and their session. -/
def ownWorld (origin recipient : PacketStore) (outgoing : List String) (stage : SyncStage) :
    MeshState where
  store n := if n = "origin" then origin else if n = openIdentity.nodeId then recipient else .empty
  spool _ := []
  sessions := [⟨"origin",openIdentity.nodeId,"direct",outgoing,stage⟩]
  mail := []

section Worlds

variable {origin recipient s : PacketStore} {ids ids' : List String} {stage stage' : SyncStage}

theorem turn_origin : (ownWorld origin recipient ids stage).turn 0 "origin" s
    ⟨"origin",openIdentity.nodeId,"direct",ids',stage'⟩ = ownWorld s recipient ids' stage' := by
  simp only [MeshState.turn,ownWorld,List.set_cons_zero,MeshState.mk.injEq,and_true]
  funext n
  by_cases hn : n = "origin"
  · subst hn
    rw [Function.update_self,if_pos rfl]
  · rw [Function.update_of_ne hn,if_neg hn,if_neg hn]

theorem turn_recipient : (ownWorld origin recipient ids stage).turn 0 openIdentity.nodeId s
    ⟨"origin",openIdentity.nodeId,"direct",ids',stage'⟩ = ownWorld origin s ids' stage' := by
  simp only [MeshState.turn,ownWorld,List.set_cons_zero,MeshState.mk.injEq,and_true]
  funext n
  by_cases hn : n = openIdentity.nodeId
  · subst hn
    rw [Function.update_self,if_neg (by decide),if_pos rfl]
  · rw [Function.update_of_ne hn,if_neg hn,if_neg hn]

@[simp] theorem ownWorld_origin : (ownWorld origin recipient ids stage).store "origin" = origin := rfl

@[simp] theorem ownWorld_recipient :
    (ownWorld origin recipient ids stage).store openIdentity.nodeId = recipient := rfl

end Worlds

section Exchange

variable {raw : Bytes}

theorem ownPacket_added (hinfo : inspectPacket openRuntime 5000 raw false = .ok (ownInfo raw))
    {depth : ℤ} (hdepth : ¬ (depth < 0 ∨ 8 < depth)) (origin receivedFrom : String) :
    addPacket openRuntime raw depth origin receivedFrom 5000 .empty =
      (.ok true,ownStore origin receivedFrom depth raw) :=
  addPacket_new hinfo hdepth rfl

theorem transaction_commits {α : Type} {body : PacketStore → Result (α × PacketStore)}
    {s s' : PacketStore} {a : α} (h : body s = .ok (a,s')) : transaction body s = (.ok a,s') := by
  rw [transaction,h]

/-- What the recipient holds after the exchange. -/
def Settled (s : PacketStore) : Prop :=
  s.pendingForPeer "origin" 8 1000 none none 5000 = .ok [] ∧
  (∃ i, s.inbox.get openDraw.packetId = some i) ∧ ∃ p, s.packets.get openDraw.packetId = some p ∧
    p.delivered ∧ p.destinationId = openIdentity.nodeId ∧ p.depth = 1

theorem ownMessage_committed (raw : Bytes) :
    ∃ s, commitLocalMessage openRuntime ownMessage false (ownMessage.kind ∉ quietKinds) 5000
      (ownStore "relay" "origin" 1 raw) = (.ok true,s) ∧ Settled s := by
  have hbody := openRuntime_packs (show ownMessage.body.fits by decide)
  have hcausal := openRuntime_packs (show (Value.list (ownMessage.causal.map .str)).fits by decide)
  have hcommit : commitMessage openRuntime ownMessage false (ownMessage.kind ∉ quietKinds) 5000
      (ownStore "relay" "origin" 1 raw) = .ok (true,_) :=
    bind_ok.mpr ⟨(),rfl,bind_ok.mpr ⟨_,hbody,bind_ok.mpr ⟨_,hcausal,bind_ok.mpr ⟨_,rfl,
      bind_ok.mpr ⟨_,rfl,rfl⟩⟩⟩⟩⟩
  exact ⟨_,transaction_commits hcommit,rfl,⟨_,rfl⟩,_,rfl,rfl,rfl,rfl⟩

theorem own_accepts (hinfo : inspectPacket openRuntime 5000 raw false = .ok (ownInfo raw))
    (hopen : openPacket openRuntime openLibrary.toCrypto openIdentity 5000 raw none =
      .ok ownMessage) :
    ∃ s, ((ownMesh raw).opener openIdentity.nodeId).acceptCarrierPacket (quietOccasion
      ((ownMesh raw).puts openIdentity.nodeId)) raw 1 "origin" .empty = (.ok openDraw.packetId,s) ∧
        Settled s := by
  obtain ⟨s,hcommit,hsettled⟩ := ownMessage_committed raw
  have hread : ((ownMesh raw).opener openIdentity.nodeId).readMessage
      (quietOccasion ((ownMesh raw).puts openIdentity.nodeId)) raw
        (ownStore "relay" "origin" 1 raw) = .ok (ownMessage,false) :=
    bind_ok.mpr ⟨_,hinfo,bind_ok.mpr ⟨none,rfl,bind_ok.mpr ⟨_,hopen,bind_ok.mpr ⟨_,rfl,
      bind_ok.mpr ⟨(),raiseIf_passes (by simp),rfl⟩⟩⟩⟩⟩
  have hprocess := Opener.processLocalPacket_commits hread hcommit
  have hadd := @ownPacket_added raw hinfo 1 (by omega) "relay" "origin"
  have hdepth : ¬ ((1 : ℤ) < 1 ∨ (ownInfo raw).maxHops < 1) :=
    show ¬ ((1 : ℤ) < 1 ∨ clampHops 8 < 1) by decide
  refine ⟨s,?_,hsettled⟩
  refine Opener.acceptCarrierPacket_processes hinfo hdepth hadd ?_ hprocess
  rintro (hdestination | hdelivered)
  · exact hdestination rfl
  · cases hdelivered

theorem ownMesh_connects (hinfo : inspectPacket openRuntime 5000 raw false = .ok (ownInfo raw)) :
    ∃ past, (ownMesh raw).Runs past (ownWorld (ownStore "local" "" 0 raw) .empty [] .connected) := by
  have hadded := @ownPacket_added raw hinfo 0 (by omega) "local" ""
  let queued : NodeCall ((ownMesh raw).puts "origin") := .queue raw "local" 5000 ⟨rfl,rfl⟩
  have hqueued : queued.exec (ownMesh raw).rt (MeshState.empty.store "origin") =
    ownStore "local" "" 0 raw := congrArg Prod.snd hadded
  have hqueue := @MeshStep.call (ownMesh raw) .empty "origin" trivial queued
  rw [hqueued] at hqueue
  have hconnect := @MeshStep.connect (ownMesh raw) (MeshState.empty.withStore "origin"
    (ownStore "local" "" 0 raw)) "origin" openIdentity.nodeId (by decide) "direct"
  have hworld : ownWorld (ownStore "local" "" 0 raw) .empty [] .connected =
      { MeshState.empty.withStore "origin" (ownStore "local" "" 0 raw) with
        sessions := [⟨"origin",openIdentity.nodeId,"direct",[],.connected⟩] } := by
    simp only [ownWorld,MeshState.withStore,MeshState.empty,MeshState.mk.injEq,and_true]
    funext n
    by_cases hn : n = "origin"
    · subst hn
      rw [Function.update_self,if_pos rfl]
    · rw [Function.update_of_ne hn,if_neg hn,ite_self]
  rw [hworld]
  exact ⟨_,.step (.step (.start rfl) hqueue) hconnect⟩

/-- The origin's store while its packet is on the way. -/
def ownOffered (raw : Bytes) : PacketStore :=
  markAttempt [openDraw.packetId] openIdentity.nodeId "" "direct" 5000 (ownStore "local" "" 0 raw)

theorem own_offer : MeshStep (ownMesh raw)
    (ownWorld (ownStore "local" "" 0 raw) .empty [] .connected)
    (ownWorld (ownOffered raw) .empty [openDraw.packetId] (.request [⟨raw,1⟩] [])) := by
  have h := @MeshStep.offer (ownMesh raw) (ownWorld (ownStore "local" "" 0 raw) .empty []
    .connected) 0 _ [(ownRow "local" "" 0 raw).pending] 5000 rfl rfl trivial rfl 5000
  simp only [turn_origin,ownWorld_origin] at h
  exact h

theorem own_take {s : PacketStore} (h : ((ownMesh raw).opener openIdentity.nodeId).acceptCarrierPacket
    (quietOccasion ((ownMesh raw).puts openIdentity.nodeId)) raw 1 "origin" .empty =
      (.ok openDraw.packetId,s)) :
    MeshStep (ownMesh raw)
      (ownWorld (ownOffered raw) .empty [openDraw.packetId] (.request [⟨raw,1⟩] []))
      (ownWorld (ownOffered raw) s [openDraw.packetId] (.request [] [openDraw.packetId])) := by
  have htake := @MeshStep.take (ownMesh raw) (ownWorld (ownOffered raw) .empty
    [openDraw.packetId] (.request [⟨raw,1⟩] [])) 0 _ ⟨raw,1⟩ [] [] rfl rfl trivial
    (quietOccasion ((ownMesh raw).puts openIdentity.nodeId))
  simp only [turn_recipient,ownWorld_recipient,h,noted,List.nil_append] at htake
  exact htake

/-- The origin hands its packet to the recipient, which opens it, and marks its
acknowledgement. -/
theorem ownMesh_runs : ∃ raw past w, (ownMesh raw).Runs past w ∧
    (∃ d, (w.store "origin").deliveries.get (openDraw.packetId,openIdentity.nodeId) = some d ∧
      d.state = .acked) ∧ Settled (w.store openIdentity.nodeId) := by
  obtain ⟨raw,hinfo,hopen⟩ := ownPacket_opens
  obtain ⟨s,haccept,hsettled⟩ := own_accepts hinfo hopen
  obtain ⟨past,hconnected⟩ := ownMesh_connects hinfo
  have htaken := (hconnected.step own_offer).step (own_take haccept)
  have hanswer := @MeshStep.answer (ownMesh raw) (ownWorld (ownOffered raw) s [openDraw.packetId]
    (.request [] [openDraw.packetId])) 0 _ [] _ 5000 rfl rfl trivial hsettled.1 5000
  simp only [turn_recipient,ownWorld_recipient,List.map_nil] at hanswer
  have hsettle := @MeshStep.settle (ownMesh raw) (ownWorld (ownOffered raw) s [openDraw.packetId]
    (.reply [openDraw.packetId] [] [])) 0 _ _ _ _ rfl rfl trivial 5000
  simp only [turn_origin,ownWorld_origin] at hsettle
  exact ⟨raw,_,_,(htaken.step hanswer).step hsettle,⟨_,rfl,rfl⟩,hsettled⟩

end Exchange

/-- The recipient had the packet that the origin marks as acknowledged. -/
theorem acked_packet_taken_sample : ∃ raw past w d, (ownMesh raw).Runs past w ∧
    (w.store "origin").deliveries.get (openDraw.packetId,openIdentity.nodeId) = some d ∧
      d.state = .acked ∧
      Once (fun v => ∃ p, (v.store openIdentity.nodeId).packets.get openDraw.packetId = some p)
        past w := by
  obtain ⟨raw,past,w,hruns,⟨d,hd,hacked⟩,-⟩ := ownMesh_runs
  obtain ⟨_,_,_,-,-,-,hpresent,-⟩ := acked_packet_taken hruns trivial trivial hd hacked
  exact ⟨raw,past,w,d,hruns,hd,hacked,hpresent⟩

/-- The packet is delivered, and its message is in the Inbox. -/
theorem own_packet_settled_sample : ∃ raw past w p, (ownMesh raw).Runs past w ∧
    (w.store openIdentity.nodeId).packets.get openDraw.packetId = some p ∧ p.delivered ∧
      Once (fun v => (v.store openIdentity.nodeId).Marked openDraw.packetId) past w := by
  obtain ⟨raw,past,w,hruns,-,-,-,p,hp,hdelivered,hown,-⟩ := ownMesh_runs
  exact ⟨raw,past,w,p,hruns,hp,hdelivered,own_packet_settled hruns trivial hp hdelivered hown⟩

/-- The message of the Inbox is the one that the sender of the packet signed. -/
theorem inbox_message_signed_sample : ∃ raw past w i m, (ownMesh raw).Runs past w ∧
    (w.store openIdentity.nodeId).inbox.get openDraw.packetId = some i ∧
      Signed openRuntime openLibrary.toCrypto m ∧ i.senderId = m.senderId ∧ i.kind = m.kind := by
  obtain ⟨raw,past,w,hruns,-,-,⟨i,hi⟩,-⟩ := ownMesh_runs
  obtain ⟨_,m,_,_,-,-,-,-,hsigned,hsender,hkind,-⟩ := inbox_message_signed hruns trivial hi
  exact ⟨raw,past,w,i,m,hruns,hi,hsigned,hsender,hkind⟩

end Sample

end Mesh
end Anet
