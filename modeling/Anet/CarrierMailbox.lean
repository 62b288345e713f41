import Anet.CarrierRoundTrip
import Anet.PacketTables
import Anet.Transition

/-! The receiving half of a pass of the directory and the WebDAV carrier: a scan of the inbound
channels, the quarantine of what could not be read, the node's handling of the frames that
could, and which entries leave the shared mailbox on the way. -/
namespace Anet

/-- An entry of a collection; one that is not a regular file has no content. -/
structure MailEntry where
  collection : String
  name : String
  content : Option Bytes
  deriving DecidableEq

def MailEntry.key (e : MailEntry) : String × String := (e.collection,e.name)

abbrev Mailbox := Table MailEntry.key noMarks

inductive MailStore
  | directory | webdav
  deriving DecidableEq

/-- `_OBJECT_RE`. -/
def isObjectName (name : String) : Bool :=
  isHex 48 name || (isHex 40 (cut 40 name) && name == cut 40 name ++ ".drop")

/-- `_COLLECTION_RE`. -/
def isCollectionName (name : String) : Bool :=
  let token (s : String) := s.toList.length == 27 && s.toList.all fun c => urlsafeAlphabet.elem c
  token name || (startsWith name "ch-" && token (String.ofList (name.toList.drop 3)))

namespace MailStore

/-- What a listing shows: WebDAV names have the form of a token and of a frame. -/
def lists (store : MailStore) (e : MailEntry) : Bool :=
  match store with
  | .directory => true
  | .webdav => isCollectionName e.collection && isObjectName e.name

/-- The entries of a collection in the order of their names. -/
def listing (store : MailStore) (mail : Mailbox) (collection : String) : List MailEntry :=
  (mail.rows.filter fun e => e.collection = collection ∧ store.lists e).insertionSort
    fun a b => a.name ≤ b.name

end MailStore

/-- How a call that changes the mailbox ends: it raises without an effect, or with its effect
when only the reply was lost. -/
inductive CallEnd
  | done | failed | lost
  deriving DecidableEq

/-- How `_process_local_packet` ends: the `refused` are the errors that the node takes for the
packet's own. -/
inductive ProcessEnd
  | finished | refused (reason : String) | failed
  deriving DecidableEq

/-- What the node's own storage does while it handles one frame: a flag is set when the
statement raises. -/
structure NodeFaults where
  add : Bool
  lookup : Bool
  record : Bool
  process : ProcessEnd
  processed : PacketStore → PacketStore

/-- What happens to one entry in a pass, and the times the clock shows. -/
structure FrameFaults where
  readAt : ℤ
  read : Bool
  handledAt : ℤ
  node : NodeFaults
  publishAck : Bool
  consume : CallEnd
  move : CallEnd
  delete : CallEnd

/-- A pass: the peers, the limit, and what the storage, the network and the clock do. -/
structure PassInput where
  cards : List PeerCard
  limit : ℤ
  channelsAt : String → ℤ
  listing : String → Bool
  frame : String × String → FrameFaults

/-- How the node answers a frame: it has it, it will never take it, or its storage failed. -/
inductive NodeReply
  | accepted | rejected | failed
  deriving DecidableEq

/-- A frame and the entry it was read from. -/
structure MailFrame where
  entry : MailEntry
  frame : CarrierFrame

/-- An entry that left the mailbox, and the pass in which it did. -/
structure Removal where
  entry : MailEntry
  input : PassInput

/-- The mailbox and the node's store, with what was ever left in the mailbox, what the node has
accepted or rejected, and what has left the mailbox. -/
structure MailWorld where
  mail : Mailbox
  store : PacketStore
  delivered : List MailEntry
  handled : List MailEntry
  removed : List Removal

/-- `for a in l`, until one raises. -/
def forEach {α σ : Type*} (f : α → σ → σ × Bool) : List α → σ → σ × Bool
  | [],s => (s,true)
  | a :: l,s => if (f a s).2 then forEach f l (f a s).1 else f a s

section Library

variable {α σ : Type*} {f : α → σ → σ × Bool}

/-- What every turn keeps, the loop keeps. -/
theorem forEach_keeps {I : σ → Prop} {l : List α} (h : ∀ a ∈ l, ∀ s, I s → I (f a s).1) :
    ∀ {s}, I s → I (forEach f l s).1 := by
  induction l with
  | nil => exact fun hs => hs
  | cons a l ih =>
    intro s hs
    have hfirst := h a List.mem_cons_self s hs
    rw [forEach]
    split
    · exact ih (fun b hb => h b (List.mem_cons_of_mem _ hb)) hfirst
    · exact hfirst

end Library

namespace Carrier

variable (rt : Runtime) (lib : CarrierCrypto) (store : MailStore) (self : CarrierIdentity)
  (pathId : String)

section Node

/-- `accept_carrier_packet`, and how the node takes its end. -/
def acceptCarrierPacket (faults : NodeFaults) (now : ℤ) (raw : Bytes) (depth : ℤ)
    (peerId : String) (s : PacketStore) : NodeReply × PacketStore :=
  match Packet.inspectPacket rt now raw false with
  | .error _ => (.rejected,s)
  | .ok info =>
    if depth < 1 ∨ info.maxHops < depth then (.rejected,s)
    else if faults.add then (.failed,s)
    else match s.addPacket rt raw depth "relay" peerId now with
    | (.error _,s) => (.rejected,s)
    | (.ok _,s) =>
      if info.destinationId ≠ self.nodeId then (.accepted,s)
      else if faults.lookup then (.failed,s)
      else if s.packetDelivered info.packetId then (.accepted,s)
      else match faults.process with
      | .finished => (.accepted,faults.processed s)
      | .failed => (.failed,faults.processed s)
      | .refused reason =>
        if faults.record then (.failed,faults.processed s)
        else (.rejected,(faults.processed s).markLocalRejected info.packetId peerId reason now)

/-- The end of an acknowledgement: `has_packet`, then `mark_acked`. -/
def acceptCarrierAck (faults : NodeFaults) (now : ℤ) (packetId peerId : String) (s : PacketStore) :
    NodeReply × PacketStore :=
  if faults.lookup then (.failed,s)
  else if (s.packets.get packetId).isNone then (.accepted,s)
  else if faults.record then (.failed,s)
  else (.accepted,s.markAcked [packetId] peerId pathId now)

def nodeReply (faults : FrameFaults) (frame : CarrierFrame) (s : PacketStore) :
    NodeReply × PacketStore :=
  match frame.kind with
  | .ack => acceptCarrierAck pathId faults.node faults.handledAt frame.packetId frame.peerId s
  | .packet => acceptCarrierPacket rt self faults.node faults.handledAt frame.raw frame.depth
    frame.peerId s

end Node

section Scan

/-- One entry of a scan. -/
def readEntry (input : PassInput) (peer : PeerCard) (channel : CarrierChannel) (e : MailEntry) :
    Result CarrierFrame := do
  let faults := input.frame e.key
  raiseIf faults.read (.os "the entry could not be read")
  let wire ← fetched e.content (.value "directory carrier entries must be regular files")
  decodeFrame rt lib self peer channel faults.readAt e.name wire

/-- The frame of an entry, when it is one. -/
def entryFrame (input : PassInput) (peer : PeerCard) (channel : CarrierChannel) (e : MailEntry) :
    Option MailFrame :=
  (readEntry rt lib self input peer channel e).toOption.map (MailFrame.mk e)

/-- `scan` over the channels, with what is left of its limit. -/
def scanFrom (input : PassInput) (mail : Mailbox) (peer : PeerCard) :
    ℕ → List CarrierChannel → Result (List MailFrame × List MailEntry)
  | _,[] => .ok ([],[])
  | 0,_ => .ok ([],[])
  | remaining + 1,channel :: channels => do
    raiseIf (input.listing channel.locator) (.os "the collection could not be listed")
    let entries := (store.listing mail channel.locator).take (remaining + 1)
    let rest ← scanFrom input mail peer (remaining + 1 - entries.length) channels
    return (entries.filterMap (entryFrame rt lib self input peer channel) ++ rest.1,
      (entries.filter fun e =>
        (entryFrame rt lib self input peer channel e).isNone) ++ rest.2)

def scan (input : PassInput) (mail : Mailbox) (peer : PeerCard) :
    Result (List MailFrame × List MailEntry) := do
  let channels ← inboundChannels rt lib self peer (input.channelsAt peer.nodeId)
  scanFrom rt lib store self input mail peer (clampLimit input.limit 1024) channels

end Scan

section Shown

variable {rt : Runtime} {lib : CarrierCrypto} {store : MailStore} {self : CarrierIdentity}
  {input : PassInput} {mail : Mailbox} {peer : PeerCard}

/-- All entries of the channels, in the order of a scan. -/
def shown (store : MailStore) (mail : Mailbox) (channels : List CarrierChannel) :
    List (CarrierChannel × MailEntry) :=
  channels.flatMap fun channel => (store.listing mail channel.locator).map fun e => (channel,e)

theorem mem_listing {collection : String} {e : MailEntry} :
    e ∈ store.listing mail collection ↔
      e ∈ mail.rows ∧ e.collection = collection ∧ store.lists e := by
  rw [MailStore.listing,(List.perm_insertionSort _ _).mem_iff,List.mem_filter,decide_eq_true_eq]

theorem mem_shown {channels : List CarrierChannel} {channel : CarrierChannel} {e : MailEntry} :
    (channel,e) ∈ shown store mail channels ↔
      channel ∈ channels ∧ e ∈ mail.rows ∧ e.collection = channel.locator ∧ store.lists e := by
  simp only [shown,List.mem_flatMap,List.mem_map,Prod.mk.injEq,mem_listing]
  constructor
  · rintro ⟨c,hc,x,hx,rfl,rfl⟩
    exact ⟨hc,hx⟩
  · rintro ⟨hc,hx⟩
    exact ⟨channel,hc,e,hx,rfl,rfl⟩

/-- A scan reads the first entries that its channels show, as many as its limit. -/
theorem scanFrom_eq {channels : List CarrierChannel} {remaining : ℕ} {frames : List MailFrame}
    {rejected : List MailEntry}
    (h : scanFrom rt lib store self input mail peer remaining channels = .ok (frames,rejected)) :
    frames = ((shown store mail channels).take remaining).filterMap
      (fun x => entryFrame rt lib self input peer x.1 x.2) ∧
    rejected = (((shown store mail channels).take remaining).filter fun x =>
      (entryFrame rt lib self input peer x.1 x.2).isNone).map Prod.snd := by
  induction channels generalizing remaining frames rejected with
  | nil =>
    cases remaining <;> cases h <;> simp [shown]
  | cons channel channels ih =>
    cases remaining with
    | zero => cases h; simp
    | succ remaining =>
      simp only [scanFrom,bind_ok,raiseIf_ok] at h
      obtain ⟨-,-,rest,hrest,h⟩ := h
      obtain ⟨rfl,rfl⟩ := Prod.mk.inj (Except.ok.inj h)
      obtain ⟨hframes,hrejected⟩ := ih hrest
      have hshown : shown store mail (channel :: channels) =
          (store.listing mail channel.locator).map (fun e => (channel,e)) ++
            shown store mail channels := rfl
      have hleft : remaining + 1 - ((store.listing mail channel.locator).take (remaining + 1)).length =
          remaining + 1 - ((store.listing mail channel.locator).map fun e => (channel,e)).length := by
        rw [List.length_take,List.length_map]
        omega
      rw [hframes,hrejected,hshown,List.take_append,hleft]
      constructor
      · simp only [List.filterMap_append,← List.map_take,List.filterMap_map,Function.comp_def]
      · simp only [List.filter_append,List.map_append,← List.map_take,List.filter_map,
          List.map_map,Function.comp_def,List.map_id']

/-- Nothing but a listing stops a scan. -/
theorem scanFrom_total (hlisting : ∀ locator, input.listing locator = false)
    (channels : List CarrierChannel) (remaining : ℕ) :
    ∃ r, scanFrom rt lib store self input mail peer remaining channels = .ok r := by
  induction channels generalizing remaining with
  | nil => cases remaining <;> exact ⟨_,rfl⟩
  | cons channel channels ih =>
    cases remaining with
    | zero => exact ⟨_,rfl⟩
    | succ remaining =>
      obtain ⟨rest,hrest⟩ := ih (remaining + 1 -
        ((store.listing mail channel.locator).take (remaining + 1)).length)
      refine ⟨_,bind_ok.mpr ⟨(),?_,bind_ok.mpr ⟨rest,hrest,rfl⟩⟩⟩
      simp [hlisting]

end Shown

end Carrier

namespace MailWorld

def initial (s : PacketStore) : MailWorld := ⟨.empty,s,[],[],[]⟩

/-- A sender leaves an entry where none is. -/
def deliver (e : MailEntry) (w : MailWorld) : MailWorld :=
  match w.mail.insert e with
  | some mail => { w with mail := mail, delivered := e :: w.delivered }
  | none => w

/-- An entry leaves the mailbox. -/
def remove (input : PassInput) (key : String × String) (w : MailWorld) : MailWorld :=
  match w.mail.get key with
  | some e => { w with
      mail := w.mail.delete fun r => r.key = key
      removed := ⟨e,input⟩ :: w.removed }
  | none => w

section Pass

variable (rt : Runtime) (lib : CarrierCrypto) (store : MailStore) (self : CarrierIdentity)
  (pathId : String) (input : PassInput)

/-- `consume`: the entry may be gone already. -/
def consume (e : MailEntry) (w : MailWorld) : MailWorld × Bool :=
  let callEnd : CallEnd := (input.frame e.key).consume
  (if callEnd = .failed then w else w.remove input e.key,callEnd = .done)

/-- The `DELETE` of a WebDAV quarantine whose `MOVE` raised. -/
def discard (e : MailEntry) (w : MailWorld) : MailWorld × Bool :=
  let callEnd : CallEnd := (input.frame e.key).delete
  (if callEnd = .failed then w else w.remove input e.key,callEnd = .done)

/-- `quarantine`: an entry that is gone cannot be moved; WebDAV deletes what it cannot move. -/
def quarantine (e : MailEntry) (w : MailWorld) : MailWorld × Bool :=
  let callEnd : CallEnd := (input.frame e.key).move
  let moved := if callEnd = .failed then w else w.remove input e.key
  if callEnd = .done ∧ (w.mail.get e.key).isSome then (moved,true)
  else match store with
  | .directory => (moved,false)
  | .webdav => moved.discard input e

/-- The handling of one frame. -/
def handleFrame (f : MailFrame) (w : MailWorld) : MailWorld × Bool :=
  let faults := input.frame f.entry.key
  let reply := Carrier.nodeReply rt self pathId faults f.frame w.store
  let w : MailWorld := { w with
    store := reply.2
    handled := if reply.1 = NodeReply.failed then w.handled else f.entry :: w.handled }
  if reply.1 = NodeReply.accepted ∧ ¬ (f.frame.kind = FrameKind.packet ∧ faults.publishAck) then
    let consumed := w.consume input f.entry
    if consumed.2 then consumed else consumed.1.quarantine store input f.entry
  else w.quarantine store input f.entry

/-- The turn of one peer: its rejected entries first, then its frames. -/
def passPeer (peer : PeerCard) (w : MailWorld) : MailWorld × Bool :=
  match Carrier.scan rt lib store self input w.mail peer with
  | .error _ => (w,false)
  | .ok (frames,rejected) =>
    let sorted := forEach (quarantine store input) rejected w
    if sorted.2 then forEach (handleFrame rt store self pathId input) frames sorted.1 else sorted

def pass (w : MailWorld) : MailWorld :=
  (forEach (passPeer rt lib store self pathId input) input.cards w).1

end Pass

end MailWorld

section Runs

variable {rt : Runtime} {lib : CarrierCrypto} {store : MailStore} {identity : CarrierIdentity}
  {pathId : String} {input : PassInput} {w w' : MailWorld} {e : MailEntry}

namespace PassInput

/-- The pass scans the channel for this peer. -/
def Scans (rt : Runtime) (lib : CarrierCrypto) (identity : CarrierIdentity) (input : PassInput)
    (peer : PeerCard) (channel : CarrierChannel) : Prop :=
  peer ∈ input.cards ∧ ∃ channels,
    Carrier.inboundChannels rt lib identity peer (input.channelsAt peer.nodeId) = .ok channels ∧
      channel ∈ channels

/-- The entry decodes and authenticates under the key of its channel. -/
structure Reads (rt : Runtime) (lib : CarrierCrypto) (identity : CarrierIdentity) (input : PassInput)
    (e : MailEntry) (peer : PeerCard) (channel : CarrierChannel) (frame : CarrierFrame) : Prop where
  scans : input.Scans rt lib identity peer channel
  filed : e.collection = channel.locator
  decodes : ∃ wire, e.content = some wire ∧
    Carrier.decodeFrame rt lib identity peer channel (input.frame e.key).readAt e.name wire = .ok frame

/-- No two channels of the pass have one collection. -/
def Apart (rt : Runtime) (lib : CarrierCrypto) (identity : CarrierIdentity) (input : PassInput) : Prop :=
  ∀ peer channel peer' channel', input.Scans rt lib identity peer channel →
    input.Scans rt lib identity peer' channel' → channel.locator = channel'.locator →
      peer = peer' ∧ channel = channel'

end PassInput

/-- The quarantine takes the entry away, or the `DELETE` after it does. -/
def FrameFaults.leaves (store : MailStore) (faults : FrameFaults) : Prop :=
  faults.move ≠ .failed ∨ (store = .webdav ∧ faults.delete ≠ .failed)

/-- No entry that reads as a frame meets a failed read, or a failure of the node's own storage,
unless its quarantine fails too. -/
def PassInput.Spares (rt : Runtime) (lib : CarrierCrypto) (store : MailStore)
    (identity : CarrierIdentity) (pathId : String) (input : PassInput) (mail : Mailbox) : Prop :=
  ∀ e ∈ mail.rows, ∀ peer channel frame, input.Reads rt lib identity e peer channel frame →
    ((input.frame e.key).read = false ∧ ∀ s,
      (Carrier.nodeReply rt identity pathId (input.frame e.key) frame s).1 ≠ .failed) ∨
    ¬ (input.frame e.key).leaves store

namespace MailWorld

/-- A frame that left the mailbox had been handled, unless it did not read as one. -/
def Settled (rt : Runtime) (lib : CarrierCrypto) (identity : CarrierIdentity) (w : MailWorld) : Prop :=
  ∀ r ∈ w.removed, ∀ peer channel frame, r.input.Reads rt lib identity r.entry peer channel frame →
    r.entry ∈ w.handled

/-- What was left in the mailbox is still there, or has been taken out by a pass. -/
def Present (w : MailWorld) : Prop :=
  ∀ e ∈ w.delivered, e ∈ w.mail.rows ∨ ∃ r ∈ w.removed, r.entry = e

/-- Within a pass that started with this mailbox: both hold, and entries only leave. -/
structure Within (rt : Runtime) (lib : CarrierCrypto) (identity : CarrierIdentity) (mail : Mailbox)
    (w : MailWorld) : Prop where
  settled : w.Settled rt lib identity
  present : w.Present
  rows : ∀ e ∈ w.mail.rows, e ∈ mail.rows

variable {mail : Mailbox}

@[simp] theorem handled_remove (input : PassInput) (key : String × String) (w : MailWorld) :
    (w.remove input key).handled = w.handled := by
  unfold MailWorld.remove
  split <;> rfl

@[simp] theorem handled_consume (input : PassInput) (e : MailEntry) (w : MailWorld) :
    (w.consume input e).1.handled = w.handled := by
  simp only [MailWorld.consume]
  split <;> simp

/-- Only the entry itself has its key. -/
theorem Within.get (h : Within rt lib identity mail w) (he : e ∈ mail.rows) {e' : MailEntry}
    (hget : w.mail.get e.key = some e') : e' = e := by
  have hkey := Table.get_key hget
  have hmem : e' ∈ w.mail.rows := Table.mem_rows.mpr (hkey ▸ hget)
  have hold := Table.mem_rows.mp (h.rows e' hmem)
  rw [hkey,Table.mem_rows.mp he] at hold
  exact (Option.some.inj hold).symm

/-- An entry that was handled or does not read as a frame may go. -/
theorem Within.remove (h : Within rt lib identity mail w) (he : e ∈ mail.rows)
    (hgone : ∀ peer channel frame, input.Reads rt lib identity e peer channel frame → e ∈ w.handled) :
    Within rt lib identity mail (w.remove input e.key) := by
  unfold MailWorld.remove
  cases hget : w.mail.get e.key with
  | none => exact h
  | some e' =>
    obtain rfl := h.get he hget
    refine ⟨?_,?_,?_⟩
    · intro r hr peer channel frame hreads
      rcases List.mem_cons.mp hr with rfl | hr
      · exact hgone peer channel frame hreads
      · exact h.settled r hr peer channel frame hreads
    · intro x hx
      rcases h.present x hx with hrow | ⟨r,hr,hentry⟩
      · by_cases hkey : x.key = e'.key
        · have hsame : x = e' := by
            have hxget := Table.mem_rows.mp hrow
            rw [hkey,hget] at hxget
            exact (Option.some.inj hxget).symm
          exact Or.inr ⟨_,List.mem_cons_self,hsame.symm⟩
        · refine Or.inl (Table.mem_rows.mpr ?_)
          rw [Table.get_delete]
          simp [Table.mem_rows.mp hrow,hkey]
      · exact Or.inr ⟨r,List.mem_cons_of_mem _ hr,hentry⟩
    · intro x hx
      have hget' := Table.mem_rows.mp hx
      rw [Table.get_delete] at hget'
      exact h.rows x (Table.mem_rows.mpr (Option.filter_eq_some_iff.mp hget').1)

/-- Nothing but removals of its entry happens in a quarantine, and not even those where it does
not take the entry away. -/
theorem Within.quarantine (h : Within rt lib identity mail w) (he : e ∈ mail.rows)
    (hgone : (input.frame e.key).leaves store → ∀ peer channel frame,
      input.Reads rt lib identity e peer channel frame → e ∈ w.handled) :
    Within rt lib identity mail (w.quarantine store input e).1 := by
  by_cases hleaves : (input.frame e.key).leaves store
  · have hremoved := h.remove he (hgone hleaves)
    have hmoved : Within rt lib identity mail (if (input.frame e.key).move = .failed then w
        else w.remove input e.key) ∧ ∀ peer channel frame,
        input.Reads rt lib identity e peer channel frame →
          e ∈ (if (input.frame e.key).move = .failed then w else w.remove input e.key).handled := by
      split
      · exact ⟨h,hgone hleaves⟩
      · rw [handled_remove]
        exact ⟨hremoved,hgone hleaves⟩
    simp only [MailWorld.quarantine]
    split
    · exact hmoved.1
    · split
      · exact hmoved.1
      · simp only [MailWorld.discard]
        split
        · exact hmoved.1
        · exact hmoved.1.remove he hmoved.2
  · rw [FrameFaults.leaves,not_or,not_not] at hleaves
    have hsame : (w.quarantine store input e).1 = w := by
      unfold MailWorld.quarantine
      rw [hleaves.1]
      cases store with
      | directory => simp
      | webdav =>
        have hdelete : (input.frame e.key).delete = .failed := by
          by_contra hne
          exact hleaves.2 ⟨rfl,hne⟩
        simp [MailWorld.discard,hdelete]
    rw [hsame]
    exact h

theorem Within.consume (h : Within rt lib identity mail w) (he : e ∈ mail.rows)
    (hhandled : e ∈ w.handled) : Within rt lib identity mail (w.consume input e).1 := by
  simp only [MailWorld.consume]
  split
  · exact h
  · exact h.remove he fun _ _ _ _ => hhandled

/-- More handled entries and another store change nothing in the mailbox. -/
theorem Within.handle (h : Within rt lib identity mail w) (s : PacketStore) {handled : List MailEntry}
    (hmono : w.handled ⊆ handled) :
    Within rt lib identity mail { w with store := s, handled := handled } :=
  ⟨fun r hr peer channel frame hreads => hmono (h.settled r hr peer channel frame hreads),h.present,
    h.rows⟩

/-- The handling of a frame that was read. -/
theorem Within.handleFrame (h : Within rt lib identity mail w) {f : MailFrame}
    (he : f.entry ∈ mail.rows)
    (hspared : (∀ s, (Carrier.nodeReply rt identity pathId (input.frame f.entry.key) f.frame s).1 ≠
      .failed) ∨ ¬ (input.frame f.entry.key).leaves store) :
    Within rt lib identity mail (w.handleFrame rt store identity pathId input f).1 := by
  by_cases hreply : (Carrier.nodeReply rt identity pathId (input.frame f.entry.key) f.frame
      w.store).1 = .failed
  · have hstays : ¬ (input.frame f.entry.key).leaves store := by
      rcases hspared with hquiet | hstays
      · exact absurd hreply (hquiet w.store)
      · exact hstays
    simp only [MailWorld.handleFrame,hreply]
    exact (h.handle _ (List.Subset.refl _)).quarantine he fun hleaves => absurd hleaves hstays
  · simp only [MailWorld.handleFrame,if_neg hreply]
    have hw := h.handle (Carrier.nodeReply rt identity pathId (input.frame f.entry.key) f.frame
      w.store).2 (List.subset_cons_self f.entry w.handled)
    have hmem : f.entry ∈ f.entry :: w.handled := List.mem_cons_self
    split
    · have hconsumed : Within rt lib identity mail (MailWorld.consume input f.entry _).1 :=
        hw.consume he hmem
      split
      · exact hconsumed
      · refine hconsumed.quarantine he fun _ _ _ _ _ => ?_
        rw [handled_consume]
        exact hmem
    · exact hw.quarantine he fun _ _ _ _ _ => hmem

/-- The turn of one peer. -/
theorem Within.passPeer (h : Within rt lib identity mail w) {peer : PeerCard}
    (hpeer : peer ∈ input.cards) (hapart : input.Apart rt lib identity)
    (hspares : input.Spares rt lib store identity pathId mail) :
    Within rt lib identity mail (w.passPeer rt lib store identity pathId input peer).1 := by
  unfold MailWorld.passPeer
  cases hscan : Carrier.scan rt lib store identity input w.mail peer with
  | error e => exact h
  | ok r =>
    obtain ⟨frames,rejected⟩ := r
    simp only [Carrier.scan,bind_ok] at hscan
    obtain ⟨channels,hchannels,hscan⟩ := hscan
    obtain ⟨hframes,hrejected⟩ := Carrier.scanFrom_eq hscan
    have hlisted : ∀ channel e, (channel,e) ∈ (Carrier.shown store w.mail channels).take
        (clampLimit input.limit 1024) → input.Scans rt lib identity peer channel ∧
          e ∈ mail.rows ∧ e.collection = channel.locator := by
      intro channel e hmem
      obtain ⟨hchannel,hrow,hfiled,-⟩ := Carrier.mem_shown.mp (List.mem_of_mem_take hmem)
      exact ⟨⟨hpeer,channels,hchannels,hchannel⟩,h.rows e hrow,hfiled⟩
    have hsorted : Within rt lib identity mail (forEach (MailWorld.quarantine store input) rejected
        w).1 := by
      refine forEach_keeps ?_ h
      intro e he s hs
      rw [hrejected] at he
      obtain ⟨⟨channel,e'⟩,hshown,rfl⟩ := List.mem_map.mp he
      obtain ⟨hmem,hnone⟩ := List.mem_filter.mp hshown
      obtain ⟨hscans,hrow,hfiled⟩ := hlisted channel e' hmem
      refine hs.quarantine hrow ?_
      intro hleaves peer' channel' frame hreads
      -- the channel it reads in is the one it was read from, so the read must have failed
      obtain ⟨rfl,rfl⟩ := hapart peer channel peer' channel' hscans hreads.scans
        (hfiled.symm.trans hreads.filed)
      rcases hspares e' hrow peer channel frame hreads with ⟨hread,-⟩ | hstays
      · obtain ⟨wire,hcontent,hdecode⟩ := hreads.decodes
        have hframe : Carrier.readEntry rt lib identity input peer channel e' = .ok frame := by
          simp only [Carrier.readEntry,bind_ok,raiseIf_ok,fetched_ok]
          exact ⟨(),by simp [hread],wire,hcontent,hdecode⟩
        simp [Carrier.entryFrame,hframe,Except.toOption] at hnone
      · exact absurd hleaves hstays
    dsimp only
    split
    · refine forEach_keeps ?_ hsorted
      intro f hf s hs
      rw [hframes] at hf
      obtain ⟨⟨channel,e⟩,hmem,hf⟩ := List.mem_filterMap.mp hf
      obtain ⟨hscans,hrow,hfiled⟩ := hlisted channel e hmem
      cases hread : Carrier.readEntry rt lib identity input peer channel e with
      | error x => simp [Carrier.entryFrame,hread,Except.toOption] at hf
      | ok frame =>
        simp only [Carrier.entryFrame,hread,Except.toOption,Option.map_some,
          Option.some.injEq] at hf
        subst hf
        simp only [Carrier.readEntry,bind_ok,fetched_ok] at hread
        obtain ⟨-,-,wire,hcontent,hdecode⟩ := hread
        refine hs.handleFrame hrow ?_
        exact (hspares e hrow peer channel frame ⟨hscans,hfiled,wire,hcontent,hdecode⟩).imp_left
          And.right
    · exact hsorted

theorem Within.pass (h : Within rt lib identity w.mail w) (hapart : input.Apart rt lib identity)
    (hspares : input.Spares rt lib store identity pathId w.mail) :
    Within rt lib identity w.mail (w.pass rt lib store identity pathId input) :=
  forEach_keeps (fun _ hpeer _ hs => hs.passPeer hpeer hapart hspares) h

/-- A sender leaves an entry, or the receiver makes a pass. -/
inductive MailStep (rt : Runtime) (lib : CarrierCrypto) (store : MailStore)
    (identity : CarrierIdentity) (pathId : String) : MailWorld → MailWorld → Prop
  | deliver (w : MailWorld) (e : MailEntry) : MailStep rt lib store identity pathId w (w.deliver e)
  | pass (w : MailWorld) (input : PassInput) (hapart : input.Apart rt lib identity)
      (hspares : input.Spares rt lib store identity pathId w.mail) :
      MailStep rt lib store identity pathId w (w.pass rt lib store identity pathId input)

theorem kept_mailStep (h : w.Settled rt lib identity ∧ w.Present)
    (hstep : MailStep rt lib store identity pathId w w') :
    w'.Settled rt lib identity ∧ w'.Present := by
  cases hstep with
  | deliver e =>
    unfold deliver
    cases hinsert : w.mail.insert e with
    | none => exact h
    | some mail =>
      refine ⟨h.1,?_⟩
      intro x hx
      have hrows : mail.rows = w.mail.rows ++ [e] := (Table.insert_eq_some hinsert).2.2
      rcases List.mem_cons.mp hx with rfl | hx
      · exact Or.inl (hrows ▸ by simp)
      · rcases h.2 x hx with hrow | hgone
        · exact Or.inl (hrows ▸ List.mem_append_left _ hrow)
        · exact Or.inr hgone
  | pass input hapart hspares =>
    have hw := Within.pass ⟨h.1,h.2,fun _ he => he⟩ hapart hspares
    exact ⟨hw.settled,hw.present⟩

/-- A storage without failures spares every frame. -/
theorem spares_quiet (h : ∀ key, (input.frame key).read = false ∧
      (input.frame key).node.add = false ∧ (input.frame key).node.lookup = false ∧
      (input.frame key).node.record = false ∧ (input.frame key).node.process ≠ .failed) :
    input.Spares rt lib store identity pathId mail := by
  intro e _ peer channel frame _
  obtain ⟨hread,hadd,hlookup,hrecord,hprocess⟩ := h e.key
  refine Or.inl ⟨hread,?_⟩
  intro s
  unfold Carrier.nodeReply
  cases frame.kind with
  | ack =>
    simp only [Carrier.acceptCarrierAck,hlookup,hrecord,Bool.false_eq_true,if_false]
    split <;> simp
  | packet =>
    simp only [Carrier.acceptCarrierPacket,hadd,hlookup,hrecord]
    grind

end MailWorld

/-- A frame leaves the mailbox only when the node has accepted or rejected it, where failed reads
and failures of the node's storage do not meet a working quarantine: it is there, or it was
handled, or it did not read as a frame; and the next scan that reaches it offers it again. -/
theorem spared_frames_kept (s : PacketStore)
    (h : Reaches (MailWorld.MailStep rt lib store identity pathId) (.initial s) w) :
    (∀ r ∈ w.removed, ∀ peer channel frame,
      r.input.Reads rt lib identity r.entry peer channel frame → r.entry ∈ w.handled) ∧
    (∀ e ∈ w.delivered, e ∈ w.mail.rows ∨ ∃ r ∈ w.removed, r.entry = e) ∧
    ∀ (input : PassInput) (peer : PeerCard) (channel : CarrierChannel) (frame : CarrierFrame),
      ∀ e ∈ w.mail.rows, ∀ channels,
        Carrier.inboundChannels rt lib identity peer (input.channelsAt peer.nodeId) = .ok channels →
        input.Reads rt lib identity e peer channel frame → (input.frame e.key).read = false →
        (∀ locator, input.listing locator = false) →
        (channel,e) ∈ (Carrier.shown store w.mail channels).take (clampLimit input.limit 1024) →
        ∃ frames rejected, Carrier.scan rt lib store identity input w.mail peer =
          .ok (frames,rejected) ∧ ⟨e,frame⟩ ∈ frames := by
  have hkept : w.Settled rt lib identity ∧ w.Present :=
    Reaches.invariant (I := fun w : MailWorld => w.Settled rt lib identity ∧ w.Present)
      (fun _ _ hw hstep => MailWorld.kept_mailStep hw hstep)
      ⟨fun _ hr => absurd hr List.not_mem_nil,fun _ he => absurd he List.not_mem_nil⟩ h
  refine ⟨hkept.1,hkept.2,?_⟩
  intro input peer channel frame e _ channels hchannels hreads hread hlisting hshown
  have htotal : ∃ r, Carrier.scanFrom rt lib store identity input w.mail peer
      (clampLimit input.limit 1024) channels = .ok r :=
    Carrier.scanFrom_total hlisting channels _
  obtain ⟨⟨frames,rejected⟩,hscan⟩ := htotal
  refine ⟨frames,rejected,?_,?_⟩
  · simp only [Carrier.scan,bind_ok]
    exact ⟨channels,hchannels,hscan⟩
  · obtain ⟨wire,hcontent,hdecode⟩ := hreads.decodes
    have hframe : Carrier.readEntry rt lib identity input peer channel e = .ok frame := by
      simp only [Carrier.readEntry,bind_ok,raiseIf_ok,fetched_ok]
      exact ⟨(),by simp [hread],wire,hcontent,hdecode⟩
    rw [(Carrier.scanFrom_eq hscan).1]
    refine List.mem_filterMap.mpr ⟨(channel,e),hshown,?_⟩
    simp [Carrier.entryFrame,hframe,Except.toOption]

end Runs

section Sample

/-- An acknowledgement in its channel. -/
def carriedEntry : MailEntry :=
  match Carrier.carriedAck with
  | .ok (channel,name,wire) => ⟨channel.locator,name,some wire⟩
  | .error _ => ⟨"","",none⟩

/-- Nothing fails, at 1000. -/
def plainFaults : FrameFaults where
  readAt := 1000
  read := false
  handledAt := 1000
  node := ⟨false,false,false,.finished,id⟩
  publishAck := false
  consume := .done
  move := .done
  delete := .done

/-- A pass over the channels of the sender with the same faults for every entry. -/
def passWith (faults : FrameFaults) : PassInput :=
  ⟨[Carrier.plainPeer Carrier.carriedFrom],128,fun _ => 1000,fun _ => false,fun _ => faults⟩

/-- The acknowledgement is left in the mailbox, and a pass is made. -/
def passOnce (store : MailStore) (faults : FrameFaults) : MailWorld :=
  ((MailWorld.initial .empty).deliver carriedEntry).pass .msgpack Carrier.plainCarrier store
    Carrier.carriedTo "directory" (passWith faults)

def carriedChannels : List CarrierChannel :=
  (Carrier.inboundChannels .msgpack Carrier.plainCarrier Carrier.carriedTo
    (Carrier.plainPeer Carrier.carriedFrom) 1000).toOption.getD []

/-- The passes over the acknowledgement: in a directory, with a read that fails once, and in a
WebDAV mailbox with a database that is locked once. -/
theorem passOnce_rows :
    ((∀ c ∈ carriedChannels, ∀ c' ∈ carriedChannels, c.locator = c'.locator → c = c') ∧
      (passOnce .directory plainFaults).mail.rows = []) ∧
    (Carrier.carriedRead Carrier.carriedAck 1000).toOption.isSome ∧
      ((passOnce .directory { plainFaults with read := true }).mail.rows = [] ∧
        (passOnce .directory { plainFaults with read := true }).delivered = [carriedEntry] ∧
        (passOnce .directory { plainFaults with read := true }).handled = []) ∧
      (passOnce .webdav { plainFaults with
          node := ⟨false,true,false,.finished,id⟩ }).mail.rows = [] ∧
        (passOnce .webdav { plainFaults with
          node := ⟨false,true,false,.finished,id⟩ }).handled = [] := by
  decide +kernel

theorem passWith_apart (faults : FrameFaults) :
    (passWith faults).Apart .msgpack Carrier.plainCarrier Carrier.carriedTo := by
  have hdistinct := passOnce_rows.1.1
  have hmem : ∀ peer channel, (passWith faults).Scans .msgpack Carrier.plainCarrier
      Carrier.carriedTo peer channel → peer = Carrier.plainPeer Carrier.carriedFrom ∧
        channel ∈ carriedChannels := by
    rintro peer channel ⟨hpeer,channels,hchannels,hchannel⟩
    obtain rfl := List.mem_singleton.mp hpeer
    refine ⟨rfl,?_⟩
    have hsame : carriedChannels = channels := by
      rw [carriedChannels]
      rw [passWith] at hchannels
      rw [hchannels]
      rfl
    rw [hsame]
    exact hchannel
  intro peer channel peer' channel' h h' hlocator
  obtain ⟨rfl,hc⟩ := hmem peer channel h
  obtain ⟨rfl,hc'⟩ := hmem peer' channel' h'
  exact ⟨rfl,hdistinct channel hc channel' hc' hlocator⟩

/-- The acknowledgement is handled and leaves the mailbox of a directory. -/
theorem spared_frames_kept_sample :
    (passOnce .directory plainFaults).mail.rows = [] ∧
      ∀ r ∈ (passOnce .directory plainFaults).removed, ∀ peer channel frame,
        r.input.Reads .msgpack Carrier.plainCarrier Carrier.carriedTo r.entry peer channel frame →
          r.entry ∈ (passOnce .directory plainFaults).handled := by
  have hdelivered : Reaches (MailWorld.MailStep .msgpack Carrier.plainCarrier .directory
      Carrier.carriedTo "directory") (.initial .empty)
      ((MailWorld.initial .empty).deliver carriedEntry) :=
    .single (.deliver _ carriedEntry)
  have hpassed := hdelivered.tail (.pass _ (passWith plainFaults) (passWith_apart plainFaults)
    (MailWorld.spares_quiet fun _ => ⟨rfl,rfl,rfl,rfl,fun h => by cases h⟩))
  exact ⟨passOnce_rows.1.2,(spared_frames_kept .empty hpassed).1⟩

/-- A read that fails once takes a frame that reads well out of a directory, and a database that is
locked once takes it out of a WebDAV mailbox, before the node has handled it. -/
theorem unread_frame_quarantined :
    (Carrier.carriedRead Carrier.carriedAck 1000).toOption.isSome ∧
      ((passOnce .directory { plainFaults with read := true }).mail.rows = [] ∧
        (passOnce .directory { plainFaults with read := true }).delivered = [carriedEntry] ∧
        (passOnce .directory { plainFaults with read := true }).handled = []) ∧
      (passOnce .webdav { plainFaults with
          node := ⟨false,true,false,.finished,id⟩ }).mail.rows = [] ∧
        (passOnce .webdav { plainFaults with
          node := ⟨false,true,false,.finished,id⟩ }).handled = [] := by
  have hrows := passOnce_rows.2
  dsimp only at hrows ⊢
  exact hrows

end Sample

end Anet
