import Anet.InboxStore
import Anet.Transition

/-! What a node does with a packet that a peer hands it. A packet for others waits in the store; one
for the node itself is opened, its body is checked, the handlers of its kind do their work, and the
message is committed to the Inbox or its rejection is recorded. -/
namespace Anet

open PacketStore Packet

/-- The kinds kept out of listings: `network.probe`, `receipt` and `PREKEY_CONTROL_KINDS`. -/
def quietKinds : List String :=
  ["network.probe","receipt","network.prekey.request","network.prekey.bundle"]

/-- The errors that a node takes for the packet's own. -/
def PyError.refuses : PyError → Bool
  | .value _ | .invalidTag | .invalidSignature => true
  | _ => false

/-- The tables that say which packets a node has and what became of them. -/
structure CustodyTables where
  packets : Packets
  deliveries : Deliveries
  inbox : Inbox
  receipts : Receipts
  packetRejections : PacketRejections

def PacketStore.custody (s : PacketStore) : CustodyTables :=
  ⟨s.packets,s.deliveries,s.inbox,s.receipts,s.packetRejections⟩

/-- A call on other tables. -/
structure Elsewhere where
  run : PacketStore → PacketStore
  leaves : ∀ s, (run s).custody = s.custody

/-- A call that the handlers of a message make: `add_packet` of a packet of the node's own,
`record_receipt`, or one on other tables. -/
inductive HandlerCall
  | queue (raw : Bytes) (origin : String) (now : ℤ)
  | receipt (packetId recipientId : String) (now : ℤ)
  | elsewhere (call : Elsewhere)

/-- What the handlers of a message do, and how they end. -/
structure HandlerEnd (own : Bytes → Prop) where
  calls : List HandlerCall
  ending : Result Unit
  queues : ∀ raw origin now, .queue raw origin now ∈ calls → own raw

/-- The times at which one packet is handled, and what the rest of the node makes of its message:
the peers, the checks of bodies, the handlers around the commit, and the texts of errors. -/
structure Occasion (own : Bytes → Prop) where
  inspectedAt : ℤ
  addedAt : ℤ
  openedAt : ℤ
  committedAt : ℤ
  rejectedAt : ℤ
  isTrusted : OpenedMessage → Result Bool
  checkBody : OpenedMessage → Result Value
  prepare : OpenedMessage → PacketStore → HandlerEnd own
  respond : OpenedMessage → PacketStore → HandlerEnd own
  describe : PyError → String

namespace HandlerCall

def exec (rt : Runtime) (c : HandlerCall) (s : PacketStore) : PacketStore :=
  match c with
  | .queue raw origin now => (addPacket rt raw 0 origin "" now s).2
  | .receipt packetId recipientId now => recordReceipt packetId recipientId now s
  | .elsewhere call => call.run s

end HandlerCall

namespace HandlerEnd

variable {own : Bytes → Prop}

def run (rt : Runtime) (h : HandlerEnd own) (s : PacketStore) : Result Unit × PacketStore :=
  (h.ending,h.calls.foldl (fun s c => c.exec rt s) s)

end HandlerEnd

/-- A node that opens packets: its keys and its cryptography. -/
structure Opener where
  rt : Runtime
  crypto : Crypto
  identity : Identity

namespace Opener

section Definitions

variable {own : Bytes → Prop}

/-- The one-time key of a packet that names one. -/
def packetPrekey (info : PacketInfo) (s : PacketStore) : Result (Option LocalPrekey) :=
  match info.keyMode with
  | .static => .ok none
  | .opk => do
    let found ← s.localPrekeyMaterial info.prekeyId
    let material ← fetched found (.value "packet one-time prekey is unavailable")
    raiseIf (material.expiresMs < info.createdMs)
      (.value "packet was created after its one-time prekey expired")
    return some material

/-- The message of a packet with its checked body, and whether its sender is trusted. -/
def readMessage (node : Opener) (o : Occasion own) (raw : Bytes) (s : PacketStore) :
    Result (OpenedMessage × Bool) := do
  let info ← inspectPacket node.rt o.openedAt raw false
  let material ← packetPrekey info s
  let opened ← openPacket node.rt node.crypto node.identity o.openedAt raw
    (material.bind LocalPrekey.privateKey)
  let body ← o.checkBody opened
  let message := { opened with body := body }
  raiseIf (∃ key ∈ material, key.peerId ≠ message.senderId)
    (.value "packet sender is not authorized for this one-time prekey")
  let trusted ← o.isTrusted message
  return (message,trusted)

/-- `_process_local_packet`. -/
def processLocalPacket (node : Opener) (o : Occasion own) (raw : Bytes) (s : PacketStore) :
    Result Unit × PacketStore :=
  match node.readMessage o raw s with
  | .error e => (.error e,s)
  | .ok (message,trusted) =>
    match if trusted then (o.prepare message s).run node.rt s else (.ok (),s) with
    | (.error e,s) => (.error e,s)
    | (.ok _,s) =>
      match commitLocalMessage node.rt message trusted (message.kind ∉ quietKinds) o.committedAt s
        with
      | (.error e,s) => (.error e,s)
      | (.ok created,s) =>
        if created ∧ trusted then (o.respond message s).run node.rt s else (.ok (),s)

/-- `accept_carrier_packet`. -/
def acceptCarrierPacket (node : Opener) (o : Occasion own) (raw : Bytes) (depth : ℤ)
    (peerId : String) (s : PacketStore) : Result String × PacketStore :=
  match inspectPacket node.rt o.inspectedAt raw false with
  | .error e => (.error e,s)
  | .ok info =>
    if depth < 1 ∨ info.maxHops < depth then (.error (.value "invalid relay depth"),s)
    else match addPacket node.rt raw depth "relay" peerId o.addedAt s with
    | (.error e,s) => (.error e,s)
    | (.ok _,s) =>
      if info.destinationId ≠ node.identity.nodeId ∨ s.packetDelivered info.packetId then
        (.ok info.packetId,s)
      else match node.processLocalPacket o raw s with
      | (.ok _,s) => (.ok info.packetId,s)
      | (.error e,s) =>
        if e.refuses then
          (.error e,s.markLocalRejected info.packetId peerId (o.describe e) o.rejectedAt)
        else (.error e,s)

/-- One packet of `process_local_spool`. -/
def processSpooledPacket (node : Opener) (o : Occasion own) (raw : Bytes) (s : PacketStore) :
    Result Unit × PacketStore :=
  match node.processLocalPacket o raw s with
  | (.ok _,s) => (.ok (),s)
  | (.error e,s) =>
    if e.refuses then
      match inspectPacket node.rt o.rejectedAt raw true with
      | .error e => (.error e,s)
      | .ok info => (.ok (),s.markLocalRejected info.packetId "" (o.describe e) o.rejectedAt)
    else (.ok (),s)

end Definitions

end Opener

namespace PacketStore

/-- Every packet row satisfies the condition. -/
def All (P : PacketRow → Prop) (s : PacketStore) : Prop := ∀ k p, s.packets.get k = some p → P p

/-- Every row of the Inbox satisfies the condition. -/
def AllRead (Q : InboxRow → Prop) (s : PacketStore) : Prop := ∀ k i, s.inbox.get k = some i → Q i

/-- The packet has come to its destination: its message is in the Inbox, or a rejection or a
receipt is recorded. -/
def Marked (s : PacketStore) (packetId : String) : Prop :=
  (s.inbox.get packetId).isSome ∨ (s.packetRejections.get packetId).isSome ∨
    (s.receipts.get packetId).isSome

end PacketStore

namespace PacketRow

/-- A condition that does not depend on what became of a packet. -/
def Stable (P : PacketRow → Prop) : Prop :=
  ∀ p, P p → P { p with delivered := true } ∧ ∀ e, P { p with expiresMs := e }

/-- A packet that comes in at this depth satisfies the condition, and so does one that is there
already. -/
def Admits (rt : Runtime) (P : PacketRow → Prop) (raw : Bytes) (depth : ℤ) : Prop :=
  ∀ now info, inspectPacket rt now raw false = .ok info → 0 ≤ depth → depth ≤ info.maxHops →
    (∀ origin receivedFrom, P ⟨info.packetId,info.destinationId,info.createdMs,info.expiresMs,
      info.maxHops,depth,raw,origin,receivedFrom,now,false,info.qos⟩) ∧
    ∀ p, p.packetId = info.packetId → P p → depth < p.depth → P { p with depth := depth }

end PacketRow

namespace PacketStore

/-- What handling packets does to the packets of a node and to what became of them. -/
structure Handled (P : PacketRow → Prop) (Q : InboxRow → Prop) (s s' : PacketStore) : Prop where
  deliveries : s'.deliveries = s.deliveries
  rows : s.All P → s'.All P
  inbox : s.AllRead Q → s'.AllRead Q
  keeps : Table.Keeps s.packets s'.packets
  marked : ∀ k, s.Marked k → s'.Marked k
  settles : ∀ k p', s'.packets.get k = some p' → p'.delivered →
    (∃ p, s.packets.get k = some p ∧ p.delivered ∧ p.destinationId = p'.destinationId) ∨ s'.Marked k

section Handling

variable {rt : Runtime} {P : PacketRow → Prop} {Q : InboxRow → Prop} {s s' s'' : PacketStore}

theorem Handled.refl (s : PacketStore) : Handled P Q s s :=
  ⟨rfl,id,id,Table.Keeps.refl _,fun _ => id,fun _ p hp hd => .inl ⟨p,hp,hd,rfl⟩⟩

theorem Handled.trans (h : Handled P Q s s') (h' : Handled P Q s' s'') : Handled P Q s s'' := by
  refine ⟨h'.deliveries.trans h.deliveries,h'.rows ∘ h.rows,h'.inbox ∘ h.inbox,
    h.keeps.trans h'.keeps,fun k => h'.marked k ∘ h.marked k,fun k p'' hp'' hd => ?_⟩
  rcases h'.settles k p'' hp'' hd with ⟨p',hp',hd',hdest⟩ | hmarked
  · rcases h.settles k p' hp' hd' with ⟨p,hp,hd,hdest'⟩ | hmarked
    · exact .inl ⟨p,hp,hd,hdest'.trans hdest⟩
    · exact .inr (h'.marked k hmarked)
  · exact .inr hmarked

theorem all_update {t : Packets} {q : PacketRow → Prop} [DecidablePred q]
    {f : PacketRow → PacketRow} {hkey : ∀ r, (f r).packetId = r.packetId}
    (hf : ∀ p, q p → P p → P (f p))
    (hall : ∀ k p, t.get k = some p → P p) {k : String} {p : PacketRow}
    (hp : (t.update q f hkey (noMarks_subset f)).get k = some p) : P p := by
  rw [Table.get_update] at hp
  obtain ⟨p₀,hp₀,rfl⟩ := Option.map_eq_some_iff.mp hp
  by_cases hq : q p₀
  · simpa only [if_pos hq] using hf p₀ hq (hall k p₀ hp₀)
  · simpa only [if_neg hq] using hall k p₀ hp₀

/-- A row after a delivery: it was delivered before, or it is one of those that are. -/
theorem deliver_cases {t : Packets} {q : PacketRow → Prop} [DecidablePred q] {k : String}
    {p : PacketRow} (h : (deliver t q).get k = some p) : ∃ p₀, t.get k = some p₀ ∧
      p₀.destinationId = p.destinationId ∧ (p.delivered → p₀.delivered ∨ q p₀) := by
  unfold deliver at h
  rw [Table.get_update] at h
  obtain ⟨p₀,hp₀,rfl⟩ := Option.map_eq_some_iff.mp h
  refine ⟨p₀,hp₀,?_,?_⟩
  · split <;> rfl
  · intro hdelivered
    split at hdelivered
    · next hq => exact .inr hq
    · exact .inl hdelivered

theorem deliver_all (hP : PacketRow.Stable P) {t : Packets} {q : PacketRow → Prop}
    [DecidablePred q] (hall : ∀ k p, t.get k = some p → P p) {k : String} {p : PacketRow}
    (hp : (deliver t q).get k = some p) : P p := by
  unfold deliver at hp
  exact all_update (fun p _ hold => (hP p hold).1) hall hp

theorem deliver_keeps {t : Packets} {q : PacketRow → Prop} [DecidablePred q] :
    Table.Keeps t (deliver t q) := by
  intro k hk
  rw [deliver,Table.get_update] at hk
  exact Option.map_eq_none_iff.mp hk

theorem addPacket_handled {raw : Bytes} {depth : ℤ} (hP : PacketRow.Admits rt P raw depth)
    (origin receivedFrom : String) (now : ℤ) (s : PacketStore) :
    Handled P Q s (addPacket rt raw depth origin receivedFrom now s).2 := by
  unfold addPacket
  cases hinfo : inspectPacket rt now raw false with
  | error e => exact .refl s
  | ok info =>
    dsimp only
    split
    · exact .refl s
    · next hdepth =>
      have hadmits := hP now info hinfo (by omega) (by omega)
      split
      · next packets hins =>
        refine ⟨rfl,fun hall k p hp => ?_,id,Table.Keeps.insert hins,fun _ => id,
          fun k p hp hd => ?_⟩
        · rw [Table.get_insert hins] at hp
          split at hp
          · cases hp
            exact hadmits.1 origin receivedFrom
          · exact hall k p hp
        · rw [Table.get_insert hins] at hp
          split at hp
          · cases hp
            cases hd
          · exact .inl ⟨p,hp,hd,rfl⟩
      · refine ⟨rfl,fun hall k p hp => ?_,id,?_,fun _ => id,fun k p hp hd => ?_⟩
        · rw [Table.get_update] at hp
          obtain ⟨p₀,hp₀,rfl⟩ := Option.map_eq_some_iff.mp hp
          have hold := hall k p₀ hp₀
          by_cases hid : p₀.packetId = info.packetId
          · rw [if_pos hid]
            rcases le_or_gt p₀.depth depth with hle | hlt
            · rw [min_eq_left hle]
              exact hold
            · rw [min_eq_right hlt.le]
              exact hadmits.2 p₀ hid hold hlt
          · rw [if_neg hid]
            exact hold
        · intro k hk
          rw [Table.get_update] at hk
          exact Option.map_eq_none_iff.mp hk
        · rw [Table.get_update] at hp
          obtain ⟨p₀,hp₀,rfl⟩ := Option.map_eq_some_iff.mp hp
          refine .inl ⟨p₀,hp₀,?_⟩
          split at hd
          · next hid =>
            rw [if_pos hid]
            exact ⟨hd,rfl⟩
          · next hid =>
            rw [if_neg hid]
            exact ⟨hd,rfl⟩

theorem addPacket_new {raw : Bytes} {depth now : ℤ} {origin receivedFrom : String}
    {info : PacketInfo} {packets : Packets} (hinfo : inspectPacket rt now raw false = .ok info)
    (hdepth : ¬ (depth < 0 ∨ info.maxHops < depth))
    (hins : s.packets.insert ⟨info.packetId,info.destinationId,info.createdMs,info.expiresMs,
      info.maxHops,depth,raw,origin,receivedFrom,now,false,info.qos⟩ = some packets) :
    addPacket rt raw depth origin receivedFrom now s =
      (.ok true,{ s with packets := packets }) := by
  unfold addPacket
  rw [hinfo]
  dsimp only
  rw [if_neg hdepth,hins]

/-- A packet that was added is there. -/
theorem addPacket_present {raw : Bytes} {depth : ℤ} {origin receivedFrom : String} {now : ℤ}
    {created : Bool} {info : PacketInfo} {now' : ℤ}
    (h : addPacket rt raw depth origin receivedFrom now s = (.ok created,s'))
    (hinfo : inspectPacket rt now' raw false = .ok info) :
    ∃ p, s'.packets.get info.packetId = some p := by
  unfold addPacket at h
  cases hread : inspectPacket rt now raw false with
  | error e =>
    rw [hread] at h
    cases h
  | ok info' =>
    obtain rfl := inspectPacket_agree hinfo hread
    rw [hread] at h
    dsimp only at h
    split at h
    · cases h
    · split at h
      · next packets hins =>
        cases h
        exact ⟨_,(Table.get_insert hins _).trans (if_pos rfl)⟩
      · next hins =>
        cases h
        rw [Table.get_update]
        cases hget : s.packets.get info'.packetId with
        | some p => exact ⟨_,rfl⟩
        | none =>
          obtain ⟨t,ht⟩ := Table.insert_noMarks s.packets (r := ⟨info'.packetId,
            info'.destinationId,info'.createdMs,info'.expiresMs,info'.maxHops,depth,raw,origin,
            receivedFrom,now,false,info'.qos⟩) hget
          rw [ht] at hins
          cases hins

/-- A delivery that goes with a mark. -/
theorem deliver_handled (hP : PacketRow.Stable P) {q : PacketRow → Prop} [DecidablePred q]
    (hpackets : s'.packets = deliver s.packets q) (hdeliveries : s'.deliveries = s.deliveries)
    (hinbox : s.AllRead Q → s'.AllRead Q) (hmarked : ∀ k, s.Marked k → s'.Marked k)
    (hq : ∀ p, q p → s'.Marked p.packetId) : Handled P Q s s' := by
  refine ⟨hdeliveries,fun hall k p hp => ?_,hinbox,?_,hmarked,fun k p hp hdelivered => ?_⟩
  · rw [hpackets] at hp
    exact deliver_all hP hall hp
  · rw [hpackets]
    exact deliver_keeps
  · rw [hpackets] at hp
    obtain ⟨p₀,hp₀,hdestination,hcases⟩ := deliver_cases hp
    rcases hcases hdelivered with hbefore | hnow
    · exact .inl ⟨p₀,hp₀,hbefore,hdestination⟩
    · have hmark := hq p₀ hnow
      rw [Table.get_key hp₀] at hmark
      exact .inr hmark

theorem recordReceipt_handled (hP : PacketRow.Stable P) (packetId recipientId : String) (now : ℤ)
    (s : PacketStore) : Handled P Q s (recordReceipt packetId recipientId now s) := by
  obtain ⟨receipts,hreceipts⟩ := Table.upsert_noMarks s.receipts ⟨packetId,recipientId,now⟩
    (fun r => { r with recipientId := recipientId, deliveredMs := now }) fun _ => rfl
  have hafter : (recordReceipt packetId recipientId now s).receipts = receipts := by
    unfold recordReceipt
    rw [hreceipts]
    rfl
  have hget (k : String) : (receipts.get k).isSome ↔ k = packetId ∨ (s.receipts.get k).isSome := by
    rw [Table.get_upsert hreceipts]
    split
    · next hk => simp [hk]
    · next hk => simp only [or_iff_right hk]
  refine deliver_handled hP rfl rfl id (fun k hk => ?_) (fun p hp => ?_)
  · refine hk.imp_right (Or.imp_right fun hreceipt => ?_)
    rw [hafter]
    exact (hget k).mpr (.inr hreceipt)
  · refine .inr (.inr ?_)
    rw [hafter]
    exact (hget _).mpr (.inl hp)

theorem rejections_grow {t : PacketRejections} {r : PacketRejection} :
    ((t.insertOrIgnore r).get r.packetId).isSome ∧
      ∀ k, (t.get k).isSome → ((t.insertOrIgnore r).get k).isSome := by
  rcases Table.insertOrIgnore_cases t r with hsame | hins
  · rw [hsame]
    refine ⟨?_,fun _ => id⟩
    by_contra hnone
    obtain ⟨t',ht'⟩ := Table.insert_noMarks t (by simpa using hnone : t.get r.packetId = none)
    rw [Table.insertOrIgnore,ht'] at hsame
    have hget := Table.get_insert ht' r.packetId
    rw [show t' = t from hsame,if_pos rfl] at hget
    rw [hget] at hnone
    exact hnone rfl
  · refine ⟨?_,fun k hk => ?_⟩
    · rw [Table.get_insert hins,if_pos rfl]
      rfl
    · rw [Table.get_insert hins]
      split
      · rfl
      · exact hk

theorem markLocalRejected_handled (hP : PacketRow.Stable P) (packetId peerId reason : String)
    (now : ℤ) (s : PacketStore) :
    Handled P Q s (markLocalRejected packetId peerId reason now s) := by
  have hgrow := @rejections_grow s.packetRejections ⟨packetId,cut 128 peerId,now,cut 1000 reason⟩
  refine deliver_handled hP rfl rfl id (fun k hk => ?_) (fun p hp => ?_)
  · exact hk.imp_right (Or.imp_left (hgrow.2 k))
  · refine .inr (.inl ?_)
    rw [hp]
    exact hgrow.1

theorem elsewhere_handled (call : Elsewhere) (s : PacketStore) : Handled P Q s (call.run s) := by
  have hsame := call.leaves s
  have hpackets : (call.run s).packets = s.packets := congrArg CustodyTables.packets hsame
  have hinbox : (call.run s).inbox = s.inbox := congrArg CustodyTables.inbox hsame
  have hreceipts : (call.run s).receipts = s.receipts := congrArg CustodyTables.receipts hsame
  have hrejections : (call.run s).packetRejections = s.packetRejections :=
    congrArg CustodyTables.packetRejections hsame
  refine ⟨congrArg CustodyTables.deliveries hsame,fun hall => ?_,fun hall => ?_,?_,fun k => ?_,
    fun k p hp hd => .inl ⟨p,?_,hd,rfl⟩⟩
  · simpa only [All,hpackets] using hall
  · simpa only [AllRead,hinbox] using hall
  · rw [hpackets]
    exact Table.Keeps.refl _
  · simp only [Marked,hinbox,hreceipts,hrejections,imp_self]
  · rw [← hpackets]
    exact hp

/-- A commit puts the message into the Inbox, or finds it there. -/
theorem commitLocalMessage_handled (hP : PacketRow.Stable P) {message : OpenedMessage}
    {trusted visible : Bool} {now : ℤ}
    (hQ : ∀ (s : PacketStore) body causal, Q (s.inboxRow message body causal trusted visible now))
    (s : PacketStore) :
    Handled P Q s (commitLocalMessage rt message trusted visible now s).2 ∧
      ∀ created, (commitLocalMessage rt message trusted visible now s).1 = .ok created →
        (commitLocalMessage rt message trusted visible now s).2.Marked message.packetId := by
  unfold commitLocalMessage
  rcases transaction_cases (commitMessage rt message trusted visible now) s with
    ⟨created,s',hbody,htransaction⟩ | ⟨e,-,htransaction⟩
  · rw [htransaction]
    rcases commitMessage_cases hbody with ⟨-,hsome,rfl⟩ |
      ⟨body,causal,inbox,localPrekeys,-,hnone,-,-,-,hins,-,rfl⟩
    · refine ⟨deliver_handled hP rfl rfl id (fun _ => id) fun p hp => ?_,fun _ _ => .inl hsome⟩
      rw [hp]
      exact .inl hsome
    · have hget (k : String) := Table.get_insert hins k
      have hhere : (inbox.get message.packetId).isSome := by
        rw [hget,if_pos (show message.packetId = (s.inboxRow ..).packetId from rfl)]
        rfl
      refine ⟨deliver_handled hP rfl rfl (fun hall k i hi => ?_) (fun k hk => ?_) fun p hp => ?_,
        fun _ _ => .inl hhere⟩
      · change inbox.get k = some i at hi
        rw [hget] at hi
        split at hi
        · cases hi
          exact hQ s body causal
        · exact hall k i hi
      · refine hk.imp_left fun hinbox => ?_
        change (inbox.get k).isSome
        rw [hget]
        split
        · rfl
        · exact hinbox
      · rw [hp]
        exact .inl hhere
  · rw [htransaction]
    refine ⟨.refl s,fun created h => ?_⟩
    cases h

theorem handlerCall_handled (hP : PacketRow.Stable P) {c : HandlerCall}
    (hqueue : ∀ raw origin now, c = .queue raw origin now → PacketRow.Admits rt P raw 0)
    (s : PacketStore) : Handled P Q s (c.exec rt s) := by
  cases c with
  | queue raw origin now => exact addPacket_handled (hqueue raw origin now rfl) origin "" now s
  | receipt packetId recipientId now => exact recordReceipt_handled hP packetId recipientId now s
  | elsewhere call => exact elsewhere_handled call s

theorem handlerCalls_handled (hP : PacketRow.Stable P) {calls : List HandlerCall}
    (hqueue : ∀ raw origin now, .queue raw origin now ∈ calls → PacketRow.Admits rt P raw 0)
    (s : PacketStore) : Handled P Q s (calls.foldl (fun s c => c.exec rt s) s) := by
  induction calls generalizing s with
  | nil => exact .refl s
  | cons c calls ih =>
    refine (handlerCall_handled hP ?_ s).trans (ih ?_ _)
    · rintro raw origin now rfl
      exact hqueue raw origin now List.mem_cons_self
    · exact fun raw origin now h => hqueue raw origin now (List.mem_cons_of_mem _ h)

end Handling

end PacketStore

namespace Packet

/-- The sender's keys make its id and verify a signature over what the message says. -/
def Signed (rt : Runtime) (crypto : Crypto) (m : OpenedMessage) : Prop :=
  crypto.deriveNodeId m.senderSignPublic m.senderBoxPublic = m.senderId ∧
    ∃ version causal signed signature, m.causal = causal.map rt.str ∧
      rt.canonicalPack (.list [.int version,.str m.senderId,.bin m.senderSignPublic,
        .bin m.senderBoxPublic,.str m.kind,.int m.createdMs,m.body,.list causal,.str m.codec,
        .str m.replyTo]) = .ok signed ∧
      crypto.verify m.senderSignPublic signature signed = .ok ()

section Opened

variable {rt : Runtime} {crypto : Crypto}

theorem need_fieldOr {fields : Fields} {name : String} {v : Value} (default : Value)
    (h : need fields name = .ok v) : Value.fieldOr fields name default = v := by
  unfold need at h
  cases hfield : Value.field fields name with
  | none =>
    rw [hfield] at h
    cases h
  | some w =>
    rw [hfield] at h
    obtain rfl := Except.ok.inj h
    rw [Value.fieldOr,hfield,Option.getD_some]

theorem need_reads {α : Type} {fields : Fields} {name : String} {f : Value → Result α} {a : α}
    (default : Value) (h : (need fields name >>= f) = .ok a) :
    f (Value.fieldOr fields name default) = .ok a := by
  obtain ⟨v,hv,hf⟩ := bind_ok.mp h
  rw [need_fieldOr default hv]
  exact hf

/-- A message that opens came in a packet to the node, and its sender signed what it says. -/
theorem openPacket_signed {identity : Identity} {now : ℤ} {raw : Bytes}
    {prekeyPrivate : Option Bytes} {m : OpenedMessage}
    (h : openPacket rt crypto identity now raw prekeyPrivate = .ok m) :
    Signed rt crypto m ∧ ∃ info, inspectPacket rt now raw false = .ok info ∧
      info.destinationId = identity.nodeId ∧ m.packetId = info.packetId := by
  simp only [openPacket,bind_ok,raiseIf_ok,not_not] at h
  obtain ⟨info,hinfo,_,hdestination,value,-,outer,-,_,-,_,-,_,-,_,-,key,-,nonce,-,ct,-,aad,-,packed,
    -,plaintext,-,inner,-,sender,hsender,_,-,causal,hcausal,createdMs,hcreated,hval⟩ := h
  simp only [authenticate,bind_ok,raiseIf_ok,not_not] at hsender
  obtain ⟨signPublic,hspk,boxPublic,hbpk,_,-,_,hderive,signature,-,fields,hfields,signed,hsigned,_,
    hverify,hval'⟩ := hsender
  obtain rfl := Except.ok.inj hval'
  obtain rfl := Except.ok.inj hval
  refine ⟨⟨hderive,?_⟩,info,hinfo,hdestination,rfl⟩
  simp only [innerFields,bind_ok] at hfields
  obtain ⟨version,-,sid,hsid,spk,hspk',bpk,hbpk',kind,hkind,ts,hts,causal',hcausal',hlist⟩ :=
    hfields
  obtain rfl := Except.ok.inj hlist
  obtain rfl := Except.ok.inj (hspk.symm.trans (need_reads emptyBytes (bind_ok.mpr hspk')))
  obtain rfl := Except.ok.inj (hbpk.symm.trans (need_reads emptyBytes (bind_ok.mpr hbpk')))
  obtain rfl := Except.ok.inj (hcreated.symm.trans (need_reads (.int 0) (bind_ok.mpr hts)))
  obtain rfl := Except.ok.inj (hcausal.symm.trans hcausal')
  rw [← need_fieldOr (.str "") hsid,← need_fieldOr (.str "") hkind] at hsigned
  exact ⟨version,causal,signed,signature,rfl,hsigned,hverify⟩

end Opened

end Packet

namespace Opener

section Intake

variable {node : Opener} {own : Bytes → Prop} {o : Occasion own} {P : PacketRow → Prop}
  {Q : InboxRow → Prop} {raw : Bytes} {s : PacketStore}

/-- The bytes open to the message. -/
def Opens (node : Opener) (raw : Bytes) (opened : OpenedMessage) : Prop :=
  ∃ now prekeyPrivate, openPacket node.rt node.crypto node.identity now raw prekeyPrivate =
    .ok opened

/-- The Inbox rows of messages that the bytes open to satisfy the condition. -/
def Fills (node : Opener) (Q : InboxRow → Prop) (raw : Bytes) : Prop :=
  ∀ opened body, node.Opens raw opened → ∀ (s : PacketStore) packed causal trusted visible now,
    Q (s.inboxRow { opened with body := body } packed causal trusted visible now)

theorem readMessage_opens {message : OpenedMessage} {trusted : Bool}
    (h : node.readMessage o raw s = .ok (message,trusted)) :
    ∃ opened body, node.Opens raw opened ∧ message = { opened with body := body } := by
  simp only [readMessage,bind_ok] at h
  obtain ⟨_,-,material,-,opened,hopened,body,-,_,-,_,-,hval⟩ := h
  obtain ⟨rfl,-⟩ := Prod.mk.inj (Except.ok.inj hval)
  exact ⟨opened,body,⟨_,_,hopened⟩,rfl⟩

theorem run_handled (hP : PacketRow.Stable P)
    (hown : ∀ raw, own raw → PacketRow.Admits node.rt P raw 0) (end' : HandlerEnd own)
    (s : PacketStore) : Handled P Q s (end'.run node.rt s).2 :=
  handlerCalls_handled hP (fun raw origin now h => hown raw (end'.queues raw origin now h)) s

/-- A packet that is processed without an error is marked. -/
theorem processLocalPacket_handled (hP : PacketRow.Stable P)
    (hown : ∀ raw, own raw → PacketRow.Admits node.rt P raw 0) (hQ : node.Fills Q raw)
    (s : PacketStore) :
    Handled P Q s (node.processLocalPacket o raw s).2 ∧
      ∀ now info, inspectPacket node.rt now raw false = .ok info →
        (node.processLocalPacket o raw s).1 = .ok () →
          (node.processLocalPacket o raw s).2.Marked info.packetId := by
  unfold processLocalPacket
  cases hread : node.readMessage o raw s with
  | error e => exact ⟨.refl s,fun _ _ _ h => by cases h⟩
  | ok r =>
    obtain ⟨message,trusted⟩ := r
    obtain ⟨opened,body,hopens,hmessage⟩ := readMessage_opens hread
    have hprepare : Handled P Q s
        (if trusted then (o.prepare message s).run node.rt s else (.ok (),s)).2 := by
      split
      · exact run_handled hP hown _ s
      · exact .refl s
    dsimp only
    cases hr : (if trusted then (o.prepare message s).run node.rt s else (.ok (),s)) with
    | mk ending s₁ =>
    rw [hr] at hprepare
    cases ending with
    | error e => exact ⟨hprepare,fun _ _ _ h => by cases h⟩
    | ok u =>
      have hrow : ∀ (s : PacketStore) packed causal, Q (s.inboxRow message packed causal trusted
          (message.kind ∉ quietKinds) o.committedAt) := by
        intro s packed causal
        rw [hmessage]
        exact hQ opened body hopens s packed causal _ _ _
      obtain ⟨hcommit,hmarked⟩ := @commitLocalMessage_handled node.rt P Q hP message trusted _ _
        hrow s₁
      dsimp only
      cases hc : commitLocalMessage node.rt message trusted (message.kind ∉ quietKinds)
        o.committedAt s₁ with
      | mk created s₂ =>
      rw [hc] at hcommit hmarked
      cases created with
      | error e => exact ⟨hprepare.trans hcommit,fun _ _ _ h => by cases h⟩
      | ok created =>
        have hrespond : Handled P Q s₂
            (if created ∧ trusted then (o.respond message s₂).run node.rt s₂
              else (.ok (),s₂)).2 := by
          split
          · exact run_handled hP hown _ s₂
          · exact .refl s₂
        refine ⟨(hprepare.trans hcommit).trans hrespond,fun now info hinfo _ => ?_⟩
        have hid : message.packetId = info.packetId := by
          obtain ⟨now',key,hopened⟩ := hopens
          obtain ⟨-,info',hinfo',-,hid⟩ := openPacket_signed hopened
          rw [hmessage]
          exact hid.trans (congrArg PacketInfo.packetId (inspectPacket_agree hinfo hinfo'))
        exact hrespond.marked _ (hid ▸ hmarked created rfl)

theorem kept_present {t t' : Packets} (h : Table.Keeps t t') {k : String} {p : PacketRow}
    (hp : t.get k = some p) : ∃ p', t'.get k = some p' := by
  refine Option.ne_none_iff_exists'.mp fun hnone => ?_
  rw [h k hnone] at hp
  cases hp

/-- A packet that is accepted is there; if it is for the node, it is marked, or the row that was
there is delivered already. -/
theorem acceptCarrierPacket_handled (hP : PacketRow.Stable P)
    (hown : ∀ raw, own raw → PacketRow.Admits node.rt P raw 0) (hQ : node.Fills Q raw) {depth : ℤ}
    (hadmits : 1 ≤ depth → PacketRow.Admits node.rt P raw depth) (peerId : String)
    (s : PacketStore) :
    Handled P Q s (node.acceptCarrierPacket o raw depth peerId s).2 ∧
      ∀ k, (node.acceptCarrierPacket o raw depth peerId s).1 = .ok k → ∃ now info p,
        inspectPacket node.rt now raw false = .ok info ∧ info.packetId = k ∧
        (node.acceptCarrierPacket o raw depth peerId s).2.packets.get k = some p ∧
        (info.destinationId = node.identity.nodeId → p.delivered ∨
          (node.acceptCarrierPacket o raw depth peerId s).2.Marked k) := by
  unfold acceptCarrierPacket
  cases hinfo : inspectPacket node.rt o.inspectedAt raw false with
  | error e => exact ⟨.refl s,fun _ h => by cases h⟩
  | ok info =>
    dsimp only
    split
    · exact ⟨.refl s,fun _ h => by cases h⟩
    · next hdepth =>
      have hadded := addPacket_handled (Q := Q) (hadmits (by omega)) "relay" peerId o.addedAt s
      cases hadd : addPacket node.rt raw depth "relay" peerId o.addedAt s with
      | mk created s₁ =>
      rw [hadd] at hadded
      cases created with
      | error e => exact ⟨hadded,fun _ h => by cases h⟩
      | ok created =>
        obtain ⟨p,hp⟩ := addPacket_present hadd hinfo
        dsimp only
        split
        · next hcase =>
          refine ⟨hadded,fun k hk => ?_⟩
          obtain rfl := Except.ok.inj hk
          refine ⟨_,info,p,hinfo,rfl,hp,fun hdestination => .inl ?_⟩
          have hdelivered := hcase.resolve_left (not_not.mpr hdestination)
          simpa only [packetDelivered,hp,Option.map_some,Option.getD_some] using hdelivered
        · obtain ⟨hprocess,hmarked⟩ := processLocalPacket_handled (o := o) hP hown hQ s₁
          cases hr : node.processLocalPacket o raw s₁ with
          | mk ending s₂ =>
          rw [hr] at hprocess hmarked
          cases ending with
          | ok u =>
            refine ⟨hadded.trans hprocess,fun k hk => ?_⟩
            obtain rfl := Except.ok.inj hk
            obtain ⟨p',hp'⟩ := kept_present hprocess.keeps hp
            exact ⟨_,info,p',hinfo,rfl,hp',fun _ => .inr (hmarked _ info hinfo rfl)⟩
          | error e =>
            dsimp only
            split
            · exact ⟨(hadded.trans hprocess).trans (markLocalRejected_handled hP ..),
                fun _ h => by cases h⟩
            · exact ⟨hadded.trans hprocess,fun _ h => by cases h⟩

/-- The message of a stranger is committed and no more. -/
theorem processLocalPacket_commits {message : OpenedMessage} {created : Bool} {s' : PacketStore}
    (hread : node.readMessage o raw s = .ok (message,false))
    (hcommit : commitLocalMessage node.rt message false (message.kind ∉ quietKinds) o.committedAt
      s = (.ok created,s')) : node.processLocalPacket o raw s = (.ok (),s') := by
  unfold processLocalPacket
  rw [hread]
  dsimp only
  rw [if_neg Bool.false_ne_true]
  dsimp only
  rw [hcommit]
  exact if_neg fun h => Bool.false_ne_true h.2

/-- A new packet for the node is stored and processed. -/
theorem acceptCarrierPacket_processes {info : PacketInfo} {depth : ℤ} {peerId : String}
    {created : Bool} {s' t : PacketStore}
    (hinfo : inspectPacket node.rt o.inspectedAt raw false = .ok info)
    (hdepth : ¬ (depth < 1 ∨ info.maxHops < depth))
    (hadd : addPacket node.rt raw depth "relay" peerId o.addedAt s = (.ok created,s'))
    (hlocal : ¬ (info.destinationId ≠ node.identity.nodeId ∨ s'.packetDelivered info.packetId))
    (hprocess : node.processLocalPacket o raw s' = (.ok (),t)) :
    node.acceptCarrierPacket o raw depth peerId s = (.ok info.packetId,t) := by
  unfold acceptCarrierPacket
  rw [hinfo]
  dsimp only
  rw [if_neg hdepth,hadd]
  dsimp only
  rw [if_neg hlocal,hprocess]

theorem processSpooledPacket_handled (hP : PacketRow.Stable P)
    (hown : ∀ raw, own raw → PacketRow.Admits node.rt P raw 0) (hQ : node.Fills Q raw)
    (s : PacketStore) : Handled P Q s (node.processSpooledPacket o raw s).2 := by
  unfold processSpooledPacket
  have hprocess := (processLocalPacket_handled (o := o) hP hown hQ s).1
  cases hr : node.processLocalPacket o raw s with
  | mk ending s₁ =>
  rw [hr] at hprocess
  cases ending with
  | ok u => exact hprocess
  | error e =>
    dsimp only
    split
    · split
      · exact hprocess
      · exact hprocess.trans (markLocalRejected_handled hP ..)
    · exact hprocess

end Intake

end Opener
end Anet
