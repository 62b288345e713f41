import Anet.ConsumerStore
import Anet.PacketTables

/-! Messages addressed to this node: their insertion into the Inbox, which erases
the one-time key they were sealed to in the same transaction. -/
namespace Anet

/-- `_prekey_id`, the same pattern as a claim token. -/
def prekeyId (value : String) : Result String :=
  let value := lower (strip value)
  if isHex 32 value then .ok value else .error (.value "invalid prekey ID")

namespace LocalPrekey

/-- `state = 'available' AND private_key IS NOT NULL`. -/
def usable (r : LocalPrekey) : Prop := r.state = .available ∧ r.privateKey.isSome

instance : DecidablePred usable := fun _ => inferInstanceAs (Decidable (_ ∧ _))

def consume (now : ℤ) (packetId : String) (r : LocalPrekey) : LocalPrekey :=
  { r with privateKey := none, state := .consumed, consumedMs := now, packetId := packetId }

def retire (now : ℤ) (r : LocalPrekey) : LocalPrekey :=
  { r with privateKey := none, state := .retiredUnscoped, consumedMs := now }

end LocalPrekey

namespace InboxRow

def read (r : InboxRow) : InboxRow := { r with isRead := true }

def hide (r : InboxRow) : InboxRow := { r with visible := false }

end InboxRow

namespace PacketStore

open Packet LocalPrekey

/-- The Inbox row of a message; a new rowid is one more than the largest. -/
def inboxRow (s : PacketStore) (message : OpenedMessage) (body causal : Bytes)
    (trusted visible : Bool) (now : ℤ) : InboxRow :=
  ⟨s.maxRowid + 1,message.packetId,message.senderId,message.kind,message.createdMs,now,
    message.codec,body,causal,message.replyTo,trusted,false,message.qos,visible⟩

/-- `add_inbox`. -/
def addInbox (rt : Runtime) (message : OpenedMessage) (trusted visible : Bool) (now : ℤ)
    (s : PacketStore) : Result Bool × PacketStore :=
  match rt.pack message.body,rt.pack (.list (message.causal.map .str)) with
  | .error e,_ => (.error e,s)
  | _,.error e => (.error e,s)
  | .ok body,.ok causal =>
    match s.inbox.insert (s.inboxRow message body causal trusted visible now) with
    | some inbox => (.ok true,{ s with inbox := inbox })
    | none => (.ok false,s)

/-- The prekey checks of `commit_local_message` before it writes. -/
def checkPrekey (message : OpenedMessage) (s : PacketStore) : Result Unit :=
  match message.keyMode with
  | .static => .ok ()
  | .opk => do
    let id ← prekeyId message.prekeyId
    let row ← fetched (s.localPrekeys.get id) (.value "packet one-time prekey is unknown")
    raiseIf (¬ row.usable) (.value "packet one-time prekey was already consumed")
    raiseIf (row.peerId ≠ message.senderId)
      (.value "packet sender is not authorized for this one-time prekey")

/-- The erasure of the consumed prekey; more or fewer than one row is a race. -/
def consumePrekey (message : OpenedMessage) (now : ℤ) (s : PacketStore) : Result LocalPrekeys :=
  match message.keyMode with
  | .static => .ok s.localPrekeys
  | .opk =>
    let p (r : LocalPrekey) := r.prekeyId = message.prekeyId ∧ r.usable ∧
      r.peerId = message.senderId
    if s.localPrekeys.count p ≠ 1 then
      .error (.value "packet one-time prekey consumption race")
    else .ok (s.localPrekeys.update p (consume now message.packetId) (fun _ => rfl)
      (noMarks_subset _))

/-- The transaction of `commit_local_message`. -/
def commitMessage (rt : Runtime) (message : OpenedMessage) (trusted visible : Bool) (now : ℤ)
    (s : PacketStore) : Result (Bool × PacketStore) :=
  let packets := deliver s.packets fun r => r.packetId = message.packetId
  if (s.inbox.get message.packetId).isSome then
    .ok (false,{ s with packets := packets })
  else do
    s.checkPrekey message
    let body ← rt.pack message.body
    let causal ← rt.pack (.list (message.causal.map .str))
    let inbox ← integrity (s.inbox.insert (s.inboxRow message body causal trusted visible now))
    let localPrekeys ← s.consumePrekey message now
    return (true,{ s with inbox := inbox, packets := packets, localPrekeys := localPrekeys })

/-- `commit_local_message`. -/
def commitLocalMessage (rt : Runtime) (message : OpenedMessage) (trusted visible : Bool)
    (now : ℤ) : PacketStore → Result Bool × PacketStore :=
  transaction (commitMessage rt message trusted visible now)

/-- `mark_read`. -/
def markRead (packetIds : List String) (s : PacketStore) : PacketStore :=
  { s with
    inbox := s.inbox.update (fun r => r.packetId ∈ packetIds) InboxRow.read (fun _ => rfl)
      (fun _ => List.Subset.refl _) }

/-- The update of old rows each time the database is opened. -/
def hideTransientKinds (s : PacketStore) : PacketStore :=
  { s with
    inbox := s.inbox.update (fun r => r.kind = "receipt" ∨ r.kind = "network.probe")
      InboxRow.hide (fun _ => rfl) (fun _ => List.Subset.refl _) }

/-- The private key `local_prekey_material` hands out for a packet. -/
def localPrekeyMaterial (id : String) (s : PacketStore) : Result (Option LocalPrekey) := do
  let id ← prekeyId id
  return (s.localPrekeys.get id).filter fun r => r.usable

section Specs

variable {rt : Runtime} {message : OpenedMessage} {trusted visible : Bool} {now : ℤ}
  {s s' : PacketStore}

/-- A commit finds the message in the Inbox, or inserts it and settles its prekey. -/
theorem commitMessage_cases {created : Bool}
    (h : commitMessage rt message trusted visible now s = .ok (created,s')) :
    (created = false ∧ (s.inbox.get message.packetId).isSome ∧ s' = { s with
        packets := deliver s.packets fun r => r.packetId = message.packetId }) ∨
      ∃ body causal inbox localPrekeys, created = true ∧ s.inbox.get message.packetId = none ∧
        s.checkPrekey message = .ok () ∧ rt.pack message.body = .ok body ∧
        rt.pack (.list (message.causal.map .str)) = .ok causal ∧
        s.inbox.insert (s.inboxRow message body causal trusted visible now) = some inbox ∧
        s.consumePrekey message now = .ok localPrekeys ∧ s' = { s with
          inbox := inbox
          packets := deliver s.packets fun r => r.packetId = message.packetId
          localPrekeys := localPrekeys } := by
  unfold commitMessage at h
  dsimp only at h
  split at h
  · rename_i hsome
    cases h
    exact Or.inl ⟨rfl,hsome,rfl⟩
  · rename_i hnone
    simp only [bind_ok] at h
    obtain ⟨_,hcheck,body,hbody,causal,hcausal,inbox,hinbox,localPrekeys,hkeys,hval⟩ := h
    cases hval
    refine Or.inr ⟨body,causal,inbox,localPrekeys,rfl,?_,hcheck,hbody,hcausal,
      integrity_ok.mp hinbox,hkeys,rfl⟩
    simpa using hnone

theorem addInbox_cases (rt : Runtime) (message : OpenedMessage) (trusted visible : Bool) (now : ℤ)
    (s : PacketStore) : (addInbox rt message trusted visible now s).2 = s ∨
      ∃ body causal inbox, rt.pack message.body = .ok body ∧
        rt.pack (.list (message.causal.map .str)) = .ok causal ∧
        s.inbox.insert (s.inboxRow message body causal trusted visible now) = some inbox ∧
        (addInbox rt message trusted visible now s).2 = { s with inbox := inbox } := by
  unfold addInbox
  split
  · exact Or.inl rfl
  · exact Or.inl rfl
  · rename_i body causal hbody hcausal
    split
    · rename_i inbox hinbox
      exact Or.inr ⟨body,causal,inbox,hbody,hcausal,hinbox,rfl⟩
    · exact Or.inl rfl

end Specs

end PacketStore
end Anet
