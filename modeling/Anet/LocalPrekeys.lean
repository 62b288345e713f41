import Anet.Revocation

/-! One-time keys on the receiving side, along every run. The private half is in the
table exactly while the key is available; the transaction that puts a message in the
Inbox erases the key it was sealed to, and nothing brings that key back. -/
namespace Anet

open PacketStore Packet

namespace LocalPrekey

/-- Free while the private key is there, then spent on a packet; a key that was retired
or ran out is spent on the empty packet id. -/
def phase (r : LocalPrekey) : Phase Empty String :=
  if r.privateKey.isSome then .free else .spent r.packetId

variable {r r' : LocalPrekey} {op : StoreOp}

theorem phase_erased (h : r.privateKey = none) : r.phase = .spent r.packetId := by
  simp [phase,h]

theorem phase_kept (h : r.privateKey.isSome) : r.phase = .free := by
  simp [phase,h]

/-- Whatever a call does to a key moves it along its phases. -/
theorem Change.leads (h : Change op r r') : r.phase.Leads r'.phase := by
  cases h with
  | same => exact .refl _
  | scope => exact .refl _
  | retire _ _ hkey =>
    rw [phase_kept hkey]
    exact .consume r.packetId
  | consume message _ _ _ _ _ _ husable =>
    rw [phase_kept husable.2]
    exact .consume message.packetId
  | revoke now =>
    have herased : (r.revoke now).phase = .spent r.packetId := phase_erased rfl
    rw [herased]
    by_cases hkey : r.privateKey.isSome
    · rw [phase_kept hkey]
      exact .consume r.packetId
    · rw [phase_erased (by simpa using hkey)]
      exact .refl _
  | expire _ husable =>
    rw [phase_kept husable.2]
    exact .consume r.packetId

end LocalPrekey

/-- The call that commits a message. -/
def commitCall (message : OpenedMessage) (trusted visible : Bool) (now : ℤ) : StoreOp :=
  .work (.commit message trusted visible now)

/-- The commit takes an available key of the sender, erases it for the packet and inserts
the message, all at once. -/
structure Consumption (rt : Runtime) (s : PacketStore) (message : OpenedMessage)
    (trusted visible : Bool) (now : ℤ) : Prop where
  key : ∃ r, s.localPrekeys.get message.prekeyId = some r ∧ r.usable ∧
    r.peerId = message.senderId ∧
    (commitLocalMessage rt message trusted visible now s).2.localPrekeys.get message.prekeyId =
      some (r.consume now message.packetId)
  fresh : s.inbox.get message.packetId = none
  message : ∃ i, (commitLocalMessage rt message trusted visible now s).2.inbox.get
    message.packetId = some i ∧ i.senderId = message.senderId

section Commits

variable {rt : Runtime} {s : PacketStore} {message : OpenedMessage} {trusted visible : Bool}
  {now : ℤ}

end Commits

section Runs

variable {rt : Runtime} {w w' : WorkWorld} {message : OpenedMessage} {trusted visible : Bool}
  {now : ℤ}

/-- Earlier in the run a commit took the key for the packet. -/
def ConsumedFor (rt : Runtime) (w : WorkWorld) (k packetId : String) : Prop :=
  ∃ w₀ message trusted visible now, Reaches (StoreStep rt) .initial w₀ ∧
    Consumption rt w₀.store message trusted visible now ∧
    Reaches (StoreStep rt) (w₀.next rt (commitCall message trusted visible now)) w ∧
    message.prekeyId = k ∧ message.packetId = packetId

theorem ConsumedFor.step {k packetId : String} (h : ConsumedFor rt w k packetId)
    (hstep : StoreStep rt w w') : ConsumedFor rt w' k packetId := by
  obtain ⟨w₀,message,trusted,visible,now,h₀,hconsumption,hafter,hrest⟩ := h
  exact ⟨w₀,message,trusted,visible,now,h₀,hconsumption,hafter.tail hstep,hrest⟩

end Runs

section Sample

end Sample
end Anet
