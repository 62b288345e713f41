import Anet.ControlFields

/-! The limits of an Ahub and the Relay reservations it hands out. -/
namespace Anet

/-- `AhubLimits`; every limit is positive. -/
structure AhubLimits where
  maxPacketBytes : ℕ
  maxPacketsPerDestination : ℕ
  maxBytesPerDestination : ℕ
  maxPacketsPerUploader : ℕ
  maxBytesPerUploader : ℕ
  maxRelayReservationTtlMs : ℕ
  maxRelayDurationMs : ℕ
  maxRelayBytesEachDirection : ℕ
  maxRelayReservationsPerNode : ℕ
  maxRelayConnectionsPerNode : ℕ
  maxRelayFrameBytes : ℕ
  positive : ∀ limit ∈ [maxPacketBytes,maxPacketsPerDestination,maxBytesPerDestination,
    maxPacketsPerUploader,maxBytesPerUploader,maxRelayReservationTtlMs,maxRelayDurationMs,
    maxRelayBytesEachDirection,maxRelayReservationsPerNode,maxRelayConnectionsPerNode,
    maxRelayFrameBytes], 0 < limit
  packet : maxPacketBytes ≤ maxWireBytes
  ttl : 30 * 1000 ≤ maxRelayReservationTtlMs
  duration : 1000 ≤ maxRelayDurationMs

/-- The limits of an Ahub that was configured with none. -/
def AhubLimits.default : AhubLimits where
  maxPacketBytes := maxWireBytes
  maxPacketsPerDestination := 1000
  maxBytesPerDestination := 256 * 1024 * 1024
  maxPacketsPerUploader := 1000
  maxBytesPerUploader := 256 * 1024 * 1024
  maxRelayReservationTtlMs := 15 * 60 * 1000
  maxRelayDurationMs := 5 * 60 * 1000
  maxRelayBytesEachDirection := 64 * 1024 * 1024
  maxRelayReservationsPerNode := 4
  maxRelayConnectionsPerNode := 4
  maxRelayFrameBytes := 64 * 1024
  positive := by decide
  packet := by decide
  ttl := by decide
  duration := by decide

/-- A reservation of one owner for one other node. -/
structure RelayReservation where
  reservationId : String
  ownerId : String
  allowedPeerId : String
  createdMs : ℤ
  expiresMs : ℤ
  maxDurationMs : ℕ
  maxBytesEachDirection : ℕ
  identifier : isHex 32 reservationId
  owner : isControlNodeId ownerId
  peer : isControlNodeId allowedPeerId
  distinct : ownerId ≠ allowedPeerId
  lifetime : 0 < createdMs ∧ createdMs < expiresMs
  duration : 1000 ≤ maxDurationMs
  bytes : 0 < maxBytesEachDirection

end Anet
