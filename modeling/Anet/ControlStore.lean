import Anet.ControlObjects
import Anet.Table
import Anet.Transition
import Mathlib.Logic.Function.Basic

/-! The two keepers of revision chains: the tracker in memory and the durable store. Each
holds the last revision of every key only. -/
namespace Anet

open ControlPlane

/-- `_RevisionCheckpoint`. -/
structure Checkpoint where
  sequence : ℤ
  digest : Bytes
  terminal : Bool
  deriving DecidableEq

/-- The four operations that take an object; the caller passes the descriptor. -/
inductive ControlCall
  | descriptor (d : NodeDescriptor)
  | reachability (r : ReachabilityRecord) (d : NodeDescriptor)
  | grant (g : HumanDeviceGrant) (d : NodeDescriptor)
  | revocation (v : HumanDeviceRevocation) (d : NodeDescriptor)
  deriving DecidableEq

structure RevisionTracker where
  descriptors : String → Option Checkpoint
  reachability : String → Option Checkpoint
  humanDevices : String × String → Option Checkpoint

inductive HumanEvent | grant | revocation
  deriving DecidableEq

/-- `control_node_descriptors`. -/
structure DescriptorRow where
  nodeId : String
  sequence : ℤ
  digest : Bytes
  objectJson : Value

/-- `control_reachability`. -/
structure ReachabilityRow where
  nodeId : String
  sequence : ℤ
  digest : Bytes
  descriptorDigest : Bytes
  expiresMs : ℤ
  objectJson : Value

/-- `control_human_devices`. -/
structure HumanDeviceRow where
  humanId : String
  deviceNodeId : String
  sequence : ℤ
  digest : Bytes
  descriptorDigest : Bytes
  terminal : Bool
  eventType : HumanEvent
  objectJson : Value

def HumanDeviceRow.key (r : HumanDeviceRow) : String × String := (r.humanId,r.deviceNodeId)

/-- The columns `_check_revision` reads. -/
def DescriptorRow.checkpoint (r : DescriptorRow) : Checkpoint := ⟨r.sequence,r.digest,false⟩
def ReachabilityRow.checkpoint (r : ReachabilityRow) : Checkpoint := ⟨r.sequence,r.digest,false⟩
def HumanDeviceRow.checkpoint (r : HumanDeviceRow) : Checkpoint :=
  ⟨r.sequence,r.digest,r.terminal⟩

/-- A device row after the `UPDATE` of a revocation. -/
def HumanDeviceRow.revoked (v : HumanDeviceRevocation) (digest : Bytes) (row : HumanDeviceRow) :
    HumanDeviceRow :=
  { row with
    sequence := v.sequence, digest := digest, descriptorDigest := v.descriptorDigest
    terminal := true, eventType := .revocation, objectJson := v.toDict }

structure ControlPlaneStore where
  descriptors : Table DescriptorRow.nodeId noMarks
  reachability : Table ReachabilityRow.nodeId noMarks
  humanDevices : Table HumanDeviceRow.key noMarks

variable (lib : ControlLibrary)

namespace RevisionTracker

def initial : RevisionTracker := ⟨fun _ => none,fun _ => none,fun _ => none⟩

/-- `_advance`. -/
def advance {κ : Type} [DecidableEq κ] (checkpoints : κ → Option Checkpoint) (k : κ)
    (sequence : ℤ) (previousDigest digest : Bytes) (terminal forbidAfterTerminal : Bool) :
    Result (Bool × (κ → Option Checkpoint)) :=
  let next := Function.update checkpoints k (some ⟨sequence,digest,terminal⟩)
  match checkpoints k with
  | none =>
    if sequence ≠ 1 ∨ previousDigest ≠ genesisDigest then
      .error (.value "revision chain must start at genesis")
    else .ok (true,next)
  | some current =>
    if sequence = current.sequence then
      if digest = current.digest then .ok (false,checkpoints)
      else .error (.value "revision fork at the current sequence")
    else if sequence < current.sequence then .error (.value "stale revision")
    else if forbidAfterTerminal ∧ current.terminal then
      .error (.value "revision chain is permanently revoked")
    else if sequence ≠ current.sequence + 1 then .error (.value "revision sequence gap")
    else if previousDigest ≠ current.digest then
      .error (.value "revision predecessor mismatch")
    else .ok (true,next)

/-- `_require_current_descriptor`. -/
def requireCurrentDescriptor (t : RevisionTracker) (d : NodeDescriptor) : Result Unit :=
  match t.descriptors d.nodeId with
  | none => .error (.value "object is not bound to the current node descriptor")
  | some current => do
    let digest ← d.digest lib
    raiseIf (current.digest ≠ digest)
      (.value "object is not bound to the current node descriptor")

/-- `accept_descriptor`. -/
def acceptDescriptor (now : ℤ) (d : NodeDescriptor) (t : RevisionTracker) :
    Result (Bool × RevisionTracker) := do
  d.verify lib now
  let digest ← d.digest lib
  let (changed,next) ← advance t.descriptors d.nodeId d.sequence d.previousDigest digest false false
  return (changed,{ t with descriptors := next })

/-- `accept_reachability`. -/
def acceptReachability (now : ℤ) (r : ReachabilityRecord) (d : NodeDescriptor)
    (t : RevisionTracker) : Result (Bool × RevisionTracker) := do
  r.verify lib d now
  t.requireCurrentDescriptor lib d
  let digest ← r.digest lib
  let (changed,next) ← advance t.reachability r.nodeId r.sequence r.previousDigest digest false
    false
  return (changed,{ t with reachability := next })

/-- `accept_human_grant`. -/
def acceptHumanGrant (now : ℤ) (g : HumanDeviceGrant) (d : NodeDescriptor)
    (t : RevisionTracker) : Result (Bool × RevisionTracker) := do
  g.verify lib d now
  t.requireCurrentDescriptor lib d
  let digest ← g.digest lib
  let (changed,next) ← advance t.humanDevices (g.humanId,g.deviceNodeId) g.sequence
    g.previousDigest digest false true
  return (changed,{ t with humanDevices := next })

/-- `accept_human_revocation`. -/
def acceptHumanRevocation (now : ℤ) (v : HumanDeviceRevocation) (d : NodeDescriptor)
    (t : RevisionTracker) : Result (Bool × RevisionTracker) := do
  v.verify lib d now
  t.requireCurrentDescriptor lib d
  raiseIf ((t.humanDevices (v.humanId,v.deviceNodeId)).isNone)
    (.value "cannot revoke a device without an accepted grant")
  let digest ← v.digest lib
  let (changed,next) ← advance t.humanDevices (v.humanId,v.deviceNodeId) v.sequence
    v.previousDigest digest true true
  return (changed,{ t with humanDevices := next })

def accept (now : ℤ) : ControlCall → RevisionTracker → Result (Bool × RevisionTracker)
  | .descriptor d => acceptDescriptor lib now d
  | .reachability r d => acceptReachability lib now r d
  | .grant g d => acceptHumanGrant lib now g d
  | .revocation v d => acceptHumanRevocation lib now v d

end RevisionTracker

namespace ControlPlaneStore

def empty : ControlPlaneStore := ⟨.empty,.empty,.empty⟩

/-- `_check_revision`. -/
def checkRevision (current : Option Checkpoint) (sequence : ℤ) (previousDigest digest : Bytes)
    (forbidAfterTerminal : Bool) : Result Bool :=
  match current with
  | none => do
    raiseIf (sequence ≠ 1 ∨ previousDigest ≠ genesisDigest)
      (.value "revision chain must start at genesis")
    return true
  | some current =>
    if sequence = current.sequence then do
      raiseIf (digest ≠ current.digest) (.value "revision fork at the current sequence")
      return false
    else do
      raiseIf (sequence < current.sequence) (.value "stale revision")
      raiseIf (forbidAfterTerminal ∧ current.terminal)
        (.value "revision chain is permanently revoked")
      raiseIf (sequence ≠ current.sequence + 1) (.value "revision sequence gap")
      raiseIf (previousDigest ≠ current.digest) (.value "revision predecessor mismatch")
      return true

/-- The `CHECK` constraints on a row. -/
def checkRow (sequence : ℤ) (digests : List Bytes) : Result Unit :=
  raiseIf (sequence ≤ 0 ∨ ∃ d ∈ digests, d.length ≠ 32) .integrity

/-- `INSERT ... ON CONFLICT(key) DO UPDATE`. -/
def putRow {κ ρ : Type} [DecidableEq κ] {key : ρ → κ} (t : Table key noMarks) (row : ρ)
    (f : ρ → ρ) (hkey : ∀ r, key (f r) = key r) : Result (Table key noMarks) :=
  fetched (t.upsert row f hkey) .integrity

/-- `_require_current_descriptor`. -/
def requireCurrentDescriptor (s : ControlPlaneStore) (d : NodeDescriptor) : Result Unit :=
  match s.descriptors.get d.nodeId with
  | none => .error (.value "object is not bound to the current node descriptor")
  | some current => do
    let digest ← d.digest lib
    raiseIf (current.digest ≠ digest)
      (.value "object is not bound to the current node descriptor")

/-- `accept_descriptor`. -/
def acceptDescriptor (now : ℤ) (d : NodeDescriptor) (s : ControlPlaneStore) :
    Result (Bool × ControlPlaneStore) := do
  d.verify lib now
  let digest ← d.digest lib
  let changed ← checkRevision ((s.descriptors.get d.nodeId).map DescriptorRow.checkpoint)
    d.sequence d.previousDigest digest false
  if changed then do
    checkRow d.sequence [digest]
    let rows ← putRow s.descriptors ⟨d.nodeId,d.sequence,digest,d.toDict⟩
      (fun r => { r with sequence := d.sequence, digest := digest, objectJson := d.toDict })
      fun _ => rfl
    return (true,{ s with descriptors := rows })
  else return (false,s)

/-- `accept_reachability`. -/
def acceptReachability (now : ℤ) (r : ReachabilityRecord) (d : NodeDescriptor)
    (s : ControlPlaneStore) : Result (Bool × ControlPlaneStore) := do
  r.verify lib d now
  s.requireCurrentDescriptor lib d
  let digest ← r.digest lib
  let changed ← checkRevision ((s.reachability.get r.nodeId).map ReachabilityRow.checkpoint)
    r.sequence r.previousDigest digest false
  if changed then do
    checkRow r.sequence [digest,r.descriptorDigest]
    -- the foreign key
    raiseIf ((s.descriptors.get r.nodeId).isNone) .integrity
    let rows ← putRow s.reachability
      ⟨r.nodeId,r.sequence,digest,r.descriptorDigest,r.expiresMs,r.toDict⟩
      (fun row => { row with
        sequence := r.sequence, digest := digest, descriptorDigest := r.descriptorDigest
        expiresMs := r.expiresMs, objectJson := r.toDict })
      fun _ => rfl
    return (true,{ s with reachability := rows })
  else return (false,s)

/-- `accept_human_grant`. -/
def acceptHumanGrant (now : ℤ) (g : HumanDeviceGrant) (d : NodeDescriptor)
    (s : ControlPlaneStore) : Result (Bool × ControlPlaneStore) := do
  g.verify lib d now
  s.requireCurrentDescriptor lib d
  let digest ← g.digest lib
  let changed ← checkRevision
    ((s.humanDevices.get (g.humanId,g.deviceNodeId)).map HumanDeviceRow.checkpoint)
    g.sequence g.previousDigest digest true
  if changed then do
    checkRow g.sequence [digest,g.descriptorDigest]
    raiseIf ((s.descriptors.get g.deviceNodeId).isNone) .integrity
    let rows ← putRow s.humanDevices
      ⟨g.humanId,g.deviceNodeId,g.sequence,digest,g.descriptorDigest,false,.grant,g.toDict⟩
      (fun row => { row with
        sequence := g.sequence, digest := digest, descriptorDigest := g.descriptorDigest
        terminal := false, eventType := .grant, objectJson := g.toDict })
      fun _ => rfl
    return (true,{ s with humanDevices := rows })
  else return (false,s)

/-- `accept_human_revocation`. -/
def acceptHumanRevocation (now : ℤ) (v : HumanDeviceRevocation) (d : NodeDescriptor)
    (s : ControlPlaneStore) : Result (Bool × ControlPlaneStore) := do
  v.verify lib d now
  s.requireCurrentDescriptor lib d
  let current ← fetched (s.humanDevices.get (v.humanId,v.deviceNodeId))
    (.value "cannot revoke a device without an accepted grant")
  let digest ← v.digest lib
  let changed ← checkRevision (some current.checkpoint) v.sequence v.previousDigest digest true
  if changed then do
    checkRow v.sequence [digest,v.descriptorDigest]
    let rows := s.humanDevices.update (fun row => row.key = (v.humanId,v.deviceNodeId))
      (.revoked v digest) (fun _ => rfl) fun _ => List.Subset.refl _
    return (true,{ s with humanDevices := rows })
  else return (false,s)

def accept (now : ℤ) : ControlCall → ControlPlaneStore → Result (Bool × ControlPlaneStore)
  | .descriptor d => acceptDescriptor lib now d
  | .reachability r d => acceptReachability lib now r d
  | .grant g d => acceptHumanGrant lib now g d
  | .revocation v d => acceptHumanRevocation lib now v d

/-- `current_descriptor`. -/
def currentDescriptor (nodeId : String) (now : ℤ) (s : ControlPlaneStore) :
    Result (Option NodeDescriptor) := do
  validateNodeId nodeId
  match s.descriptors.get nodeId with
  | none => return none
  | some row => (NodeDescriptor.fromDict lib now row.objectJson).map some

/-- `current_reachability`. -/
def currentReachability (nodeId : String) (now : ℤ) (s : ControlPlaneStore) :
    Result (Option ReachabilityRecord) := do
  match ← s.currentDescriptor lib nodeId now with
  | none => return none
  | some descriptor =>
    match s.reachability.get descriptor.nodeId with
    | none => return none
    | some row =>
      if row.expiresMs ≤ now then return none
      else do
        let digest ← descriptor.digest lib
        if row.descriptorDigest ≠ digest then return none
        else (ReachabilityRecord.fromDict lib descriptor now row.objectJson).map some

/-- `human_device_grant`. -/
def humanDeviceGrant (humanId deviceNodeId : String) (now : ℤ) (s : ControlPlaneStore) :
    Result (Option HumanDeviceGrant) := do
  match ← s.currentDescriptor lib deviceNodeId now with
  | none => return none
  | some descriptor => do
    validateHumanId humanId
    match s.humanDevices.get (humanId,descriptor.nodeId) with
    | none => return none
    | some row =>
      if row.eventType ≠ .grant then return none
      else do
        let digest ← descriptor.digest lib
        if row.descriptorDigest ≠ digest then return none
        else (HumanDeviceGrant.fromDict lib descriptor now row.objectJson).map some

/-- `is_human_device_revoked`. -/
def isHumanDeviceRevoked (humanId deviceNodeId : String) (s : ControlPlaneStore) :
    Result Bool := do
  validateHumanId humanId
  validateNodeId deviceNodeId
  return (s.humanDevices.get (humanId,deviceNodeId)).any HumanDeviceRow.terminal

end ControlPlaneStore
end Anet
