import Anet.ControlLedger

/-! The Ahub carrier of a node: which descriptor and which reachability record it publishes
next, what it keeps of them in its home, and what an Ahub does with them. -/
namespace Anet

open ControlPlane

def descriptorTtlMs : ℤ := 30 * 24 * 60 * 60 * 1000
def descriptorRefreshMs : ℤ := 7 * 24 * 60 * 60 * 1000
def reachabilityTtlMs : ℤ := 5 * 60 * 1000
def reachabilityRefreshMs : ℤ := 60 * 1000
def reachabilityProtocolVersions : List String := ["anet/1"]

/-- The parts of a node the carrier uses: its configuration, `control-state.json`, the
checkpoint in `reachability-state.json`, and, in memory, the last record and the session. -/
structure Publisher where
  capabilities : List String
  addresses : List String
  controlState : Option Value
  checkpoint : Option (ℤ × Bytes)
  cached : Option ReachabilityRecord
  sessionId : String

/-- An Ahub, as far as publications go. -/
structure PublicationHub where
  control : ControlPlaneStore
  admitted : Bool

variable (lib : ControlLibrary) (identity : SigningIdentity)

namespace Publisher

/-- `_load_descriptor_state`. -/
def loadDescriptorState : Option Value → Result (Option NodeDescriptor)
  | none => .ok none
  | some value => do
    let entries ← fetched value.asMap (.value "invalid local control-plane descriptor")
    let issued ← fetched (match item entries "issued_ms" with | .int i => some i | _ => none)
      (.value "invalid local control-plane descriptor time")
    (NodeDescriptor.fromDict lib issued value).map some

/-- A new descriptor is due. -/
def refreshDue (now : ℤ) (node : Publisher) (previous : NodeDescriptor) : Bool :=
  previous.nodeId ≠ identity.nodeId ∨ previous.capabilities ≠ sortedSet node.capabilities ∨
    previous.expiresMs - now ≤ descriptorRefreshMs

/-- A new descriptor that is written to the home at once. -/
def advanceDescriptor (now sequence : ℤ) (previousDigest : Bytes) (node : Publisher) :
    Result (NodeDescriptor × Publisher) := do
  let descriptor ← issueNodeDescriptor lib identity (sortedSet node.capabilities) sequence
    previousDigest now descriptorTtlMs
  return (descriptor,{ node with controlState := some descriptor.toDict })

/-- `current_node_descriptor`. -/
def currentNodeDescriptor (now : ℤ) (node : Publisher) : Result (NodeDescriptor × Publisher) := do
  match ← loadDescriptorState lib node.controlState with
  | none => node.advanceDescriptor lib identity now 1 genesisDigest
  | some previous =>
    if node.refreshDue identity now previous then do
      raiseIf (previous.nodeId ≠ identity.nodeId)
        (.value "local control-plane state belongs to another node")
      let digest ← previous.digest lib
      node.advanceDescriptor lib identity now (previous.sequence + 1) digest
    else do
      previous.verify lib now
      return (previous,node)

/-- The cached record, where it can be published again as it is. -/
def reusable (now : ℤ) (digest capabilityDigest : Bytes) (node : Publisher) :
    Option ReachabilityRecord :=
  node.cached.filter fun cached =>
    cached.descriptorDigest = digest ∧ cached.sessionId = node.sessionId ∧
      cached.protocolVersions = reachabilityProtocolVersions ∧
      cached.candidates = sortedSet node.addresses ∧ cached.relayReservation = "" ∧
      cached.capabilityDigest = capabilityDigest ∧ reachabilityRefreshMs < cached.expiresMs - now

/-- The capability digest of `_reachability_inputs`. -/
def capabilityDigest (node : Publisher) : Result Bytes :=
  (lib.rt.canonicalPack (texts (sortedSet node.capabilities))).map lib.sha256

/-- `current_node_reachability`. -/
def currentNodeReachability (now : ℤ) (descriptor : NodeDescriptor) (node : Publisher) :
    Result (ReachabilityRecord × Publisher) := do
  let capabilities ← node.capabilityDigest lib
  let digest ← descriptor.digest lib
  match node.reusable now digest capabilities with
  | some cached => return (cached,node)
  | none =>
    let last := node.checkpoint.getD (0,genesisDigest)
    let record ← issueReachabilityRecord lib identity descriptor reachabilityProtocolVersions
      (sortedSet node.addresses) "" capabilities (last.1 + 1) last.2 node.sessionId now
      reachabilityTtlMs
    return (record,{ node with cached := some record })

/-- `_save_reachability_checkpoint`. -/
def saveCheckpoint (record : ReachabilityRecord) (node : Publisher) :
    Result (Bool × Publisher) := do
  let digest ← record.digest lib
  return (true,{ node with checkpoint := some (record.sequence,digest) })

/-- `commit_node_reachability`. -/
def commitNodeReachability (record : ReachabilityRecord) (node : Publisher) :
    Result (Bool × Publisher) := do
  raiseIf (record.nodeId ≠ identity.nodeId)
    (.value "reachability record belongs to another node")
  match node.checkpoint with
  | none => do
    raiseIf (record.sequence ≠ 1 ∨ record.previousDigest ≠ genesisDigest)
      (.value "reachability checkpoint is missing its predecessor")
    node.saveCheckpoint lib record
  | some (sequence,lastDigest) =>
    if record.sequence < sequence then return (false,node)
    else if sequence = record.sequence then do
      let digest ← record.digest lib
      raiseIf (lastDigest ≠ digest) (.value "reachability checkpoint revision conflict")
      return (false,node)
    else do
      raiseIf (record.sequence ≠ sequence + 1 ∨ record.previousDigest ≠ lastDigest)
        (.value "reachability checkpoint chain is not contiguous")
      node.saveCheckpoint lib record

end Publisher

namespace PublicationHub

/-- `AhubService.publish_descriptor`. -/
def publishDescriptor (now : ℤ) (d : NodeDescriptor) (hub : PublicationHub) :
    Result (Bool × PublicationHub) := do
  raiseIf (¬ hub.admitted) (.permission "node is not allowed by this Ahub")
  let (changed,control) ← hub.control.acceptDescriptor lib now d
  return (changed,{ hub with control := control })

/-- `AhubService.publish_reachability`. -/
def publishReachability (now : ℤ) (r : ReachabilityRecord) (hub : PublicationHub) :
    Result (Bool × PublicationHub) := do
  raiseIf (¬ hub.admitted) (.permission "node is not allowed by this Ahub")
  let found ← hub.control.currentDescriptor lib r.nodeId now
  let descriptor ← fetched found (.value "reachability requires a current descriptor")
  let (changed,control) ← hub.control.acceptReachability lib now r descriptor
  return (changed,{ hub with control := control })

end PublicationHub

section Facts

variable {lib} {identity}

/-- The place of a revision fits behind what a keeper holds, or is what it holds. -/
def Fits (held : Option (ℤ × Bytes)) (r : Revision Bytes) : Prop :=
  held = some r.mark ∨ Follows genesisDigest held r

theorem ControlPlaneStore.checkRevision_fits {current : Option Checkpoint} {r : Revision Bytes}
    (h : Fits (current.map fun c => (c.sequence,c.digest)) r) :
    ∃ changed, checkRevision current r.sequence r.previous r.digest false = .ok changed := by
  unfold checkRevision
  cases current with
  | none =>
    rcases h with h | h
    · cases h
    · exact ⟨true,by simp [h.1,h.2,raiseIf,bind,Except.bind,pure,Except.pure]⟩
  | some c =>
    rcases h with h | h
    · obtain ⟨hsequence,hdigest⟩ := Prod.mk.inj (Option.some.inj h)
      exact ⟨false,by simp [hsequence,hdigest,raiseIf,bind,Except.bind,pure,Except.pure]⟩
    · have hnext : r.sequence = c.sequence + 1 := h.1
      have hlink : r.previous = c.digest := h.2
      have hne : ¬ r.sequence = c.sequence := by omega
      have hstale : ¬ r.sequence < c.sequence := by omega
      refine ⟨true,?_⟩
      rw [hnext] at hne hstale ⊢
      simp [hne,hstale,hlink,raiseIf,bind,Except.bind,pure,Except.pure]

theorem ControlPlaneStore.acceptDescriptor_fits {s : ControlPlaneStore} {d : NodeDescriptor}
    {now : ℤ} {digest : Bytes} (hverify : d.verify lib now = .ok ())
    (hdigest : d.digest lib = .ok digest)
    (h : Fits (s.mark (.descriptor d.nodeId)) ⟨d.sequence,d.previousDigest,digest⟩) :
    ∃ changed s', s.acceptDescriptor lib now d = .ok (changed,s') := by
  rw [mark_descriptor] at h
  obtain ⟨changed,hcheck⟩ := checkRevision_fits h
  simp only [acceptDescriptor,hverify,hdigest,hcheck,bind,Except.bind]
  cases changed with
  | false => exact ⟨_,_,rfl⟩
  | true =>
    have hrow : checkRow d.sequence [digest] = .ok () :=
      checkRow_ok (NodeDescriptor.verify_sizes hverify).2.2.2.1
        (by simpa using objectDigest_length hdigest)
    obtain ⟨rows,hput,-⟩ := putRow_ok s.descriptors ⟨d.nodeId,d.sequence,digest,d.toDict⟩
      (fun r => { r with sequence := d.sequence, digest := digest, objectJson := d.toDict })
      fun _ => rfl
    simp only [if_true,hrow,hput]
    exact ⟨_,_,rfl⟩

theorem ControlPlaneStore.acceptReachability_fits {s : ControlPlaneStore} {r : ReachabilityRecord}
    {d : NodeDescriptor} {now : ℤ} {digest : Bytes} (hverify : r.verify lib d now = .ok ())
    (hcurrent : s.requireCurrentDescriptor lib d = .ok ()) (hdigest : r.digest lib = .ok digest)
    (h : Fits (s.mark (.reachability r.nodeId)) ⟨r.sequence,r.previousDigest,digest⟩) :
    ∃ changed s', s.acceptReachability lib now r d = .ok (changed,s') := by
  rw [mark_reachability] at h
  obtain ⟨changed,hcheck⟩ := checkRevision_fits h
  simp only [acceptReachability,hverify,hcurrent,hdigest,hcheck,bind,Except.bind]
  cases changed with
  | false => exact ⟨_,_,rfl⟩
  | true =>
    obtain ⟨-,hid,-,hbound,-,hsequence,-⟩ := ReachabilityRecord.verify_parts hverify
    obtain ⟨row,hrow,-⟩ := requireCurrentDescriptor_ok.mp hcurrent
    have hcheckRow : checkRow r.sequence [digest,r.descriptorDigest] = .ok () := by
      refine checkRow_ok hsequence ?_
      simpa using ⟨objectDigest_length hdigest,hbound⟩
    obtain ⟨rows,hput,-⟩ := putRow_ok s.reachability
      ⟨r.nodeId,r.sequence,digest,r.descriptorDigest,r.expiresMs,r.toDict⟩
      (fun row => { row with
        sequence := r.sequence, digest := digest, descriptorDigest := r.descriptorDigest
        expiresMs := r.expiresMs, objectJson := r.toDict })
      fun _ => rfl
    have hforeign : raiseIf ((s.descriptors.get r.nodeId).isNone) .integrity = .ok () := by
      simp [hid,hrow]
    simp only [if_true,hcheckRow,hforeign,hput]
    exact ⟨_,_,rfl⟩

end Facts
end Anet
