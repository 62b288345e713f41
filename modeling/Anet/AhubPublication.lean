import Anet.AhubCarrier

/-! A node that publishes to several Ahubs. Requests and responses are lost, requests come
late or twice, the node restarts and is configured anew, and Ahubs are added. -/
namespace Anet

open ControlPlane

/-- What becomes of a publication: the request is lost, or only the response is, or none. -/
inductive Fate | lost | unanswered | answered
  deriving DecidableEq

inductive PublicationAction
  | configure (capabilities addresses : List String)
  | restart (sessionId : String)
  | addHub
  | permit (hub : ℕ) (admitted : Bool)
  | other (hub : ℕ) (now : ℤ) (call : ControlCall)
  | prepareDescriptor (now : ℤ)
  | publishDescriptor (hub : ℕ) (now : ℤ) (arrives : Bool) (hubNow : ℤ)
  | publishReachability (hub : ℕ) (now : ℤ) (descriptor : ℕ) (fate : Fate) (hubNow : ℤ)
  | commit (answer : ℕ)
  | lateDescriptor (hub descriptor : ℕ) (hubNow : ℤ)
  | lateReachability (hub record : ℕ) (hubNow : ℤ)

/-- Beside the node and the Ahubs: what the node has issued so far, and the accepted records
whose answers it has but has not committed. -/
structure PublicationWorld where
  node : Publisher
  hubs : List PublicationHub
  issued : List NodeDescriptor
  records : List ReachabilityRecord
  answered : List ReachabilityRecord

def added {α : Type} [DecidableEq α] (a : α) (l : List α) : List α := if a ∈ l then l else l ++ [a]

namespace PublicationWorld

variable (lib : ControlLibrary) (identity : SigningIdentity)

def initial (capabilities addresses : List String) (sessionId : String) : PublicationWorld :=
  ⟨⟨capabilities,addresses,none,none,none,sessionId⟩,[],[],[],[]⟩

def issueDescriptor (now : ℤ) (w : PublicationWorld) :
    Result (NodeDescriptor × PublicationWorld) := do
  let (d,node) ← w.node.currentNodeDescriptor lib identity now
  return (d,{ w with node := node, issued := added d w.issued })

def issueReachability (now : ℤ) (d : NodeDescriptor) (w : PublicationWorld) :
    Result (ReachabilityRecord × PublicationWorld) := do
  let (r,node) ← w.node.currentNodeReachability lib identity now d
  return (r,{ w with node := node, records := added r w.records })

def takeDescriptor (hub : ℕ) (hubNow : ℤ) (d : NodeDescriptor) (w : PublicationWorld) :
    PublicationWorld :=
  { w with hubs := w.hubs.modify hub fun x => (atomic (PublicationHub.publishDescriptor lib hubNow d) x).2 }

def takeReachability (hub : ℕ) (hubNow : ℤ) (r : ReachabilityRecord) (w : PublicationWorld) :
    PublicationWorld :=
  { w with hubs := w.hubs.modify hub fun x => (atomic (PublicationHub.publishReachability lib hubNow r) x).2 }

/-- The Ahub answers the record without an error. -/
def answers (hub : ℕ) (hubNow : ℤ) (r : ReachabilityRecord) (w : PublicationWorld) : Bool :=
  (w.hubs[hub]?).any fun x => (x.publishReachability lib hubNow r).toBool

def publishReachability (hub : ℕ) (now : ℤ) (d : NodeDescriptor) (fate : Fate) (hubNow : ℤ)
    (w : PublicationWorld) : PublicationWorld :=
  match w.issueReachability lib identity now d with
  | .error _ => w
  | .ok (r,w') =>
    if fate = .lost then w'
    else if fate = .answered ∧ w'.answers lib hub hubNow r then
      { w'.takeReachability lib hub hubNow r with answered := r :: w.answered }
    else w'.takeReachability lib hub hubNow r

/-- A call that is none of the node's own publications. -/
def foreign (call : ControlCall) : Prop :=
  call.chain ≠ .descriptor identity.nodeId ∧ call.chain ≠ .reachability identity.nodeId

instance (call : ControlCall) : Decidable (foreign identity call) :=
  inferInstanceAs (Decidable (_ ∧ _))

def exec (w : PublicationWorld) : PublicationAction → PublicationWorld
  | .configure capabilities addresses =>
    { w with node := { w.node with capabilities := capabilities, addresses := addresses } }
  | .restart sessionId =>
    { w with node := { w.node with cached := none, sessionId := sessionId }, answered := [] }
  | .addHub => { w with hubs := w.hubs ++ [⟨.empty,false⟩] }
  | .permit hub admitted => { w with hubs := w.hubs.modify hub fun x => { x with admitted := admitted } }
  | .other hub now call =>
    if foreign identity call then { w with
      hubs := w.hubs.modify hub fun x =>
        { x with control := (atomic (ControlPlaneStore.accept lib now call) x.control).2 } }
    else w
  | .prepareDescriptor now =>
    match w.issueDescriptor lib identity now with
    | .error _ => w
    | .ok (_,w') => w'
  | .publishDescriptor hub now arrives hubNow =>
    match w.issueDescriptor lib identity now with
    | .error _ => w
    | .ok (d,w') => if arrives then w'.takeDescriptor lib hub hubNow d else w'
  | .publishReachability hub now descriptor fate hubNow =>
    match w.issued[descriptor]? with
    | none => w
    | some d => w.publishReachability lib identity hub now d fate hubNow
  | .commit answer =>
    match w.answered[answer]? with
    | none => w
    | some r => { w with node := (atomic (Publisher.commitNodeReachability lib identity r) w.node).2 }
  | .lateDescriptor hub descriptor hubNow =>
    match w.issued[descriptor]? with
    | none => w
    | some d => w.takeDescriptor lib hub hubNow d
  | .lateReachability hub record hubNow =>
    match w.records[record]? with
    | none => w
    | some r => w.takeReachability lib hub hubNow r

def PublicationStep (w w' : PublicationWorld) : Prop := ∃ a, w' = w.exec lib identity a

/-- The Ahub takes what the node publishes: it is accepted, or there already, whenever the
object verifies there and the node is admitted. -/
def Accepted (w : PublicationWorld) : PublicationAction → Prop
  | .publishDescriptor hub now _ hubNow => ∀ x d w', w.hubs[hub]? = some x →
      w.issueDescriptor lib identity now = .ok (d,w') → x.admitted → d.verify lib hubNow = .ok () →
      ∃ changed x', x.publishDescriptor lib hubNow d = .ok (changed,x')
  | .publishReachability hub now descriptor _ hubNow => ∀ x d d' r w', w.hubs[hub]? = some x →
      w.issued[descriptor]? = some d → w.issueReachability lib identity now d = .ok (r,w') →
      x.admitted → x.control.currentDescriptor lib identity.nodeId hubNow = .ok (some d') →
      r.verify lib d' hubNow = .ok () →
      ∃ changed x', x.publishReachability lib hubNow r = .ok (changed,x')
  | _ => True

/-- The number of a revision a keeper holds, zero for none. -/
def number (held : Option (ℤ × Bytes)) : ℤ := (held.map Prod.fst).getD 0

/-- The number of the descriptor in the home. -/
def descriptorNumber (w : PublicationWorld) : ℤ :=
  match Publisher.loadDescriptorState lib w.node.controlState with
  | .ok (some d) => d.sequence
  | _ => 0

/-- A new descriptor is due at this clock. -/
def DescriptorDue (now : ℤ) (w : PublicationWorld) : Prop :=
  ∀ d, Publisher.loadDescriptorState lib w.node.controlState = .ok (some d) →
    w.node.refreshDue identity now d

/-- A new record has to be made for this descriptor. -/
def RecordDue (now : ℤ) (d : NodeDescriptor) (w : PublicationWorld) : Prop :=
  ∀ digest capabilities, d.digest lib = .ok digest → w.node.capabilityDigest lib = .ok capabilities →
    w.node.reusable now digest capabilities = none

def DescriptorReady (now : ℤ) (w : PublicationWorld) : Prop :=
  w.DescriptorDue lib identity now → ∀ x ∈ w.hubs,
    number (x.control.mark (.descriptor identity.nodeId)) = w.descriptorNumber lib

/-- A new descriptor is issued only when every Ahub has the last one, a new record only when
every Ahub has the one the checkpoint names, an Ahub is added before the second of either, and
a late request brings no record that has been replaced. -/
def Meets (w : PublicationWorld) : PublicationAction → Prop
  | .prepareDescriptor now => w.DescriptorReady lib identity now
  | .publishDescriptor _ now _ _ => w.DescriptorReady lib identity now
  | .publishReachability _ now descriptor _ _ => ∀ d, w.issued[descriptor]? = some d →
      w.RecordDue lib now d → ∀ x ∈ w.hubs,
        x.control.mark (.reachability identity.nodeId) = w.node.checkpoint
  | .addHub => w.descriptorNumber lib ≤ 1 ∧ ∀ c, w.node.cached = some c → c.sequence = 1
  | .lateReachability hub record _ => ∀ x r, w.hubs[hub]? = some x → w.records[record]? = some r →
      w.node.cached = some r ∨
        r.sequence ≤ number (x.control.mark (.reachability identity.nodeId))
  | _ => True

def MeetingStep (w w' : PublicationWorld) : Prop :=
  ∃ a, w.Meets lib identity a ∧ w' = w.exec lib identity a

section Invariant

/-- The keeper holds the revision or the one before it. -/
def Near (held : Option (ℤ × Bytes)) : Option (Revision Bytes) → Prop
  | none => held = none
  | some r => Fits held r

def descriptorRevision (d : NodeDescriptor) : Result (Revision Bytes) :=
  (d.digest lib).map fun digest => ⟨d.sequence,d.previousDigest,digest⟩

def recordRevision (r : ReachabilityRecord) : Result (Revision Bytes) :=
  (r.digest lib).map fun digest => ⟨r.sequence,r.previousDigest,digest⟩

/-- The node issues one chain of descriptors, and every Ahub is at its end or one behind; the
record to be published comes right behind what each Ahub and the checkpoint hold, or is it. -/
structure Kept (w : PublicationWorld) : Prop where
  file : w.node.controlState = w.issued.getLast?.map NodeDescriptor.toDict
  honest : ∀ d ∈ w.issued, d.nodeId = identity.nodeId ∧ d.verify lib d.issuedMs = .ok ()
  chain : ∃ rs, w.issued.map (descriptorRevision lib) = rs.map .ok ∧
    Chained genesisDigest 1 rs ∧
    ∀ x ∈ w.hubs, Near (x.control.mark (.descriptor identity.nodeId)) rs.getLast?
  stores : ∀ x ∈ w.hubs, ∃ taken, ControlLedger.Kept lib ⟨x.control,taken⟩
  recorded : ∀ r ∈ w.records, r.nodeId = identity.nodeId
  cached : ∀ c, w.node.cached = some c → c ∈ w.records ∧
    (c.sequence = 1 → c.previousDigest = genesisDigest) ∧ ∃ r, recordRevision lib c = .ok r ∧
      Fits w.node.checkpoint r ∧
      ∀ x ∈ w.hubs, Fits (x.control.mark (.reachability identity.nodeId)) r
  answered : ∀ a ∈ w.answered,
    (a.sequence ≤ number w.node.checkpoint ∨ w.node.cached = some a) ∧
    ∃ x ∈ w.hubs, a.sequence ≤ number (x.control.mark (.reachability identity.nodeId))

end Invariant

section Steps

variable {lib} {identity} {w : PublicationWorld}

theorem Follows.number {held : Option (ℤ × Bytes)} {r : Revision Bytes}
    (h : Follows genesisDigest held r) : r.sequence = number held + 1 := by
  cases held with
  | none => exact h.1
  | some x => exact h.1

theorem number_mark (r : Revision Bytes) : number (some r.mark) = r.sequence := rfl

/-- Taking a revision that fits leaves the keeper where it fits again. -/
theorem Fits.taken {held held' : Option (ℤ × Bytes)} {r : Revision Bytes} (h : Fits held r)
    (h' : held' = held ∨ held' = some r.mark) : Fits held' r := by
  rcases h' with rfl | rfl
  · exact h
  · exact Or.inl rfl

/-- What one operation does to the last revisions of a store. -/
theorem accept_effect (lib : ControlLibrary) (s : ControlPlaneStore) (now : ℤ) (call : ControlCall) :
    let s' := (atomic (ControlPlaneStore.accept lib now call) s).2
    (∀ k, k ≠ call.chain → s'.mark k = s.mark k) ∧
    (s'.mark call.chain = s.mark call.chain ∨ ∃ r, call.revision lib = .ok r ∧
      Follows genesisDigest (s.mark call.chain) r ∧ s'.mark call.chain = some r.mark) ∧
    ∀ taken, ControlLedger.Kept lib ⟨s,taken⟩ → ∃ taken', ControlLedger.Kept lib ⟨s',taken'⟩ := by
  dsimp only
  rcases atomic_cases (ControlPlaneStore.accept lib now call) s with
    ⟨changed,s',haccept,hatomic⟩ | ⟨e,-,hatomic⟩
  · obtain ⟨digest,ht⟩ := ControlPlaneStore.accept_taken haccept
    rw [hatomic]
    cases changed with
    | false =>
      obtain ⟨rfl,-⟩ := ht.again rfl
      exact ⟨fun _ _ => rfl,Or.inl rfl,fun taken htaken => ⟨taken,htaken⟩⟩
    | true =>
      obtain ⟨hfollows,-,-,hlast⟩ := ht.next rfl
      refine ⟨?_,Or.inr ⟨⟨call.sequence,call.previousDigest,digest⟩,?_,hfollows,?_⟩,?_⟩
      · intro k hk
        rw [ControlPlaneStore.mark,hlast,if_neg hk]
        rfl
      · rw [ControlCall.revision,ht.hashed]
        rfl
      · rw [ControlPlaneStore.mark,hlast,if_pos rfl]
        rfl
      · intro taken htaken
        exact ⟨_,ControlLedger.kept_taken htaken ht⟩
  · rw [hatomic]
    exact ⟨fun _ _ => rfl,Or.inl rfl,fun taken htaken => ⟨taken,htaken⟩⟩

/-- An Ahub that is given a descriptor does what its store does, or nothing. -/
theorem publishDescriptor_control (lib : ControlLibrary) (now : ℤ) (d : NodeDescriptor) (x : PublicationHub) :
    (atomic (PublicationHub.publishDescriptor lib now d) x).2.control = x.control ∨
      (atomic (PublicationHub.publishDescriptor lib now d) x).2.control =
        (atomic (ControlPlaneStore.accept lib now (.descriptor d)) x.control).2 := by
  rcases atomic_cases (PublicationHub.publishDescriptor lib now d) x with
    ⟨changed,x',hpublish,hatomic⟩ | ⟨e,-,hatomic⟩
  · simp only [PublicationHub.publishDescriptor,bind_ok] at hpublish
    obtain ⟨_,-,⟨changed',control⟩,haccept,hval⟩ := hpublish
    cases hval
    right
    rw [hatomic]
    change control = (atomic (ControlPlaneStore.acceptDescriptor lib now d) x.control).2
    rw [atomic,haccept]
  · left
    rw [hatomic]

theorem publishReachability_control (lib : ControlLibrary) (now : ℤ) (r : ReachabilityRecord) (x : PublicationHub) :
    (atomic (PublicationHub.publishReachability lib now r) x).2.control = x.control ∨
      ∃ d, (atomic (PublicationHub.publishReachability lib now r) x).2.control =
        (atomic (ControlPlaneStore.accept lib now (.reachability r d)) x.control).2 := by
  rcases atomic_cases (PublicationHub.publishReachability lib now r) x with
    ⟨changed,x',hpublish,hatomic⟩ | ⟨e,-,hatomic⟩
  · simp only [PublicationHub.publishReachability,bind_ok] at hpublish
    obtain ⟨_,-,found,-,d,-,⟨changed',control⟩,haccept,hval⟩ := hpublish
    cases hval
    right
    refine ⟨d,?_⟩
    rw [hatomic]
    change control = (atomic (ControlPlaneStore.acceptReachability lib now r d) x.control).2
    rw [atomic,haccept]
  · left
    rw [hatomic]

/-- A record that an Ahub answers without an error is the one it holds then. -/
theorem publishReachability_holds {now : ℤ} {r : ReachabilityRecord} {x x' : PublicationHub}
    {changed : Bool} (h : x.publishReachability lib now r = .ok (changed,x')) :
    number (x'.control.mark (.reachability r.nodeId)) = r.sequence := by
  simp only [PublicationHub.publishReachability,bind_ok] at h
  obtain ⟨_,-,found,-,d,-,⟨changed',control⟩,haccept,hval⟩ := h
  cases hval
  obtain ⟨digest,ht⟩ := ControlPlaneStore.accept_taken
    (show x.control.accept lib now (.reachability r d) = .ok (changed',control) from haccept)
  cases changed' with
  | false =>
    obtain ⟨rfl,hmark⟩ := ht.again rfl
    exact congrArg number hmark
  | true =>
    obtain ⟨-,-,-,hlast⟩ := ht.next rfl
    have hnow : control.last (.reachability r.nodeId) =
        some ((ControlCall.reachability r d).stored digest) :=
      (hlast (.reachability r.nodeId)).trans (if_pos rfl)
    rw [ControlPlaneStore.mark,hnow]
    rfl

/-- A revision of the chain that a near keeper takes leaves it near. -/
theorem Near.taken {held : Option (ℤ × Bytes)} {rs : List (Revision Bytes)} {r : Revision Bytes}
    (hchained : Chained genesisDigest 1 rs) (h : Near held rs.getLast?) (hr : r ∈ rs)
    (hfollows : Follows genesisDigest held r) : Near (some r.mark) rs.getLast? := by
  obtain ⟨i,hi⟩ := List.mem_iff_getElem?.mp hr
  have hplace := hchained.sequence_at hi
  have hlength : i < rs.length := (List.getElem?_eq_some_iff.mp hi).1
  have hnumber := Follows.number hfollows
  cases hlast : rs.getLast? with
  | none =>
    rw [List.getLast?_eq_none_iff] at hlast
    simp [hlast] at hlength
  | some last =>
    rw [hlast] at h
    have hend := hchained.last_sequence hlast
    rcases h with h | h
    · exfalso
      rw [h,number_mark] at hnumber
      omega
    · have hnext := Follows.number h
      have hsame : r = last :=
        hchained.place_unique hr (List.mem_of_getLast? hlast) (by omega)
      rw [hsame]
      exact Or.inl rfl

/-- The home holds the last descriptor that was issued. -/
theorem loadDescriptorState_last (hw : w.Kept lib identity) :
    Publisher.loadDescriptorState lib w.node.controlState = .ok w.issued.getLast? := by
  rw [hw.file]
  cases hlast : w.issued.getLast? with
  | none => rfl
  | some d =>
    obtain ⟨-,hverify⟩ := hw.honest d (List.mem_of_getLast? hlast)
    have hread : NodeDescriptor.fromDict lib d.issuedMs d.toDict = .ok d := by
      rw [NodeDescriptor.fromDict_toDict hverify,hverify]
      rfl
    have hissued : item (d.toDict.asMap.getD []) "issued_ms" = .int d.issuedMs := rfl
    have hvalue : d.toDict = .map (d.toDict.asMap.getD []) := rfl
    rw [Option.map_some,Publisher.loadDescriptorState]
    rw [hvalue] at hread ⊢
    generalize d.toDict.asMap.getD [] = entries at hread hissued ⊢
    simp only [Value.asMap,fetched,Option.elim_some,hissued,hread,bind,Except.bind,Except.map]

theorem descriptorNumber_last (hw : w.Kept lib identity) :
    w.descriptorNumber lib = (w.issued.getLast?.map NodeDescriptor.sequence).getD 0 := by
  rw [descriptorNumber,loadDescriptorState_last hw]
  cases w.issued.getLast? <;> rfl

/-- A descriptor that verifies has a place in a chain. -/
theorem descriptorRevision_ok {d : NodeDescriptor} {now : ℤ} {u : Unit}
    (h : d.verify lib now = .ok u) : ∃ digest, d.digest lib = .ok digest ∧
      descriptorRevision lib d = .ok ⟨d.sequence,d.previousDigest,digest⟩ := by
  simp only [NodeDescriptor.verify,bind_ok] at h
  obtain ⟨_,-,_,-,_,-,_,-,_,-,_,-,_,-,_,-,_,-,hsignature⟩ := h
  obtain ⟨digest,hdigest⟩ := objectDigest_signed (by simp [NodeDescriptor.signingFields]) hsignature
  exact ⟨digest,hdigest,by rw [descriptorRevision,NodeDescriptor.digest,hdigest]; rfl⟩

theorem recordRevision_ok {r : ReachabilityRecord} {d : NodeDescriptor} {now : ℤ} {u : Unit}
    (h : r.verify lib d now = .ok u) : (r.sequence = 1 → r.previousDigest = genesisDigest) ∧
      ∃ digest, r.digest lib = .ok digest ∧
        recordRevision lib r = .ok ⟨r.sequence,r.previousDigest,digest⟩ := by
  simp only [ReachabilityRecord.verify,bind_ok] at h
  obtain ⟨_,-,_,-,_,-,_,-,_,-,_,-,_,-,_,-,_,-,_,-,_,-,_,-,_,hrevision,_,-,hsignature⟩ := h
  obtain ⟨digest,hdigest⟩ := objectDigest_signed (by simp [ReachabilityRecord.signingFields])
    hsignature
  exact ⟨validateRevision_genesis hrevision,digest,hdigest,
    by rw [recordRevision,ReachabilityRecord.digest,hdigest]; rfl⟩

theorem last_revision {issued : List NodeDescriptor} {rs : List (Revision Bytes)}
    {d : NodeDescriptor} (h : issued.map (descriptorRevision lib) = rs.map .ok)
    (hd : issued.getLast? = some d) : ∃ r, rs.getLast? = some r ∧ descriptorRevision lib d = .ok r := by
  have hmap := congrArg List.getLast? h
  rw [List.getLast?_map,List.getLast?_map,hd] at hmap
  cases hend : rs.getLast? with
  | none =>
    rw [hend] at hmap
    cases hmap
  | some r =>
    rw [hend] at hmap
    exact ⟨r,rfl,Option.some.inj hmap⟩

theorem descriptorRevision_parts {d : NodeDescriptor} {r : Revision Bytes}
    (h : descriptorRevision lib d = .ok r) :
    r.sequence = d.sequence ∧ r.previous = d.previousDigest ∧ d.digest lib = .ok r.digest := by
  obtain ⟨digest,hdigest,rfl⟩ := map_ok.mp h
  exact ⟨rfl,rfl,hdigest⟩

theorem recordRevision_parts {c : ReachabilityRecord} {r : Revision Bytes}
    (h : recordRevision lib c = .ok r) :
    r.sequence = c.sequence ∧ r.previous = c.previousDigest ∧ c.digest lib = .ok r.digest := by
  obtain ⟨digest,hdigest,rfl⟩ := map_ok.mp h
  exact ⟨rfl,rfl,hdigest⟩

/-- What the node issues when it asks for its descriptor: the last one again, or one that is
due and comes behind it. -/
theorem issueDescriptor_cases (hw : w.Kept lib identity) {now : ℤ} {d : NodeDescriptor}
    {w' : PublicationWorld} (h : w.issueDescriptor lib identity now = .ok (d,w')) :
    (w' = w ∧ w.issued.getLast? = some d) ∨
      (w.DescriptorDue lib identity now ∧ d ∉ w.issued ∧ d.nodeId = identity.nodeId ∧
        d.verify lib d.issuedMs = .ok () ∧
        w' = { w with
          node := { w.node with controlState := some d.toDict }, issued := w.issued ++ [d] } ∧
        ∃ (rs : List (Revision Bytes)) (r : Revision Bytes),
          w.issued.map (descriptorRevision lib) = rs.map .ok ∧ descriptorRevision lib d = .ok r ∧
          Follows genesisDigest (rs.getLast?.map Revision.mark) r) := by
  obtain ⟨rs,hrs,hchained,-⟩ := hw.chain
  simp only [issueDescriptor,bind_ok,Publisher.currentNodeDescriptor] at h
  obtain ⟨⟨d',node⟩,⟨previous,hload,h⟩,hval⟩ := h
  rw [loadDescriptorState_last hw] at hload
  obtain rfl := Except.ok.inj hload
  obtain ⟨hd,rfl⟩ := Prod.mk.inj (Except.ok.inj hval)
  obtain rfl : d = d' := hd.symm
  -- a new descriptor of either branch
  have hnew {sequence : ℤ} {previousDigest : Bytes}
      (hfollows : ∀ r : Revision Bytes, r.sequence = sequence → r.previous = previousDigest →
        Follows genesisDigest (rs.getLast?.map Revision.mark) r)
      (hadvance : w.node.advanceDescriptor lib identity now sequence previousDigest =
        .ok (d,node)) :
      d ∉ w.issued ∧ d.nodeId = identity.nodeId ∧ d.verify lib d.issuedMs = .ok () ∧
        node = { w.node with controlState := some d.toDict } ∧
        ∃ (rs : List (Revision Bytes)) (r : Revision Bytes),
          w.issued.map (descriptorRevision lib) = rs.map .ok ∧ descriptorRevision lib d = .ok r ∧
          Follows genesisDigest (rs.getLast?.map Revision.mark) r := by
    simp only [Publisher.advanceDescriptor,issueNodeDescriptor,bind_ok] at hadvance
    obtain ⟨_,⟨message,-,_,hverify,hval⟩,hnode⟩ := hadvance
    cases hval
    cases hnode
    obtain ⟨digest,-,hrevision⟩ := descriptorRevision_ok hverify
    have hnext := hfollows ⟨sequence,previousDigest,digest⟩ rfl rfl
    refine ⟨?_,rfl,hverify,rfl,rs,_,hrs,hrevision,hnext⟩
    intro hmem
    have hmap := List.mem_map_of_mem (f := descriptorRevision lib) hmem
    rw [hrs,hrevision,List.mem_map] at hmap
    obtain ⟨r,hr,hval⟩ := hmap
    rw [Except.ok.inj hval] at hr
    obtain ⟨i,hi⟩ := List.mem_iff_getElem?.mp hr
    have hplace := hchained.sequence_at hi
    have hlength : i < rs.length := (List.getElem?_eq_some_iff.mp hi).1
    have hnumber := Follows.number hnext
    cases hlast : rs.getLast? with
    | none =>
      rw [List.getLast?_eq_none_iff] at hlast
      simp [hlast] at hlength
    | some last =>
      have hend := hchained.last_sequence hlast
      rw [hlast,Option.map_some,number_mark] at hnumber
      dsimp only at hplace hnumber
      omega
  cases hlast : w.issued.getLast? with
  | none =>
    rw [hlast] at h
    have hempty : rs = [] := by
      rw [List.getLast?_eq_none_iff] at hlast
      rw [hlast] at hrs
      simpa using hrs.symm
    obtain ⟨hfresh,hid,hverify,rfl,hplace⟩ := hnew (by
      intro r hsequence hprevious
      rw [hempty]
      exact ⟨hsequence,hprevious⟩) h
    right
    refine ⟨?_,hfresh,hid,hverify,by simp [added,hfresh],hplace⟩
    intro previous hprevious
    rw [loadDescriptorState_last hw,hlast] at hprevious
    cases hprevious
  | some previous =>
    rw [hlast] at h
    obtain ⟨hown,hpast⟩ := hw.honest previous (List.mem_of_getLast? hlast)
    dsimp only at h
    split_ifs at h with hdue
    · obtain ⟨_,-,digest,hdigest,hadvance⟩ := by
        simpa only [bind_ok] using h
      have hlastRevision : rs.getLast? = some ⟨previous.sequence,previous.previousDigest,digest⟩ := by
        obtain ⟨r,hend,hr⟩ := last_revision hrs hlast
        rw [descriptorRevision,hdigest] at hr
        rw [hend,← Except.ok.inj hr]
      obtain ⟨hfresh,hid,hverify,rfl,hplace⟩ := hnew (by
        intro r hsequence hprevious
        rw [hlastRevision]
        exact ⟨hsequence,hprevious⟩) hadvance
      right
      refine ⟨?_,hfresh,hid,hverify,by simp [added,hfresh],hplace⟩
      intro previous' hprevious'
      rw [loadDescriptorState_last hw,hlast] at hprevious'
      cases hprevious'
      exact hdue
    · simp only [bind_ok] at h
      obtain ⟨_,-,hval⟩ := h
      cases hval
      left
      have hmem := List.mem_of_getLast? hlast
      exact ⟨by simp [added,hmem],rfl⟩

/-- What the node issues when it asks for its record: the cached one, or one that is due and
comes behind the one its checkpoint names. -/
theorem issueReachability_cases (hw : w.Kept lib identity) {now : ℤ} {d : NodeDescriptor}
    {r : ReachabilityRecord} {w' : PublicationWorld}
    (h : w.issueReachability lib identity now d = .ok (r,w')) :
    (w' = w ∧ w.node.cached = some r) ∨
      (w.RecordDue lib now d ∧ r.nodeId = identity.nodeId ∧
        (r.sequence = 1 → r.previousDigest = genesisDigest) ∧
        w' = { w with
          node := { w.node with cached := some r }, records := added r w.records } ∧
        ∃ place : Revision Bytes, recordRevision lib r = .ok place ∧
          Follows genesisDigest w.node.checkpoint place) := by
  simp only [issueReachability,Publisher.currentNodeReachability,bind_ok] at h
  obtain ⟨⟨r',node⟩,⟨capabilities,hcapabilities,digest,hdigest,h⟩,hval⟩ := h
  obtain ⟨hr,rfl⟩ := Prod.mk.inj (Except.ok.inj hval)
  obtain rfl : r = r' := hr.symm
  cases hreuse : w.node.reusable now digest capabilities with
  | some c =>
    rw [hreuse] at h
    cases h
    have hcached := (Option.filter_eq_some_iff.mp hreuse).1
    have hmem := (hw.cached _ hcached).1
    left
    exact ⟨by simp [added,hmem],hcached⟩
  | none =>
    rw [hreuse] at h
    simp only [bind_ok,issueReachabilityRecord] at h
    obtain ⟨record,⟨_,-,_,-,message,-,_,hverify,hval⟩,hnode⟩ := h
    cases hval
    cases hnode
    obtain ⟨hgenesis,place,-,hplace⟩ := recordRevision_ok hverify
    right
    refine ⟨?_,rfl,hgenesis,rfl,_,hplace,?_⟩
    · intro digest' capabilities' hdigest' hcapabilities'
      obtain rfl := Except.ok.inj (hdigest.symm.trans hdigest')
      obtain rfl := Except.ok.inj (hcapabilities.symm.trans hcapabilities')
      exact hreuse
    · cases w.node.checkpoint with
      | none => exact ⟨rfl,rfl⟩
      | some c => exact ⟨rfl,rfl⟩

end Steps

section Keeping

variable {lib} {identity} {w : PublicationWorld}

theorem mem_modify {α : Type} {l : List α} {i : ℕ} {f : α → α} {y : α} (h : y ∈ l.modify i f) :
    y ∈ l ∨ ∃ x, l[i]? = some x ∧ y = f x := by
  obtain ⟨j,hj⟩ := List.mem_iff_getElem?.mp h
  rw [List.getElem?_modify] at hj
  by_cases hij : i = j
  · subst hij
    obtain ⟨x,hx,rfl⟩ := Option.map_eq_some_iff.mp hj
    exact .inr ⟨x,hx,if_pos rfl⟩
  · simp only [if_neg hij,id_map'] at hj
    exact .inl (List.mem_of_getElem? hj)

theorem mem_modify_of_mem {α : Type} {l : List α} {i : ℕ} {f : α → α} {x : α} (h : x ∈ l) :
    x ∈ l.modify i f ∨ (l[i]? = some x ∧ f x ∈ l.modify i f) := by
  obtain ⟨j,hj⟩ := List.mem_iff_getElem?.mp h
  by_cases hij : i = j
  · subst hij
    refine .inr ⟨hj,List.mem_of_getElem? (i := i) ?_⟩
    simp [hj]
  · refine .inl (List.mem_of_getElem? (i := j) ?_)
    simp [hij,hj]

/-- One Ahub is changed, in a way that keeps its place in both chains. -/
theorem kept_hub (hw : w.Kept lib identity) (hub : ℕ) {f : PublicationHub → PublicationHub}
    (hnear : ∀ x rs, w.hubs[hub]? = some x → w.issued.map (descriptorRevision lib) = rs.map .ok →
      Chained genesisDigest 1 rs → Near (x.control.mark (.descriptor identity.nodeId)) rs.getLast? →
      Near ((f x).control.mark (.descriptor identity.nodeId)) rs.getLast?)
    (hstores : ∀ x taken, ControlLedger.Kept lib ⟨x.control,taken⟩ →
      ∃ taken', ControlLedger.Kept lib ⟨(f x).control,taken'⟩)
    (hrecord : ∀ x, w.hubs[hub]? = some x →
      number (x.control.mark (.reachability identity.nodeId)) ≤
        number ((f x).control.mark (.reachability identity.nodeId)) ∧
      ∀ c r, w.node.cached = some c → recordRevision lib c = .ok r →
        Fits (x.control.mark (.reachability identity.nodeId)) r →
        Fits ((f x).control.mark (.reachability identity.nodeId)) r) :
    Kept lib identity { w with hubs := w.hubs.modify hub f } := by
  refine ⟨hw.file,hw.honest,?_,?_,hw.recorded,?_,?_⟩
  · obtain ⟨rs,hrs,hchained,hplaces⟩ := hw.chain
    refine ⟨rs,hrs,hchained,?_⟩
    intro y hy
    rcases mem_modify hy with hy | ⟨x,hx,rfl⟩
    · exact hplaces y hy
    · exact hnear x rs hx hrs hchained (hplaces x (List.mem_of_getElem? hx))
  · intro y hy
    rcases mem_modify hy with hy | ⟨x,hx,rfl⟩
    · exact hw.stores y hy
    · obtain ⟨taken,htaken⟩ := hw.stores x (List.mem_of_getElem? hx)
      exact hstores x taken htaken
  · intro c hc
    obtain ⟨hmem,hgenesis,r,hr,hfits,hplaces⟩ := hw.cached c hc
    refine ⟨hmem,hgenesis,r,hr,hfits,?_⟩
    intro y hy
    rcases mem_modify hy with hy | ⟨x,hx,rfl⟩
    · exact hplaces y hy
    · exact (hrecord x hx).2 c r hc hr (hplaces x (List.mem_of_getElem? hx))
  · intro a ha
    obtain ⟨hlocal,x,hx,hnumber⟩ := hw.answered a ha
    refine ⟨hlocal,?_⟩
    rcases mem_modify_of_mem (i := hub) (f := f) hx with hsame | ⟨hat,hnew⟩
    · exact ⟨x,hsame,hnumber⟩
    · exact ⟨f x,hnew,hnumber.trans (hrecord x hat).1⟩

theorem kept_permit (hw : w.Kept lib identity) (hub : ℕ) (admitted : Bool) :
    (w.exec lib identity (.permit hub admitted)).Kept lib identity :=
  kept_hub hw hub (fun _ _ _ _ _ h => h) (fun _ taken h => ⟨taken,h⟩)
    fun _ _ => ⟨le_rfl,fun _ _ _ _ h => h⟩

/-- The objects of others leave the chains of the node alone. -/
theorem kept_other (hw : w.Kept lib identity) (hub : ℕ) (now : ℤ) (call : ControlCall) :
    (w.exec lib identity (.other hub now call)).Kept lib identity := by
  show Kept lib identity (if foreign identity call then _ else w)
  by_cases hforeign : foreign identity call
  · rw [if_pos hforeign]
    have hsame (x : PublicationHub) := (accept_effect lib x.control now call).1
    apply kept_hub hw hub
    · intro x rs _ _ _ hnear
      rw [hsame x _ (Ne.symm hforeign.1)]
      exact hnear
    · intro x taken htaken
      exact (accept_effect lib x.control now call).2.2 taken htaken
    · intro x _
      rw [hsame x _ (Ne.symm hforeign.2)]
      exact ⟨le_rfl,fun _ _ _ _ h => h⟩
  · rw [if_neg hforeign]
    exact hw

/-- A descriptor the node has issued leaves an Ahub at the end of the chain or one behind. -/
theorem kept_takeDescriptor (hw : w.Kept lib identity) (hub : ℕ) (hubNow : ℤ)
    {d : NodeDescriptor} (hd : d ∈ w.issued) :
    (w.takeDescriptor lib hub hubNow d).Kept lib identity := by
  obtain ⟨hown,-⟩ := hw.honest d hd
  apply kept_hub hw hub
  · intro x rs _ hrs hchained hnear
    rcases publishDescriptor_control lib hubNow d x with hsame | htaken
    · rw [hsame]
      exact hnear
    · rw [htaken]
      have hmark := (accept_effect lib x.control hubNow (.descriptor d)).2.1
      rw [ControlCall.chain,hown] at hmark
      rcases hmark with hmark | ⟨r,hr,hfollows,hmark⟩
      · rw [hmark]
        exact hnear
      · rw [hmark]
        have hmem := List.mem_map_of_mem (f := descriptorRevision lib) hd
        rw [hrs,List.mem_map] at hmem
        obtain ⟨r',hr',hval⟩ := hmem
        obtain rfl := Except.ok.inj (hval.trans hr)
        exact hnear.taken hchained hr' hfollows
  · intro x taken hkept
    rcases publishDescriptor_control lib hubNow d x with hsame | htaken
    · rw [hsame]
      exact ⟨taken,hkept⟩
    · rw [htaken]
      exact (accept_effect lib x.control hubNow (.descriptor d)).2.2 taken hkept
  · intro x _
    have hmark : (atomic (PublicationHub.publishDescriptor lib hubNow d) x).2.control.mark
        (.reachability identity.nodeId) = x.control.mark (.reachability identity.nodeId) := by
      rcases publishDescriptor_control lib hubNow d x with hsame | htaken
      · rw [hsame]
      · rw [htaken]
        exact (accept_effect lib x.control hubNow (.descriptor d)).1 _ (by intro h; cases h)
    rw [hmark]
    exact ⟨le_rfl,fun _ _ _ _ h => h⟩

/-- A record that is the cached one, or is not new to the Ahub, leaves it where the cached one
fits. -/
theorem kept_takeReachability (hw : w.Kept lib identity) (hub : ℕ) (hubNow : ℤ)
    {r : ReachabilityRecord} (hr : r.nodeId = identity.nodeId)
    (hold : ∀ x, w.hubs[hub]? = some x → w.node.cached = some r ∨
      r.sequence ≤ number (x.control.mark (.reachability identity.nodeId))) :
    (w.takeReachability lib hub hubNow r).Kept lib identity := by
  apply kept_hub hw hub
  · intro x rs _ _ _ hnear
    rcases publishReachability_control lib hubNow r x with hsame | ⟨d,htaken⟩
    · rw [hsame]
      exact hnear
    · have hsame := (accept_effect lib x.control hubNow (.reachability r d)).1
        (.descriptor identity.nodeId) (by intro h; cases h)
      rw [htaken,hsame]
      exact hnear
  · intro x taken hkept
    rcases publishReachability_control lib hubNow r x with hsame | ⟨d,htaken⟩
    · rw [hsame]
      exact ⟨taken,hkept⟩
    · rw [htaken]
      exact (accept_effect lib x.control hubNow (.reachability r d)).2.2 taken hkept
  · intro x hx
    have hstay : ∀ y : ControlPlaneStore,
        y.mark (.reachability identity.nodeId) = x.control.mark (.reachability identity.nodeId) →
        number (x.control.mark (.reachability identity.nodeId)) ≤
          number (y.mark (.reachability identity.nodeId)) ∧
        ∀ c place, w.node.cached = some c → recordRevision lib c = .ok place →
          Fits (x.control.mark (.reachability identity.nodeId)) place →
          Fits (y.mark (.reachability identity.nodeId)) place := by
      intro y hy
      rw [hy]
      exact ⟨le_rfl,fun _ _ _ _ h => h⟩
    rcases publishReachability_control lib hubNow r x with hsame | ⟨d,htaken⟩
    · exact hstay _ (congrArg (ControlPlaneStore.mark · _) hsame)
    · have hmark := (accept_effect lib x.control hubNow (.reachability r d)).2.1
      rw [ControlCall.chain,hr] at hmark
      rw [htaken]
      rcases hmark with hmark | ⟨place,hplace,hfollows,hmark⟩
      · exact hstay _ hmark
      · have hnumber := Follows.number hfollows
        have hsequence : place.sequence = r.sequence := (recordRevision_parts hplace).1
        have hcached : w.node.cached = some r := by
          rcases hold x hx with hcached | hle
          · exact hcached
          · omega
        rw [hmark]
        refine ⟨by rw [number_mark]; omega,?_⟩
        intro c place' hc hplace' hfits
        rw [hcached,Option.some.injEq] at hc
        subst hc
        obtain rfl := Except.ok.inj (hplace'.symm.trans hplace)
        exact Fits.taken hfits (.inr rfl)

/-- A new descriptor extends the chain, and every Ahub is then one behind or at its end. -/
theorem kept_issueDescriptor (hw : w.Kept lib identity) {now : ℤ}
    (hready : w.DescriptorReady lib identity now) {d : NodeDescriptor} {w' : PublicationWorld}
    (h : w.issueDescriptor lib identity now = .ok (d,w')) :
    w'.Kept lib identity ∧ w'.issued.getLast? = some d ∧ w'.hubs = w.hubs := by
  rcases issueDescriptor_cases hw h with ⟨rfl,hlast⟩ | ⟨hdue,-,hown,hverify,rfl,rs,r,hrs,hr,hnext⟩
  · exact ⟨hw,hlast,rfl⟩
  refine ⟨⟨?_,?_,?_,hw.stores,hw.recorded,hw.cached,hw.answered⟩,by simp,rfl⟩
  · simp
  · intro old hold
    rcases List.mem_append.mp hold with hold | hnew
    · exact hw.honest old hold
    · rw [List.mem_singleton.mp hnew]
      exact ⟨hown,hverify⟩
  · obtain ⟨rs',hrs',hchained,hplaces⟩ := hw.chain
    obtain rfl : rs = rs' :=
      List.map_injective_iff.mpr (fun _ _ => Except.ok.inj) (hrs.symm.trans hrs')
    refine ⟨rs ++ [r],by simp [hrs,hr],hchained.snoc hnext,?_⟩
    intro x hx
    have hnear := hplaces x hx
    have hnumber := hready hdue x hx
    rw [descriptorNumber_last hw] at hnumber
    rw [List.getLast?_concat]
    -- an Ahub that holds the last descriptor has its place right before the new one
    cases hlast : w.issued.getLast? with
    | none =>
      rw [List.getLast?_eq_none_iff.mp hlast] at hrs
      obtain rfl : rs = [] := by simpa using hrs.symm
      rw [hnear]
      exact .inr hnext
    | some last =>
      obtain ⟨revision,hend,hrevision⟩ := last_revision hrs hlast
      have hsequence := (descriptorRevision_parts hrevision).1
      rw [hlast,Option.map_some,Option.getD_some,← hsequence] at hnumber
      rw [hend] at hnear hnext
      rcases hnear with hnear | hnear
      · rw [hnear]
        exact .inr hnext
      · have := Follows.number hnear
        omega

/-- A new record comes behind the one that every Ahub and the checkpoint hold. -/
theorem kept_issueReachability (hw : w.Kept lib identity) {now : ℤ} {d : NodeDescriptor}
    (hready : w.RecordDue lib now d → ∀ x ∈ w.hubs,
      x.control.mark (.reachability identity.nodeId) = w.node.checkpoint)
    {r : ReachabilityRecord} {w' : PublicationWorld}
    (h : w.issueReachability lib identity now d = .ok (r,w')) :
    w'.Kept lib identity ∧ w'.node.cached = some r ∧ w'.hubs = w.hubs ∧
      w'.answered = w.answered := by
  rcases issueReachability_cases hw h with
    ⟨rfl,hcached⟩ | ⟨hdue,hown,hgenesis,rfl,place,hplace,hnext⟩
  · exact ⟨hw,hcached,rfl,rfl⟩
  have hsame := hready hdue
  refine ⟨⟨hw.file,hw.honest,hw.chain,hw.stores,?_,?_,?_⟩,rfl,rfl,rfl⟩
  · intro old hold
    dsimp only [added] at hold
    split_ifs at hold
    · exact hw.recorded old hold
    · rcases List.mem_append.mp hold with hold | hnew
      · exact hw.recorded old hold
      · rw [List.mem_singleton.mp hnew]
        exact hown
  · rintro c ⟨⟩
    refine ⟨?_,hgenesis,place,hplace,.inr hnext,?_⟩
    · dsimp only [added]
      split_ifs with hmem
      · exact hmem
      · simp
    · intro x hx
      rw [hsame x hx]
      exact .inr hnext
  · intro a ha
    obtain ⟨-,x,hx,hnumber⟩ := hw.answered a ha
    refine ⟨.inl ?_,x,hx,hnumber⟩
    rw [hsame x hx] at hnumber
    exact hnumber

/-- An Ahub that is new fits where nothing has been replaced yet. -/
theorem kept_addHub (hw : w.Kept lib identity) (hmeets : w.Meets lib identity .addHub) :
    (w.exec lib identity .addHub).Kept lib identity := by
  obtain ⟨hfirst,honly⟩ := hmeets
  rw [descriptorNumber_last hw] at hfirst
  refine ⟨hw.file,hw.honest,?_,?_,hw.recorded,?_,?_⟩
  · obtain ⟨rs,hrs,hchained,hplaces⟩ := hw.chain
    refine ⟨rs,hrs,hchained,?_⟩
    intro x hx
    rcases List.mem_append.mp hx with hx | hnew
    · exact hplaces x hx
    rw [List.mem_singleton.mp hnew]
    cases hend : rs.getLast? with
    | none => rfl
    | some r =>
      cases hlast : w.issued.getLast? with
      | none =>
        rw [List.getLast?_eq_none_iff.mp hlast] at hrs
        obtain rfl : rs = [] := by simpa using hrs.symm
        cases hend
      | some last =>
        obtain ⟨r',hend',hr'⟩ := last_revision hrs hlast
        obtain rfl := Option.some.inj (hend.symm.trans hend')
        have hsequence := (descriptorRevision_parts hr').1
        have hlength := hchained.last_sequence hend
        rw [hlast,Option.map_some,Option.getD_some] at hfirst
        cases rs with
        | nil => cases hend
        | cons first rest =>
          rw [List.length_cons] at hlength
          obtain rfl : rest = [] := List.length_eq_zero_iff.mp (by omega)
          obtain rfl : first = r := by simpa using hend
          exact .inr ⟨hchained.1,hchained.2.1⟩
  · intro x hx
    rcases List.mem_append.mp hx with hx | hnew
    · exact hw.stores x hx
    · rw [List.mem_singleton.mp hnew]
      exact ⟨[],ControlLedger.kept_initial⟩
  · intro c hc
    obtain ⟨hmem,hgenesis,r,hr,hfits,hplaces⟩ := hw.cached c hc
    refine ⟨hmem,hgenesis,r,hr,hfits,?_⟩
    intro x hx
    rcases List.mem_append.mp hx with hx | hnew
    · exact hplaces x hx
    · obtain ⟨hsequence,hprevious,-⟩ := recordRevision_parts hr
      have hone := honly c hc
      rw [List.mem_singleton.mp hnew]
      exact .inr ⟨hsequence.trans hone,hprevious.trans (hgenesis hone)⟩
  · intro a ha
    obtain ⟨hlocal,x,hx,hnumber⟩ := hw.answered a ha
    exact ⟨hlocal,x,List.mem_append_left _ hx,hnumber⟩

/-- The answer of an Ahub is about a record that Ahub holds. -/
theorem kept_answered {hub : ℕ} {hubNow : ℤ} {r : ReachabilityRecord}
    (hr : r.nodeId = identity.nodeId) (hcached : w.node.cached = some r)
    (hanswers : w.answers lib hub hubNow r)
    (htaken : (w.takeReachability lib hub hubNow r).Kept lib identity) :
    Kept lib identity
      { w.takeReachability lib hub hubNow r with answered := r :: w.answered } := by
  refine ⟨htaken.file,htaken.honest,htaken.chain,htaken.stores,htaken.recorded,htaken.cached,?_⟩
  intro a ha
  rcases List.mem_cons.mp ha with rfl | ha
  · refine ⟨.inr hcached,?_⟩
    obtain ⟨x,hx,hok⟩ : ∃ x, w.hubs[hub]? = some x ∧
        (x.publishReachability lib hubNow a).toBool := by
      unfold answers at hanswers
      cases hx : w.hubs[hub]? with
      | none => simp [hx] at hanswers
      | some x => exact ⟨x,rfl,by simpa [hx] using hanswers⟩
    rcases atomic_cases (PublicationHub.publishReachability lib hubNow a) x with
      ⟨changed,x',hpublish,hatomic⟩ | ⟨e,herror,-⟩
    · refine ⟨x',?_,?_⟩
      · refine List.mem_of_getElem? (i := hub) ?_
        simp [takeReachability,hx,hatomic]
      · rw [← hr,publishReachability_holds hpublish]
    · rw [herror] at hok
      cases hok
  · exact htaken.answered a ha

/-- The checkpoint moves to a record an Ahub has answered, which is then the cached one. -/
theorem kept_commit (hw : w.Kept lib identity) {r : ReachabilityRecord} (hr : r ∈ w.answered) :
    Kept lib identity
      { w with node := (atomic (Publisher.commitNodeReachability lib identity r) w.node).2 } := by
  rcases atomic_cases (Publisher.commitNodeReachability lib identity r) w.node with
    ⟨changed,node,hcommit,hatomic⟩ | ⟨e,-,hatomic⟩
  · rw [hatomic]
    have hsaved : node = w.node ∨ ∃ digest, r.digest lib = .ok digest ∧
        r.sequence = number w.node.checkpoint + 1 ∧
        node = { w.node with checkpoint := some (r.sequence,digest) } := by
      simp only [Publisher.commitNodeReachability,bind_ok,raiseIf_ok] at hcommit
      obtain ⟨_,-,hcommit⟩ := hcommit
      cases hcheckpoint : w.node.checkpoint with
      | none =>
        simp only [hcheckpoint,bind_ok,raiseIf_ok,not_or,not_not,Publisher.saveCheckpoint] at hcommit
        obtain ⟨_,⟨hone,-⟩,digest,hdigest,hval⟩ := hcommit
        cases hval
        exact .inr ⟨digest,hdigest,hone,rfl⟩
      | some held =>
        rw [hcheckpoint] at hcommit
        dsimp only at hcommit
        split_ifs at hcommit
        · cases hcommit
          exact .inl rfl
        · simp only [bind_ok] at hcommit
          obtain ⟨digest,-,_,-,hval⟩ := hcommit
          cases hval
          exact .inl rfl
        · simp only [bind_ok,raiseIf_ok,not_or,not_not,Publisher.saveCheckpoint] at hcommit
          obtain ⟨_,⟨hnext,-⟩,digest,hdigest,hval⟩ := hcommit
          cases hval
          exact .inr ⟨digest,hdigest,hnext,rfl⟩
    rcases hsaved with rfl | ⟨digest,hdigest,hnext,rfl⟩
    · exact hw
    have hcached : w.node.cached = some r := by
      rcases (hw.answered r hr).1 with hle | hcached
      · omega
      · exact hcached
    refine ⟨hw.file,hw.honest,hw.chain,hw.stores,hw.recorded,?_,?_⟩
    · intro c hc
      obtain ⟨hmem,hgenesis,place,hplace,-,hplaces⟩ := hw.cached c hc
      obtain rfl := Option.some.inj (hcached.symm.trans hc)
      refine ⟨hmem,hgenesis,place,hplace,.inl ?_,hplaces⟩
      obtain ⟨hsequence,-,hplaceDigest⟩ := recordRevision_parts hplace
      rw [Revision.mark,hsequence,Except.ok.inj (hdigest.symm.trans hplaceDigest)]
    · intro a ha
      obtain ⟨hlocal,hheld⟩ := hw.answered a ha
      refine ⟨hlocal.imp_left ?_,hheld⟩
      intro hle
      show a.sequence ≤ r.sequence
      omega
  · rw [hatomic]
    exact hw

theorem kept_publishReachability (hw : w.Kept lib identity) {hub descriptor : ℕ} {now hubNow : ℤ}
    {fate : Fate}
    (hmeets : w.Meets lib identity (.publishReachability hub now descriptor fate hubNow)) :
    (w.exec lib identity (.publishReachability hub now descriptor fate hubNow)).Kept
      lib identity := by
  cases hd : w.issued[descriptor]? with
  | none =>
    simp only [exec,hd]
    exact hw
  | some d =>
    cases hissue : w.issueReachability lib identity now d with
    | error e =>
      simp only [exec,hd,publishReachability,hissue]
      exact hw
    | ok issue =>
      obtain ⟨r,w'⟩ := issue
      obtain ⟨hkept,hcached,-,hanswered⟩ := kept_issueReachability hw (hmeets d hd) hissue
      have hown := hkept.recorded r (hkept.cached r hcached).1
      have htaken := kept_takeReachability hkept hub hubNow hown fun _ _ => .inl hcached
      simp only [exec,hd,publishReachability,hissue]
      split_ifs with hlost hback
      · exact hkept
      · rw [← hanswered]
        exact kept_answered hown hcached hback.2 htaken
      · exact htaken

theorem kept_step {w' : PublicationWorld} (hw : w.Kept lib identity)
    (h : w.MeetingStep lib identity w') : w'.Kept lib identity := by
  obtain ⟨a,hmeets,rfl⟩ := h
  cases a with
  | configure capabilities addresses =>
    exact ⟨hw.file,hw.honest,hw.chain,hw.stores,hw.recorded,hw.cached,hw.answered⟩
  | restart sessionId =>
    exact ⟨hw.file,hw.honest,hw.chain,hw.stores,hw.recorded,nofun,nofun⟩
  | addHub => exact kept_addHub hw hmeets
  | permit hub admitted => exact kept_permit hw hub admitted
  | other hub now call => exact kept_other hw hub now call
  | prepareDescriptor now =>
    cases hissue : w.issueDescriptor lib identity now with
    | error e =>
      simp only [exec,hissue]
      exact hw
    | ok issue =>
      simp only [exec,hissue]
      exact (kept_issueDescriptor hw hmeets hissue).1
  | publishDescriptor hub now arrives hubNow =>
    cases hissue : w.issueDescriptor lib identity now with
    | error e =>
      simp only [exec,hissue]
      exact hw
    | ok issue =>
      obtain ⟨hkept,hlast,-⟩ := kept_issueDescriptor hw hmeets hissue
      simp only [exec,hissue]
      split_ifs
      · exact kept_takeDescriptor hkept hub hubNow (List.mem_of_getLast? hlast)
      · exact hkept
  | publishReachability hub now descriptor fate hubNow => exact kept_publishReachability hw hmeets
  | commit answer =>
    cases hr : w.answered[answer]? with
    | none =>
      simp only [exec,hr]
      exact hw
    | some r =>
      simp only [exec,hr]
      exact kept_commit hw (List.mem_of_getElem? hr)
  | lateDescriptor hub descriptor hubNow =>
    cases hd : w.issued[descriptor]? with
    | none =>
      simp only [exec,hd]
      exact hw
    | some d =>
      simp only [exec,hd]
      exact kept_takeDescriptor hw hub hubNow (List.mem_of_getElem? hd)
  | lateReachability hub record hubNow =>
    cases hr : w.records[record]? with
    | none =>
      simp only [exec,hr]
      exact hw
    | some r =>
      simp only [exec,hr]
      exact kept_takeReachability hw hub hubNow (hw.recorded r (List.mem_of_getElem? hr))
        fun x hx => hmeets x r hx hr

theorem kept_reaches {capabilities addresses : List String} {sessionId : String}
    (h : Reaches (MeetingStep lib identity) (initial capabilities addresses sessionId) w) :
    w.Kept lib identity := by
  refine h.invariant (I := fun v => v.Kept lib identity) (fun _ _ hv hstep => kept_step hv hstep) ?_
  have hnone {α : Type} {P : α → Prop} : ∀ a ∈ ([] : List α), P a :=
    fun _ ha => absurd ha List.not_mem_nil
  refine ⟨rfl,hnone,⟨[],rfl,trivial,hnone⟩,hnone,hnone,fun c hc => ?_,hnone⟩
  cases hc

/-- An Ahub that is one behind, or at the end, takes the last descriptor. -/
theorem publishDescriptor_accepted (hw : w.Kept lib identity) {x : PublicationHub}
    (hx : x ∈ w.hubs) (hadmitted : x.admitted) {d : NodeDescriptor}
    (hd : w.issued.getLast? = some d) {hubNow : ℤ} (hverify : d.verify lib hubNow = .ok ()) :
    ∃ changed x', x.publishDescriptor lib hubNow d = .ok (changed,x') := by
  obtain ⟨rs,hrs,-,hplaces⟩ := hw.chain
  obtain ⟨r,hend,hr⟩ := last_revision hrs hd
  obtain ⟨digest,hdigest,hrevision⟩ := descriptorRevision_ok hverify
  obtain rfl := Except.ok.inj (hr.symm.trans hrevision)
  have hnear := hplaces x hx
  rw [hend,← (hw.honest d (List.mem_of_getLast? hd)).1] at hnear
  obtain ⟨changed,s',haccept⟩ := ControlPlaneStore.acceptDescriptor_fits hverify hdigest hnear
  refine ⟨changed,{ x with control := s' },?_⟩
  simp only [PublicationHub.publishDescriptor,bind_ok]
  exact ⟨(),by simp [hadmitted],(changed,s'),haccept,rfl⟩

theorem publishReachability_accepted (hw : w.Kept lib identity) {x : PublicationHub}
    (hx : x ∈ w.hubs) (hadmitted : x.admitted) {r : ReachabilityRecord} {d : NodeDescriptor}
    (hr : w.node.cached = some r) {hubNow : ℤ}
    (hcurrent : x.control.currentDescriptor lib identity.nodeId hubNow = .ok (some d))
    (hverify : r.verify lib d hubNow = .ok ()) :
    ∃ changed x', x.publishReachability lib hubNow r = .ok (changed,x') := by
  obtain ⟨hmem,-,place,hplace,-,hplaces⟩ := hw.cached r hr
  have hown := hw.recorded r hmem
  have hfits := hplaces x hx
  obtain ⟨-,digest,hdigest,hrevision⟩ := recordRevision_ok hverify
  obtain rfl := Except.ok.inj (hplace.symm.trans hrevision)
  obtain ⟨taken,htaken⟩ := hw.stores x hx
  have hbound : x.control.requireCurrentDescriptor lib d = .ok () := by
    obtain ⟨hlast,-⟩ := (ControlLedger.currentDescriptor_some htaken).mp hcurrent
    cases hrow : x.control.descriptors.get identity.nodeId with
    | none =>
      rw [ControlPlaneStore.currentDescriptor,hrow] at hcurrent
      simp only [bind_ok] at hcurrent
      obtain ⟨_,-,hval⟩ := hcurrent
      cases hval
    | some row =>
      obtain ⟨d',hlast',hid,-,hsame,-⟩ := ControlLedger.latest_descriptor htaken hrow
      obtain rfl : d' = d :=
        (ControlCall.descriptor.inj (Option.some.inj (hlast.symm.trans hlast'))).symm
      rw [ControlPlaneStore.requireCurrentDescriptor_ok]
      exact ⟨row,by rw [hid]; exact hrow,hsame⟩
  rw [← hown] at hfits hcurrent
  obtain ⟨changed,s',haccept⟩ :=
    ControlPlaneStore.acceptReachability_fits hverify hbound hdigest hfits
  refine ⟨changed,{ x with control := s' },?_⟩
  simp only [PublicationHub.publishReachability,bind_ok]
  exact ⟨(),by simp [hadmitted],some d,hcurrent,d,rfl,(changed,s'),haccept,rfl⟩

end Keeping

section Sample

def publicationNode : SigningIdentity := plainIdentity 1

def publicationSession (c : Char) : String := String.ofList (List.replicate 32 c)

def publicationStart : PublicationWorld := initial ["agent"] [] (publicationSession 'a')

/-- What the Ahub answers to a publication that verifies there, where that is an error. -/
def refusal (lib : ControlLibrary) (identity : SigningIdentity) (w : PublicationWorld) :
    PublicationAction → Option PyError
  | .publishDescriptor hub now _ hubNow =>
    match w.hubs[hub]?,w.issueDescriptor lib identity now with
    | some x,.ok (d,_) =>
      if x.admitted ∧ (d.verify lib hubNow).toBool then
        match x.publishDescriptor lib hubNow d with
        | .error e => some e
        | .ok _ => none
      else none
    | _,_ => none
  | .publishReachability hub now descriptor _ hubNow =>
    match w.hubs[hub]?,w.issued[descriptor]? with
    | some x,some d =>
      match w.issueReachability lib identity now d,
        x.control.currentDescriptor lib identity.nodeId hubNow with
      | .ok (r,_),.ok (some d') =>
        if x.admitted ∧ (r.verify lib d' hubNow).toBool then
          match x.publishReachability lib hubNow r with
          | .error e => some e
          | .ok _ => none
        else none
      | _,_ => none
    | _,_ => none
  | _ => none

theorem verified_of_toBool {r : Result Unit} (h : r.toBool) : r = .ok () := by
  cases r with
  | ok u => rfl
  | error e => cases h

theorem refusal_not_accepted {lib : ControlLibrary} {identity : SigningIdentity}
    {w : PublicationWorld} {a : PublicationAction} (h : (refusal lib identity w a).isSome) :
    ¬ w.Accepted lib identity a := by
  intro haccepted
  cases a with
  | publishDescriptor hub now arrives hubNow =>
    simp only [refusal] at h
    split at h
    · rename_i x d w' hx hissue
      split_ifs at h with hready
      · obtain ⟨changed,x',hok⟩ :=
          haccepted x d w' hx hissue hready.1 (verified_of_toBool hready.2)
        simp [hok] at h
      · cases h
    · cases h
  | publishReachability hub now descriptor fate hubNow =>
    simp only [refusal] at h
    split at h
    · rename_i x d hx hd
      split at h
      · rename_i r w' d' hissue hcurrent
        split_ifs at h with hready
        · obtain ⟨changed,x',hok⟩ := haccepted x d d' r w' hx hd hissue hready.1 hcurrent
            (verified_of_toBool hready.2)
          simp [hok] at h
        · cases h
      · cases h
    · cases h
  | _ => cases h

def publicationDescriptor : NodeDescriptor :=
  let unsigned : NodeDescriptor := ⟨publicationNode.nodeId,plainKey 1,plainKey 1,"node",["agent"],1,
    genesisDigest,1000,1000 + descriptorTtlMs,[],2,"anet.node-descriptor.v2"⟩
  { unsigned with signature := publicationNode.sign (plainMessage unsigned.signingFields) }

/-- The Ahub has the record, but its answer is lost and the node restarts. -/
def lostAnswer : List PublicationAction :=
  [.addHub,.permit 0 true,.publishDescriptor 0 1000 true 1000,
    .publishReachability 0 1000 0 .unanswered 1000,.restart (publicationSession 'b')]

/-- An Ahub is added after the first descriptor, and the next one is due. -/
def addedLater : List PublicationAction :=
  [.prepareDescriptor 1000,.addHub,.permit 0 true,.configure ["agent","files"] []]

def runAll (actions : List PublicationAction) : PublicationWorld :=
  actions.foldl (exec plainControl publicationNode) publicationStart

theorem runAll_runs (actions : List PublicationAction) :
    Reaches (PublicationStep plainControl publicationNode) publicationStart (runAll actions) :=
  Reaches.of_steps (fun _ a => ⟨a,rfl⟩) actions _

end Sample

/-- In every run in which a revision is replaced only once every Ahub has it, the next
descriptor and the next record are accepted by every Ahub they are for. -/
theorem publications_accepted (lib : ControlLibrary) (identity : SigningIdentity)
    (capabilities addresses : List String) (sessionId : String) (w : PublicationWorld)
    (hrun : Reaches (MeetingStep lib identity) (initial capabilities addresses sessionId) w)
    (a : PublicationAction) (hmeets : w.Meets lib identity a) : w.Accepted lib identity a := by
  have hkept := kept_reaches hrun
  cases a with
  | publishDescriptor hub now arrives hubNow =>
    intro x d w' hx hissue hadmitted hverify
    obtain ⟨hkept',hlast,hhubs⟩ := kept_issueDescriptor hkept hmeets hissue
    have hmem : x ∈ w'.hubs := by
      rw [hhubs]
      exact List.mem_of_getElem? hx
    exact publishDescriptor_accepted hkept' hmem hadmitted hlast hverify
  | publishReachability hub now descriptor fate hubNow =>
    intro x d d' r w' hx hd hissue hadmitted hcurrent hverify
    obtain ⟨hkept',hcached,hhubs,-⟩ := kept_issueReachability hkept (hmeets d hd) hissue
    have hmem : x ∈ w'.hubs := by
      rw [hhubs]
      exact List.mem_of_getElem? hx
    exact publishReachability_accepted hkept' hmem hadmitted hcached hcurrent hverify
  | _ => trivial

theorem publications_accepted_sample :
    (∃ changed x', PublicationHub.publishDescriptor plainControl 1000 publicationDescriptor
      ⟨.empty,true⟩ = .ok (changed,x')) := by
  have hissue : ∃ w', (runAll [.addHub,.permit 0 true]).issueDescriptor plainControl
      publicationNode 1000 = .ok (publicationDescriptor,w') := by
    have hfirst : ((runAll [.addHub,.permit 0 true]).issueDescriptor plainControl
        publicationNode 1000).toOption.map Prod.fst = some publicationDescriptor := by
      decide +kernel
    obtain ⟨⟨d,w'⟩,hok,rfl⟩ := Option.map_eq_some_iff.mp hfirst
    exact ⟨w',toOption_eq_some.mp hok⟩
  obtain ⟨w',hissue⟩ := hissue
  have hempty : (runAll [.addHub,.permit 0 true]).hubs = [⟨.empty,true⟩] := rfl
  have hready : (runAll [.addHub,.permit 0 true]).DescriptorReady plainControl publicationNode
      1000 := by
    intro _ x hx
    rw [hempty,List.mem_singleton] at hx
    rw [hx]
    rfl
  have hrun : Reaches (MeetingStep plainControl publicationNode) publicationStart
      (runAll [.addHub,.permit 0 true]) := by
    have hgood : Reaches.Good (Meets plainControl publicationNode)
        (exec plainControl publicationNode) [.addHub,.permit 0 true] publicationStart :=
      ⟨⟨by decide,nofun⟩,trivial,trivial⟩
    exact Reaches.of_calls (fun _ a ha => ⟨a,ha,rfl⟩) _ _ hgood
  have hverify : publicationDescriptor.verify plainControl 1000 = .ok () :=
    verified_of_toBool (by decide +kernel)
  exact publications_accepted plainControl publicationNode ["agent"] [] (publicationSession 'a')
    (runAll [.addHub,.permit 0 true]) hrun (.publishDescriptor 0 1000 true 1000) hready
    ⟨.empty,true⟩ publicationDescriptor w' rfl hissue rfl hverify

/-- A record whose answer is lost before a restart is forked, and an Ahub that is added late
gets a first descriptor that is not the genesis. -/
theorem publication_wedges :
    (∃ w, Reaches (PublicationStep plainControl publicationNode) publicationStart w ∧
      refusal plainControl publicationNode w (.publishReachability 0 2000 0 .answered 2000) =
        some (.value "revision fork at the current sequence") ∧
      ¬ w.Accepted plainControl publicationNode (.publishReachability 0 2000 0 .answered 2000)) ∧
    ∃ w, Reaches (PublicationStep plainControl publicationNode) publicationStart w ∧
      refusal plainControl publicationNode w (.publishDescriptor 0 2000 true 2000) =
        some (.value "revision chain must start at genesis") ∧
      ¬ w.Accepted plainControl publicationNode (.publishDescriptor 0 2000 true 2000) := by
  have hfork : refusal plainControl publicationNode (runAll lostAnswer)
      (.publishReachability 0 2000 0 .answered 2000) =
        some (.value "revision fork at the current sequence") := by decide +kernel
  have hfirst : refusal plainControl publicationNode (runAll addedLater)
      (.publishDescriptor 0 2000 true 2000) =
        some (.value "revision chain must start at genesis") := by decide +kernel
  exact ⟨⟨_,runAll_runs lostAnswer,hfork,refusal_not_accepted (by rw [hfork]; rfl)⟩,
    _,runAll_runs addedLater,hfirst,refusal_not_accepted (by rw [hfirst]; rfl)⟩

end PublicationWorld
end Anet
