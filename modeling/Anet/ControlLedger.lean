import Anet.ControlRefinement
import Anet.Sessions

/-! The chains a control-plane store has taken along a run. The store holds the last object
of a key only; what it took before is the history of the run. -/
namespace Anet

open ControlPlane

/-- The keys of the chains; grants and revocations share one. -/
inductive ChainKey
  | descriptor (nodeId : String)
  | reachability (nodeId : String)
  | device (humanId deviceNodeId : String)
  deriving DecidableEq

/-- What the store holds of the last object of a chain. -/
structure StoredRevision where
  checkpoint : Checkpoint
  objectJson : Value
  descriptorDigest : Bytes
  eventType : Option HumanEvent

namespace ControlCall

variable (lib : ControlLibrary)

def chain : ControlCall → ChainKey
  | .descriptor d => .descriptor d.nodeId
  | .reachability r _ => .reachability r.nodeId
  | .grant g _ => .device g.humanId g.deviceNodeId
  | .revocation v _ => .device v.humanId v.deviceNodeId

def sequence : ControlCall → ℤ
  | .descriptor d => d.sequence
  | .reachability r _ => r.sequence
  | .grant g _ => g.sequence
  | .revocation v _ => v.sequence

def previousDigest : ControlCall → Bytes
  | .descriptor d => d.previousDigest
  | .reachability r _ => r.previousDigest
  | .grant g _ => g.previousDigest
  | .revocation v _ => v.previousDigest

def digest : ControlCall → Result Bytes
  | .descriptor d => d.digest lib
  | .reachability r _ => r.digest lib
  | .grant g _ => g.digest lib
  | .revocation v _ => v.digest lib

def toDict : ControlCall → Value
  | .descriptor d => d.toDict
  | .reachability r _ => r.toDict
  | .grant g _ => g.toDict
  | .revocation v _ => v.toDict

def descriptorDigest : ControlCall → Bytes
  | .descriptor _ => []
  | .reachability r _ => r.descriptorDigest
  | .grant g _ => g.descriptorDigest
  | .revocation v _ => v.descriptorDigest

def eventType : ControlCall → Option HumanEvent
  | .grant _ _ => some .grant
  | .revocation _ _ => some .revocation
  | _ => none

def verify (now : ℤ) : ControlCall → Result Unit
  | .descriptor d => d.verify lib now
  | .reachability r d => r.verify lib d now
  | .grant g d => g.verify lib d now
  | .revocation v d => v.verify lib d now

def terminal (call : ControlCall) : Bool := call.eventType = some .revocation

/-- What the store holds once the object is its last one. -/
def stored (call : ControlCall) (digest : Bytes) : StoredRevision :=
  ⟨⟨call.sequence,digest,call.terminal⟩,call.toDict,call.descriptorDigest,call.eventType⟩

/-- The place of an object in its chain. -/
def revision (call : ControlCall) : Result (Revision Bytes) :=
  (call.digest lib).map fun digest => ⟨call.sequence,call.previousDigest,digest⟩

end ControlCall

namespace ControlPlaneStore

/-- The last revision of each chain. -/
def last (s : ControlPlaneStore) : ChainKey → Option StoredRevision
  | .descriptor n => (s.descriptors.get n).map fun r => ⟨r.checkpoint,r.objectJson,[],none⟩
  | .reachability n => (s.reachability.get n).map fun r =>
      ⟨r.checkpoint,r.objectJson,r.descriptorDigest,none⟩
  | .device h n => (s.humanDevices.get (h,n)).map fun r =>
      ⟨r.checkpoint,r.objectJson,r.descriptorDigest,some r.eventType⟩

def mark (s : ControlPlaneStore) (k : ChainKey) : Option (ℤ × Bytes) :=
  (s.last k).map fun v => (v.checkpoint.sequence,v.checkpoint.digest)

end ControlPlaneStore

structure ControlLedger where
  store : ControlPlaneStore
  taken : List ControlCall

namespace ControlLedger

variable (lib : ControlLibrary)

def initial : ControlLedger := ⟨.empty,[]⟩

/-- One operation at one clock; an object that changes the store is added to what it took. -/
def exec (w : ControlLedger) (c : ℤ × ControlCall) : ControlLedger :=
  match atomic (ControlPlaneStore.accept lib c.1 c.2) w.store with
  | (.ok true,s) => ⟨s,w.taken ++ [c.2]⟩
  | (_,s) => ⟨s,w.taken⟩

def LedgerStep (w w' : ControlLedger) : Prop := ∃ c, w' = w.exec lib c

/-- What the store took under a key, oldest first. -/
def history (w : ControlLedger) (k : ChainKey) : List ControlCall :=
  w.taken.filter fun call => call.chain = k

end ControlLedger

section Checks

variable {current : Option Checkpoint} {sequence : ℤ} {previousDigest digest : Bytes}
  {forbid : Bool}

namespace ControlPlaneStore

theorem checkRevision_next (h : checkRevision current sequence previousDigest digest forbid = .ok true) :
    Follows genesisDigest (current.map fun c => (c.sequence,c.digest))
      ⟨sequence,previousDigest,digest⟩ ∧ (forbid → ∀ c, current = some c → c.terminal = false) := by
  unfold checkRevision at h
  cases current with
  | none =>
    simp only [bind_ok,raiseIf_ok,not_or,not_not] at h
    obtain ⟨_,hgenesis,-⟩ := h
    exact ⟨hgenesis,by simp⟩
  | some c =>
    by_cases hsame : sequence = c.sequence
    · simp only [if_pos hsame,bind_ok,raiseIf_ok] at h
      obtain ⟨_,-,hfalse⟩ := h
      cases hfalse
    · simp only [if_neg hsame,bind_ok,raiseIf_ok,not_not] at h
      obtain ⟨_,-,_,hterminal,_,hnext,_,hlink,-⟩ := h
      refine ⟨⟨hnext,hlink⟩,?_⟩
      rintro hforbid _ ⟨⟩
      simpa [hforbid] using hterminal

theorem checkRevision_again (h : checkRevision current sequence previousDigest digest forbid = .ok false) :
    ∃ c, current = some c ∧ sequence = c.sequence ∧ digest = c.digest := by
  unfold checkRevision at h
  cases current with
  | none =>
    simp only [bind_ok,raiseIf_ok] at h
    obtain ⟨_,-,hfalse⟩ := h
    cases hfalse
  | some c =>
    by_cases hsame : sequence = c.sequence
    · simp only [if_pos hsame,bind_ok,raiseIf_ok,not_not] at h
      obtain ⟨_,hdigest,-⟩ := h
      exact ⟨c,rfl,hsame,hdigest⟩
    · simp only [if_neg hsame,bind_ok,raiseIf_ok] at h
      obtain ⟨_,-,_,-,_,-,_,-,hfalse⟩ := h
      cases hfalse

end ControlPlaneStore

end Checks

section Accepts

variable {lib : ControlLibrary} {s s' : ControlPlaneStore} {now : ℤ} {changed : Bool}

/-- What an operation that does not raise has checked and done. -/
structure Taken (lib : ControlLibrary) (now : ℤ) (call : ControlCall) (s : ControlPlaneStore)
    (changed : Bool) (s' : ControlPlaneStore) (digest : Bytes) : Prop where
  hashed : call.digest lib = .ok digest
  verified : call.verify lib now = .ok ()
  again : changed = false → s' = s ∧ s.mark call.chain = some (call.sequence,digest)
  next : changed = true →
    Follows genesisDigest (s.mark call.chain) ⟨call.sequence,call.previousDigest,digest⟩ ∧
      (∀ v, s.last call.chain = some v → call.eventType ≠ none → v.checkpoint.terminal = false) ∧
      (call.terminal → s.last call.chain ≠ none) ∧
      ∀ k, s'.last k = if k = call.chain then some (call.stored digest) else s.last k

namespace ControlPlaneStore

theorem mark_descriptor (n : String) : s.mark (.descriptor n) =
    ((s.descriptors.get n).map DescriptorRow.checkpoint).map fun c => (c.sequence,c.digest) := by
  simp only [mark,last,Option.map_map]
  rfl

theorem mark_reachability (n : String) : s.mark (.reachability n) =
    ((s.reachability.get n).map ReachabilityRow.checkpoint).map
      fun c => (c.sequence,c.digest) := by
  simp only [mark,last,Option.map_map]
  rfl

theorem mark_device (h n : String) : s.mark (.device h n) =
    ((s.humanDevices.get (h,n)).map HumanDeviceRow.checkpoint).map
      fun c => (c.sequence,c.digest) := by
  simp only [mark,last,Option.map_map]
  rfl

theorem acceptDescriptor_taken {d : NodeDescriptor}
    (h : s.acceptDescriptor lib now d = .ok (changed,s')) :
    ∃ digest, Taken lib now (.descriptor d) s changed s' digest := by
  simp only [acceptDescriptor,bind_ok] at h
  obtain ⟨_,hverify,digest,hdigest,answer,hcheck,h⟩ := h
  refine ⟨digest,?_⟩
  cases answer with
  | false =>
    cases h
    obtain ⟨c,hc,hsequence,hsame⟩ := checkRevision_again hcheck
    refine ⟨hdigest,hverify,fun _ => ⟨rfl,?_⟩,(by intro h; cases h)⟩
    rw [ControlCall.chain,mark_descriptor,hc,hsame]
    exact congrArg (fun n => some (n,c.digest)) hsequence.symm
  | true =>
    simp only [if_true,bind_ok] at h
    obtain ⟨_,-,rows,hput,hval⟩ := h
    cases hval
    obtain ⟨hnext,-⟩ := checkRevision_next hcheck
    refine ⟨hdigest,hverify,(by intro h; cases h),fun _ => ⟨?_,fun _ _ hevent => absurd rfl hevent,(by intro h; cases h),?_⟩⟩
    · rw [ControlCall.chain,mark_descriptor]
      exact hnext
    · intro k
      have hget := putRow_get hput
      cases k with
      | descriptor n =>
        by_cases hn : n = d.nodeId
        · subst hn
          cases hold : s.descriptors.get d.nodeId <;>
            simp [last,hget,ControlCall.chain,ControlCall.stored,DescriptorRow.checkpoint,hold,
              ControlCall.sequence,ControlCall.terminal,ControlCall.toDict,ControlCall.eventType,
              ControlCall.descriptorDigest]
        · simp [last,hget,ControlCall.chain,hn]
      | reachability n => simp [last,ControlCall.chain]
      | device h n => simp [last,ControlCall.chain]

theorem acceptReachability_taken {r : ReachabilityRecord} {d : NodeDescriptor}
    (h : s.acceptReachability lib now r d = .ok (changed,s')) :
    ∃ digest, Taken lib now (.reachability r d) s changed s' digest := by
  simp only [acceptReachability,bind_ok] at h
  obtain ⟨_,hverify,_,-,digest,hdigest,answer,hcheck,h⟩ := h
  refine ⟨digest,?_⟩
  cases answer with
  | false =>
    cases h
    obtain ⟨c,hc,hsequence,hsame⟩ := checkRevision_again hcheck
    refine ⟨hdigest,hverify,fun _ => ⟨rfl,?_⟩,(by intro h; cases h)⟩
    rw [ControlCall.chain,mark_reachability,hc,hsame]
    exact congrArg (fun n => some (n,c.digest)) hsequence.symm
  | true =>
    simp only [if_true,bind_ok] at h
    obtain ⟨_,-,_,-,rows,hput,hval⟩ := h
    cases hval
    obtain ⟨hnext,-⟩ := checkRevision_next hcheck
    refine ⟨hdigest,hverify,(by intro h; cases h),fun _ => ⟨?_,fun _ _ hevent => absurd rfl hevent,(by intro h; cases h),?_⟩⟩
    · rw [ControlCall.chain,mark_reachability]
      exact hnext
    · intro k
      have hget := putRow_get hput
      cases k with
      | descriptor n => simp [last,ControlCall.chain]
      | reachability n =>
        by_cases hn : n = r.nodeId
        · subst hn
          cases hold : s.reachability.get r.nodeId <;>
            simp [last,hget,ControlCall.chain,ControlCall.stored,ReachabilityRow.checkpoint,hold,
              ControlCall.sequence,ControlCall.terminal,ControlCall.toDict,ControlCall.eventType,
              ControlCall.descriptorDigest]
        · simp [last,hget,ControlCall.chain,hn]
      | device h n => simp [last,ControlCall.chain]

/-- No event follows the revocation of a device. -/
theorem open_device {h n : String} {forbid : Bool} (hf : forbid = true)
    (hterminal : forbid → ∀ c, (s.humanDevices.get (h,n)).map HumanDeviceRow.checkpoint = some c →
      c.terminal = false) {v : StoredRevision} (hv : s.last (.device h n) = some v) :
    v.checkpoint.terminal = false := by
  obtain ⟨row,hrow,rfl⟩ := Option.map_eq_some_iff.mp hv
  exact hterminal hf _ (congrArg (Option.map HumanDeviceRow.checkpoint) hrow)

theorem acceptHumanGrant_taken {g : HumanDeviceGrant} {d : NodeDescriptor}
    (h : s.acceptHumanGrant lib now g d = .ok (changed,s')) :
    ∃ digest, Taken lib now (.grant g d) s changed s' digest := by
  simp only [acceptHumanGrant,bind_ok] at h
  obtain ⟨_,hverify,_,-,digest,hdigest,answer,hcheck,h⟩ := h
  refine ⟨digest,?_⟩
  cases answer with
  | false =>
    cases h
    obtain ⟨c,hc,hsequence,hsame⟩ := checkRevision_again hcheck
    refine ⟨hdigest,hverify,fun _ => ⟨rfl,?_⟩,(by intro h; cases h)⟩
    rw [ControlCall.chain,mark_device,hc,hsame]
    exact congrArg (fun n => some (n,c.digest)) hsequence.symm
  | true =>
    simp only [if_true,bind_ok] at h
    obtain ⟨_,-,_,-,rows,hput,hval⟩ := h
    cases hval
    obtain ⟨hnext,hterminal⟩ := checkRevision_next hcheck
    refine ⟨hdigest,hverify,(by intro h; cases h),fun _ => ⟨?_,fun v hv _ => open_device rfl hterminal hv,(by intro h; cases h),?_⟩⟩
    · rw [ControlCall.chain,mark_device]
      exact hnext
    · intro k
      have hget := putRow_get hput
      cases k with
      | descriptor n => simp [last,ControlCall.chain]
      | reachability n => simp [last,ControlCall.chain]
      | device h n =>
        by_cases hn : h = g.humanId ∧ n = g.deviceNodeId
        · obtain ⟨rfl,rfl⟩ := hn
          cases hold : s.humanDevices.get (g.humanId,g.deviceNodeId) <;>
            simp [last,hget,ControlCall.chain,ControlCall.stored,HumanDeviceRow.checkpoint,hold,
              ControlCall.sequence,ControlCall.terminal,ControlCall.toDict,ControlCall.eventType,
              ControlCall.descriptorDigest,HumanDeviceRow.key]
        · simp [last,hget,ControlCall.chain,hn,HumanDeviceRow.key]

theorem acceptHumanRevocation_taken {v : HumanDeviceRevocation} {d : NodeDescriptor}
    (h : s.acceptHumanRevocation lib now v d = .ok (changed,s')) :
    ∃ digest, Taken lib now (.revocation v d) s changed s' digest := by
  simp only [acceptHumanRevocation,bind_ok,fetched_ok] at h
  obtain ⟨_,hverify,_,-,current,hcurrent,digest,hdigest,answer,hcheck,h⟩ := h
  have hrow : (s.humanDevices.get (v.humanId,v.deviceNodeId)).map HumanDeviceRow.checkpoint =
      some current.checkpoint := congrArg (Option.map HumanDeviceRow.checkpoint) hcurrent
  refine ⟨digest,?_⟩
  cases answer with
  | false =>
    cases h
    obtain ⟨c,hc,hsequence,hsame⟩ := checkRevision_again hcheck
    refine ⟨hdigest,hverify,fun _ => ⟨rfl,?_⟩,(by intro h; cases h)⟩
    rw [ControlCall.chain,mark_device,hrow,hc,hsame]
    exact congrArg (fun n => some (n,c.digest)) hsequence.symm
  | true =>
    simp only [if_true,bind_ok] at h
    obtain ⟨_,-,hval⟩ := h
    cases hval
    obtain ⟨hnext,hterminal⟩ := checkRevision_next hcheck
    rw [← hrow] at hnext hterminal
    refine ⟨hdigest,hverify,(by intro h; cases h),fun _ => ⟨?_,fun v hv _ => open_device rfl hterminal hv,?_,?_⟩⟩
    · rw [ControlCall.chain,mark_device]
      exact hnext
    · intro _
      simp [last,ControlCall.chain,hcurrent]
    · intro k
      have hget (k : String × String) := Table.get_update_key s.humanDevices
        (v.humanId,v.deviceNodeId) (.revoked v digest) (fun _ => rfl)
        (fun _ => List.Subset.refl _) k
      cases k with
      | descriptor n => simp [last,ControlCall.chain]
      | reachability n => simp [last,ControlCall.chain]
      | device h n =>
        refine (congrArg (Option.map fun r : HumanDeviceRow => (⟨r.checkpoint,r.objectJson,
          r.descriptorDigest,some r.eventType⟩ : StoredRevision)) (hget (h,n))).trans ?_
        by_cases hn : h = v.humanId ∧ n = v.deviceNodeId
        · obtain ⟨rfl,rfl⟩ := hn
          simp [ControlCall.chain,ControlCall.stored,HumanDeviceRow.checkpoint,hcurrent,
            ControlCall.sequence,ControlCall.terminal,ControlCall.toDict,ControlCall.eventType,
            ControlCall.descriptorDigest,HumanDeviceRow.revoked]
        · simp [last,ControlCall.chain,hn]

theorem accept_taken {call : ControlCall} (h : s.accept lib now call = .ok (changed,s')) :
    ∃ digest, Taken lib now call s changed s' digest := by
  cases call with
  | descriptor d => exact acceptDescriptor_taken h
  | reachability r d => exact acceptReachability_taken h
  | grant g d => exact acceptHumanGrant_taken h
  | revocation v d => exact acceptHumanRevocation_taken h

end ControlPlaneStore
end Accepts

namespace ControlLedger

variable {lib : ControlLibrary} {w : ControlLedger}

/-- The chains are whole: from its first revision on each names the one before it, the store
holds the last, and a revocation is the last of its device. -/
structure Intact (lib : ControlLibrary) (w : ControlLedger) : Prop where
  chained : ∀ k, ∃ rs, (w.history k).map (ControlCall.revision lib) = rs.map .ok ∧
    Chained genesisDigest 1 rs ∧ w.store.mark k = rs.getLast?.map Revision.mark
  ended : ∀ k (i : ℕ) call, (w.history k)[i]? = some call → call.terminal →
    i + 1 = (w.history k).length

/-- The store holds just the last object of a chain. -/
def Latest (lib : ControlLibrary) (s : ControlPlaneStore) (k : ChainKey)
    (history : List ControlCall) : Prop :=
  match history.getLast? with
  | none => s.last k = none
  | some call => ∃ digest, call.digest lib = .ok digest ∧ s.last k = some (call.stored digest)

structure Kept (lib : ControlLibrary) (w : ControlLedger) : Prop extends Intact lib w where
  latest : ∀ k, Latest lib w.store k (w.history k)
  verified : ∀ call ∈ w.taken, ∃ now, call.verify lib now = .ok ()

theorem history_snoc (s : ControlPlaneStore) (call : ControlCall) (k : ChainKey) :
    history ⟨s,w.taken ++ [call]⟩ k =
      w.history k ++ if call.chain = k then [call] else [] := by
  simp only [history,List.filter_append,List.filter_singleton]
  by_cases hk : call.chain = k <;> simp [hk]

theorem history_chain {k : ChainKey} {call : ControlCall} (h : call ∈ w.history k) :
    call ∈ w.taken ∧ call.chain = k := by
  rw [history,List.mem_filter] at h
  exact ⟨h.1,of_decide_eq_true h.2⟩

/-- Terminal events belong to devices, whose calls all have an event type. -/
theorem eventType_of_chain {call call' : ControlCall} (h : call'.chain = call.chain)
    (ht : call.terminal) : call'.eventType ≠ none := by
  cases call <;> cases call' <;> simp_all [ControlCall.chain,ControlCall.terminal,
    ControlCall.eventType]

theorem kept_initial : Kept lib .initial := by
  refine ⟨⟨fun k => ⟨[],rfl,trivial,?_⟩,?_⟩,?_,?_⟩
  · cases k <;> rfl
  · intro k i call hi
    simp [history,initial] at hi
  · intro k
    cases k <;> rfl
  · simp [initial]

/-- An object that changes the store extends its own chain. -/
theorem kept_taken (hw : w.Kept lib) {now : ℤ} {call : ControlCall} {s' : ControlPlaneStore}
    {digest : Bytes} (ht : Taken lib now call w.store true s' digest) :
    Kept lib ⟨s',w.taken ++ [call]⟩ := by
  obtain ⟨hfollows,hopen,-,hlast⟩ := ht.next rfl
  refine ⟨⟨?_,?_⟩,?_,?_⟩
  · intro k
    obtain ⟨rs,hrs,hchained,hmark⟩ := hw.chained k
    rw [history_snoc]
    by_cases hk : call.chain = k
    · subst hk
      rw [hmark] at hfollows
      refine ⟨rs ++ [⟨call.sequence,call.previousDigest,digest⟩],?_,hchained.snoc hfollows,?_⟩
      · simp [hrs,ControlCall.revision,ht.hashed,Except.map]
      · simp [ControlPlaneStore.mark,hlast,ControlCall.stored,Revision.mark]
    · refine ⟨rs,?_,hchained,?_⟩
      · simpa [hk] using hrs
      · rw [← hmark,ControlPlaneStore.mark,hlast,if_neg (Ne.symm hk)]
        rfl
  · intro k i old hi hterminal
    rw [history_snoc] at hi ⊢
    by_cases hk : call.chain = k
    · subst hk
      rw [if_pos rfl] at hi ⊢
      rcases getElem?_snoc hi with hi | ⟨hi,-⟩
      · exfalso
        have hplace := hw.ended _ i old hi hterminal
        have hlatest := hw.latest call.chain
        have hend : (w.history call.chain).getLast? = some old := by
          rw [List.getLast?_eq_getElem?,← hi]
          congr 1
          omega
        rw [Latest,hend] at hlatest
        obtain ⟨oldDigest,-,hold⟩ := hlatest
        have hchain := (history_chain (List.mem_of_getElem? hi)).2
        have hfree := hopen _ hold (eventType_of_chain hchain.symm hterminal)
        exact absurd (hterminal.symm.trans hfree) (by decide)
      · simp [hi]
    · simp only [if_neg hk,List.append_nil] at hi ⊢
      exact hw.ended k i old hi hterminal
  · intro k
    rw [history_snoc]
    by_cases hk : call.chain = k
    · subst hk
      rw [if_pos rfl,Latest,List.getLast?_concat]
      exact ⟨digest,ht.hashed,by rw [hlast,if_pos rfl]⟩
    · rw [if_neg hk,List.append_nil]
      have hlatest := hw.latest k
      unfold Latest at hlatest ⊢
      rw [hlast,if_neg (Ne.symm hk)]
      exact hlatest
  · intro old hold
    rcases List.mem_append.mp hold with hold | hnew
    · exact hw.verified old hold
    · rw [List.mem_singleton.mp hnew]
      exact ⟨now,ht.verified⟩

theorem kept_step (hw : w.Kept lib) (c : ℤ × ControlCall) : (w.exec lib c).Kept lib := by
  unfold exec
  rcases atomic_cases (ControlPlaneStore.accept lib c.1 c.2) w.store with
    ⟨changed,s',haccept,hatomic⟩ | ⟨e,-,hatomic⟩
  · rw [hatomic]
    obtain ⟨digest,ht⟩ := ControlPlaneStore.accept_taken haccept
    cases changed with
    | true => exact kept_taken hw ht
    | false =>
      obtain ⟨rfl,-⟩ := ht.again rfl
      exact hw
  · rw [hatomic]
    exact hw

theorem kept_reaches (h : Reaches (LedgerStep lib) .initial w) : w.Kept lib := by
  refine h.invariant (I := fun v => v.Kept lib) ?_ kept_initial
  rintro v v' hv ⟨c,rfl⟩
  exact kept_step hv c

/-- An object that is neither the next of its chain nor the last one again is refused. -/
theorem refused (s : ControlPlaneStore) (now : ℤ) {call : ControlCall} {r : Revision Bytes}
    (hr : call.revision lib = .ok r) (hnext : ¬ Follows genesisDigest (s.mark call.chain) r)
    (hagain : s.mark call.chain ≠ some r.mark) :
    ∃ e, atomic (ControlPlaneStore.accept lib now call) s = (.error e,s) := by
  obtain ⟨digest',hdigest',hval⟩ := map_ok.mp hr
  subst hval
  rcases atomic_cases (ControlPlaneStore.accept lib now call) s with
    ⟨changed,s',haccept,-⟩ | ⟨e,-,hatomic⟩
  · exfalso
    obtain ⟨digest,ht⟩ := ControlPlaneStore.accept_taken haccept
    obtain rfl := Except.ok.inj (hdigest'.symm.trans ht.hashed)
    cases changed with
    | true => exact hnext (ht.next rfl).1
    | false => exact hagain (ht.again rfl).2
  · exact ⟨e,hatomic⟩

/-- Behind a revocation nothing changes the store. -/
theorem revoked_unchanged (hw : w.Kept lib) (now : ℤ) {call old : ControlCall}
    (hold : old ∈ w.history call.chain) (hterminal : old.terminal) :
    (atomic (ControlPlaneStore.accept lib now call) w.store).2 = w.store := by
  rcases atomic_cases (ControlPlaneStore.accept lib now call) w.store with
    ⟨changed,s',haccept,hatomic⟩ | ⟨e,-,hatomic⟩
  · rw [hatomic]
    obtain ⟨digest,ht⟩ := ControlPlaneStore.accept_taken haccept
    cases changed with
    | false => exact (ht.again rfl).1
    | true =>
      exfalso
      obtain ⟨i,hi⟩ := List.mem_iff_getElem?.mp hold
      have hplace := hw.ended _ i old hi hterminal
      have hlatest := hw.latest call.chain
      have hend : (w.history call.chain).getLast? = some old := by
        rw [List.getLast?_eq_getElem?,← hi]
        congr 1
        omega
      rw [Latest,hend] at hlatest
      obtain ⟨oldDigest,-,hstored⟩ := hlatest
      have hevent := eventType_of_chain (history_chain hold).2.symm hterminal
      have hfree := (ht.next rfl).2.1 _ hstored hevent
      exact absurd (hterminal.symm.trans hfree) (by decide)
  · rw [hatomic]

/-- An object of the chain, given again, changes nothing. -/
theorem repeated_unchanged (hw : w.Kept lib) (now : ℤ) {call old : ControlCall}
    (hold : old ∈ w.taken) (hchain : call.chain = old.chain)
    (hsame : call.revision lib = old.revision lib) :
    (atomic (ControlPlaneStore.accept lib now call) w.store).2 = w.store := by
  rcases atomic_cases (ControlPlaneStore.accept lib now call) w.store with
    ⟨changed,s',haccept,hatomic⟩ | ⟨e,-,hatomic⟩
  · rw [hatomic]
    obtain ⟨digest,ht⟩ := ControlPlaneStore.accept_taken haccept
    cases changed with
    | false => exact (ht.again rfl).1
    | true =>
      exfalso
      obtain ⟨rs,hrs,hchained,hmark⟩ := hw.chained call.chain
      have hmem : old ∈ w.history call.chain := by
        rw [history,List.mem_filter]
        exact ⟨hold,by simp [hchain]⟩
      have hrevision : old.revision lib = .ok ⟨call.sequence,call.previousDigest,digest⟩ := by
        rw [← hsame,ControlCall.revision,ht.hashed]
        rfl
      have hin : (⟨call.sequence,call.previousDigest,digest⟩ : Revision Bytes) ∈ rs := by
        have hmap := List.mem_map_of_mem (f := ControlCall.revision lib) hmem
        rw [hrs,hrevision,List.mem_map] at hmap
        obtain ⟨r,hr,hval⟩ := hmap
        rw [← Except.ok.inj hval]
        exact hr
      obtain ⟨i,hi⟩ := List.mem_iff_getElem?.mp hin
      have hplace := hchained.sequence_at hi
      have hlength : i < rs.length := (List.getElem?_eq_some_iff.mp hi).1
      have hfollows := (ht.next rfl).1
      rw [hmark] at hfollows
      cases hlast : rs.getLast? with
      | none =>
        rw [List.getLast?_eq_none_iff] at hlast
        simp [hlast] at hlength
      | some last =>
        rw [hlast] at hfollows
        have hend := hchained.last_sequence hlast
        have hnumber : call.sequence = last.sequence + 1 := hfollows.1
        dsimp only at hplace
        omega
  · rw [hatomic]

theorem getLast?_chain {k : ChainKey} {call : ControlCall}
    (h : (w.history k).getLast? = some call) : call ∈ w.taken ∧ call.chain = k :=
  history_chain (List.mem_of_getLast? h)

/-- The stored descriptor of a node. -/
theorem latest_descriptor (hw : w.Kept lib) {n : String} {row : DescriptorRow}
    (hrow : w.store.descriptors.get n = some row) :
    ∃ d, (w.history (.descriptor n)).getLast? = some (.descriptor d) ∧ d.nodeId = n ∧
      row.objectJson = d.toDict ∧ d.digest lib = .ok row.digest ∧ row.sequence = d.sequence ∧
      ∃ now, d.verify lib now = .ok () := by
  have hlatest := hw.latest (.descriptor n)
  cases hlast : (w.history (.descriptor n)).getLast? with
  | none =>
    rw [Latest,hlast] at hlatest
    simp [ControlPlaneStore.last,hrow] at hlatest
  | some call =>
    rw [Latest,hlast] at hlatest
    obtain ⟨digest,hdigest,hstored⟩ := hlatest
    obtain ⟨hmem,hchain⟩ := getLast?_chain hlast
    obtain ⟨now,hverify⟩ := hw.verified call hmem
    cases call with
    | descriptor d =>
      have hid : d.nodeId = n := ChainKey.descriptor.inj hchain
      simp only [ControlPlaneStore.last,hrow,Option.map_some,Option.some.injEq,ControlCall.stored,
        StoredRevision.mk.injEq,DescriptorRow.checkpoint,Checkpoint.mk.injEq] at hstored
      obtain ⟨⟨hsequence,hsame,-⟩,hjson,-⟩ := hstored
      rw [hsame]
      exact ⟨d,rfl,hid,hjson,hdigest,hsequence,now,hverify⟩
    | reachability r d => cases hchain
    | grant g d => cases hchain
    | revocation v d => cases hchain

/-- The descriptor of a node is found exactly while its window is open. -/
theorem currentDescriptor_some (hw : w.Kept lib) {n : String} {now : ℤ} {d : NodeDescriptor} :
    w.store.currentDescriptor lib n now = .ok (some d) ↔
      (w.history (.descriptor n)).getLast? = some (.descriptor d) ∧ d.Open now := by
  cases hrow : w.store.descriptors.get n with
  | none =>
    have hempty : (w.history (.descriptor n)).getLast? = none := by
      cases hlast : (w.history (.descriptor n)).getLast? with
      | none => rfl
      | some call =>
        have hlatest := hw.latest (.descriptor n)
        rw [Latest,hlast] at hlatest
        obtain ⟨digest,-,hstored⟩ := hlatest
        simp [ControlPlaneStore.last,hrow] at hstored
    rw [hempty]
    simp only [ControlPlaneStore.currentDescriptor,hrow,bind_ok]
    constructor
    · rintro ⟨_,-,hval⟩
      cases hval
    · rintro ⟨hval,-⟩
      cases hval
  | some row =>
    obtain ⟨d',hlast,hid,hjson,-,-,now',hverify⟩ := latest_descriptor hw hrow
    have hnode : validateNodeId n = .ok () := by
      rw [validateNodeId,raiseIf_ok,not_not,← hid]
      exact (NodeDescriptor.verify_sizes hverify).1
    simp only [ControlPlaneStore.currentDescriptor,hrow,hjson,NodeDescriptor.fromDict_toDict hverify,
      bind_ok,hnode,map_ok,hlast,Option.some.injEq,ControlCall.descriptor.injEq]
    constructor
    · rintro ⟨_,-,_,⟨_,hopen,rfl⟩,rfl⟩
      exact ⟨rfl,(NodeDescriptor.verify_again hverify).mp hopen⟩
    · rintro ⟨rfl,hopen⟩
      exact ⟨(),trivial,_,⟨(),(NodeDescriptor.verify_again hverify).mpr hopen,rfl⟩,rfl⟩

/-- The last event of a device. -/
theorem latest_device (hw : w.Kept lib) {h n : String} {row : HumanDeviceRow}
    (hrow : w.store.humanDevices.get (h,n) = some row) :
    ∃ call, (w.history (.device h n)).getLast? = some call ∧ call.chain = .device h n ∧
      row.objectJson = call.toDict ∧ some row.eventType = call.eventType ∧
      row.descriptorDigest = call.descriptorDigest ∧ ∃ now, call.verify lib now = .ok () := by
  have hlatest := hw.latest (.device h n)
  cases hlast : (w.history (.device h n)).getLast? with
  | none =>
    rw [Latest,hlast] at hlatest
    simp [ControlPlaneStore.last,hrow] at hlatest
  | some call =>
    rw [Latest,hlast] at hlatest
    obtain ⟨digest,hdigest,hstored⟩ := hlatest
    obtain ⟨hmem,hchain⟩ := getLast?_chain hlast
    obtain ⟨now,hverify⟩ := hw.verified call hmem
    simp only [ControlPlaneStore.last,hrow,Option.map_some,Option.some.injEq,ControlCall.stored,
      StoredRevision.mk.injEq] at hstored
    obtain ⟨-,hjson,hbound,hevent⟩ := hstored
    exact ⟨call,rfl,hchain,hjson,hevent,hbound,now,hverify⟩

/-- A grant is found exactly if it is the last event of its device, bound to the stored
descriptor, and both windows are open. -/
theorem humanDeviceGrant_some (hw : w.Kept lib) {h n : String} {now : ℤ} {g : HumanDeviceGrant} :
    w.store.humanDeviceGrant lib h n now = .ok (some g) ↔ ∃ d d',
      (w.history (.descriptor n)).getLast? = some (.descriptor d) ∧
      (w.history (.device h n)).getLast? = some (.grant g d') ∧ g.BoundTo lib d ∧
      d.Open now ∧ g.Open now := by
  constructor
  · intro hfound
    simp only [ControlPlaneStore.humanDeviceGrant,bind_ok] at hfound
    obtain ⟨found,hcurrent,hfound⟩ := hfound
    cases found with
    | none => cases hfound
    | some d =>
    obtain ⟨hlast,hopen⟩ := (currentDescriptor_some hw).mp hcurrent
    obtain ⟨hmem,hchain⟩ := getLast?_chain hlast
    obtain ⟨verifiedAt,hd⟩ := hw.verified _ hmem
    have hid : d.nodeId = n := ChainKey.descriptor.inj hchain
    simp only [bind_ok,hid] at hfound
    obtain ⟨_,-,hfound⟩ := hfound
    cases hrow : w.store.humanDevices.get (h,n) with
    | none =>
      rw [hrow] at hfound
      cases hfound
    | some row =>
    rw [hrow] at hfound
    dsimp only at hfound
    split_ifs at hfound with hevent
    · cases hfound
    rw [not_not] at hevent
    obtain ⟨digest,hdigest,hfound⟩ := bind_ok.mp hfound
    split_ifs at hfound with hbound
    · cases hfound
    obtain ⟨call,hlastCall,-,hjson,hkind,-,grantedAt,hverify⟩ := latest_device hw hrow
    rw [hevent] at hkind
    cases call with
    | grant g' d' =>
      rw [hjson] at hfound
      change (HumanDeviceGrant.fromDict lib d now g'.toDict).map some = _ at hfound
      rw [HumanDeviceGrant.fromDict_toDict hverify,map_ok] at hfound
      obtain ⟨found,hfound,hval⟩ := hfound
      obtain ⟨_,hagain,hsame⟩ := map_ok.mp hfound
      obtain rfl : g' = g := hsame.trans (Option.some.inj hval)
      obtain ⟨hbound,-,hgrant⟩ := (HumanDeviceGrant.verify_again hverify hd).mp hagain
      exact ⟨d,d',hlast,hlastCall,hbound,hopen,hgrant⟩
    | descriptor d' => cases hkind
    | reachability r d' => cases hkind
    | revocation v d' => cases hkind
  · rintro ⟨d,d',hlast,hlastCall,hbound,hopen,hgrant⟩
    have hcurrent := (currentDescriptor_some hw).mpr ⟨hlast,hopen⟩
    obtain ⟨hmem,hchain⟩ := getLast?_chain hlast
    obtain ⟨verifiedAt,hd⟩ := hw.verified _ hmem
    obtain ⟨hmemCall,hchainCall⟩ := getLast?_chain hlastCall
    obtain ⟨grantedAt,hverify⟩ := hw.verified _ hmemCall
    have hid : d.nodeId = n := ChainKey.descriptor.inj hchain
    obtain ⟨hhuman,-⟩ := ChainKey.device.inj hchainCall
    have hvalid : validateHumanId h = .ok () := by
      rw [validateHumanId,raiseIf_ok,not_not,← hhuman]
      exact (HumanDeviceGrant.verify_parts hverify).2.1
    have hlatest := hw.latest (.device h n)
    rw [Latest,hlastCall] at hlatest
    obtain ⟨digest,-,hstored⟩ := hlatest
    obtain ⟨row,hrow,hview⟩ := Option.map_eq_some_iff.mp hstored
    simp only [ControlCall.stored,StoredRevision.mk.injEq,ControlCall.toDict,
      ControlCall.descriptorDigest,ControlCall.eventType,Option.some.injEq] at hview
    obtain ⟨-,hjson,hdigest,hevent⟩ := hview
    have hagain := (HumanDeviceGrant.verify_again hverify hd (w := ())).mpr ⟨hbound,hopen,hgrant⟩
    simp only [ControlPlaneStore.humanDeviceGrant,bind_ok]
    refine ⟨some d,hcurrent,?_⟩
    simp only [hid,hrow,bind_ok]
    refine ⟨(),hvalid,?_⟩
    rw [if_neg (by simp [hevent]),bind_ok]
    refine ⟨_,hbound.2.1,?_⟩
    rw [if_neg (by simp [hdigest]),hjson,HumanDeviceGrant.fromDict_toDict hverify,hagain]
    rfl

section Sample

def ledgerNode : SigningIdentity := plainIdentity 1

def ledgerDescriptor : NodeDescriptor := plainDescriptor 1 1 genesisDigest 1000 6000

/-- A grant that outlives the descriptor of its device. -/
def ledgerGrant : HumanDeviceGrant :=
  let unsigned : HumanDeviceGrant := ⟨plainId "hu1" (plainKey 2),plainKey 2,ledgerNode.nodeId,
    plainObjectDigest ledgerDescriptor.signingFields ledgerDescriptor.signature,
    ["approval.sign"],1,genesisDigest,1000,10000,[],1,"anet.human-device-grant.v1"⟩
  { unsigned with signature := plainKey 2 ++ plainDigest (plainMessage unsigned.signingFields) }

def ledgerCalls : List (ℤ × ControlCall) :=
  [(1000,.descriptor ledgerDescriptor),(1000,.grant ledgerGrant ledgerDescriptor)]

def execAll (calls : List (ℤ × ControlCall)) : ControlLedger :=
  calls.foldl (exec plainControl) .initial

theorem execAll_runs (calls : List (ℤ × ControlCall)) :
    Reaches (LedgerStep plainControl) .initial (execAll calls) :=
  Reaches.of_steps (fun _ c => ⟨c,rfl⟩) calls _

theorem execAll_taken : (execAll ledgerCalls).taken = ledgerCalls.map Prod.snd := by
  decide +kernel

theorem ledgerGrant_bound : ledgerGrant.BoundTo plainControl ledgerDescriptor := by
  have hdigest : (ledgerDescriptor.digest plainControl).toOption =
      some ledgerGrant.descriptorDigest := by decide +kernel
  exact ⟨by decide,toOption_eq_some.mp hdigest,by decide⟩

end Sample

/-- In every run the chains are whole; an object that forks, skips or precedes the last one of
its chain is refused without a change; nothing taken before and nothing behind a revocation
changes the store; and a grant is found exactly if it is the last event of its device, bound
to the stored descriptor, while the windows of both are open. -/
theorem control_chains (lib : ControlLibrary) (w : ControlLedger)
    (hrun : Reaches (LedgerStep lib) .initial w) :
    w.Intact lib ∧
    (∀ now call r, call.revision lib = .ok r →
      ¬ Follows genesisDigest (w.store.mark call.chain) r →
      w.store.mark call.chain ≠ some r.mark →
      ∃ e, atomic (ControlPlaneStore.accept lib now call) w.store = (.error e,w.store)) ∧
    (∀ now call old, old ∈ w.taken → call.chain = old.chain →
      call.revision lib = old.revision lib →
      (atomic (ControlPlaneStore.accept lib now call) w.store).2 = w.store) ∧
    (∀ now call old, old ∈ w.history call.chain → old.terminal →
      (atomic (ControlPlaneStore.accept lib now call) w.store).2 = w.store) ∧
    ∀ h n now g, w.store.humanDeviceGrant lib h n now = .ok (some g) ↔ ∃ d d',
      (w.history (.descriptor n)).getLast? = some (.descriptor d) ∧
      (w.history (.device h n)).getLast? = some (.grant g d') ∧ g.BoundTo lib d ∧
      d.Open now ∧ g.Open now := by
  have hkept := kept_reaches hrun
  refine ⟨hkept.toIntact,?_,?_,?_,?_⟩
  · intro now call r hr hnext hagain
    exact refused w.store now hr hnext hagain
  · intro now call old hold hchain hsame
    exact repeated_unchanged hkept now hold hchain hsame
  · intro now call old hold hterminal
    exact revoked_unchanged hkept now hold hterminal
  · intro h n now g
    exact humanDeviceGrant_some hkept

theorem control_chains_sample : (execAll ledgerCalls).Intact plainControl ∧
    (execAll ledgerCalls).store.humanDeviceGrant plainControl ledgerGrant.humanId
      ledgerNode.nodeId 2000 = .ok (some ledgerGrant) := by
  obtain ⟨hintact,-,-,-,hfound⟩ := control_chains plainControl _ (execAll_runs ledgerCalls)
  refine ⟨hintact,(hfound _ _ _ _).mpr ⟨ledgerDescriptor,ledgerDescriptor,?_,?_,
    ledgerGrant_bound,by decide,by decide⟩⟩
  · rw [history,execAll_taken]
    decide +kernel
  · rw [history,execAll_taken]
    decide +kernel

/-- An unexpired grant bound to the stored descriptor is not found once that has expired. -/
theorem grant_outlives_descriptor : ∃ w, Reaches (LedgerStep plainControl) .initial w ∧
    (w.history (.descriptor ledgerNode.nodeId)).getLast? = some (.descriptor ledgerDescriptor) ∧
    (w.history (.device ledgerGrant.humanId ledgerNode.nodeId)).getLast? =
      some (.grant ledgerGrant ledgerDescriptor) ∧
    ledgerGrant.BoundTo plainControl ledgerDescriptor ∧ 6000 < ledgerGrant.expiresMs ∧
    ∀ g, w.store.humanDeviceGrant plainControl ledgerGrant.humanId ledgerNode.nodeId 6000 ≠
      .ok (some g) := by
  have hkept := kept_reaches (execAll_runs ledgerCalls)
  have hdescriptor : ((execAll ledgerCalls).history (.descriptor ledgerNode.nodeId)).getLast? =
      some (.descriptor ledgerDescriptor) := by
    rw [history,execAll_taken]
    decide +kernel
  have hgrant : ((execAll ledgerCalls).history
      (.device ledgerGrant.humanId ledgerNode.nodeId)).getLast? =
      some (.grant ledgerGrant ledgerDescriptor) := by
    rw [history,execAll_taken]
    decide +kernel
  refine ⟨_,execAll_runs ledgerCalls,hdescriptor,hgrant,ledgerGrant_bound,by decide,?_⟩
  intro g hfound
  obtain ⟨d,-,hlast,-,-,hopen,-⟩ := (humanDeviceGrant_some hkept).mp hfound
  rw [hdescriptor,Option.some.injEq,ControlCall.descriptor.injEq] at hlast
  rw [← hlast] at hopen
  have hexpired : ¬ (6000 : ℤ) < ledgerDescriptor.expiresMs := by decide
  exact hexpired hopen.2

end ControlLedger
end Anet
