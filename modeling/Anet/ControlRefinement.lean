import Anet.ControlStore

/-! The tracker in memory and the durable store take and refuse the same objects. -/
namespace Anet

open ControlPlane

variable {lib : ControlLibrary}

theorem RevisionTracker.advance_check {κ : Type} [DecidableEq κ] (checkpoints : κ → Option Checkpoint)
    (k : κ) (sequence : ℤ) (previousDigest digest : Bytes) (terminal forbid : Bool) :
    advance checkpoints k sequence previousDigest digest terminal forbid =
      (ControlPlaneStore.checkRevision (checkpoints k) sequence previousDigest digest forbid).map
        fun changed => (changed,if changed then
          Function.update checkpoints k (some ⟨sequence,digest,terminal⟩) else checkpoints) := by
  unfold advance ControlPlaneStore.checkRevision
  cases checkpoints k with
  | none => by_cases hgenesis : sequence ≠ 1 ∨ previousDigest ≠ genesisDigest <;>
      simp [hgenesis,raiseIf,bind,Except.bind,Except.map,pure,Except.pure]
  | some current =>
    by_cases hsame : sequence = current.sequence
    · by_cases hdigest : digest = current.digest <;>
        simp [hsame,hdigest,raiseIf,bind,Except.bind,Except.map,pure,Except.pure]
    by_cases hstale : sequence < current.sequence
    · simp [hsame,hstale,raiseIf,bind,Except.bind,Except.map]
    by_cases hterminal : forbid ∧ current.terminal
    · simp [hsame,hstale,hterminal,raiseIf,bind,Except.bind,Except.map]
    by_cases hgap : sequence = current.sequence + 1
    · subst hgap
      by_cases hlink : previousDigest = current.digest <;>
        simp only [if_neg hsame,if_neg hstale,hterminal,hlink,raiseIf,bind,Except.bind,Except.map,
          pure,Except.pure,ne_eq,not_true_eq_false,not_false_eq_true,if_true,if_false]
    · simp [hsame,hstale,hterminal,hgap,raiseIf,bind,Except.bind,Except.map]

namespace ControlPlaneStore

theorem putRow_ok {κ ρ : Type} [DecidableEq κ] {key : ρ → κ} (t : Table key noMarks) (row : ρ)
    (f : ρ → ρ) (hkey : ∀ r, key (f r) = key r) : ∃ t', putRow t row f hkey = .ok t' ∧
      ∀ k, t'.get k = if k = key row then some ((t.get (key row)).elim row f) else t.get k := by
  obtain ⟨t',ht'⟩ := Table.upsert_noMarks t row f hkey
  exact ⟨t',fetched_ok.mpr ht',Table.get_upsert ht'⟩

theorem putRow_get {κ ρ : Type} [DecidableEq κ] {key : ρ → κ} {t t' : Table key noMarks} {row : ρ}
    {f : ρ → ρ} {hkey : ∀ r, key (f r) = key r} (h : putRow t row f hkey = .ok t') (k : κ) :
    t'.get k = if k = key row then some ((t.get (key row)).elim row f) else t.get k :=
  Table.get_upsert (fetched_ok.mp h) k

theorem checkRow_ok {sequence : ℤ} {digests : List Bytes} (hs : 1 ≤ sequence)
    (hd : ∀ d ∈ digests, d.length = 32) : checkRow sequence digests = .ok () := by
  rw [checkRow,raiseIf_ok,not_or,not_le]
  refine ⟨by omega,?_⟩
  rintro ⟨d,hmem,hlength⟩
  exact hlength (hd d hmem)

/-- A descriptor that passes is the one that is stored. -/
theorem requireCurrentDescriptor_ok {s : ControlPlaneStore} {d : NodeDescriptor} {u : Unit} :
    s.requireCurrentDescriptor lib d = .ok u ↔
      ∃ row, s.descriptors.get d.nodeId = some row ∧ d.digest lib = .ok row.digest := by
  unfold requireCurrentDescriptor
  cases s.descriptors.get d.nodeId with
  | none => simp
  | some row =>
    simp only [bind_ok,raiseIf_ok,not_not,Option.some.injEq,exists_eq_left']
    constructor
    · rintro ⟨digest,hdigest,rfl⟩
      exact hdigest
    · intro hdigest
      exact ⟨_,hdigest,rfl⟩

/-- The tracker and the store hold the same last revisions. -/
structure Agrees (t : RevisionTracker) (s : ControlPlaneStore) : Prop where
  descriptors : ∀ k, t.descriptors k = (s.descriptors.get k).map DescriptorRow.checkpoint
  reachability : ∀ k, t.reachability k = (s.reachability.get k).map ReachabilityRow.checkpoint
  humanDevices : ∀ k, t.humanDevices k = (s.humanDevices.get k).map HumanDeviceRow.checkpoint

/-- Both answer a call alike and agree on what they hold then. -/
def Answers (x : Result (Bool × RevisionTracker)) (y : Result (Bool × ControlPlaneStore)) : Prop :=
  match x,y with
  | .ok (changed,t),.ok (changed',s) => changed = changed' ∧ Agrees t s
  | .error e,.error e' => e = e'
  | _,_ => False

section Steps

variable {t : RevisionTracker} {s : ControlPlaneStore}

theorem requireCurrent_agrees (h : Agrees t s) (d : NodeDescriptor) :
    t.requireCurrentDescriptor lib d = s.requireCurrentDescriptor lib d := by
  unfold RevisionTracker.requireCurrentDescriptor requireCurrentDescriptor
  rw [h.descriptors]
  cases s.descriptors.get d.nodeId <;> rfl

theorem acceptDescriptor_agrees (h : Agrees t s) (now : ℤ) (d : NodeDescriptor) :
    Answers (t.acceptDescriptor lib now d) (s.acceptDescriptor lib now d) := by
  unfold RevisionTracker.acceptDescriptor acceptDescriptor
  cases hverify : d.verify lib now with
  | error e => rfl
  | ok u =>
  cases hdigest : d.digest lib with
  | error e => rfl
  | ok digest =>
  simp only [bind,Except.bind,RevisionTracker.advance_check,h.descriptors]
  cases hcheck : checkRevision ((s.descriptors.get d.nodeId).map DescriptorRow.checkpoint)
      d.sequence d.previousDigest digest false with
  | error e => rfl
  | ok changed =>
  cases changed with
  | false => exact ⟨rfl,h.1,h.2,h.3⟩
  | true =>
    obtain ⟨-,-,-,hsequence,-⟩ := NodeDescriptor.verify_sizes hverify
    have hrow : checkRow d.sequence [digest] = .ok () :=
      checkRow_ok hsequence (by simpa using objectDigest_length hdigest)
    obtain ⟨rows,hput,hget⟩ := putRow_ok s.descriptors ⟨d.nodeId,d.sequence,digest,d.toDict⟩
      (fun r => { r with sequence := d.sequence, digest := digest, objectJson := d.toDict })
      fun _ => rfl
    simp only [Except.map,if_true,hrow,hput]
    refine ⟨rfl,?_,h.reachability,h.humanDevices⟩
    intro k
    rw [hget]
    by_cases hk : k = d.nodeId
    · subst hk
      cases s.descriptors.get d.nodeId <;> simp [DescriptorRow.checkpoint]
    · simp [hk,h.descriptors]

theorem acceptReachability_agrees (h : Agrees t s) (now : ℤ) (r : ReachabilityRecord)
    (d : NodeDescriptor) :
    Answers (t.acceptReachability lib now r d) (s.acceptReachability lib now r d) := by
  unfold RevisionTracker.acceptReachability acceptReachability
  rw [requireCurrent_agrees h]
  cases hverify : r.verify lib d now with
  | error e => rfl
  | ok u =>
  cases hcurrent : s.requireCurrentDescriptor lib d with
  | error e => rfl
  | ok v =>
  cases hdigest : r.digest lib with
  | error e => rfl
  | ok digest =>
  simp only [bind,Except.bind,RevisionTracker.advance_check,h.reachability]
  cases hcheck : checkRevision ((s.reachability.get r.nodeId).map ReachabilityRow.checkpoint)
      r.sequence r.previousDigest digest false with
  | error e => rfl
  | ok changed =>
  cases changed with
  | false => exact ⟨rfl,h.1,h.2,h.3⟩
  | true =>
    obtain ⟨-,hid,-,hbound,-,hsequence,-⟩ := ReachabilityRecord.verify_parts hverify
    obtain ⟨row,hrow,-⟩ := requireCurrentDescriptor_ok.mp hcurrent
    have hcheckRow : checkRow r.sequence [digest,r.descriptorDigest] = .ok () := by
      refine checkRow_ok hsequence ?_
      simpa using ⟨objectDigest_length hdigest,hbound⟩
    obtain ⟨rows,hput,hget⟩ := putRow_ok s.reachability
      ⟨r.nodeId,r.sequence,digest,r.descriptorDigest,r.expiresMs,r.toDict⟩
      (fun row => { row with
        sequence := r.sequence, digest := digest, descriptorDigest := r.descriptorDigest
        expiresMs := r.expiresMs, objectJson := r.toDict })
      fun _ => rfl
    have hforeign : raiseIf ((s.descriptors.get r.nodeId).isNone) .integrity = .ok () := by
      simp [hid,hrow]
    simp only [Except.map,if_true,hcheckRow,hforeign,hput]
    refine ⟨rfl,h.descriptors,?_,h.humanDevices⟩
    intro k
    rw [hget]
    by_cases hk : k = r.nodeId
    · subst hk
      cases s.reachability.get r.nodeId <;> simp [ReachabilityRow.checkpoint]
    · simp [hk,h.reachability]

theorem acceptHumanGrant_agrees (h : Agrees t s) (now : ℤ) (g : HumanDeviceGrant)
    (d : NodeDescriptor) :
    Answers (t.acceptHumanGrant lib now g d) (s.acceptHumanGrant lib now g d) := by
  unfold RevisionTracker.acceptHumanGrant acceptHumanGrant
  rw [requireCurrent_agrees h]
  cases hverify : g.verify lib d now with
  | error e => rfl
  | ok u =>
  cases hcurrent : s.requireCurrentDescriptor lib d with
  | error e => rfl
  | ok v =>
  cases hdigest : g.digest lib with
  | error e => rfl
  | ok digest =>
  simp only [bind,Except.bind,RevisionTracker.advance_check,h.humanDevices]
  cases hcheck : checkRevision
      ((s.humanDevices.get (g.humanId,g.deviceNodeId)).map HumanDeviceRow.checkpoint)
      g.sequence g.previousDigest digest true with
  | error e => rfl
  | ok changed =>
  cases changed with
  | false => exact ⟨rfl,h.1,h.2,h.3⟩
  | true =>
    obtain ⟨-,-,-,hid,-,hbound,hsequence,-⟩ := HumanDeviceGrant.verify_parts hverify
    obtain ⟨row,hrow,-⟩ := requireCurrentDescriptor_ok.mp hcurrent
    have hcheckRow : checkRow g.sequence [digest,g.descriptorDigest] = .ok () := by
      refine checkRow_ok hsequence ?_
      simpa using ⟨objectDigest_length hdigest,hbound⟩
    obtain ⟨rows,hput,hget⟩ := putRow_ok s.humanDevices
      ⟨g.humanId,g.deviceNodeId,g.sequence,digest,g.descriptorDigest,false,.grant,g.toDict⟩
      (fun row => { row with
        sequence := g.sequence, digest := digest, descriptorDigest := g.descriptorDigest
        terminal := false, eventType := .grant, objectJson := g.toDict })
      fun _ => rfl
    have hforeign : raiseIf ((s.descriptors.get g.deviceNodeId).isNone) .integrity = .ok () := by
      simp [hid,hrow]
    simp only [Except.map,if_true,hcheckRow,hforeign,hput]
    refine ⟨rfl,h.descriptors,h.reachability,?_⟩
    intro k
    rw [hget]
    by_cases hk : k = (g.humanId,g.deviceNodeId)
    · subst hk
      cases hold : s.humanDevices.get (g.humanId,g.deviceNodeId) <;>
        simp [HumanDeviceRow.checkpoint,HumanDeviceRow.key,hold]
    · simp [HumanDeviceRow.key,hk,h.humanDevices]

theorem acceptHumanRevocation_agrees (h : Agrees t s) (now : ℤ) (v : HumanDeviceRevocation)
    (d : NodeDescriptor) :
    Answers (t.acceptHumanRevocation lib now v d) (s.acceptHumanRevocation lib now v d) := by
  unfold RevisionTracker.acceptHumanRevocation acceptHumanRevocation
  rw [requireCurrent_agrees h]
  cases hverify : v.verify lib d now with
  | error e => rfl
  | ok u =>
  cases hcurrent : s.requireCurrentDescriptor lib d with
  | error e => rfl
  | ok w =>
  simp only [bind,Except.bind,h.humanDevices]
  cases hold : s.humanDevices.get (v.humanId,v.deviceNodeId) with
  | none => rfl
  | some current =>
  cases hdigest : v.digest lib with
  | error e => rfl
  | ok digest =>
  simp only [Option.map_some,Option.isNone_some,RevisionTracker.advance_check,h.humanDevices,hold,
    fetched,Option.elim_some,raiseIf]
  cases hcheck : checkRevision (some current.checkpoint) v.sequence v.previousDigest digest true with
  | error e => rfl
  | ok changed =>
  cases changed with
  | false => exact ⟨rfl,h.1,h.2,h.3⟩
  | true =>
    obtain ⟨-,-,-,hbound,hsequence,-⟩ := HumanDeviceRevocation.verify_parts hverify
    have hcheckRow : checkRow v.sequence [digest,v.descriptorDigest] = .ok () := by
      refine checkRow_ok hsequence ?_
      simpa using ⟨objectDigest_length hdigest,hbound⟩
    simp only [Except.map,if_true,hcheckRow]
    refine ⟨rfl,h.descriptors,h.reachability,?_⟩
    intro k
    refine Eq.trans ?_ (congrArg (Option.map HumanDeviceRow.checkpoint)
      (Table.get_update_key s.humanDevices (v.humanId,v.deviceNodeId) (.revoked v digest)
        (fun _ => rfl) (fun _ => List.Subset.refl _) k).symm)
    by_cases hk : k = (v.humanId,v.deviceNodeId)
    · subst hk
      simp [HumanDeviceRow.checkpoint,HumanDeviceRow.revoked,hold]
    · simp [hk,h.humanDevices]

theorem accept_agrees (lib : ControlLibrary) (h : Agrees t s) (now : ℤ) (call : ControlCall) :
    Answers (t.accept lib now call) (s.accept lib now call) := by
  cases call with
  | descriptor d => exact acceptDescriptor_agrees h now d
  | reachability r d => exact acceptReachability_agrees h now r d
  | grant g d => exact acceptHumanGrant_agrees h now g d
  | revocation v d => exact acceptHumanRevocation_agrees h now v d

end Steps

theorem agrees_initial : Agrees .initial .empty := ⟨fun _ => rfl,fun _ => rfl,fun _ => rfl⟩

theorem atomic_agrees {t : RevisionTracker} {s : ControlPlaneStore} (h : Agrees t s) (now : ℤ)
    (call : ControlCall) :
    (atomic (RevisionTracker.accept lib now call) t).1 = (atomic (accept lib now call) s).1 ∧
      Agrees (atomic (RevisionTracker.accept lib now call) t).2
        (atomic (accept lib now call) s).2 := by
  have hanswers := accept_agrees lib h now call
  rcases atomic_cases (RevisionTracker.accept lib now call) t with
    ⟨changed,t',ht,hatomic⟩ | ⟨e,ht,hatomic⟩ <;>
  rcases atomic_cases (accept lib now call) s with ⟨changed',s',hs,hatomic'⟩ | ⟨e',hs,hatomic'⟩ <;>
  rw [ht,hs] at hanswers <;> rw [hatomic,hatomic']
  · exact ⟨congrArg Except.ok hanswers.1,hanswers.2⟩
  · exact hanswers.elim
  · exact hanswers.elim
  · exact ⟨congrArg Except.error hanswers,h⟩

end ControlPlaneStore

open ControlPlaneStore in
/-- Fed with the same objects at the same clocks the two answer each of them alike, with the
same refusals, and hold the same last revisions in the end. -/
theorem revisions_agree (lib : ControlLibrary) (calls : List (ℤ × ControlCall)) :
    let tracked := replies (fun c => RevisionTracker.accept lib c.1 c.2) calls .initial
    let stored := replies (fun c => ControlPlaneStore.accept lib c.1 c.2) calls .empty
    tracked.1 = stored.1 ∧ Agrees tracked.2 stored.2 :=
  replies_agree (R := Agrees) (fun c _ _ h => atomic_agrees h c.1 c.2) calls agrees_initial

end Anet
