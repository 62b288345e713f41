import Anet.ConsumerLeases

/-! The cut-off of a group opened at the latest message. It is a rowid, and a
rowid is reused once the newest rows are gone: a message inserted while the
largest rowid lies below the cut-off is never handed to the group. -/
namespace Anet

open PacketStore

/-- A claim of the group selects the packet. -/
def selected (s : PacketStore) (group : ConsumerGroup) (now : ℤ) (packetId : String) : Prop :=
  ∃ i ∈ s.claimCandidates group now, i.packetId = packetId

theorem selected_iff {s : PacketStore} {group : ConsumerGroup} {now : ℤ} {packetId : String} :
    selected s group now packetId ↔ ∃ i, s.inbox.get packetId = some i ∧ group.admits i ∧
      claimable s.consumerDeliveries group.groupId now packetId := by
  unfold selected claimCandidates
  simp only [List.mem_insertionSort,Table.mem_select]
  constructor
  · rintro ⟨i,⟨hi,hadmitteds,hclaim⟩,rfl⟩
    exact ⟨i,hi,hadmitteds,hclaim⟩
  · rintro ⟨i,hi,hadmitteds,hclaim⟩
    obtain rfl : i.packetId = packetId := Table.get_key hi
    exact ⟨i,⟨hi,hadmitteds,hclaim⟩,rfl⟩

section Runs

variable {rt : Runtime} {w w' : WorkWorld}

theorem rowid_move {op : WorkOp} {o : Option InboxRow} {i i' : InboxRow}
    (hmove : InboxMove rt w op o (some i')) (hi : o = some i) : i'.rowid = i.rowid := by
  cases hmove with
  | same => rw [Option.some.inj hi]
  | insert => cases hi
  | mark j _ h =>
    cases hi
    rw [h.same]

/-- A message keeps its rowid while it is in the Inbox. -/
theorem rowid_run {packetId : String} {i : InboxRow} (hi : w.store.inbox.get packetId = some i)
    (h : Reaches (StepKeeping rt packetId) w w') :
    ∃ i', w'.store.inbox.get packetId = some i' ∧ i'.rowid = i.rowid := by
  refine Reaches.invariant (I := fun v : WorkWorld => ∃ i',
    v.store.inbox.get packetId = some i' ∧ i'.rowid = i.rowid) ?_ ⟨i,hi,rfl⟩ h
  rintro v v' ⟨j,hj,hrow⟩ ⟨⟨op,hop,rfl⟩,hkept⟩
  obtain ⟨j',hj'⟩ := Option.isSome_iff_exists.mp hkept
  refine ⟨j',hj',?_⟩
  have hmove := inbox_move (exec_work rt hop) packetId
  change InboxMove rt v op _ ((v.after rt op).store.inbox.get packetId) at hmove
  rw [hj'] at hmove
  rw [rowid_move hmove hj,hrow]

theorem group_run {groupId : String} {group : ConsumerGroup}
    (hgroup : w.store.consumerGroups.get groupId = some group) (h : Reaches (WorkStep rt) w w') :
    w'.store.consumerGroups.get groupId = some group := by
  refine Reaches.invariant (I := fun v : WorkWorld =>
    v.store.consumerGroups.get groupId = some group) ?_ hgroup h
  rintro v v' hv ⟨op,hop,rfl⟩
  exact groups_kept (exec_work rt hop) hv

/-- A new message takes the rowid after the largest. -/
theorem inserted_rowid {packetId : String} {i : InboxRow} (hstep : WorkStep rt w w')
    (hnone : w.store.inbox.get packetId = none) (hi : w'.store.inbox.get packetId = some i) :
    i.rowid = w.store.maxRowid + 1 := by
  obtain ⟨op,hop,rfl⟩ := hstep
  have hmove := inbox_move (exec_work rt hop) packetId
  change InboxMove rt w op _ ((w.after rt op).store.inbox.get packetId) at hmove
  rw [hnone,hi] at hmove
  cases hmove
  rfl

/-- What the opening of a new group leaves behind. -/
theorem openConsumerGroup_new {groupId : ConsumerId} {start kindPrefix senderId : String}
    {trustedOnly includeTransient : Bool} {now : ℤ} {s s' : PacketStore} {group : ConsumerGroup}
    (h : openConsumerGroup groupId start kindPrefix senderId trustedOnly includeTransient now s =
      (.ok (group,true),s')) (hstart : lower (strip start) = "latest") :
    group.groupId = groupId.val ∧ group.startAfterRowid = s.maxRowid ∧ s'.inbox = s.inbox ∧
      s'.consumerGroups.get groupId.val = some group := by
  unfold openConsumerGroup at h
  dsimp only at h
  split at h
  · cases h
  split at h
  · cases h
  split at h
  · split at h <;> cases h
  split at h
  · rename_i groups hins
    cases h
    refine ⟨rfl,rfl,rfl,?_⟩
    have hget := Table.get_insert hins groupId.val
    rw [if_pos rfl] at hget
    exact hget
  · cases h

/-- A claim that returns hands out the selected packets, oldest first. -/
theorem claim_selected {groupId owner : ConsumerId} {limit : ℤ} {lease : LeaseMs} {now : ℤ}
    {draws : ℕ → Token} {s : PacketStore} {group : ConsumerGroup} {claims : List ClaimedMessage}
    (hgroup : s.consumerGroups.get groupId.val = some group)
    (h : (claimConsumerMessages rt groupId owner limit lease now draws s).1 = .ok claims) :
    claims.map (fun c => c.item.packetId) =
      ((s.claimCandidates group now).map InboxRow.packetId).take (max 1 (min limit 100)).toNat := by
  rcases claimConsumerMessages_cases rt groupId owner limit lease now draws s with
    ⟨e,ht⟩ | ⟨group',claims',d,hgroup',-,hrows,ht⟩
  · rw [ht] at h
    cases h
  · rw [ht] at h
    cases h
    obtain rfl := Option.some.inj (hgroup.symm.trans hgroup')
    obtain ⟨hlen,hitems⟩ := claimRows_items hrows
    rw [← List.map_take]
    apply List.ext_getElem
    · rw [List.length_map,List.length_map,hlen]
      rfl
    · intro n h₁ h₂
      rw [List.length_map] at h₁
      obtain ⟨-,-,-,row,hrow,hpacket⟩ := hitems n claims[n] (List.getElem?_eq_getElem h₁)
      rw [List.getElem_map,List.getElem_map,hpacket]
      congr 1
      exact (List.getElem?_eq_some_iff.mp hrow).2.symm

/-- A message inserted after the group was opened at the latest message is
selected for the group, at every later time at which it is not held or settled,
exactly when the largest rowid at its insertion had not fallen below the cut-off;
a message that was there before is never selected; a claim returns what is
selected, oldest first. -/
theorem latest_group_delivers (rt : Runtime) {w w₁ : WorkWorld} {groupId : ConsumerId}
    {start kindPrefix senderId : String} {trustedOnly includeTransient : Bool} {now : ℤ}
    {group : ConsumerGroup} (hstart : lower (strip start) = "latest")
    (hopen : openConsumerGroup groupId start kindPrefix senderId trustedOnly includeTransient now
      w.store = (.ok (group,true),w₁.store)) :
    (∀ w₂ w₃ w₄ packetId i now', Reaches (WorkStep rt) w₁ w₂ → WorkStep rt w₂ w₃ →
      w₂.store.inbox.get packetId = none → (w₃.store.inbox.get packetId).isSome →
      Reaches (StepKeeping rt packetId) w₃ w₄ → w₄.store.inbox.get packetId = some i →
      group.filters i → claimable w₄.store.consumerDeliveries groupId.val now' packetId →
        (selected w₄.store group now' packetId ↔ group.startAfterRowid ≤ w₂.store.maxRowid)) ∧
    (∀ w₄ packetId now', (w.store.inbox.get packetId).isSome →
      Reaches (StepKeeping rt packetId) w₁ w₄ → ¬ selected w₄.store group now' packetId) ∧
    ∀ w₄ (owner : ConsumerId) limit lease now' draws claims, Reaches (WorkStep rt) w₁ w₄ →
      (claimConsumerMessages rt groupId owner limit lease now' draws w₄.store).1 = .ok claims →
        claims.map (fun c => c.item.packetId) =
          ((w₄.store.claimCandidates group now').map InboxRow.packetId).take
            (max 1 (min limit 100)).toNat := by
  obtain ⟨hid,hcut,hinbox,hopened⟩ := openConsumerGroup_new hopen hstart
  refine ⟨?_,?_,?_⟩
  · intro w₂ w₃ w₄ packetId i now' _ hinsert hnone hsome hkeep hi hfilters hclaim
    obtain ⟨i₃,hi₃⟩ := Option.isSome_iff_exists.mp hsome
    have hrow₃ := inserted_rowid hinsert hnone hi₃
    obtain ⟨i₄,hi₄,hrow₄⟩ := rowid_run hi₃ hkeep
    obtain rfl := Option.some.inj (hi.symm.trans hi₄)
    rw [selected_iff]
    constructor
    · rintro ⟨i',hi',hadmitteds,-⟩
      obtain rfl := Option.some.inj (hi.symm.trans hi')
      have hafter := hadmitteds.1
      omega
    · intro hle
      exact ⟨i,hi,⟨by omega,hfilters⟩,by rwa [hid]⟩
  · rintro w₄ packetId now' hsome hkeep
    obtain ⟨i,hi⟩ := Option.isSome_iff_exists.mp hsome
    obtain ⟨i₄,hi₄,hrow⟩ := rowid_run (by rw [hinbox]; exact hi) hkeep
    rw [selected_iff]
    rintro ⟨i',hi',hadmitteds,-⟩
    obtain rfl := Option.some.inj (hi₄.symm.trans hi')
    have hmax := rowid_le_max hi
    have hafter := hadmitteds.1
    omega
  · intro w₄ owner limit lease now' draws claims hrun hclaims
    exact claim_selected (group_run hopened hrun) hclaims

end Runs

section Sample

def openLatest : WorkOp := .openGroup notesGroup "latest" "" "" true false 2000

def latestNotes (startAfterRowid : ℕ) : ConsumerGroup :=
  ⟨"notes",2000,startAfterRowid,"","",true,false⟩

def latestWorld : WorkWorld := WorkWorld.initial.after noteRuntime openLatest

def deliveredWorld : WorkWorld :=
  latestWorld.after noteRuntime (.addInbox noteMessage true true 3000)

theorem latest_group_delivers_sample : selected deliveredWorld.store (latestNotes 0) 4000 "p" := by
  have hopen : openConsumerGroup notesGroup "latest" "" "" true false 2000
      WorkWorld.initial.store = (.ok (latestNotes 0,true),latestWorld.store) := rfl
  have hall := latest_group_delivers noteRuntime (by decide) hopen
  refine (hall.1 latestWorld deliveredWorld deliveredWorld "p" _ 4000 .refl ⟨_,?_,rfl⟩ rfl rfl .refl
    rfl (by decide) ?_).mpr (Nat.zero_le _)
  · trivial
  · intro r hr
    cases hr

/-- A transient message is the newest when the group is opened, and is purged. -/
def transientWorld : WorkWorld :=
  WorkWorld.initial.after noteRuntime (.addInbox { noteMessage with packetId := "old" } true false 1000)

def openedLate : WorkWorld := transientWorld.after noteRuntime openLatest

def purgedWorld : WorkWorld := openedLate.after noteRuntime (.purge 9 0 100000)

def skippedWorld : WorkWorld :=
  purgedWorld.after noteRuntime (.addInbox noteMessage true true 110000)

/-- The rowid of the purged message is given to the next one, which the group never sees. -/
theorem latest_group_skips : ¬ ∀ (w w₁ : WorkWorld) (now : ℤ) (group : ConsumerGroup),
    Reaches (WorkStep noteRuntime) WorkWorld.initial w →
    openConsumerGroup notesGroup "latest" "" "" true false now w.store =
      (.ok (group,true),w₁.store) →
    ∀ w₂ w₃ packetId i now', Reaches (WorkStep noteRuntime) w₁ w₂ → WorkStep noteRuntime w₂ w₃ →
      w₂.store.inbox.get packetId = none → w₃.store.inbox.get packetId = some i →
      group.filters i → claimable w₃.store.consumerDeliveries notesGroup.val now' packetId →
        selected w₃.store group now' packetId := by
  intro hclaim
  have hselected := hclaim transientWorld openedLate 2000 (latestNotes 1)
    (.single (workStep_after _ trivial)) rfl purgedWorld skippedWorld "p" _ 120000
    (.single (workStep_after _ trivial)) (workStep_after _ trivial) rfl rfl (by decide)
    (fun r hr => by cases hr)
  obtain ⟨i,hi,-⟩ := hselected
  have hnone : skippedWorld.store.claimCandidates (latestNotes 1) 120000 = [] := rfl
  rw [hnone] at hi
  cases hi

end Sample
end Anet
