import Anet.AhubCustody

/-! Draining a mailbox. The loop of `claim` passes over a packet that does not fit what is left of
the byte limit; where every packet fits the limit alone, each claim hands out a packet as long as
one waits, and claims that are settled empty the mailbox of its destination. -/
namespace Anet

/-- The rows that the loop of `claim` hands out. -/
def budgeted (maxBytes : Option ℤ) : (claimedBytes : ℕ) → List MailboxRow → List MailboxRow
  | _,[] => []
  | claimedBytes,row :: rows =>
    if ∃ m ∈ maxBytes, m < (claimedBytes + row.sizeBytes : ℕ) then
      budgeted maxBytes claimedBytes rows
    else row :: budgeted maxBytes (claimedBytes + row.sizeBytes) rows

section Budget

variable (maxBytes : Option ℤ)

theorem budgeted_sublist (claimedBytes : ℕ) (rows : List MailboxRow) :
    (budgeted maxBytes claimedBytes rows).Sublist rows := by
  induction rows generalizing claimedBytes with
  | nil => exact List.Sublist.refl _
  | cons row rows ih =>
    rw [budgeted]
    split
    · exact (ih claimedBytes).cons row
    · exact (ih _).cons_cons row

/-- What is handed out stays within the limit. -/
theorem budgeted_le (claimedBytes : ℕ) (rows : List MailboxRow) (m : ℤ) (hm : m ∈ maxBytes)
    (h : (claimedBytes : ℤ) ≤ m) :
    (claimedBytes +
      ((budgeted maxBytes claimedBytes rows).map MailboxRow.sizeBytes).sum : ℕ) ≤ m := by
  induction rows generalizing claimedBytes with
  | nil => simpa [budgeted] using h
  | cons row rows ih =>
    rw [budgeted]
    split
    · exact ih claimedBytes h
    · next hfits =>
      have hstep : ((claimedBytes + row.sizeBytes : ℕ) : ℤ) ≤ m :=
        not_lt.mp fun hlt => hfits ⟨m,hm,hlt⟩
      have hrest := ih _ hstep
      rw [List.map_cons,List.sum_cons]
      rw [← add_assoc]
      exact hrest

/-- A packet is handed out exactly when one of the rows fits the limit alone. -/
theorem budgeted_ne_nil (rows : List MailboxRow) : budgeted maxBytes 0 rows ≠ [] ↔
    ∃ row ∈ rows, ∀ m ∈ maxBytes, (row.sizeBytes : ℤ) ≤ m := by
  induction rows with
  | nil => simp [budgeted]
  | cons row rows ih =>
    rw [budgeted]
    split
    · next hover =>
      rw [ih]
      obtain ⟨m,hm,hlt⟩ := hover
      constructor
      · rintro ⟨r,hr,hfits⟩
        exact ⟨r,List.mem_cons_of_mem _ hr,hfits⟩
      · rintro ⟨r,hr,hfits⟩
        rcases List.mem_cons.mp hr with rfl | hr
        · have hle := hfits m hm
          rw [zero_add] at hlt
          omega
        · exact ⟨r,hr,hfits⟩
    · next hfits =>
      refine ⟨fun _ => ⟨row,List.mem_cons_self ..,fun m hm => ?_⟩,fun _ => List.cons_ne_nil _ _⟩
      have hle : ¬ m < (0 + row.sizeBytes : ℕ) := fun hlt => hfits ⟨m,hm,hlt⟩
      rw [zero_add] at hle
      omega

end Budget

theorem MailboxRow.of_released {r r' : MailboxRow} (h : r.released = r'.released) :
    r.raw = r'.raw ∧ r.destinationId = r'.destinationId ∧ r.uploaderId = r'.uploaderId ∧
      r.expiresMs = r'.expiresMs :=
  ⟨congrArg (fun x => x.raw) h,congrArg (fun x => x.destinationId) h,
    congrArg (fun x => x.uploaderId) h,congrArg (fun x => x.expiresMs) h⟩

/-- A packet that is handed out, as the destination sees it. -/
def MailboxRow.parcel (r : MailboxRow) : String × Bytes := (r.packetId,r.raw)

def ClaimedPacket.parcel (c : ClaimedPacket) : String × Bytes := (c.packetId,c.raw)

/-- A filter that drops an element lowers the count that counts it. -/
theorem countP_filter_lt {α : Type*} {l : List α} {p q : α → Bool} {x : α} (hx : x ∈ l) (hp : p x)
    (hq : ¬ q x) : (l.filter q).countP p < l.countP p := by
  rw [List.countP_eq_length_filter,List.countP_eq_length_filter]
  have hsub : ((l.filter q).filter p).Sublist (l.filter p) := List.filter_sublist.filter p
  refine lt_of_le_of_ne hsub.length_le fun hlength => ?_
  have hmem : x ∈ l.filter p := List.mem_filter.mpr ⟨hx,hp⟩
  rw [← hsub.eq_of_length hlength] at hmem
  exact hq (List.mem_filter.mp (List.mem_filter.mp hmem).1).2

namespace AhubStore

variable {lib : ControlLibrary} {s : AhubStore}

/-- The loop of `claim` on free rows of the mailbox. -/
theorem claimRows_budgeted (lib : ControlLibrary) (claimUntil : ℤ) (maxBytes : Option ℤ) (tokens : ℕ → String)
    (rows : List MailboxRow) (claimedBytes n : ℕ) (s : AhubStore)
    (hrows : ∀ r ∈ rows, s.mailbox.get r.packetId = some r ∧ r.claimTokenHash = none)
    (hnodup : (rows.map MailboxRow.packetId).Nodup) :
    (claimRows lib claimUntil maxBytes tokens rows claimedBytes n s).1.map ClaimedPacket.parcel =
      (budgeted maxBytes claimedBytes rows).map MailboxRow.parcel := by
  induction rows generalizing claimedBytes n s with
  | nil => rfl
  | cons row rows ih =>
    rw [List.map_cons,List.nodup_cons] at hnodup
    have hrest : ∀ r ∈ rows, s.mailbox.get r.packetId = some r ∧ r.claimTokenHash = none :=
      fun r hr => hrows r (List.mem_cons_of_mem _ hr)
    obtain ⟨hget,hnone⟩ := hrows row (List.mem_cons_self ..)
    unfold claimRows budgeted
    split_ifs
    · exact ih claimedBytes n s hrest hnodup.2
    · have hfree : (s.mailbox.get row.packetId).filter (fun r => r.claimTokenHash = none) =
          some row := by
        rw [hget]
        simp [hnone]
      rw [hfree]
      dsimp only
      rw [List.map_cons,List.map_cons]
      refine congrArg₂ List.cons rfl (ih _ _ _ (fun r hr => ?_) hnodup.2)
      have hother : r.packetId ≠ row.packetId := fun heq =>
        hnodup.1 (heq ▸ List.mem_map_of_mem hr)
      have hget' := Table.get_update s.mailbox
        (fun r => r.packetId = row.packetId ∧ r.claimTokenHash = none)
        (.claimed (lib.sha256 (utf8 (tokens n))) claimUntil) (fun _ => rfl) (noMarks_subset _)
          r.packetId
      rw [(hrest r hr).1,Option.map_some,if_neg fun h => hother h.1] at hget'
      exact ⟨hget',(hrest r hr).2⟩

/-- The packets a destination can be handed, from one uploader or from all. -/
def waiting (nodeId : String) (uploaderId : Option String) (s : AhubStore) : List MailboxRow :=
  s.mailbox.select fun r => r.destinationId = nodeId ∧ (∀ u ∈ uploaderId, r.uploaderId = u) ∧
    r.claimTokenHash = none

theorem mem_waiting {nodeId : String} {uploaderId : Option String} {r : MailboxRow} :
    r ∈ s.waiting nodeId uploaderId ↔ s.mailbox.get r.packetId = some r ∧ r.destinationId = nodeId ∧
      (∀ u ∈ uploaderId, r.uploaderId = u) ∧ r.claimTokenHash = none := Table.mem_select

theorem mem_claimable {nodeId : String} {uploaderId : Option String} {limit : ℤ} {r : MailboxRow}
    (h : r ∈ s.claimable nodeId uploaderId limit) : r ∈ s.waiting nodeId uploaderId := by
  have hmem := List.mem_of_mem_take h
  rwa [List.mem_insertionSort] at hmem

theorem claimable_nodup (nodeId : String) (uploaderId : Option String) (limit : ℤ) :
    ((s.claimable nodeId uploaderId limit).map MailboxRow.packetId).Nodup := by
  have hsorted := (List.perm_insertionSort MailboxRow.before
    (s.waiting nodeId uploaderId)).map MailboxRow.packetId
  have hwaiting : ((s.waiting nodeId uploaderId).map MailboxRow.packetId).Nodup :=
    s.mailbox.keys.sublist (List.filter_sublist.map _)
  exact (hsorted.nodup_iff.mpr hwaiting).sublist ((List.take_sublist ..).map _)

/-- The first rows are there as long as any is. -/
theorem claimable_ne_nil {nodeId : String} {uploaderId : Option String} {limit : ℤ}
    (hlimit : 1 ≤ limit) (h : s.waiting nodeId uploaderId ≠ []) :
    s.claimable nodeId uploaderId limit ≠ [] := by
  have hlength : 0 < ((s.waiting nodeId uploaderId).insertionSort MailboxRow.before).length := by
    rw [List.length_insertionSort]
    exact List.length_pos_iff.mpr h
  intro hnil
  have hzero := congrArg List.length hnil
  unfold claimable at hzero
  rw [List.length_take,List.length_nil] at hzero
  change min limit.toNat ((s.waiting nodeId uploaderId).insertionSort _).length = 0 at hzero
  omega

/-- What a claim that goes through hands out, and what it leaves. -/
theorem claim_budgeted {request : AhubRequest} {descriptor : NodeDescriptor} {body : Bytes}
    {limit leaseMs : ℤ} {maxBytes : Option ℤ} {uploaderId : Option String} {tokens : ℕ → String}
    {now : ℤ} {packets : List ClaimedPacket} {s' : AhubStore}
    (h : s.claim lib request descriptor body limit leaseMs maxBytes uploaderId tokens now =
      .ok (packets,s')) :
    1 ≤ limit ∧ packets.map ClaimedPacket.parcel = (budgeted maxBytes 0
        ((s.purge now).claimable request.nodeId uploaderId limit)).map MailboxRow.parcel ∧
      s'.contents = (s.purge now).contents ∧
      ∀ p, (∀ c ∈ packets, c.packetId ≠ p) → s'.mailbox.get p = (s.purge now).mailbox.get p := by
  simp only [claim,bind_ok,raiseIf_ok,not_not] at h
  obtain ⟨_,hlimit,_,-,_,-,_,-,b,hb,hval⟩ := h
  obtain ⟨-,-,nonces,-,rfl⟩ := beginSigned_ok.mp hb
  have hrun := Except.ok.inj hval
  have hspec := claimRows_spec lib (now + leaseMs) maxBytes tokens
    (({ s.purge now with nonces := nonces } : AhubStore).claimable request.nodeId uploaderId limit)
      0 0 { s.purge now with nonces := nonces }
  have hparcels := claimRows_budgeted lib (now + leaseMs) maxBytes tokens
    ((s.purge now).claimable request.nodeId uploaderId limit) 0 0
      { s.purge now with nonces := nonces } (fun r hr => ?_) (claimable_nodup ..)
  · dsimp only at hspec
    rw [hrun] at hspec
    change (claimRows lib (now + leaseMs) maxBytes tokens (({ s.purge now with nonces := nonces } :
      AhubStore).claimable request.nodeId uploaderId limit) 0 0 _).1.map _ = _ at hparcels
    rw [hrun] at hparcels
    exact ⟨hlimit.1,hparcels,hspec.1,hspec.2.2.1⟩
  · obtain ⟨hget,-,-,hnone⟩ := mem_waiting.mp (mem_claimable hr)
    exact ⟨hget,hnone⟩

end AhubStore

/-- A settlement that the destination sends for a packet it was handed. -/
structure SettleCall where
  request : AhubRequest
  descriptor : NodeDescriptor
  body : Bytes
  proof : DestinationSettlement
  now : ℤ

/-- A claim and the settlements of what it hands out. -/
structure DrainRound where
  request : AhubRequest
  descriptor : NodeDescriptor
  body : Bytes
  limit : ℤ
  leaseMs : ℤ
  tokens : ℕ → String
  now : ℤ
  settlements : List SettleCall

def DrainRound.times (r : DrainRound) : List ℤ := r.now :: r.settlements.map SettleCall.now

namespace AhubStore

variable (lib : ControlLibrary) (maxBytes : Option ℤ) (uploaderId : Option String)

/-- One settlement after the other, each of which goes through. -/
def settleAll : List ClaimedPacket → List SettleCall → AhubStore → Option AhubStore
  | [],[],s => some s
  | c :: cs,p :: ps,s =>
    match s.settle lib p.request p.descriptor p.body c.packetId c.claimToken p.proof p.now with
    | .ok (true,s) => settleAll cs ps s
    | _ => none
  | _,_,_ => none

def runRound (r : DrainRound) (s : AhubStore) : Option (List ClaimedPacket × AhubStore) :=
  match s.claim lib r.request r.descriptor r.body r.limit r.leaseMs maxBytes uploaderId r.tokens
      r.now with
  | .ok (packets,s) => (settleAll lib packets r.settlements s).map fun s => (packets,s)
  | .error _ => none

/-- Rounds that all go through, with everything they hand out. -/
def drain : List DrainRound → AhubStore → Option (List ClaimedPacket × AhubStore)
  | [],s => some ([],s)
  | r :: rs,s => do
    let round ← runRound lib maxBytes uploaderId r s
    let rest ← drain rs round.2
    return (round.1 ++ rest.1,rest.2)

section Drain

variable {lib} {maxBytes} {uploaderId} {s s' : AhubStore}

/-- The packets held for a node. -/
def held (nodeId : String) (s : AhubStore) : ℕ :=
  s.contents.countP fun r => r.destinationId = nodeId

theorem purge_sublist (now : ℤ) (s : AhubStore) : (s.purge now).contents.Sublist s.contents := by
  rw [contents_purge]
  exact List.filter_sublist

/-- A free row that has not expired is there after a purge. -/
theorem purge_free {p : String} {r : MailboxRow} {now : ℤ} (hr : s.mailbox.get p = some r)
    (hfree : r.claimTokenHash = none) (hlive : now < r.expiresMs) :
    ∃ r', (s.purge now).mailbox.get p = some r' ∧ r'.claimTokenHash = none ∧
      r'.released = r.released := by
  refine ⟨if r.leaseOver now then r.released else r,?_,?_,?_⟩
  · rw [get_purge,hr,Option.filter_some,if_pos (by simpa using hlive)]
    rfl
  · split
    · rfl
    · exact hfree
  · split <;> rfl

/-- A settlement that goes through takes its packet out of the mailbox, and no other. -/
theorem settle_removes {request : AhubRequest} {descriptor : NodeDescriptor} {body : Bytes}
    {packetId claimToken : String} {proof : DestinationSettlement} {now : ℤ}
    (h : s.settle lib request descriptor body packetId claimToken proof now = .ok (true,s')) :
    (∃ r ∈ (s.purge now).contents, r.packetId = packetId) ∧
      s'.contents = (s.purge now).contents.filter (fun r => ¬ r.packetId = packetId) ∧
      ∀ p, p ≠ packetId → s'.mailbox.get p = (s.purge now).mailbox.get p := by
  simp only [settle,bind_ok] at h
  obtain ⟨_,-,b,hb,h⟩ := h
  obtain ⟨-,-,nonces,-,rfl⟩ := beginSigned_ok.mp hb
  cases hrow : (s.purge now).mailbox.get packetId with
  | none =>
    simp only [hrow] at h
    cases h
  | some row =>
    simp only [hrow,bind_ok] at h
    obtain ⟨_,-,_,-,_,-,_,-,_,-,hval⟩ := h
    cases hval
    have hid := Table.get_key hrow
    refine ⟨⟨row.released,mem_contents.mpr ⟨row,?_,rfl⟩,hid⟩,?_,fun p hp => ?_⟩
    · rw [show row.released.packetId = packetId from hid]
      exact hrow
    · exact contents_delete (s.purge now).mailbox (fun r => r.packetId = packetId) fun _ => Iff.rfl
    · refine (Table.get_delete (s.purge now).mailbox (fun r => r.packetId = packetId) p).trans ?_
      cases hget : (s.purge now).mailbox.get p with
      | none => rfl
      | some r =>
        have hkey : r.packetId = p := Table.get_key hget
        simp [hkey,hp]

/-- What settlements leave: fewer packets of the node, and every free row that they do not name. -/
theorem settleAll_removes (nodeId : String) {cs : List ClaimedPacket} {ps : List SettleCall}
    (h : settleAll lib cs ps s = some s') (hdestination : ∀ c ∈ cs, ∀ r ∈ s.contents,
      r.packetId = c.packetId → r.destinationId = nodeId) :
    s'.contents.Sublist s.contents ∧ s'.held nodeId + cs.length ≤ s.held nodeId ∧
      ∀ p r, s.mailbox.get p = some r → r.claimTokenHash = none → (∀ c ∈ cs, c.packetId ≠ p) →
        (∀ t ∈ ps.map SettleCall.now, t < r.expiresMs) →
          ∃ r', s'.mailbox.get p = some r' ∧ r'.claimTokenHash = none ∧
            r'.released = r.released := by
  induction cs generalizing ps s with
  | nil =>
    cases ps with
    | nil =>
      cases h
      exact ⟨List.Sublist.refl _,le_rfl,fun p r hr hfree _ _ => ⟨r,hr,hfree,rfl⟩⟩
    | cons p ps => cases h
  | cons c cs ih =>
    cases ps with
    | nil => cases h
    | cons call calls =>
      simp only [settleAll] at h
      split at h
      · next s₁ hsettle =>
        obtain ⟨⟨row,hrow,hid⟩,hcontents,hothers⟩ := settle_removes hsettle
        have hsub : s₁.contents.Sublist s.contents := by
          rw [hcontents]
          exact List.filter_sublist.trans (purge_sublist call.now s)
        obtain ⟨hrest,hheld,hfree⟩ := ih h fun c hc r hr =>
          hdestination c (List.mem_cons_of_mem _ hc) r (hsub.subset hr)
        have hone : s₁.held nodeId + 1 ≤ s.held nodeId := by
          have hless : (s₁.contents).countP (fun r => r.destinationId = nodeId) <
              (s.purge call.now).contents.countP fun r => r.destinationId = nodeId := by
            have hmine := hdestination c (List.mem_cons_self ..) row
              ((purge_sublist call.now s).subset hrow) hid
            rw [hcontents]
            exact countP_filter_lt hrow (decide_eq_true hmine) (by simpa using hid)
          exact lt_of_lt_of_le hless (purge_sublist call.now s).countP_le
        refine ⟨hrest.trans hsub,?_,?_⟩
        · rw [List.length_cons]
          omega
        · intro p r hr hnone hnot htimes
          obtain ⟨r₁,hr₁,hnone₁,hsame⟩ := purge_free hr hnone
            (htimes _ (List.mem_cons_self ..))
          have hp : p ≠ c.packetId := fun heq => hnot c (List.mem_cons_self ..) heq.symm
          obtain ⟨-,-,-,hexpires⟩ := MailboxRow.of_released hsame
          obtain ⟨r',hr',hnone',hsame'⟩ := hfree p r₁ ((hothers p hp).trans hr₁) hnone₁
            (fun c hc => hnot c (List.mem_cons_of_mem _ hc)) (fun t ht => by
              rw [hexpires]
              exact htimes t (List.mem_cons_of_mem _ ht))
          exact ⟨r',hr',hnone',hsame'.trans hsame⟩
      · cases h

/-- A round hands out what it takes away; as long as a packet waits that fits, it takes one. -/
theorem runRound_removes {round : DrainRound} {packets : List ClaimedPacket} {nodeId : String}
    (hnode : round.request.nodeId = nodeId)
    (h : runRound lib maxBytes uploaderId round s = some (packets,s')) :
    s'.contents.Sublist s.contents ∧ s'.held nodeId + packets.length ≤ s.held nodeId ∧
    ∀ p r, s.mailbox.get p = some r → r.claimTokenHash = none → r.destinationId = nodeId →
      (∀ u ∈ uploaderId, r.uploaderId = u) → (∀ t ∈ round.times, t < r.expiresMs) →
        ((∀ r ∈ s.contents, ∀ m ∈ maxBytes, (r.sizeBytes : ℤ) ≤ m) → packets ≠ []) ∧
        ((p,r.raw) ∈ packets.map ClaimedPacket.parcel ∨
          ∃ r', s'.mailbox.get p = some r' ∧ r'.claimTokenHash = none ∧
            r'.released = r.released) := by
  simp only [runRound] at h
  split at h
  · next packets' s₁ hclaim =>
    obtain ⟨s₂,hsettle,heq⟩ := Option.map_eq_some_iff.mp h
    cases heq
    obtain ⟨hlimit,hparcels,hcontents,hothers⟩ := claim_budgeted hclaim
    rw [hnode] at hparcels
    have hsub : s₁.contents.Sublist s.contents := by
      rw [hcontents]
      exact purge_sublist round.now s
    -- what is handed out stands in the mailbox for the node
    have hrows : ∀ c ∈ packets, ∃ r, (s.purge round.now).mailbox.get c.packetId = some r ∧
        r.destinationId = nodeId ∧ c.raw = r.raw := by
      intro c hc
      have hmem : c.parcel ∈ packets.map ClaimedPacket.parcel := List.mem_map_of_mem hc
      rw [hparcels] at hmem
      obtain ⟨r,hr,hparcel⟩ := List.mem_map.mp hmem
      obtain ⟨hget,hdestination,-⟩ :=
        mem_waiting.mp (mem_claimable ((budgeted_sublist maxBytes 0 _).subset hr))
      obtain ⟨hid,hraw⟩ := Prod.mk.inj hparcel
      exact ⟨r,hid ▸ hget,hdestination,hraw.symm⟩
    obtain ⟨hrest,hheld,hfree⟩ := settleAll_removes nodeId hsettle fun c hc r hr hid => by
      obtain ⟨row,hrow,hdestination,-⟩ := hrows c hc
      rw [hcontents] at hr
      obtain ⟨row',hrow',rfl⟩ := mem_contents.mp hr
      rw [hid,hrow] at hrow'
      cases hrow'
      exact hdestination
    have hpurged : s₁.held nodeId ≤ s.held nodeId := hsub.countP_le
    refine ⟨hrest.trans hsub,by omega,fun p r hr hnone hdestination huploader htimes => ?_⟩
    obtain ⟨r₁,hr₁,hnone₁,hsame⟩ := purge_free hr hnone (htimes _ (List.mem_cons_self ..))
    obtain ⟨hraw,hdestination₁,huploader₁,hexpires⟩ := MailboxRow.of_released hsame
    constructor
    · intro hfits hempty
      have hid := Table.get_key hr₁
      have hwaits : r₁ ∈ (s.purge round.now).waiting nodeId uploaderId :=
        mem_waiting.mpr ⟨by rw [hid]; exact hr₁,hdestination₁.trans hdestination,
          fun u hu => huploader₁.trans (huploader u hu),hnone₁⟩
      obtain ⟨row,hrow⟩ := List.exists_mem_of_ne_nil _
        (claimable_ne_nil hlimit (List.ne_nil_of_mem hwaits))
      have htaken := (budgeted_ne_nil maxBytes _).mpr ⟨row,hrow,fun m hm => by
        obtain ⟨hget,-⟩ := mem_waiting.mp (mem_claimable hrow)
        exact hfits row.released ((purge_sublist round.now s).subset
          (mem_contents.mpr ⟨row,hget,rfl⟩)) m hm⟩
      rw [hempty,List.map_nil] at hparcels
      exact htaken (List.map_eq_nil_iff.mp hparcels.symm)
    · by_cases hout : ∃ c ∈ packets, c.packetId = p
      · obtain ⟨c,hc,rfl⟩ := hout
        obtain ⟨row,hrow,-,hcraw⟩ := hrows c hc
        rw [hr₁] at hrow
        cases hrow
        exact .inl (List.mem_map.mpr ⟨c,hc,Prod.ext rfl (hcraw.trans hraw)⟩)
      · simp only [not_exists,not_and] at hout
        obtain ⟨r',hr',hnone',hsame'⟩ := hfree p r₁ ((hothers p hout).trans hr₁) hnone₁ hout
          fun t ht => by
            rw [hexpires]
            exact htimes t (List.mem_cons_of_mem _ ht)
        exact .inr ⟨r',hr',hnone',hsame'.trans hsame⟩
  · cases h

/-- As many rounds as the node has packets hand out every packet that was free. -/
theorem drain_hands_out {rounds : List DrainRound} {packets : List ClaimedPacket} {nodeId : String}
    (hnode : ∀ round ∈ rounds, round.request.nodeId = nodeId)
    (hfits : ∀ r ∈ s.contents, ∀ m ∈ maxBytes, (r.sizeBytes : ℤ) ≤ m)
    (h : drain lib maxBytes uploaderId rounds s = some (packets,s'))
    (hrounds : s.held nodeId ≤ rounds.length) {p : String} {r : MailboxRow}
    (hr : s.mailbox.get p = some r) (hfree : r.claimTokenHash = none)
    (hdestination : r.destinationId = nodeId) (huploader : ∀ u ∈ uploaderId, r.uploaderId = u)
    (htimes : ∀ round ∈ rounds, ∀ t ∈ round.times, t < r.expiresMs) :
    (p,r.raw) ∈ packets.map ClaimedPacket.parcel := by
  induction rounds generalizing s packets r with
  | nil =>
    have hid : r.packetId = p := Table.get_key hr
    have hmem : r.released ∈ s.contents := mem_contents.mpr ⟨r,hid ▸ hr,rfl⟩
    have hpos : 0 < s.held nodeId :=
      List.countP_pos_iff.mpr ⟨r.released,hmem,decide_eq_true hdestination⟩
    rw [List.length_nil] at hrounds
    omega
  | cons round rounds ih =>
    obtain ⟨⟨first,s₁⟩,hround,hrest⟩ := Option.bind_eq_some_iff.mp h
    obtain ⟨⟨rest,s₂⟩,hdrain,heq⟩ := Option.bind_eq_some_iff.mp hrest
    cases heq
    obtain ⟨hsub,hheld,hwaits⟩ := runRound_removes (hnode round (List.mem_cons_self ..)) hround
    obtain ⟨hnonempty,hout | ⟨r',hr',hfree',hsame⟩⟩ := hwaits p r hr hfree hdestination huploader
      (htimes round (List.mem_cons_self ..))
    · rw [List.map_append]
      exact List.mem_append_left _ hout
    · have hlength : 0 < first.length := List.length_pos_iff.mpr (hnonempty hfits)
      rw [List.length_cons] at hrounds
      obtain ⟨hraw,hdestination',huploader',hexpires⟩ := MailboxRow.of_released hsame
      have hlater := ih (s := s₁) (r := r') (fun round hround => hnode round
        (List.mem_cons_of_mem _ hround)) (fun r hr => hfits r (hsub.subset hr)) hdrain (by omega) hr'
          hfree' (hdestination'.trans hdestination) (fun u hu => huploader'.trans (huploader u hu))
            fun round hround t ht => by
              rw [hexpires]
              exact htimes round (List.mem_cons_of_mem _ hround) t ht
      rw [hraw] at hlater
      rw [List.map_append]
      exact List.mem_append_right _ hlater

end Drain

/-- The sizes of the packets are their own and within what one wire object can be. -/
def Sized (s : AhubStore) : Prop :=
  ∀ r ∈ s.contents, r.sizeBytes = r.raw.length ∧ r.raw.length ≤ maxWireBytes

theorem Sized.of_sublist {s s' : AhubStore} (h : s.Sized) (hsub : s'.contents.Sublist s.contents) :
    s'.Sized := fun r hr => h r (hsub.subset hr)

/-- An operation that has begun keeps the sizes. -/
theorem Effect.sized {lib : ControlLibrary} {limits : AhubLimits} {request : AhubRequest}
    {descriptor : NodeDescriptor} {body : Bytes} {now : ℤ} {b s : AhubStore} {op : AhubOperation}
    {reply : AhubReply} (h : Effect lib limits request descriptor body now b op reply s)
    (hb : b.Sized) : s.Sized := by
  cases h with
  | quiet reservations hsilent => exact hb
  | stored hpacket hlive hmailbox hsettlements hquota hinsert =>
    intro r hr
    obtain ⟨row,hrow,rfl⟩ := mem_contents.mp hr
    have hget := (Table.get_insert hinsert row.packetId).symm.trans hrow
    split at hget
    · have hlength := (Packet.inspectPacket_ok.mp hpacket).1
      cases hget
      exact ⟨rfl,Packet.inspectPacket_raw hpacket ▸ hlength⟩
    · exact hb row.released (mem_contents.mpr ⟨row,hget,rfl⟩)
  | @claimed limit leaseMs maxBytes uploaderId tokens out hrows =>
    intro r hr
    have hcontents := (claimRows_spec lib (now + leaseMs) maxBytes tokens
      (b.claimable request.nodeId uploaderId limit) 0 0 b).1
    rw [hrows] at hcontents
    exact hb r (hcontents ▸ hr)
  | @settled packetId claimToken proof row hrow hdestination htoken hlive hverify hmatches =>
    refine hb.of_sublist ?_
    have hcontents := contents_delete b.mailbox (fun r => r.packetId = packetId) fun _ => Iff.rfl
    rw [contents,contents]
    change ((b.mailbox.delete fun r => r.packetId = packetId).rows.map _).Sublist _
    rw [hcontents]
    exact List.filter_sublist
  | listed hproofs => exact hb
  | acknowledged hrow howner => exact hb

end AhubStore

namespace CustodyWorld

variable {lib : ControlLibrary} {limits : AhubLimits}

theorem note_store (now : ℤ) (w : CustodyWorld) (call : AhubCall) (reply : Option AhubReply) :
    (note now w call reply).store = w.store := by
  unfold note
  split
  · split <;> rfl
  all_goals rfl

theorem sized_step {w w' : CustodyWorld} (hw : w.store.Sized) (h : CustodyStep lib limits w w') :
    w'.store.Sized := by
  obtain ⟨now,call,rfl⟩ := h
  rcases atomic_cases (AhubStore.callBody lib limits now call) w.store with
    ⟨reply,s,hbody,hrun⟩ | ⟨e,-,hrun⟩
  · have hstore : (w.exec lib limits now call).store = s := by
      rw [exec,hrun]
      exact note_store now _ call reply
    rw [hstore]
    cases call with
    | allow nodeId =>
      simp only [AhubStore.callBody,AhubStore.allowNode,map_ok,bind_ok] at hbody
      obtain ⟨r,⟨_,-,h⟩,hreply⟩ := hbody
      cases hreply
      split_ifs at h
      · cases h
        exact hw
      · obtain ⟨allowlist,-,hval⟩ := bind_ok.mp h
        cases hval
        exact hw
    | disallow nodeId =>
      simp only [AhubStore.callBody,AhubStore.disallowNode,map_ok,bind_ok] at hbody
      obtain ⟨r,⟨_,-,hval⟩,hreply⟩ := hbody
      cases hval
      cases hreply
      exact hw
    | purge =>
      cases hbody
      exact hw.of_sublist (AhubStore.purge_sublist now w.store)
    | mailboxCount nodeId =>
      simp only [AhubStore.callBody,AhubStore.mailboxCount,map_ok,bind_ok] at hbody
      obtain ⟨r,⟨_,-,hval⟩,hreply⟩ := hbody
      cases hval
      cases hreply
      exact hw.of_sublist (AhubStore.purge_sublist now w.store)
    | signed request descriptor body op =>
      obtain ⟨r,hperform,hreply⟩ := map_ok.mp hbody
      cases hreply
      obtain ⟨b,hbegin,heffect⟩ := AhubStore.perform_effect hperform
      obtain ⟨-,-,nonces,-,rfl⟩ := AhubStore.beginSigned_ok.mp hbegin
      exact heffect.sized (hw.of_sublist (AhubStore.purge_sublist now w.store))
  · have hstore : (w.exec lib limits now call).store = w.store := by rw [exec,hrun]
    rw [hstore]
    exact hw

theorem sized_reaches {clock : ℤ} {w : CustodyWorld}
    (h : Reaches (CustodyStep lib limits) (initial clock) w) : w.store.Sized :=
  Reaches.invariant (I := fun w => w.store.Sized) (fun _ _ => sized_step)
    (fun _ hr => by cases hr) h

/-- The byte limit that the claim endpoint works with, whatever a client sends. -/
def claimBytes : Option ℤ := some maxWireBytes

/-- The raw bytes that a claim returns. -/
def totalBytes (packets : List ClaimedPacket) : ℕ := (packets.map fun c => c.raw.length).sum

theorem claimed_length {s s' : AhubStore} (hs : s.Sized) {request : AhubRequest}
    {descriptor : NodeDescriptor} {body : Bytes} {limit leaseMs : ℤ} {maxBytes : Option ℤ}
    {uploaderId : Option String} {tokens : ℕ → String} {now : ℤ} {packets : List ClaimedPacket}
    (h : s.claim lib request descriptor body limit leaseMs maxBytes uploaderId tokens now =
      .ok (packets,s')) {m : ℤ} (hm : m ∈ maxBytes) (hpositive : 0 ≤ m) :
    (totalBytes packets : ℤ) ≤ m := by
  obtain ⟨-,hparcels,-,-⟩ := AhubStore.claim_budgeted h
  have hle := budgeted_le maxBytes 0 ((s.purge now).claimable request.nodeId uploaderId limit) m hm hpositive
  have hsizes : (packets.map fun c => c.raw.length) = (budgeted maxBytes 0
      ((s.purge now).claimable request.nodeId uploaderId limit)).map MailboxRow.sizeBytes := by
    have hlengths := congrArg (List.map fun x : String × Bytes => x.2.length) hparcels
    rw [List.map_map,List.map_map] at hlengths
    refine hlengths.trans (List.map_congr_left fun r hr => ?_)
    obtain ⟨hget,-⟩ := AhubStore.mem_waiting.mp
      (AhubStore.mem_claimable ((budgeted_sublist maxBytes 0 _).subset hr))
    have hsized := hs.of_sublist (AhubStore.purge_sublist now s) r.released
      (AhubStore.mem_contents.mpr ⟨r,hget,rfl⟩)
    exact hsized.1.symm
  rw [zero_add,← hsizes] at hle
  exact hle

end CustodyWorld

open CustodyWorld ControlPlane

/-- Claims drain a mailbox. At the endpoint each claim hands out a packet as long as one waits, at
most one wire object's bytes at once, and as many settled claims as the destination has packets
hand out all that was free; under any other byte limit a claim comes back empty exactly when none
of the first packets fits it. -/
theorem mailbox_claims_drain (lib : ControlLibrary) (limits : AhubLimits) (clock : ℤ)
    (w : CustodyWorld) (hrun : Reaches (CustodyStep lib limits) (initial clock) w) :
    (∀ request descriptor body limit leaseMs uploaderId tokens now packets s',
      w.store.claim lib request descriptor body limit leaseMs claimBytes uploaderId tokens now =
        .ok (packets,s') →
      ((w.store.purge now).waiting request.nodeId uploaderId ≠ [] → packets ≠ []) ∧
        totalBytes packets ≤ maxWireBytes) ∧
    (∀ nodeId uploaderId rounds packets s', (∀ round ∈ rounds, round.request.nodeId = nodeId) →
      AhubStore.drain lib claimBytes uploaderId rounds w.store = some (packets,s') →
      w.store.held nodeId ≤ rounds.length → ∀ r ∈ w.store.waiting nodeId uploaderId,
        (∀ round ∈ rounds, ∀ t ∈ round.times, t < r.expiresMs) →
          (r.packetId,r.raw) ∈ packets.map ClaimedPacket.parcel) ∧
    ∀ request descriptor body limit leaseMs maxBytes uploaderId tokens now packets s',
      w.store.claim lib request descriptor body limit leaseMs maxBytes uploaderId tokens now =
        .ok (packets,s') →
      (packets ≠ [] ↔ ∃ r ∈ (w.store.purge now).claimable request.nodeId uploaderId limit,
        ∀ m ∈ maxBytes, (r.sizeBytes : ℤ) ≤ m) ∧
      ∀ m ∈ maxBytes, 0 ≤ m → (totalBytes packets : ℤ) ≤ m := by
  have hsized := sized_reaches hrun
  have hfits : ∀ r ∈ w.store.contents, ∀ m ∈ claimBytes, (r.sizeBytes : ℤ) ≤ m := by
    intro r hr m hm
    obtain ⟨hsize,hlength⟩ := hsized r hr
    cases hm
    rw [hsize]
    exact_mod_cast hlength
  have hempty : ∀ {request descriptor body limit leaseMs maxBytes uploaderId tokens now packets s'},
      w.store.claim lib request descriptor body limit leaseMs maxBytes uploaderId tokens now =
        .ok (packets,s') →
      (packets ≠ [] ↔ ∃ r ∈ (w.store.purge now).claimable request.nodeId uploaderId limit,
        ∀ m ∈ maxBytes, (r.sizeBytes : ℤ) ≤ m) := by
    intro request descriptor body limit leaseMs maxBytes uploaderId tokens now packets s' h
    obtain ⟨-,hparcels,-,-⟩ := AhubStore.claim_budgeted h
    have hnil : packets = [] ↔ budgeted maxBytes 0
        ((w.store.purge now).claimable request.nodeId uploaderId limit) = [] := by
      rw [← List.map_eq_nil_iff (f := ClaimedPacket.parcel),hparcels,List.map_eq_nil_iff]
    rw [← budgeted_ne_nil]
    exact not_congr hnil
  refine ⟨?_,?_,?_⟩
  · intro request descriptor body limit leaseMs uploaderId tokens now packets s' h
    obtain ⟨hlimit,-,-,-⟩ := AhubStore.claim_budgeted h
    refine ⟨fun hwaits => (hempty h).mpr ?_,?_⟩
    · obtain ⟨r,hr⟩ := List.exists_mem_of_ne_nil _ (AhubStore.claimable_ne_nil hlimit hwaits)
      obtain ⟨hget,-⟩ := AhubStore.mem_waiting.mp (AhubStore.mem_claimable hr)
      exact ⟨r,hr,fun m hm => hfits r.released ((AhubStore.purge_sublist now w.store).subset
        (AhubStore.mem_contents.mpr ⟨r,hget,rfl⟩)) m hm⟩
    · exact_mod_cast claimed_length hsized h (m := maxWireBytes) rfl (Int.natCast_nonneg _)
  · intro nodeId uploaderId rounds packets s' hnode hdrain hrounds r hr htimes
    obtain ⟨hget,hdestination,huploader,hfree⟩ := AhubStore.mem_waiting.mp hr
    exact AhubStore.drain_hands_out hnode hfits hdrain hrounds hget hfree hdestination huploader
      htimes
  · intro request descriptor body limit leaseMs maxBytes uploaderId tokens now packets s' h
    exact ⟨hempty h,fun m hm hpositive => claimed_length hsized h hm hpositive⟩


section Sample

/-- The packet of the samples is uploaded and waits for its destination. -/
def uploadedWorld : CustodyWorld := runAll (mailCalls.take 3)

def mailRound : DrainRound :=
  ⟨mailRequest destination "nonce-of-the-claim" [],
    plainDescriptor 2 1 genesisDigest 1000 600000,[],1,5000,fun _ => "token",1000,
    [⟨mailRequest destination "nonce-of-the-proof" [],
      plainDescriptor 2 1 genesisDigest 1000 600000,[],mailedProof,1000⟩]⟩

/-- The drain of the world comes to its end, and one packet waited in it. -/
theorem uploadedWorld_drains :
    (AhubStore.drain plainControl claimBytes none [mailRound] uploadedWorld.store).isSome = true ∧
      (uploadedWorld.store.waiting destination.nodeId none).map (fun r =>
        (r.packetId,r.raw,r.expiresMs)) = [(mailedId,mailedPacket,90000)] ∧
      uploadedWorld.store.held destination.nodeId ≤ [mailRound].length := by decide +kernel

theorem mailbox_claims_drain_sample : ∃ packets s',
    AhubStore.drain plainControl claimBytes none [mailRound] uploadedWorld.store =
        some (packets,s') ∧
      (mailedId,mailedPacket) ∈ packets.map ClaimedPacket.parcel := by
  obtain ⟨hsome,hwaiting,hheld⟩ := uploadedWorld_drains
  obtain ⟨⟨packets,s'⟩,hdrain⟩ := Option.isSome_iff_exists.mp hsome
  have hmem : (mailedId,mailedPacket,(90000 : ℤ)) ∈
      (uploadedWorld.store.waiting destination.nodeId none).map
        fun r => (r.packetId,r.raw,r.expiresMs) := by
    rw [hwaiting]
    exact List.mem_singleton_self _
  obtain ⟨r,hr,hfields⟩ := List.mem_map.mp hmem
  simp only [Prod.mk.injEq] at hfields
  obtain ⟨hid,hraw,hexpires⟩ := hfields
  have hout := (mailbox_claims_drain plainControl .default 1000 uploadedWorld (runAll_runs _)).2.1
    destination.nodeId none [mailRound] packets s' (by simp [mailRound,mailRequest]) hdrain
      hheld r hr fun round hround t ht => ?_
  · rw [hid,hraw] at hout
    exact ⟨packets,s',hdrain,hout⟩
  · obtain rfl := List.mem_singleton.mp hround
    rw [hexpires]
    simp only [DrainRound.times,mailRound,List.map_cons,List.map_nil,List.mem_cons,
      List.not_mem_nil,or_false,or_self] at ht
    rw [ht]
    decide

end Sample
end Anet
