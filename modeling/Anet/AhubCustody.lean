import Anet.AhubService

/-! Runs of the mailbox of an Ahub. The clock may go back; what has happened so far is kept
beside the store. -/
namespace Anet

open ControlPlane

inductive AhubCall
  | allow (nodeId : String)
  | disallow (nodeId : String)
  | purge
  | mailboxCount (nodeId : String)
  | signed (request : AhubRequest) (descriptor : NodeDescriptor) (body : Bytes) (op : AhubOperation)

/-- A packet that was handed out: the how manieth of its id, with its token and lease, and the
latest clock at that moment. -/
structure Handout where
  packetId : String
  times : ℕ
  token : String
  deadline : ℤ
  clock : ℤ

/-- A settlement as it was accepted. -/
structure SettleEvent where
  proof : DestinationSettlement
  descriptor : NodeDescriptor
  clock : ℤ

/-- The store, the latest clock, the packets it took, what it handed out, settled and showed
to whom, and the acknowledgements by node, packet and time. -/
structure CustodyWorld where
  store : AhubStore
  seen : ℤ
  stored : List MailboxRow
  handed : List Handout
  settled : List SettleEvent
  shown : List (String × DestinationSettlement)
  acked : List (String × String × ℤ)

variable (lib : ControlLibrary) (limits : AhubLimits)

namespace AhubStore

def callBody (now : ℤ) (call : AhubCall) (s : AhubStore) : Result (Option AhubReply × AhubStore) :=
  match call with
  | .allow nodeId => (s.allowNode nodeId now).map fun r => (none,r.2)
  | .disallow nodeId => (s.disallowNode nodeId now).map fun r => (none,r.2)
  | .purge => .ok (none,s.purge now)
  | .mailboxCount nodeId => (s.mailboxCount nodeId now).map fun r => (none,r.2)
  | .signed request descriptor body op =>
    (s.perform lib limits request descriptor body now op).map fun r => (some r.1,r.2)

/-- The mailbox without its leases. -/
def contents (s : AhubStore) : List MailboxRow := s.mailbox.rows.map MailboxRow.released

end AhubStore

namespace CustodyWorld

def initial (clock : ℤ) : CustodyWorld := ⟨.empty,clock,[],[],[],[],[]⟩

/-- How often a packet with this id was stored. -/
def times (w : CustodyWorld) (packetId : String) : ℕ :=
  w.stored.countP fun r => r.packetId = packetId

/-- What an answer adds to the history. -/
def note (now : ℤ) (w : CustodyWorld) : AhubCall → Option AhubReply → CustodyWorld
  | .signed _ _ _ _,some (.receipt r) =>
    if r.stored then { w with
      stored := w.stored ++ ((w.store.mailbox.get r.packetId).map MailboxRow.released).toList }
    else w
  | .signed _ _ _ _,some (.claimed packets) => { w with
      handed := w.handed ++
        packets.map fun c => ⟨c.packetId,w.times c.packetId,c.claimToken,c.claimUntilMs,w.seen⟩ }
  | .signed _ descriptor _ (.settle _ _ proof),some (.settled true) => { w with
      settled := w.settled ++ [⟨proof,descriptor,now⟩] }
  | .signed request _ _ _,some (.proofs ps) => { w with
      shown := w.shown ++ ps.map fun p => (request.nodeId,p) }
  | .signed request _ _ (.acknowledge packetId),some (.acknowledged true) => { w with
      acked := w.acked ++ [(request.nodeId,packetId,now)] }
  | _,_ => w

def exec (w : CustodyWorld) (now : ℤ) (call : AhubCall) : CustodyWorld :=
  match atomic (AhubStore.callBody lib limits now call) w.store with
  | (.ok reply,s) => note now { w with store := s, seen := max w.seen now } call reply
  | (.error _,s) => { w with store := s, seen := max w.seen now }

def CustodyStep (w w' : CustodyWorld) : Prop := ∃ now call, w' = w.exec lib limits now call

end CustodyWorld

/-- The destination has proved that it has exactly this packet. -/
def SettleEvent.Settles (e : SettleEvent) (r : MailboxRow) : Prop :=
  e.descriptor.nodeId = r.destinationId ∧ e.descriptor.verify lib e.clock = .ok () ∧
    e.proof.verify lib e.descriptor.signPublic e.clock = .ok () ∧
    AhubStore.matchesClaim lib e.proof r.destinationId r

/-- No node is over a count or a byte quota, as destination or as uploader. -/
structure Quotas (limits : AhubLimits) (s : AhubStore) : Prop where
  destinationCount : ∀ n, s.mailbox.count (fun r => r.destinationId = n) ≤
    limits.maxPacketsPerDestination
  destinationBytes : ∀ n, s.mailboxBytes (fun r => r.destinationId = n) ≤
    limits.maxBytesPerDestination
  uploaderCount : ∀ n, s.mailbox.count (fun r => r.uploaderId = n) ≤ limits.maxPacketsPerUploader
  uploaderBytes : ∀ n, s.mailboxBytes (fun r => r.uploaderId = n) ≤ limits.maxBytesPerUploader

/-- Where every packet and every settlement of a run is. -/
structure Custody (lib : ControlLibrary) (limits : AhubLimits) (w : CustodyWorld) : Prop where
  kept : ∀ r ∈ w.stored, r.expiresMs ≤ w.seen ∨ r ∈ w.store.contents ∨
    ∃ e ∈ w.settled, e.Settles lib r
  apart : ∀ p, w.store.mailbox.get p = none ∨ w.store.settlements.get p = none
  leases : w.handed.Pairwise fun h h' => h.packetId = h'.packetId → h.times = h'.times →
    h.deadline ≤ h'.clock
  shown : ∀ v ∈ w.shown, v.2.uploaderId = v.1 ∧ ∃ e ∈ w.settled, e.proof = v.2
  pending : ∀ e ∈ w.settled, e.proof.expiresMs ≤ w.seen ∨ ∃ row,
    w.store.settlements.get e.proof.packetId = some row ∧ row.uploaderId = e.proof.uploaderId ∧
    row.proofJson = e.proof.toDict ∧ row.expiresMs = e.proof.expiresMs ∧
    (row.acknowledgedMs ≠ 0 → (row.uploaderId,row.packetId,row.acknowledgedMs) ∈ w.acked)
  proved : ∀ e ∈ w.settled, ∃ r ∈ w.stored, e.Settles lib r
  quotas : Quotas limits w.store

section Contents

variable {limits} {s : AhubStore} {r : MailboxRow}

theorem AhubStore.mem_contents : r ∈ s.contents ↔
    ∃ row, s.mailbox.get r.packetId = some row ∧ row.released = r := by
  rw [contents,List.mem_map]
  constructor
  · rintro ⟨row,hrow,rfl⟩
    exact ⟨row,Table.mem_rows.mp hrow,rfl⟩
  · rintro ⟨row,hrow,hr⟩
    exact ⟨row,(Table.get_eq_some.mp hrow).1,hr⟩

/-- A change of leases leaves the contents. -/
theorem AhubStore.contents_update (t : Table MailboxRow.packetId noMarks)
    (p : MailboxRow → Prop) [DecidablePred p] (f : MailboxRow → MailboxRow)
    (hkey : ∀ r, (f r).packetId = r.packetId) (hmarks : ∀ r, noMarks (f r) ⊆ noMarks r)
    (hf : ∀ r, (f r).released = r.released) :
    (t.update p f hkey hmarks).rows.map MailboxRow.released = t.rows.map MailboxRow.released := by
  rw [Table.update,List.map_map]
  apply List.map_congr_left
  intro r _
  show (if p r then f r else r).released = r.released
  split_ifs
  · exact hf r
  · rfl

theorem AhubStore.contents_delete (t : Table MailboxRow.packetId noMarks)
    (p : MailboxRow → Prop) [DecidablePred p] (hp : ∀ r, p r.released ↔ p r) :
    (t.delete p).rows.map MailboxRow.released =
      (t.rows.map MailboxRow.released).filter fun r => ¬ p r := by
  rw [Table.delete,List.filter_map]
  congr 1
  apply List.filter_congr
  intro r _
  simp [hp]

theorem AhubStore.contents_purge (now : ℤ) :
    (s.purge now).contents = s.contents.filter fun r => ¬ r.expiresMs ≤ now := by
  have hreleased := contents_update (s.mailbox.delete fun r => r.expiresMs ≤ now)
    (MailboxRow.leaseOver now) .released (fun _ => rfl) (noMarks_subset _) fun _ => rfl
  exact hreleased.trans (contents_delete s.mailbox (fun r => r.expiresMs ≤ now) fun _ => Iff.rfl)

/-- The bounds for one kind of party on a list of packets. -/
def Within (party : MailboxRow → String) (maxPackets maxBytes : ℕ) (l : List MailboxRow) : Prop :=
  ∀ n, l.countP (fun r => party r = n) ≤ maxPackets ∧
    ((l.filter fun r => party r = n).map MailboxRow.sizeBytes).sum ≤ maxBytes

section Parties

variable {party : MailboxRow → String} {maxPackets maxBytes : ℕ} {l l' : List MailboxRow}

theorem sum_le_of_sublist {l l' : List ℕ} (h : l.Sublist l') : l.sum ≤ l'.sum := by
  induction h with
  | slnil => exact le_rfl
  | cons a _ ih => exact ih.trans (by simp)
  | cons_cons a _ ih => simpa using ih

/-- Fewer packets are within the bounds as well. -/
theorem Within.sublist (h : Within party maxPackets maxBytes l) (hl : l'.Sublist l) :
    Within party maxPackets maxBytes l' := by
  intro n
  obtain ⟨hcount,hbytes⟩ := h n
  exact ⟨hl.countP_le.trans hcount,(sum_le_of_sublist ((hl.filter _).map _)).trans hbytes⟩

/-- One more packet of a party that has room for it. -/
theorem Within.append (h : Within party maxPackets maxBytes l) {row : MailboxRow}
    (hcount : l.countP (fun r => party r = party row) < maxPackets)
    (hbytes : ((l.filter fun r => party r = party row).map MailboxRow.sizeBytes).sum +
      row.sizeBytes ≤ maxBytes) : Within party maxPackets maxBytes (l ++ [row]) := by
  intro n
  rw [List.countP_append,List.filter_append,List.map_append,List.sum_append]
  by_cases hn : party row = n
  · subst hn
    refine ⟨?_,?_⟩
    · simpa using Nat.succ_le_of_lt hcount
    · simpa using hbytes
  · simpa [hn] using h n

/-- The bounds as `_check_quota` counts them. -/
theorem within_contents (party : MailboxRow → String) (s : AhubStore) (hparty : ∀ r, party r.released = party r) (n : String) :
    s.contents.countP (fun r => party r = n) = s.mailbox.count (fun r => party r = n) ∧
      ((s.contents.filter fun r => party r = n).map MailboxRow.sizeBytes).sum =
        s.mailboxBytes fun r => party r = n := by
  have hcompose : (fun r => decide (party r = n)) ∘ MailboxRow.released =
      fun r => decide (party r = n) := by
    funext r
    simp [hparty]
  rw [AhubStore.contents,List.countP_map,List.filter_map,List.map_map,hcompose]
  exact ⟨rfl,rfl⟩

end Parties

theorem quotas_iff : Quotas limits s ↔
    Within MailboxRow.destinationId limits.maxPacketsPerDestination limits.maxBytesPerDestination
      s.contents ∧
    Within MailboxRow.uploaderId limits.maxPacketsPerUploader limits.maxBytesPerUploader
      s.contents := by
  have hdestination := within_contents MailboxRow.destinationId s fun _ => rfl
  have huploader := within_contents MailboxRow.uploaderId s fun _ => rfl
  simp only [Within,hdestination,huploader]
  exact ⟨fun h => ⟨fun n => ⟨h.1 n,h.2 n⟩,fun n => ⟨h.3 n,h.4 n⟩⟩,
    fun h => ⟨fun n => (h.1 n).1,fun n => (h.1 n).2,fun n => (h.2 n).1,fun n => (h.2 n).2⟩⟩

/-- What `_check_quota` lets through stays within the bounds. -/
theorem quotas_stored {packet : PacketInfo} {uploaderId : String} {row : MailboxRow} {s' : AhubStore}
    (h : Quotas limits s) (hquota : s.checkQuota limits packet uploaderId = .ok ())
    (hdestination : row.destinationId = packet.destinationId) (huploader : row.uploaderId = uploaderId)
    (hsize : row.sizeBytes = packet.raw.length) (hs : s'.contents = s.contents ++ [row]) :
    Quotas limits s' := by
  simp only [AhubStore.checkQuota,bind_ok,raiseIf_ok,not_or,not_le,not_lt] at hquota
  obtain ⟨_,⟨hcount,hbytes⟩,hcount',hbytes'⟩ := hquota
  obtain ⟨hdestinations,huploaders⟩ := quotas_iff.mp h
  obtain ⟨hc,hb⟩ := within_contents MailboxRow.destinationId s (fun _ => rfl)
    packet.destinationId
  obtain ⟨hc',hb'⟩ := within_contents MailboxRow.uploaderId s (fun _ => rfl)
    uploaderId
  rw [quotas_iff,hs]
  refine ⟨hdestinations.append ?_ ?_,huploaders.append ?_ ?_⟩
  · rw [hdestination,hc]
    exact hcount
  · rw [hdestination,hb,hsize]
    exact hbytes
  · rw [huploader,hc']
    exact hcount'
  · rw [huploader,hb',hsize]
    exact hbytes'

theorem quotas_sublist {s' : AhubStore} (h : Quotas limits s)
    (hs : s'.contents.Sublist s.contents) : Quotas limits s' := by
  obtain ⟨hdestinations,huploaders⟩ := quotas_iff.mp h
  exact quotas_iff.mpr ⟨hdestinations.sublist hs,huploaders.sublist hs⟩

theorem AhubStore.get_purge (now : ℤ) (p : String) : (s.purge now).mailbox.get p =
    ((s.mailbox.get p).filter fun r => ¬ r.expiresMs ≤ now).map fun r =>
      if r.leaseOver now then r.released else r := by
  refine (Table.get_update _ (MailboxRow.leaseOver now) MailboxRow.released (fun _ => rfl)
    (noMarks_subset _) p).trans ?_
  rw [Table.get_delete]

theorem AhubStore.settlements_purge (now : ℤ) (p : String) : (s.purge now).settlements.get p =
    (s.settlements.get p).filter fun r => ¬ r.expiresMs ≤ now := Table.get_delete _ _ p

/-- What the loop of `claim` hands out, and what it leaves of the mailbox. -/
theorem AhubStore.claimRows_spec (lib : ControlLibrary) (claimUntil : ℤ) (maxBytes : Option ℤ)
    (tokens : ℕ → String) (rows : List MailboxRow) (claimedBytes n : ℕ) (s : AhubStore) :
    let r := claimRows lib claimUntil maxBytes tokens rows claimedBytes n s
    r.2.contents = s.contents ∧ (r.1.map ClaimedPacket.packetId).Nodup ∧
    (∀ p, (∀ c ∈ r.1, c.packetId ≠ p) → r.2.mailbox.get p = s.mailbox.get p) ∧
    ∀ c ∈ r.1, c.claimUntilMs = claimUntil ∧ ∃ row, s.mailbox.get c.packetId = some row ∧
      row.claimTokenHash = none ∧ c.raw = row.raw ∧
      r.2.mailbox.get c.packetId = some (row.claimed (lib.sha256 (utf8 c.claimToken)) claimUntil) := by
  induction rows generalizing claimedBytes n s with
  | nil => exact ⟨rfl,List.nodup_nil,fun _ _ => rfl,nofun⟩
  | cons row rows ih =>
    unfold claimRows
    split_ifs
    · exact ih claimedBytes n s
    · cases hfree : (s.mailbox.get row.packetId).filter fun r => r.claimTokenHash = none with
      | none => exact ih claimedBytes n s
      | some packet =>
        obtain ⟨hget,hnone⟩ := Option.filter_eq_some_iff.mp hfree
        have hnone : packet.claimTokenHash = none := by simpa using hnone
        dsimp only
        generalize hs₁ : ({ s with
          mailbox := s.mailbox.update
            (fun r => r.packetId = row.packetId ∧ r.claimTokenHash = none)
            (.claimed (lib.sha256 (utf8 (tokens n))) claimUntil) (fun _ => rfl)
              (noMarks_subset _) } : AhubStore) = s₁
        have hcontents : s₁.contents = s.contents := by
          rw [← hs₁]
          exact contents_update s.mailbox
            (fun r => r.packetId = row.packetId ∧ r.claimTokenHash = none)
            (.claimed (lib.sha256 (utf8 (tokens n))) claimUntil) (fun _ => rfl)
            (noMarks_subset _) fun _ => rfl
        have hgets (p : String) : s₁.mailbox.get p = (s.mailbox.get p).map fun r =>
            if r.packetId = row.packetId ∧ r.claimTokenHash = none then
              r.claimed (lib.sha256 (utf8 (tokens n))) claimUntil else r := by
          rw [← hs₁]
          exact Table.get_update s.mailbox
            (fun r => r.packetId = row.packetId ∧ r.claimTokenHash = none)
            (.claimed (lib.sha256 (utf8 (tokens n))) claimUntil) (fun _ => rfl)
            (noMarks_subset _) p
        have hmine : s₁.mailbox.get row.packetId =
            some (packet.claimed (lib.sha256 (utf8 (tokens n))) claimUntil) := by
          rw [hgets,hget,Option.map_some,if_pos ⟨Table.get_key hget,hnone⟩]
        have hothers (p : String) (hp : p ≠ row.packetId) :
            s₁.mailbox.get p = s.mailbox.get p := by
          rw [hgets]
          cases hrow : s.mailbox.get p with
          | none => rfl
          | some r =>
            have hkey : r.packetId ≠ row.packetId := by
              rw [Table.get_key hrow]
              exact hp
            simp [hkey]
        obtain ⟨hrest,hnodup,hsame,hclaimed⟩ := ih (claimedBytes + row.sizeBytes) (n + 1) s₁
        -- the packet is not handed out again, since its hash is set now
        have hfresh : ∀ c ∈ (claimRows lib claimUntil maxBytes tokens rows
            (claimedBytes + row.sizeBytes) (n + 1) s₁).1, c.packetId ≠ row.packetId := by
          intro c hc hp
          obtain ⟨-,r,hr,hhash,-⟩ := hclaimed c hc
          rw [hp,hmine,Option.some.injEq] at hr
          rw [← hr] at hhash
          cases hhash
        refine ⟨hrest.trans hcontents,?_,?_,?_⟩
        · rw [List.map_cons,List.nodup_cons]
          refine ⟨?_,hnodup⟩
          rw [List.mem_map]
          rintro ⟨c,hc,hp⟩
          exact hfresh c hc hp
        · intro p hp
          have hne : p ≠ row.packetId := fun h => hp _ (List.mem_cons_self ..) h.symm
          rw [← hothers p hne]
          exact hsame p fun c hc => hp c (List.mem_cons_of_mem _ hc)
        · intro c hc
          rcases List.mem_cons.mp hc with rfl | hc
          · refine ⟨rfl,packet,hget,hnone,rfl,?_⟩
            rw [hsame _ hfresh]
            exact hmine
          · obtain ⟨huntil,r,hr,hhash,hraw,hafter⟩ := hclaimed c hc
            rw [hothers _ (hfresh c hc)] at hr
            exact ⟨huntil,r,hr,hhash,hraw,hafter⟩

end Contents

namespace CustodyWorld

section Runs

variable {lib} {limits} {w : CustodyWorld}

/-- With the custody of a world: its packets are among those it took, a lease that was handed
out stands in the mailbox while it runs, and the settlements are those it accepted. -/
structure Kept (lib : ControlLibrary) (limits : AhubLimits) (w : CustodyWorld) : Prop
    extends Custody lib limits w where
  origin : ∀ r ∈ w.store.contents, r ∈ w.stored
  leased : ∀ h ∈ w.handed, h.times ≤ w.times h.packetId ∧
    (h.deadline ≤ w.seen ∨ h.times < w.times h.packetId ∨
      ∀ row, w.store.mailbox.get h.packetId = some row →
        row.claimTokenHash ≠ none ∧ row.claimUntilMs = some h.deadline)
  sourced : ∀ p row, w.store.settlements.get p = some row → ∃ e ∈ w.settled,
    row.proofJson = e.proof.toDict ∧ row.uploaderId = e.proof.uploaderId

/-- Only the mailbox, the settlements and a later clock matter. -/
theorem Kept.of_tables (hw : w.Kept lib limits) {s : AhubStore} {seen : ℤ}
    (hmailbox : s.mailbox = w.store.mailbox) (hsettlements : s.settlements = w.store.settlements)
    (hseen : w.seen ≤ seen) : Kept lib limits { w with store := s, seen := seen } := by
  have hcontents : s.contents = w.store.contents := by rw [AhubStore.contents,hmailbox]; rfl
  refine ⟨⟨?_,?_,hw.leases,hw.shown,?_,hw.proved,?_⟩,?_,?_,?_⟩
  · intro r hr
    rw [hcontents]
    exact (hw.kept r hr).imp_left hseen.trans'
  · rw [hmailbox,hsettlements]
    exact hw.apart
  · intro e he
    rw [hsettlements]
    exact (hw.pending e he).imp_left hseen.trans'
  · exact quotas_sublist hw.quotas (hcontents ▸ List.Sublist.refl _)
  · rw [hcontents]
    exact hw.origin
  · intro h hh
    obtain ⟨htimes,hlease⟩ := hw.leased h hh
    rw [hmailbox]
    exact ⟨htimes,hlease.imp_left hseen.trans'⟩
  · rw [hsettlements]
    exact hw.sourced

/-- The purge takes away what has expired, and the leases that are over. -/
theorem Kept.purged (hw : w.Kept lib limits) {now seen : ℤ} (hseen : w.seen ≤ seen)
    (hnow : now ≤ seen) : Kept lib limits { w with store := w.store.purge now, seen := seen } := by
  refine ⟨⟨?_,?_,hw.leases,hw.shown,?_,hw.proved,?_⟩,?_,?_,?_⟩
  · intro r hr
    rcases hw.kept r hr with hexpired | hin | hsettled
    · exact .inl (hexpired.trans hseen)
    · by_cases hexpired : r.expiresMs ≤ now
      · exact .inl (hexpired.trans hnow)
      · refine .inr (.inl ?_)
        rw [AhubStore.contents_purge,List.mem_filter]
        exact ⟨hin,decide_eq_true hexpired⟩
    · exact .inr (.inr hsettled)
  · intro p
    rcases hw.apart p with hnone | hnone
    · left
      rw [AhubStore.get_purge,hnone]
      rfl
    · right
      rw [AhubStore.settlements_purge,hnone]
      rfl
  · intro e he
    rcases hw.pending e he with hexpired | ⟨row,hrow,huploader,hproof,hexpires,hacked⟩
    · exact .inl (hexpired.trans hseen)
    · by_cases hexpired : row.expiresMs ≤ now
      · left
        rw [← hexpires]
        exact hexpired.trans hnow
      · refine .inr ⟨row,?_,huploader,hproof,hexpires,hacked⟩
        rw [AhubStore.settlements_purge,hrow,Option.filter_eq_some_iff]
        exact ⟨rfl,decide_eq_true hexpired⟩
  · refine quotas_sublist hw.quotas ?_
    rw [AhubStore.contents_purge]
    exact List.filter_sublist
  · intro r hr
    rw [AhubStore.contents_purge] at hr
    exact hw.origin r (List.mem_filter.mp hr).1
  · intro h hh
    obtain ⟨htimes,hlease⟩ := hw.leased h hh
    refine ⟨htimes,?_⟩
    rcases hlease with hover | hlater | hstands
    · exact .inl (hover.trans hseen)
    · exact .inr (.inl hlater)
    · by_cases hover : h.deadline ≤ now
      · exact .inl (hover.trans hnow)
      · refine .inr (.inr ?_)
        intro row hrow
        rw [AhubStore.get_purge] at hrow
        obtain ⟨old,hold,rfl⟩ := Option.map_eq_some_iff.mp hrow
        obtain ⟨hhash,huntil⟩ := hstands old (Option.filter_eq_some_iff.mp hold).1
        have hruns : ¬ old.leaseOver now := by
          rintro ⟨deadline,hdeadline,hle⟩
          rw [huntil,Option.mem_some_iff] at hdeadline
          exact hover (hdeadline ▸ hle)
        rw [if_neg hruns]
        exact ⟨hhash,huntil⟩
  · intro p row hrow
    rw [AhubStore.settlements_purge] at hrow
    exact hw.sourced p row (Option.filter_eq_some_iff.mp hrow).1

section Effects

variable {request : AhubRequest} {descriptor : NodeDescriptor} {body : Bytes} {now : ℤ}

theorem times_append (w : CustodyWorld) (row : MailboxRow) (p : String) :
    (w.stored ++ [row]).countP (fun r => r.packetId = p) =
      w.times p + if row.packetId = p then 1 else 0 := by
  rw [List.countP_append,List.countP_singleton]
  by_cases hp : row.packetId = p <;> simp [hp,times]

/-- A packet that is stored is in the contents, and its id was free. -/
theorem Kept.stored (hw : w.Kept lib limits) {packet : PacketInfo}
    {mailbox : Table MailboxRow.packetId noMarks} {row : MailboxRow}
    (hsettlements : w.store.settlements.get packet.packetId = none)
    (hquota : w.store.checkQuota limits packet request.nodeId = .ok ())
    (hrow : row = ⟨packet.packetId,packet.destinationId,request.nodeId,packet.raw,
      packet.raw.length,packet.createdMs,packet.expiresMs,packet.qos,0,none,none⟩)
    (hinsert : w.store.mailbox.insert row = some mailbox) :
    Kept lib limits { w with
      store := { w.store with mailbox := mailbox }, stored := w.stored ++ [row] } := by
  obtain ⟨hfree,-,hrows⟩ := Table.insert_eq_some hinsert
  have hid : row.packetId = packet.packetId := by rw [hrow]
  have hreleased : row.released = row := by rw [hrow]; rfl
  have hcontents : AhubStore.contents { w.store with mailbox := mailbox } =
      w.store.contents ++ [row] := by
    show mailbox.rows.map MailboxRow.released = _
    rw [hrows,List.map_append,List.map_singleton,hreleased]
    rfl
  have hget (p : String) : mailbox.get p = if p = row.packetId then some row else
      w.store.mailbox.get p := Table.get_insert hinsert p
  refine ⟨⟨?_,?_,hw.leases,hw.shown,hw.pending,?_,?_⟩,?_,?_,hw.sourced⟩
  · intro r hr
    rcases List.mem_append.mp hr with hr | hnew
    · rcases hw.kept r hr with hexpired | hin | hsettled
      · exact .inl hexpired
      · exact .inr (.inl (hcontents ▸ List.mem_append_left _ hin))
      · exact .inr (.inr hsettled)
    · exact .inr (.inl (hcontents ▸ List.mem_append_right _ hnew))
  · intro p
    by_cases hp : p = row.packetId
    · right
      rw [hp,hid]
      exact hsettlements
    · rcases hw.apart p with hnone | hnone
      · left
        show mailbox.get p = none
        rw [hget,if_neg hp]
        exact hnone
      · exact .inr hnone
  · intro e he
    obtain ⟨r,hr,hsettles⟩ := hw.proved e he
    exact ⟨r,List.mem_append_left _ hr,hsettles⟩
  · exact quotas_stored hw.quotas hquota (by rw [hrow]) (by rw [hrow]) (by rw [hrow]) hcontents
  · intro r hr
    rw [hcontents] at hr
    rcases List.mem_append.mp hr with hr | hnew
    · exact List.mem_append_left _ (hw.origin r hr)
    · exact List.mem_append_right _ hnew
  · intro h hh
    obtain ⟨htimes,hlease⟩ := hw.leased h hh
    have hcount := times_append w row h.packetId
    by_cases hp : row.packetId = h.packetId
    · rw [if_pos hp] at hcount
      refine ⟨?_,.inr (.inl ?_)⟩
      · show h.times ≤ (w.stored ++ [row]).countP fun r => r.packetId = h.packetId
        omega
      · show h.times < (w.stored ++ [row]).countP fun r => r.packetId = h.packetId
        omega
    · rw [if_neg hp] at hcount
      refine ⟨htimes.trans_eq hcount.symm,?_⟩
      rcases hlease with hover | hlater | hstands
      · exact .inl hover
      · exact .inr (.inl (hlater.trans_eq hcount.symm))
      · refine .inr (.inr ?_)
        intro row' hrow'
        change mailbox.get h.packetId = some row' at hrow'
        rw [hget,if_neg (Ne.symm hp)] at hrow'
        exact hstands row' hrow'

/-- A claim hands out packets whose leases are over, each once. -/
theorem Kept.claimed (hw : w.Kept lib limits) {claimUntil : ℤ} {maxBytes : Option ℤ}
    {tokens : ℕ → String} {rows : List MailboxRow} {r : List ClaimedPacket × AhubStore}
    (hr : AhubStore.claimRows lib claimUntil maxBytes tokens rows 0 0 w.store = r) :
    Kept lib limits { w with
      store := r.2
      handed := w.handed ++
        r.1.map fun c => ⟨c.packetId,w.times c.packetId,c.claimToken,c.claimUntilMs,w.seen⟩ } := by
  have hspec := AhubStore.claimRows_spec lib claimUntil maxBytes tokens rows 0 0 w.store
  rw [hr] at hspec
  obtain ⟨hcontents,hnodup,hsame,hclaimed⟩ := hspec
  have hsettlements : r.2.settlements = w.store.settlements := by
    rw [← hr,AhubStore.claimRows_frame]
  have hnone (p : String) (hp : w.store.mailbox.get p = none) : r.2.mailbox.get p = none := by
    rw [hsame p,hp]
    intro c hc hid
    obtain ⟨-,row,hrow,-⟩ := hclaimed c hc
    rw [hid,hp] at hrow
    cases hrow
  -- a lease that runs keeps its packet from being handed out
  have hruns : ∀ h ∈ w.handed, ∀ c ∈ r.1, h.packetId = c.packetId → h.deadline ≤ w.seen ∨
      h.times < w.times h.packetId := by
    intro h hh c hc hid
    obtain ⟨-,hlease⟩ := hw.leased h hh
    rcases hlease with hover | hlater | hstands
    · exact .inl hover
    · exact .inr hlater
    · obtain ⟨-,row,hrow,hhash,-⟩ := hclaimed c hc
      exact absurd hhash (hstands row (hid ▸ hrow)).1
  refine ⟨⟨?_,?_,?_,hw.shown,?_,hw.proved,?_⟩,?_,?_,?_⟩
  · intro row hrow
    show row.expiresMs ≤ w.seen ∨ row ∈ r.2.contents ∨ _
    rw [hcontents]
    exact hw.kept row hrow
  · intro p
    show r.2.mailbox.get p = none ∨ r.2.settlements.get p = none
    rw [hsettlements]
    exact (hw.apart p).imp_left (hnone p)
  · rw [List.pairwise_append]
    refine ⟨hw.leases,?_,?_⟩
    · rw [List.pairwise_map]
      refine List.Pairwise.imp ?_ (List.pairwise_map.mp hnodup)
      intro c c' hne hid
      exact absurd hid hne
    · intro h hh h' hh' hid htimes
      obtain ⟨c,hc,rfl⟩ := List.mem_map.mp hh'
      rcases hruns h hh c hc hid with hover | hlater
      · exact hover
      · rw [hid] at hlater
        exact absurd htimes hlater.ne
  · show ∀ e ∈ w.settled, _ ∨ ∃ row, r.2.settlements.get e.proof.packetId = some row ∧ _
    rw [hsettlements]
    exact hw.pending
  · exact quotas_sublist hw.quotas (hcontents ▸ List.Sublist.refl _)
  · intro row hrow
    exact hw.origin row (hcontents ▸ hrow)
  · intro h hh
    rcases List.mem_append.mp hh with hh | hnew
    · obtain ⟨htimes,hlease⟩ := hw.leased h hh
      refine ⟨htimes,?_⟩
      by_cases hout : ∃ c ∈ r.1, h.packetId = c.packetId
      · obtain ⟨c,hc,hid⟩ := hout
        exact (hruns h hh c hc hid).imp_right .inl
      · simp only [not_exists,not_and] at hout
        show _ ∨ _ ∨ ∀ row, r.2.mailbox.get h.packetId = some row → _
        rw [hsame h.packetId fun c hc hid => hout c hc hid.symm]
        exact hlease
    · obtain ⟨c,hc,rfl⟩ := List.mem_map.mp hnew
      refine ⟨le_rfl,.inr (.inr ?_)⟩
      intro row hrow
      obtain ⟨huntil,old,-,-,-,hafter⟩ := hclaimed c hc
      obtain rfl := Option.some.inj (hafter.symm.trans hrow)
      exact ⟨nofun,congrArg some huntil.symm⟩
  · intro p row hrow
    exact hw.sourced p row (hsettlements ▸ hrow)

/-- A settled packet leaves the mailbox, and its proof takes its place. -/
theorem Kept.settled (hw : w.Kept lib limits) {packetId : String} {proof : DestinationSettlement}
    {row : MailboxRow} (hrow : w.store.mailbox.get packetId = some row)
    (hrequest : request.verify lib descriptor body now = .ok ())
    (hdestination : row.destinationId = request.nodeId)
    (hverify : proof.verify lib descriptor.signPublic now = .ok ())
    (hmatches : AhubStore.matchesClaim lib proof request.nodeId row) :
    Kept lib limits { w with
      store := { w.store with
        settlements := w.store.settlements.insertOrIgnore ⟨packetId,row.destinationId,
          row.uploaderId,lib.sha256 row.raw,proof.settledMs,row.expiresMs,proof.toDict,0⟩
        mailbox := w.store.mailbox.delete fun r => r.packetId = packetId }
      settled := w.settled ++ [⟨proof,descriptor,now⟩] } := by
  obtain ⟨hnode,-,hdescriptor⟩ := AhubRequest.verify_parts hrequest
  have hid : row.packetId = packetId := Table.get_key hrow
  have hfree : w.store.settlements.get packetId = none := by
    rcases hw.apart packetId with hnone | hnone
    · rw [hrow] at hnone
      cases hnone
    · exact hnone
  generalize hnew : (⟨packetId,row.destinationId,row.uploaderId,lib.sha256 row.raw,
    proof.settledMs,row.expiresMs,proof.toDict,0⟩ : SettlementRow) = new
  have hkey : new.packetId = packetId := by rw [← hnew]
  obtain ⟨settlements,hinsert⟩ := Table.insert_noMarks w.store.settlements (r := new)
    (by rw [hkey]; exact hfree)
  have hget (p : String) : (w.store.settlements.insertOrIgnore new).get p =
      if p = packetId then some new else w.store.settlements.get p := by
    rw [Table.insertOrIgnore,hinsert,Option.getD_some,Table.get_insert hinsert,hkey]
  have hmailbox (p : String) : (w.store.mailbox.delete fun r => r.packetId = packetId).get p =
      if p = packetId then none else w.store.mailbox.get p := by
    rw [Table.get_delete]
    cases hp : w.store.mailbox.get p with
    | none => simp
    | some r =>
      have hr : r.packetId = p := Table.get_key hp
      by_cases hsame : p = packetId <;> simp [hr,hsame]
  have hcontents : AhubStore.contents { w.store with
      settlements := w.store.settlements.insertOrIgnore new
      mailbox := w.store.mailbox.delete fun r => r.packetId = packetId } =
        w.store.contents.filter fun r => ¬ r.packetId = packetId :=
    AhubStore.contents_delete w.store.mailbox (fun r => r.packetId = packetId) fun _ => Iff.rfl
  have hsettles (r : MailboxRow) (hr : r ∈ w.store.contents) (hp : r.packetId = packetId) :
      SettleEvent.Settles lib ⟨proof,descriptor,now⟩ r := by
    obtain ⟨old,hold,hreleased⟩ := AhubStore.mem_contents.mp hr
    rw [hp,hrow,Option.some.injEq] at hold
    rw [← hreleased,← hold]
    rw [← hdestination] at hmatches
    exact ⟨hnode.symm.trans hdestination.symm,hdescriptor,hverify,hmatches⟩
  refine ⟨⟨?_,?_,hw.leases,?_,?_,?_,?_⟩,?_,?_,?_⟩
  · intro r hr
    rcases hw.kept r hr with hexpired | hin | ⟨e,he,hold⟩
    · exact .inl hexpired
    · right
      by_cases hp : r.packetId = packetId
      · exact .inr ⟨_,List.mem_append_right _ (List.mem_singleton_self _),hsettles r hin hp⟩
      · left
        rw [hcontents,List.mem_filter]
        exact ⟨hin,decide_eq_true hp⟩
    · exact .inr (.inr ⟨e,List.mem_append_left _ he,hold⟩)
  · intro p
    rw [hmailbox,hget]
    by_cases hp : p = packetId
    · exact .inl (if_pos hp)
    · rw [if_neg hp,if_neg hp]
      exact hw.apart p
  · intro v hv
    obtain ⟨hviewer,e,he,hshown⟩ := hw.shown v hv
    exact ⟨hviewer,e,List.mem_append_left _ he,hshown⟩
  · intro e he
    rcases List.mem_append.mp he with he | hlast
    · rcases hw.pending e he with hexpired | ⟨old,hold,hrest⟩
      · exact .inl hexpired
      · refine .inr ⟨old,?_,hrest⟩
        rw [hget,if_neg]
        · exact hold
        · intro hp
          rw [hp,hfree] at hold
          cases hold
    · rw [List.mem_singleton.mp hlast]
      obtain ⟨hp,-,huploader,hexpires,-⟩ := hmatches
      refine .inr ⟨new,?_,?_,?_,?_,?_⟩
      · rw [hget,if_pos (hp.trans hid)]
      · rw [← hnew]
        exact huploader.symm
      · rw [← hnew]
      · rw [← hnew]
        exact hexpires.symm
      · intro hacked
        rw [← hnew] at hacked
        exact absurd rfl hacked
  · intro e he
    rcases List.mem_append.mp he with he | hlast
    · exact hw.proved e he
    · rw [List.mem_singleton.mp hlast]
      have hin : row.released ∈ w.store.contents :=
        AhubStore.mem_contents.mpr ⟨row,by rw [← hrow,← hid]; rfl,rfl⟩
      exact ⟨_,hw.origin _ hin,hsettles _ hin hid⟩
  · refine quotas_sublist hw.quotas ?_
    rw [hcontents]
    exact List.filter_sublist
  · intro r hr
    rw [hcontents] at hr
    exact hw.origin r (List.mem_filter.mp hr).1
  · intro h hh
    obtain ⟨htimes,hlease⟩ := hw.leased h hh
    refine ⟨htimes,hlease.imp_right fun hlease => hlease.imp_right ?_⟩
    intro hstands row' hrow'
    rw [hmailbox] at hrow'
    split_ifs at hrow'
    exact hstands row' hrow'
  · intro p old hold
    rw [hget] at hold
    by_cases hp : p = packetId
    · rw [if_pos hp] at hold
      cases hold
      refine ⟨_,List.mem_append_right _ (List.mem_singleton_self _),?_,?_⟩
      · rw [← hnew]
      · rw [← hnew]
        exact hmatches.2.2.1.symm
    · rw [if_neg hp] at hold
      obtain ⟨e,he,hrest⟩ := hw.sourced p old hold
      exact ⟨e,List.mem_append_left _ he,hrest⟩

/-- A listing shows proofs of packets that the caller has uploaded. -/
theorem Kept.listed (hw : w.Kept lib limits) {limit : ℤ} {destinationId : Option String}
    {ps : List DestinationSettlement}
    (hps : ((w.store.pendingSettlements request.nodeId destinationId limit).mapM fun r =>
      DestinationSettlement.fromDict lib r.proofJson) = .ok ps) :
    Kept lib limits { w with shown := w.shown ++ ps.map fun p => (request.nodeId,p) } := by
  have hread : ∀ p ∈ ps, p.uploaderId = request.nodeId ∧ ∃ e ∈ w.settled, e.proof = p := by
    intro p hp
    obtain ⟨row,hrow,hfrom⟩ := mem_mapM hps hp
    have hrow := List.mem_of_mem_take hrow
    rw [List.mem_insertionSort,Table.mem_select] at hrow
    obtain ⟨hget,huploader,-⟩ := hrow
    obtain ⟨e,he,hjson,hsame⟩ := hw.sourced _ row hget
    rw [hjson,DestinationSettlement.fromDict_toDict] at hfrom
    obtain rfl := Except.ok.inj hfrom
    exact ⟨hsame.symm.trans huploader,e,he,rfl⟩
  refine ⟨⟨hw.kept,hw.apart,hw.leases,?_,hw.pending,hw.proved,hw.quotas⟩,hw.origin,hw.leased,
    hw.sourced⟩
  intro v hv
  rcases List.mem_append.mp hv with hv | hnew
  · exact hw.shown v hv
  · obtain ⟨p,hp,rfl⟩ := List.mem_map.mp hnew
    exact hread p hp

/-- An acknowledgement marks the row of a packet that the caller has uploaded. -/
theorem Kept.acknowledged (hw : w.Kept lib limits) {packetId : String} {row : SettlementRow}
    (hrow : w.store.settlements.get packetId = some row) (howner : row.uploaderId = request.nodeId) :
    Kept lib limits { w with
      store := { w.store with
        settlements := w.store.settlements.update (fun r => r.packetId = packetId)
          (.acknowledged now) (fun _ => rfl) (noMarks_subset _) }
      acked := w.acked ++ [(request.nodeId,packetId,now)] } := by
  have hget (p : String) := Table.get_update_key w.store.settlements packetId (.acknowledged now)
    (fun _ => rfl) (noMarks_subset _) p
  refine ⟨⟨hw.kept,?_,hw.leases,hw.shown,?_,hw.proved,quotas_sublist hw.quotas (.refl _)⟩,
    hw.origin,hw.leased,?_⟩
  · intro p
    rcases hw.apart p with hnone | hnone
    · exact .inl hnone
    · right
      refine (hget p).trans ?_
      by_cases hp : p = packetId
      · rw [hp,hrow] at hnone
        cases hnone
      · rw [if_neg hp]
        exact hnone
  · intro e he
    rcases hw.pending e he with hexpired | ⟨old,hold,huploader,hproof,hexpires,hacked⟩
    · exact .inl hexpired
    · right
      by_cases hp : e.proof.packetId = packetId
      · rw [hp,hrow,Option.some.injEq] at hold
        subst hold
        refine ⟨row.acknowledged now,?_,huploader,hproof,hexpires,?_⟩
        · refine (hget _).trans ?_
          rw [if_pos hp,hrow]
          rfl
        · intro _
          refine List.mem_append_right _ ?_
          rw [List.mem_singleton,← howner,← Table.get_key hrow]
          rfl
      · refine ⟨old,?_,huploader,hproof,hexpires,fun hmark => List.mem_append_left _ (hacked hmark)⟩
        refine (hget _).trans ?_
        rw [if_neg hp]
        exact hold
  · intro p r hr
    replace hr := (hget p).symm.trans hr
    by_cases hp : p = packetId
    · rw [if_pos hp,hrow,Option.map_some,Option.some.injEq] at hr
      rw [← hr]
      exact hw.sourced packetId row hrow
    · rw [if_neg hp] at hr
      exact hw.sourced p r hr

/-- What an operation does to a kept world once it has begun keeps it with its note. -/
theorem Kept.effect (hw : w.Kept lib limits) {op : AhubOperation} {reply : AhubReply}
    {s : AhubStore} (hrequest : request.verify lib descriptor body now = .ok ())
    (h : AhubStore.Effect lib limits request descriptor body now w.store op reply s) :
    Kept lib limits (note now { w with store := s } (.signed request descriptor body op) reply) := by
  cases h with
  | quiet reservations hsilent =>
    have hquiet := hw.of_tables (s := { w.store with reservations := reservations }) rfl rfl le_rfl
    cases reply with
    | receipt r =>
      have hstored : r.stored = false := hsilent
      simp only [note,hstored]
      exact hquiet
    | settled changed =>
      obtain rfl : changed = false := hsilent
      cases op <;> exact hquiet
    | acknowledged changed =>
      obtain rfl : changed = false := hsilent
      cases op <;> exact hquiet
    | claimed packets => cases hsilent
    | proofs ps => cases hsilent
    | authenticated => exact hquiet
    | reservation r => exact hquiet
  | @stored seen packet mailbox hpacket hlive hmailbox hsettlements hquota hinsert =>
    have hnew : (mailbox.get packet.packetId).map MailboxRow.released = some
        ⟨packet.packetId,packet.destinationId,request.nodeId,packet.raw,packet.raw.length,
          packet.createdMs,packet.expiresMs,packet.qos,0,none,none⟩ := by
      rw [Table.get_insert hinsert]
      exact congrArg (Option.map MailboxRow.released) (if_pos rfl)
    simp only [note,hnew]
    exact hw.stored hsettlements hquota rfl hinsert
  | claimed hrows => exact hw.claimed hrows
  | settled hrow hdestination htoken hlive hverify hmatches =>
    exact hw.settled hrow hrequest hdestination hverify hmatches
  | listed hproofs => exact hw.listed hproofs
  | acknowledged hrow howner => exact hw.acknowledged hrow howner

end Effects

theorem kept_step {w' : CustodyWorld} (hw : w.Kept lib limits)
    (h : CustodyStep lib limits w w') : w'.Kept lib limits := by
  obtain ⟨now,call,rfl⟩ := h
  rcases atomic_cases (AhubStore.callBody lib limits now call) w.store with
    ⟨reply,s,hbody,hrun⟩ | ⟨e,-,hrun⟩
  · rw [exec,hrun]
    cases call with
    | allow nodeId =>
      simp only [AhubStore.callBody,AhubStore.allowNode,map_ok,bind_ok] at hbody
      obtain ⟨r,⟨_,-,h⟩,hreply⟩ := hbody
      cases hreply
      split_ifs at h
      · cases h
        exact hw.of_tables rfl rfl (le_max_left _ _)
      · obtain ⟨allowlist,-,hval⟩ := bind_ok.mp h
        cases hval
        exact hw.of_tables rfl rfl (le_max_left _ _)
    | disallow nodeId =>
      simp only [AhubStore.callBody,AhubStore.disallowNode,map_ok,bind_ok] at hbody
      obtain ⟨r,⟨_,-,hval⟩,hreply⟩ := hbody
      cases hval
      cases hreply
      exact hw.of_tables rfl rfl (le_max_left _ _)
    | purge =>
      cases hbody
      exact hw.purged (le_max_left _ _) (le_max_right _ _)
    | mailboxCount nodeId =>
      simp only [AhubStore.callBody,AhubStore.mailboxCount,map_ok,bind_ok] at hbody
      obtain ⟨r,⟨_,-,hval⟩,hreply⟩ := hbody
      cases hval
      cases hreply
      exact hw.purged (le_max_left _ _) (le_max_right _ _)
    | signed request descriptor body op =>
      obtain ⟨r,hperform,hreply⟩ := map_ok.mp hbody
      cases hreply
      obtain ⟨b,hbegin,heffect⟩ := AhubStore.perform_effect hperform
      obtain ⟨hrequest,-,nonces,-,rfl⟩ := AhubStore.beginSigned_ok.mp hbegin
      have hbegun := (hw.purged (le_max_left w.seen now) (le_max_right w.seen now)).of_tables
        (s := { w.store.purge now with nonces := nonces }) rfl rfl le_rfl
      exact hbegun.effect hrequest heffect
  · rw [exec,hrun]
    exact hw.of_tables rfl rfl (le_max_left _ _)

theorem kept_reaches {clock : ℤ} (h : Reaches (CustodyStep lib limits) (initial clock) w) :
    w.Kept lib limits := by
  induction h with
  | refl =>
    have hnone {α : Type} {P : α → Prop} : ∀ a ∈ ([] : List α), P a :=
      fun _ ha => absurd ha List.not_mem_nil
    refine ⟨⟨hnone,fun _ => .inl rfl,.nil,hnone,hnone,hnone,?_⟩,hnone,hnone,?_⟩
    · exact ⟨fun _ => Nat.zero_le _,fun _ => Nat.zero_le _,fun _ => Nat.zero_le _,
        fun _ => Nat.zero_le _⟩
    · intro p row hrow
      cases hrow
  | tail _ hlast ih => exact kept_step ih hlast

end Runs

section Sample

def uploader : SigningIdentity := plainIdentity 1

def destination : SigningIdentity := plainIdentity 2

def mailedId : String := "00000000000000000000000000000001"

/-- A packet for the destination that expires at 90000. -/
def mailedPacket : Bytes :=
  ((Runtime.msgpack.canonicalPack (.map [(.str "v",.int 1),(.str "id",.str mailedId),
    (.str "dst",.str destination.nodeId),(.str "ts",.int 1000),(.str "exp",.int 90000),
    (.str "hops",.int 4),(.str "epk",.bin (List.replicate 32 0)),
    (.str "nonce",.bin (List.replicate 12 0)),
    (.str "ct",.bin (List.replicate 32 0))])).toOption).getD []

def mailRequest (identity : SigningIdentity) (nonce : String) (body : Bytes) : AhubRequest :=
  let unsigned : AhubRequest := ⟨identity.nodeId,"POST","/v1/mailbox",1000,nonce,
    plainControl.sha256 body,[],1,"anet.ahub-request.v1"⟩
  { unsigned with signature := identity.sign (plainMessage unsigned.signingFields) }

def mailedProof : DestinationSettlement :=
  let unsigned : DestinationSettlement := ⟨mailedId,plainControl.sha256 mailedPacket,
    uploader.nodeId,destination.nodeId,1000,90000,[],1,"anet.destination-settlement.v1"⟩
  { unsigned with signature := destination.sign (plainMessage unsigned.signingFields) }

/-- The packet is uploaded, claimed and settled. -/
def mailCalls : List (ℤ × AhubCall) :=
  [(1000,.allow uploader.nodeId),(1000,.allow destination.nodeId),
    (1000,.signed (mailRequest uploader "nonce-of-the-upload" mailedPacket)
      (plainDescriptor 1 1 genesisDigest 1000 600000) mailedPacket (.submit 1000)),
    (1000,.signed (mailRequest destination "nonce-of-the-claim" [])
      (plainDescriptor 2 1 genesisDigest 1000 600000) [] (.claim 1 5000 none none fun _ => "token")),
    (1000,.signed (mailRequest destination "nonce-of-the-proof" [])
      (plainDescriptor 2 1 genesisDigest 1000 600000) [] (.settle mailedId "token" mailedProof))]

def runAll (calls : List (ℤ × AhubCall)) : CustodyWorld :=
  calls.foldl (fun w c => w.exec plainControl .default c.1 c.2) (initial 1000)

theorem runAll_runs (calls : List (ℤ × AhubCall)) :
    Reaches (CustodyStep plainControl .default) (initial 1000) (runAll calls) := by
  apply Reaches.of_steps
  intro w c
  exact ⟨c.1,c.2,rfl⟩

/-- What becomes of the packet, until its settlement expires. -/
theorem mailCalls_events :
    ((runAll mailCalls).stored.map MailboxRow.raw = [mailedPacket] ∧
      (runAll mailCalls).handed.map Handout.token = ["token"] ∧
      (runAll mailCalls).settled.map SettleEvent.proof = [mailedProof]) ∧
    (runAll (mailCalls ++ [(90000,.purge)])).settled.map SettleEvent.proof = [mailedProof] ∧
      (runAll (mailCalls ++ [(90000,.purge)])).acked = [] ∧
      ((runAll (mailCalls ++ [(90000,.purge)])).store.settlements.get mailedId).isNone := by
  decide +kernel

end Sample

/-- In every run the packets and the settlements are where they belong, and a call that is
refused leaves every table as it was. -/
theorem mailbox_lifecycle (lib : ControlLibrary) (limits : AhubLimits) (clock : ℤ)
    (w : CustodyWorld) (hrun : Reaches (CustodyStep lib limits) (initial clock) w) :
    Custody lib limits w ∧ ∀ now call e,
      (atomic (AhubStore.callBody lib limits now call) w.store).1 = .error e →
      (atomic (AhubStore.callBody lib limits now call) w.store).2 = w.store := by
  refine ⟨(kept_reaches hrun).toCustody,?_⟩
  intro now call e he
  rcases atomic_cases (AhubStore.callBody lib limits now call) w.store with
    ⟨reply,s,-,hval⟩ | ⟨e',-,hval⟩
  · rw [hval] at he
    cases he
  · rw [hval]

theorem mailbox_lifecycle_sample :
    ((runAll mailCalls).stored.map MailboxRow.raw = [mailedPacket] ∧
      (runAll mailCalls).handed.map Handout.token = ["token"] ∧
      (runAll mailCalls).settled.map SettleEvent.proof = [mailedProof]) ∧
    Custody plainControl .default (runAll mailCalls) := by
  exact ⟨mailCalls_events.1,(mailbox_lifecycle plainControl .default 1000 _ (runAll_runs _)).1⟩

/-- A settlement that nobody has acknowledged goes when its packet expires. -/
theorem settlement_expires : ∃ w, Reaches (CustodyStep plainControl .default) (initial 1000) w ∧
    w.settled.map SettleEvent.proof = [mailedProof] ∧ w.acked = [] ∧
    (w.store.settlements.get mailedId).isNone := by
  obtain ⟨hproof,hacked,hgone⟩ := mailCalls_events.2
  exact ⟨_,runAll_runs _,hproof,hacked,hgone⟩

end CustodyWorld
end Anet
