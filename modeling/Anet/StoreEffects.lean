import Anet.StoreRuns

/-! What each call of a store run does to the rows of packets and of one-time keys:
a row is the same one later, or the call stored it. -/
namespace Anet

open PacketStore Packet

namespace PacketStore

section Packets

variable {rt : Runtime} {s : PacketStore} {new : PacketRow → Prop}

/-- No packet is new and each that is left is the same packet later. -/
abbrev PacketsAge (t t' : Packets) : Prop := Table.Derives PacketRow.Later (fun _ => False) t t'

theorem packetsAge_refl (t : Packets) : PacketsAge t t := Table.Derives.refl PacketRow.Later.refl t

theorem packetsAge_trans {t t' t'' : Packets} (h : PacketsAge t t') (h' : PacketsAge t' t'') :
    PacketsAge t t'' :=
  Table.Derives.changed (fun _ _ _ => PacketRow.Later.trans) (fun _ _ hn _ => hn.elim) h h'

theorem packetsAge_update {t : Packets} {q : PacketRow → Prop} [DecidablePred q]
    {f : PacketRow → PacketRow} (h : ∀ p, q p → PacketRow.Later p (f p))
    (hkey : ∀ p, (f p).packetId = p.packetId) :
    PacketsAge t (t.update q f hkey (noMarks_subset f)) :=
  Table.Derives.update hkey (noMarks_subset f) PacketRow.Later.refl h

theorem packetsAge_deliver (t : Packets) (q : PacketRow → Prop) [DecidablePred q] :
    PacketsAge t (deliver t q) := by
  unfold deliver
  refine packetsAge_update ?_ (by intro _; rfl)
  intro p _
  exact ⟨rfl,rfl,rfl,le_refl _,fun _ => rfl⟩

theorem markAcked_packets (packetIds : List String) (peerId pathId : String) (now : ℤ)
    (s : PacketStore) :
    PacketsAge s.packets (markAcked packetIds peerId pathId now s).packets := by
  unfold markAcked
  induction packetIds generalizing s with
  | nil => exact packetsAge_refl _
  | cons packetId packetIds ih => exact packetsAge_trans (packetsAge_deliver _ _) (ih _)

theorem revokePeer_age (peerId : String) (now : ℤ) (s : PacketStore) :
    PacketsAge s.packets (revokePeer peerId now s).2.packets := by
  rcases revokePeer_cases peerId now s with hs | ⟨peerId',hs⟩
  · rw [hs]
    exact packetsAge_refl _
  · rw [hs]
    unfold expirePending
    refine packetsAge_update ?_ (by intro _; rfl)
    intro p _
    exact ⟨rfl,rfl,rfl,min_le_left _ _,id⟩

theorem purgePrefix_age (n : ℕ) (retentionMs now : ℤ) (s : PacketStore) :
    PacketsAge s.packets (purgePrefix n retentionMs now s).packets := by
  refine runStatements_keeps (I := fun s' => PacketsAge s.packets s'.packets) _ ?_ s
    (packetsAge_refl _)
  intro statement hmem s' h
  have hmem := List.mem_of_mem_take hmem
  simp only [purgeStatements,List.mem_cons,List.not_mem_nil,or_false] at hmem
  rcases hmem with rfl | rfl | rfl | rfl | rfl | rfl | rfl | rfl | rfl
  · exact packetsAge_trans h (Table.Derives.delete PacketRow.Later.refl)
  iterate 8 exact h

end Packets

section LocalKeys

variable {rt : Runtime} {s s' : PacketStore} {op : StoreOp} {now : ℤ}

/-- What one call makes of the keys this node handed out; it deletes none. -/
structure LocalKeysChange (op : StoreOp) (t t' : LocalPrekeys) : Prop where
  rows : Table.Derives (LocalPrekey.Change op) (LocalPrekey.Issued op) t t'
  kept : Table.Keeps t t'

theorem localKeys_refl (t : LocalPrekeys) : LocalKeysChange op t t :=
  ⟨Table.Derives.refl LocalPrekey.Change.same t,Table.Keeps.refl t⟩

theorem localKeys_update {t : LocalPrekeys} {q : LocalPrekey → Prop} [DecidablePred q]
    {f : LocalPrekey → LocalPrekey} (h : ∀ r, q r → LocalPrekey.Change op r (f r))
    (hkey : ∀ r, (f r).prekeyId = r.prekeyId) :
    LocalKeysChange op t (t.update q f hkey (noMarks_subset f)) :=
  ⟨Table.Derives.update hkey (noMarks_subset f) LocalPrekey.Change.same h,
    Table.Keeps.update hkey (noMarks_subset f)⟩

/-- The insertion loop keeps every row and adds keys of the batch. -/
theorem insertLocalKeys_rows {batch : LocalBatch} {items : List LocalKey} {t : LocalPrekeys}
    {r : ℕ × LocalPrekeys} (h : insertLocalKeys batch items t = .ok r) :
    Table.Derives Eq (fun x => ∃ key ∈ items, x = localPrekeyRow batch key) t r.2 ∧
      Table.Keeps t r.2 := by
  induction items generalizing t r with
  | nil =>
    cases h
    exact ⟨Table.Derives.refl (fun _ => rfl) _,Table.Keeps.refl _⟩
  | cons item items ih =>
    have hweaken {t t' : LocalPrekeys}
        (h : Table.Derives Eq (fun x => ∃ key ∈ items, x = localPrekeyRow batch key) t t') :
        Table.Derives Eq (fun x => ∃ key ∈ item :: items, x = localPrekeyRow batch key) t t' :=
      h.mono (fun _ _ hr => hr) fun x ⟨key,hkey,hx⟩ => ⟨key,List.mem_cons_of_mem _ hkey,hx⟩
    unfold insertLocalKeys at h
    split at h
    · split at h
      · cases h
      · exact ⟨hweaken (ih h).1,(ih h).2⟩
    · simp only [bind_ok] at h
      obtain ⟨t₁,hins,rest,hrest,hval⟩ := h
      cases hval
      have hins := integrity_ok.mp hins
      have hkept := Table.Keeps.insert hins
      obtain ⟨hadded,hrestKept⟩ := ih hrest
      refine ⟨?_,hkept.trans hrestKept⟩
      exact Table.Derives.trans (fun _ _ _ => Eq.trans) (fun _ _ hn he => he ▸ hn) hkept
        (Table.Derives.insert (fun _ => rfl) hins ⟨item,List.mem_cons_self,rfl⟩)
        (hweaken hadded)

theorem consumePrekey_rows {message : OpenedMessage} {trusted visible : Bool} {t : LocalPrekeys}
    (h : s.consumePrekey message now = .ok t) :
    LocalKeysChange (.work (.commit message trusted visible now)) s.localPrekeys t := by
  unfold consumePrekey at h
  split at h
  · cases h
    exact localKeys_refl _
  · rename_i hmode
    dsimp only at h
    split at h
    · cases h
    · cases h
      refine localKeys_update ?_ (by intro _; rfl)
      intro r hr
      exact .consume r message trusted visible now rfl hmode hr.1 hr.2.1 hr.2.2

theorem revokePeer_localKeys (peerId : String) (now : ℤ) (s : PacketStore) :
    LocalKeysChange op s.localPrekeys (revokePeer peerId now s).2.localPrekeys := by
  rcases revokePeer_cases peerId now s with hs | ⟨peerId',hs⟩
  · rw [hs]
    exact localKeys_refl _
  · rw [hs]
    unfold revokeLocalPrekeys
    refine localKeys_update ?_ (by intro _; rfl)
    intro r hr
    exact .revoke r now hr.2

/-- Of the purge one statement writes the local keys. -/
theorem purgePrefix_localKeys (n : ℕ) (retentionMs now : ℤ) (s : PacketStore) :
    LocalKeysChange op s.localPrekeys (purgePrefix n retentionMs now s).localPrekeys := by
  have hexpire : LocalKeysChange op s.localPrekeys
      (expireLocalPrekeys (now - maxTtlSeconds * 1000 - maxClockSkewMs) now s).2.localPrekeys := by
    unfold expireLocalPrekeys
    refine localKeys_update ?_ (by intro _; rfl)
    intro r hr
    exact .expire r now hr.1
  match n with
  | 0 | 1 | 2 | 3 | 4 | 5 | 6 | 7 => exact localKeys_refl _
  | 8 => exact hexpire
  | n + 9 =>
    have htake : (purgeStatements retentionMs now).take (n + 9) = purgeStatements retentionMs now :=
      List.take_of_length_le (by simp [purgeStatements])
    rw [purgePrefix,htake]
    exact hexpire

end LocalKeys

section PeerKeys

variable {rt : Runtime} {s s' : PacketStore} {op : StoreOp} {now : ℤ}

/-- What one call makes of the peers' keys. -/
abbrev PeerKeysAge (op : StoreOp) (t t' : PeerPrekeys) : Prop :=
  Table.Derives PeerPrekey.Aged (PeerPrekey.Imported op) t t'

theorem peerKeys_refl (t : PeerPrekeys) : PeerKeysAge op t t :=
  Table.Derives.refl PeerPrekey.Aged.refl t

theorem peerKeys_update {t : PeerPrekeys} {new : PeerPrekey → Prop} {q : PeerPrekey → Prop}
    [DecidablePred q] {f : PeerPrekey → PeerPrekey} (h : ∀ r, q r → PeerPrekey.Aged r (f r))
    (hkey : ∀ r, (f r).key = r.key) :
    Table.Derives PeerPrekey.Aged new t (t.update q f hkey (noMarks_subset f)) :=
  Table.Derives.update hkey (noMarks_subset f) PeerPrekey.Aged.refl h

theorem insertPeerKeys_rows {bundle : PeerBundle} {items : List PeerKey} {t t' : PeerPrekeys}
    (h : insertPeerKeys bundle items t = .ok t') :
    Table.Derives PeerPrekey.Aged (fun r => r.peerId = bundle.peerId) t t' := by
  induction items generalizing t with
  | nil =>
    cases h
    exact Table.Derives.refl PeerPrekey.Aged.refl _
  | cons item items ih =>
    simp only [insertPeerKeys,bind_ok,raiseIf_ok] at h
    obtain ⟨_,-,t₁,hins,hrest⟩ := h
    have hins := integrity_ok.mp hins
    exact Table.Derives.trans (fun _ _ _ => PeerPrekey.Aged.trans)
      (fun _ _ hn hr => hr.peer.trans hn) (Table.Keeps.insert hins)
      (Table.Derives.insert PeerPrekey.Aged.refl hins rfl) (ih hrest)

theorem aged_reserve {r : PeerPrekey} {reservationId : String} (h : r.state = .available) :
    PeerPrekey.Aged r (r.reserve reservationId now) :=
  ⟨rfl,fun _ => Or.inl h⟩

theorem aged_spend {r r' : PeerPrekey} (hpeer : r'.peerId = r.peerId)
    (hstate : r'.state ≠ .available ∧ r'.state ≠ .reserved) : PeerPrekey.Aged r r' :=
  ⟨hpeer,fun h => (h.elim hstate.1 hstate.2).elim⟩

theorem bindDispatchPrekey_rows {dispatch : A2ADispatch} {info : PacketInfo}
    {keyId reservationId : String} {t : PeerPrekeys}
    (h : s.bindDispatchPrekey dispatch info keyId reservationId now = .ok t) :
    PeerKeysAge op s.peerPrekeys t := by
  unfold bindDispatchPrekey at h
  split at h
  · cases h
    exact peerKeys_refl _
  · dsimp only at h
    split at h
    · cases h
    · split at h
      · cases h
      · cases h
        refine peerKeys_update ?_ (by intro _; rfl)
        intro r _
        exact aged_spend rfl (by simp [PeerPrekey.bind])

theorem revokePeer_peerKeys (peerId : String) (now : ℤ) (s : PacketStore) :
    PeerKeysAge op s.peerPrekeys (revokePeer peerId now s).2.peerPrekeys := by
  rcases revokePeer_cases peerId now s with hs | ⟨peerId',hs⟩
  · rw [hs]
    exact peerKeys_refl _
  · rw [hs]
    unfold revokePeerPrekeys
    refine peerKeys_update ?_ (by intro _; rfl)
    intro r _
    exact aged_spend rfl (by simp [PeerPrekey.revoke])

theorem purgePrefix_peerKeys (n : ℕ) (retentionMs now : ℤ) (s : PacketStore) :
    PeerKeysAge op s.peerPrekeys (purgePrefix n retentionMs now s).peerPrekeys := by
  refine (runStatements_keeps (I := fun s' => Table.Derives PeerPrekey.Aged (fun _ => False)
    s.peerPrekeys s'.peerPrekeys) _ ?_ s (Table.Derives.refl PeerPrekey.Aged.refl _)).mono
      (fun _ _ hr => hr) fun _ hn => hn.elim
  intro statement hmem s' h
  have hmem := List.mem_of_mem_take hmem
  simp only [purgeStatements,List.mem_cons,List.not_mem_nil,or_false] at hmem
  rcases hmem with rfl | rfl | rfl | rfl | rfl | rfl | rfl | rfl | rfl
  iterate 8 exact h
  have hexpire : Table.Derives PeerPrekey.Aged (fun _ => False) s'.peerPrekeys
      (expirePeerPrekeys now s').2.peerPrekeys := by
    unfold expirePeerPrekeys
    refine peerKeys_update ?_ (by intro _; rfl)
    intro r _
    exact aged_spend rfl (by simp [PeerPrekey.expire])
  exact Table.Derives.changed (fun _ _ _ => PeerPrekey.Aged.trans) (fun _ _ hn _ => hn) h hexpire

end PeerKeys

section Frames

variable {rt : Runtime} {w : WorkWorld} {s : PacketStore}

/-- The calls on messages write the packets and the keys in three places only. -/
theorem work_ledger (op : WorkOp) :
    (op.exec rt s).ledger = s.ledger ∨ (∃ m t v now, op = .commit m t v now) ∨
      (∃ peerId now, op = .revoke peerId now) ∨ (∃ n r now, op = .purge n r now) ∨
        ∃ s', op = .elsewhere s' := by
  cases op with
  | commit m t v now => exact Or.inr (Or.inl ⟨m,t,v,now,rfl⟩)
  | revoke peerId now => exact Or.inr (Or.inr (Or.inl ⟨peerId,now,rfl⟩))
  | purge n r now => exact Or.inr (Or.inr (Or.inr (Or.inl ⟨n,r,now,rfl⟩)))
  | elsewhere s' => exact Or.inr (Or.inr (Or.inr (Or.inr ⟨s',rfl⟩)))
  | addInbox message trusted visible now =>
    left
    rw [WorkOp.exec,WorkOp.outcome,WorkOp.done_store]
    rcases addInbox_cases rt message trusted visible now s with hs | ⟨_,_,_,-,-,-,hs⟩ <;> rw [hs]
    rfl
  | markRead packetIds => exact Or.inl rfl
  | reopen => exact Or.inl rfl
  | openGroup groupId start kindPrefix senderId trustedOnly includeTransient now =>
    left
    rw [WorkOp.exec,WorkOp.outcome,WorkOp.done_store]
    rcases openConsumerGroup_cases groupId start kindPrefix senderId trustedOnly includeTransient
      now s with hs | ⟨_,_,-,hs⟩ <;> rw [hs]
    rfl
  | claim groupId owner limit lease now draws =>
    left
    rw [WorkOp.exec,WorkOp.outcome,WorkOp.done_store]
    rcases claimConsumerMessages_cases rt groupId owner limit lease now draws s with
      ⟨_,ht⟩ | ⟨_,_,_,-,-,-,ht⟩ <;> rw [ht]
    rfl
  | acknowledge groupId owner claimToken now =>
    left
    rw [WorkOp.exec,WorkOp.outcome,WorkOp.done_store]
    rcases acknowledgeClaim_cases groupId owner claimToken now s with ⟨_,ht,-⟩ | ⟨_,ht,-,-⟩ <;>
      rw [ht]
    rfl
  | reject groupId owner claimToken retry error now =>
    left
    rw [WorkOp.exec,WorkOp.outcome,WorkOp.done_store]
    rcases rejectClaim_cases groupId owner claimToken retry error now s with
      ⟨_,ht,-⟩ | ⟨_,ht,-,-⟩ <;> rw [ht]
    rfl
  | renew groupId owner claimToken lease now =>
    left
    rw [WorkOp.exec,WorkOp.outcome,WorkOp.done_store]
    rcases renewClaim_cases groupId owner claimToken lease now s with ⟨_,ht,-⟩ | ⟨_,ht,-,-⟩ <;>
      rw [ht]
    rfl
  | begin groupId owner claimToken allowedSenders allowedCapabilities drawn executionToken now =>
    left
    rw [WorkOp.exec,WorkOp.outcome,WorkOp.done_store]
    rcases beginAgentTask_cases rt groupId owner claimToken allowedSenders allowedCapabilities drawn
      executionToken now s with ⟨_,ht⟩ | ⟨_,_,_,-,heffect,ht⟩
    · rw [ht]
    · rw [ht]
      cases heffect <;> rfl
  | settle groupId owner claimToken executionToken state output error retry now =>
    left
    rw [WorkOp.exec,WorkOp.outcome,WorkOp.done_store]
    rcases settleAgentTask_cases rt groupId owner claimToken executionToken state output error retry
      now s with ⟨_,ht⟩ | ⟨_,_,_,_,_,-,hsettle,ht⟩
    · rw [ht]
    · rw [ht]
      obtain ⟨_,_,-,-,-,-,-,-,⟨-,rfl⟩ | ⟨-,rfl⟩⟩ := settleExecution_cases hsettle <;> rfl
  | cancel groupId owner claimToken allowedSenders now =>
    left
    rw [WorkOp.exec,WorkOp.outcome,WorkOp.done_store]
    rcases applyAgentTaskCancellation_cases rt groupId owner claimToken allowedSenders now s with
      ⟨_,ht⟩ | ⟨_,_,_,-,hrecord,ht⟩
    · rw [ht]
    · rw [ht]
      obtain ⟨_,-,-,rfl⟩ := recordCancellation_cases hrecord
      rfl
  | activate groupId owner claimToken prepared now =>
    left
    rw [WorkOp.exec,WorkOp.outcome,WorkOp.done_store]
    rcases transaction_cases (commitActivation rt groupId owner claimToken prepared now) s with
      ⟨_,_,hb,ht⟩ | ⟨_,-,ht⟩
    · rw [ht]
      obtain ⟨_,_,_,_,_,-,-,-,rfl,-⟩ := commitActivation_cases hb
      rfl
    · rw [ht]

/-- What the calls that are not on messages write. -/
inductive CallEffect (rt : Runtime) (op : StoreOp) (s : PacketStore) : PacketStore → Prop
  | packets (packets : Packets) (deliveries : Deliveries) (deliveryPaths : DeliveryPaths)
      (receipts : Receipts) (packetRejections : PacketRejections)
      (hpackets : Table.Derives PacketRow.Later (StoreOp.Added rt op s) s.packets packets) :
      CallEffect rt op s { s with
        packets := packets, deliveries := deliveries, deliveryPaths := deliveryPaths
        receipts := receipts, packetRejections := packetRejections }
  | peerKeys (peerPrekeys : PeerPrekeys) (bundles : PeerPrekeyBundles) (dispatches : Dispatches)
      (hkeys : PeerKeysAge op s.peerPrekeys peerPrekeys) :
      CallEffect rt op s { s with
        peerPrekeys := peerPrekeys, peerPrekeyBundles := bundles, a2aDispatches := dispatches }
  | dispatch (packets : Packets) (peerPrekeys : PeerPrekeys) (dispatches : Dispatches)
      (tasks : A2ATasks)
      (hpackets : Table.Derives PacketRow.Later (StoreOp.Added rt op s) s.packets packets)
      (hkeys : PeerKeysAge op s.peerPrekeys peerPrekeys) :
      CallEffect rt op s { s with
        packets := packets, peerPrekeys := peerPrekeys, a2aDispatches := dispatches
        a2aTasks := tasks }
  | localKeys (localPrekeys : LocalPrekeys) (metadata : Metadata)
      (hkeys : LocalKeysChange op s.localPrekeys localPrekeys) :
      CallEffect rt op s { s with localPrekeys := localPrekeys, storeMetadata := metadata }

theorem packetsAge_added {t t' : Packets} {op : StoreOp} (h : PacketsAge t t') :
    Table.Derives PacketRow.Later (StoreOp.Added rt op s) t t' :=
  h.mono (fun _ _ hp => hp) fun _ hn => hn.elim

theorem callEffect_refl {op : StoreOp} (s : PacketStore) : CallEffect rt op s s :=
  .packets s.packets s.deliveries s.deliveryPaths s.receipts s.packetRejections
    (packetsAge_added (packetsAge_refl _))

/-- Adding a packet lowers the depth of the one it finds, or stores it. -/
theorem addPacket_effect (raw : Bytes) (depth : ℤ) (origin receivedFrom : String) (now : ℤ)
    (s : PacketStore) : CallEffect rt (.addPacket raw depth origin receivedFrom now) s
      (addPacket rt raw depth origin receivedFrom now s).2 := by
  unfold addPacket
  cases hinfo : inspectPacket rt now raw false with
  | error e => exact callEffect_refl s
  | ok info =>
    dsimp only
    split
    · exact callEffect_refl s
    · split
      · rename_i packets hins
        have hnone := (Table.insert_eq_some hins).1
        refine .packets packets s.deliveries s.deliveryPaths s.receipts s.packetRejections
          (Table.Derives.insert PacketRow.Later.refl hins ⟨info,?_,rfl⟩)
        change s.packets.get info.packetId = none at hnone
        simp [StoreOp.adds,hinfo,hnone,Except.toOption]
      · refine .packets _ s.deliveries s.deliveryPaths s.receipts s.packetRejections
          (packetsAge_added (packetsAge_update ?_ (by intro _; rfl)))
        intro p _
        exact ⟨rfl,rfl,rfl,le_refl _,id⟩

theorem markAttempt_effect (packetIds : List String) (peerId error pathId : String) (now : ℤ)
    (s : PacketStore) : ∃ deliveries deliveryPaths,
      markAttempt packetIds peerId error pathId now s = { s with
        deliveries := deliveries, deliveryPaths := deliveryPaths } := by
  unfold markAttempt
  induction packetIds generalizing s with
  | nil => exact ⟨_,_,rfl⟩
  | cons packetId packetIds ih =>
    obtain ⟨deliveries,deliveryPaths,hs⟩ := ih (attemptOne peerId error pathId now s packetId)
    exact ⟨deliveries,deliveryPaths,hs⟩

theorem markCustodied_effect (packetIds : List String) (peerId pathId : String) (now : ℤ)
    (s : PacketStore) : ∃ deliveryPaths,
      markCustodied packetIds peerId pathId now s = { s with deliveryPaths := deliveryPaths } := by
  unfold markCustodied
  induction packetIds generalizing s with
  | nil => exact ⟨_,rfl⟩
  | cons packetId packetIds ih =>
    obtain ⟨deliveryPaths,hs⟩ := ih (custodyOne peerId pathId now s packetId)
    exact ⟨deliveryPaths,hs⟩

theorem markAcked_effect (packetIds : List String) (peerId pathId : String) (now : ℤ)
    (s : PacketStore) : ∃ packets deliveries deliveryPaths,
      markAcked packetIds peerId pathId now s = { s with
        packets := packets, deliveries := deliveries, deliveryPaths := deliveryPaths } := by
  unfold markAcked
  induction packetIds generalizing s with
  | nil => exact ⟨_,_,_,rfl⟩
  | cons packetId packetIds ih =>
    obtain ⟨packets,deliveries,deliveryPaths,hs⟩ := ih (ackOne peerId pathId now s packetId)
    exact ⟨packets,deliveries,deliveryPaths,hs⟩

theorem commitA2ADispatchPacket_effect (owner : ConsumerId) (claimToken : Token) (raw : Bytes)
    (keyId reservationId : String) (now : ℤ) (s : PacketStore) :
    CallEffect rt (.commitDispatch owner claimToken raw keyId reservationId now) s
      (commitA2ADispatchPacket rt owner claimToken raw keyId reservationId now s).2 := by
  rcases commitA2ADispatchPacket_cases rt owner claimToken raw keyId reservationId now s
    with ⟨-,hs⟩ | ⟨_,info,_,_,peerPrekeys,packets,dispatches,tasks,-,hinfo,-,hkeys,hins,hs⟩
  · rw [hs]
    exact callEffect_refl s
  · rw [hs]
    refine .dispatch packets peerPrekeys dispatches tasks
      (Table.Derives.insert PacketRow.Later.refl hins ⟨info,?_,rfl⟩) (bindDispatchPrekey_rows hkeys)
    simp [StoreOp.adds,hinfo,Except.toOption]

/-- A call that writes the peers' keys and nothing beside them. -/
theorem peerKeys_effect {op : StoreOp} {keys : PeerPrekeys}
    (h : PeerKeysAge op s.peerPrekeys keys) : CallEffect rt op s { s with peerPrekeys := keys } :=
  .peerKeys keys s.peerPrekeyBundles s.a2aDispatches h

theorem importPeerPrekeyBundle_effect (bundle : PeerBundle) (keys : List PeerKey) (now : ℤ)
    (s : PacketStore) : CallEffect rt (.importBundle bundle keys now) s
      (importPeerPrekeyBundle bundle keys now s).2 := by
  unfold importPeerPrekeyBundle
  rcases transaction_cases _ s with ⟨a,s',hb,ht⟩ | ⟨e,-,ht⟩
  · rw [ht]
    obtain ⟨arguments,harguments,himport⟩ := bind_ok.mp hb
    rcases importBundle_cases himport with rfl | ⟨peerPrekeys,bundles,hkeys,rfl⟩
    · exact callEffect_refl _
    · refine .peerKeys peerPrekeys bundles s.a2aDispatches ?_
      exact (insertPeerKeys_rows hkeys).mono (fun _ _ hr => hr)
        fun r hr => ⟨bundle,keys,now,arguments,rfl,harguments,hr⟩
  · rw [ht]
    exact callEffect_refl s

theorem reservePeerPrekey_effect (peerId reservationId : String) (minBundleVersion : ℤ)
    (drawn : Token) (now : ℤ) (s : PacketStore) :
    CallEffect rt (.reserve peerId reservationId minBundleVersion drawn now) s
      (reservePeerPrekey peerId reservationId minBundleVersion drawn now s).2 := by
  unfold reservePeerPrekey
  rcases transaction_cases _ s with ⟨a,s',hb,ht⟩ | ⟨e,-,ht⟩
  · rw [ht]
    simp only [bind_ok,raiseIf_ok] at hb
    obtain ⟨_,-,_,-,_,-,hnext⟩ := hb
    rcases reserveNext_cases hnext with ⟨-,rfl⟩ | ⟨r,-,-,⟨-,-,rfl⟩ | ⟨-,rfl,-⟩⟩
    · exact callEffect_refl _
    · exact callEffect_refl _
    · refine peerKeys_effect (peerKeys_update ?_ (by intro _; rfl))
      intro _ hx
      exact aged_reserve hx.2.2
  · rw [ht]
    exact callEffect_refl s

theorem bindPeerPrekey_effect (peerId keyId reservationId packetId : String) (now : ℤ)
    (s : PacketStore) : CallEffect rt (.bind peerId keyId reservationId packetId now) s
      (bindPeerPrekey peerId keyId reservationId packetId now s).2 := by
  unfold bindPeerPrekey
  split
  · exact callEffect_refl s
  · exact callEffect_refl s
  · dsimp only
    split
    · exact callEffect_refl s
    · split
      all_goals
        refine peerKeys_effect (peerKeys_update ?_ (by intro _; rfl))
        intro r _
        exact aged_spend rfl (by simp [PeerPrekey.bind])

theorem burnPeerPrekey_effect (peerId keyId reservationId : String) (now : ℤ) (s : PacketStore) :
    CallEffect rt (.burn peerId keyId reservationId now) s
      (burnPeerPrekey peerId keyId reservationId now s).2 := by
  unfold burnPeerPrekey
  split
  · exact callEffect_refl s
  · exact callEffect_refl s
  · refine peerKeys_effect (peerKeys_update ?_ (by intro _; rfl))
    intro r _
    exact aged_spend rfl (by simp [PeerPrekey.burn])

theorem retryA2ADispatch_effect (owner : ConsumerId) (claimToken : Token) (error : String)
    (retry : RetryMs) (drawn : Token) (now : ℤ) (s : PacketStore) :
    CallEffect rt (.retryDispatch owner claimToken error retry drawn now) s
      (retryA2ADispatch owner claimToken error retry drawn now s).2 := by
  unfold retryA2ADispatch
  rcases transaction_cases _ s with ⟨a,s',hb,ht⟩ | ⟨e,-,ht⟩
  · rw [ht]
    simp only [bind_ok,raiseIf_ok] at hb
    obtain ⟨_,-,claimed,-,_,-,hval⟩ := hb
    cases hval
    refine .peerKeys _ s.peerPrekeyBundles _ (peerKeys_update ?_ (by intro _; rfl))
    intro r _
    exact aged_spend rfl (by simp [PeerPrekey.burn])
  · rw [ht]
    exact callEffect_refl s

theorem addLocalPrekeyBatch_effect (keys : List LocalKey) (batch : LocalBatch) (s : PacketStore) :
    CallEffect rt (.addBatch keys batch) s (addLocalPrekeyBatch keys batch s).2 := by
  unfold addLocalPrekeyBatch
  rcases transaction_cases _ s with ⟨a,s',hb,ht⟩ | ⟨e,-,ht⟩
  · rw [ht]
    simp only [bind_ok] at hb
    obtain ⟨arguments,harguments,_,-,_,-,_,-,inserted,hinserted,metadata,-,hval⟩ := hb
    cases hval
    obtain ⟨hrows,hkept⟩ := insertLocalKeys_rows hinserted
    refine .localKeys _ _ ⟨hrows.mono ?_ ?_,hkept⟩
    · rintro r _ rfl
      exact .same r
    · rintro r ⟨key,hkey,rfl⟩
      exact ⟨keys,batch,arguments,key,rfl,harguments,hkey,rfl⟩
  · rw [ht]
    exact callEffect_refl s

theorem scopeLegacyLocalPrekeys_effect (named : String) (s : PacketStore) :
    CallEffect rt (.scopeLegacy named) s (scopeLegacyLocalPrekeys named s).2 := by
  unfold scopeLegacyLocalPrekeys
  rcases transaction_cases _ s with ⟨a,s',hb,ht⟩ | ⟨e,-,ht⟩
  · rw [ht]
    obtain ⟨peerId,hpeer,hrest⟩ := bind_ok.mp hb
    split at hrest
    · cases hrest
      exact callEffect_refl _
    · obtain ⟨metadata,-,hval⟩ := bind_ok.mp hrest
      cases hval
      refine .localKeys _ metadata (localKeys_update ?_ (by intro _; rfl))
      intro r hr
      exact .scope r named peerId rfl hpeer hr
  · rw [ht]
    exact callEffect_refl s

theorem retireUnscopedLocalPrekeys_effect (peerIds : List String) (now : ℤ) (s : PacketStore) :
    CallEffect rt (.retireUnscoped peerIds now) s
      (retireUnscopedLocalPrekeys peerIds now s).2 := by
  unfold retireUnscopedLocalPrekeys
  rcases transaction_cases _ s with ⟨a,s',hb,ht⟩ | ⟨e,-,ht⟩
  · rw [ht]
    simp only [bind_ok] at hb
    obtain ⟨peers,-,_,-,metadata,-,hval⟩ := hb
    cases hval
    refine .localKeys (s.retireUnscoped now) metadata ?_
    unfold retireUnscoped
    split
    · exact localKeys_refl _
    · refine localKeys_update ?_ (by intro _; rfl)
      intro r hr
      exact .retire r now hr.1 hr.2
  · rw [ht]
    exact callEffect_refl s

/-- Every call that is not on messages has such an effect. -/
theorem call_effect (rt : Runtime) {op : StoreOp} (hop : ∀ op', op ≠ .work op') (s : PacketStore) :
    CallEffect rt op s (op.exec rt s) := by
  cases op with
  | work op' => exact absurd rfl (hop op')
  | addPacket raw depth origin receivedFrom now =>
    exact addPacket_effect raw depth origin receivedFrom now s
  | attempt packetIds peerId error pathId now =>
    obtain ⟨deliveries,deliveryPaths,hs⟩ := markAttempt_effect packetIds peerId error pathId now s
    rw [StoreOp.exec,hs]
    exact .packets s.packets deliveries deliveryPaths s.receipts s.packetRejections
      (packetsAge_added (packetsAge_refl _))
  | custody packetIds peerId pathId now =>
    obtain ⟨deliveryPaths,hs⟩ := markCustodied_effect packetIds peerId pathId now s
    rw [StoreOp.exec,hs]
    exact .packets s.packets s.deliveries deliveryPaths s.receipts s.packetRejections
      (packetsAge_added (packetsAge_refl _))
  | acked packetIds peerId pathId now =>
    have hage := markAcked_packets packetIds peerId pathId now s
    obtain ⟨packets,deliveries,deliveryPaths,hs⟩ := markAcked_effect packetIds peerId pathId now s
    rw [hs] at hage
    rw [StoreOp.exec,hs]
    exact .packets packets deliveries deliveryPaths s.receipts s.packetRejections
      (packetsAge_added hage)
  | receipt packetId recipientId now =>
    exact .packets _ s.deliveries s.deliveryPaths _ s.packetRejections
      (packetsAge_added (packetsAge_deliver _ _))
  | delivered packetId =>
    exact .packets _ s.deliveries s.deliveryPaths s.receipts s.packetRejections
      (packetsAge_added (packetsAge_deliver _ _))
  | rejected packetId peerId reason now =>
    exact .packets _ s.deliveries s.deliveryPaths s.receipts _
      (packetsAge_added (packetsAge_deliver _ _))
  | reconcile =>
    exact .packets _ s.deliveries s.deliveryPaths s.receipts s.packetRejections
      (packetsAge_added (packetsAge_deliver _ _))
  | importBundle bundle keys now => exact importPeerPrekeyBundle_effect bundle keys now s
  | reserve peerId reservationId minBundleVersion drawn now =>
    exact reservePeerPrekey_effect peerId reservationId minBundleVersion drawn now s
  | bind peerId keyId reservationId packetId now =>
    exact bindPeerPrekey_effect peerId keyId reservationId packetId now s
  | burn peerId keyId reservationId now => exact burnPeerPrekey_effect peerId keyId reservationId now s
  | retryDispatch owner claimToken error retry drawn now =>
    exact retryA2ADispatch_effect owner claimToken error retry drawn now s
  | commitDispatch owner claimToken raw keyId reservationId now =>
    exact commitA2ADispatchPacket_effect owner claimToken raw keyId reservationId now s
  | addBatch keys batch => exact addLocalPrekeyBatch_effect keys batch s
  | scopeLegacy peerId => exact scopeLegacyLocalPrekeys_effect peerId s
  | retireUnscoped peerIds now => exact retireUnscopedLocalPrekeys_effect peerIds now s

end Frames
end PacketStore

section Runs

variable {rt : Runtime} {w w' : WorkWorld} {op : StoreOp}

/-- What one call does to the packets and to the keys of both sides. -/
structure LedgerStep (rt : Runtime) (op : StoreOp) (s s' : PacketStore) : Prop where
  packets : Table.Derives PacketRow.Later (StoreOp.Added rt op s) s.packets s'.packets
  localKeys : LocalKeysChange op s.localPrekeys s'.localPrekeys
  peerKeys : PeerKeysAge op s.peerPrekeys s'.peerPrekeys

theorem ledgerStep_of_ledger {s s' : PacketStore} (h : s'.ledger = s.ledger) :
    LedgerStep rt op s s' := by
  have hpackets : s'.packets = s.packets := congrArg LedgerTables.packets h
  have hlocal : s'.localPrekeys = s.localPrekeys := congrArg LedgerTables.localPrekeys h
  have hpeer : s'.peerPrekeys = s.peerPrekeys := congrArg LedgerTables.peerPrekeys h
  constructor
  · rw [hpackets]
    exact packetsAge_added (packetsAge_refl _)
  · rw [hlocal]
    exact localKeys_refl _
  · rw [hpeer]
    exact peerKeys_refl _

theorem callEffect_ledger {s s' : PacketStore} (h : CallEffect rt op s s') :
    LedgerStep rt op s s' := by
  cases h with
  | packets _ _ _ _ _ hpackets => exact ⟨hpackets,localKeys_refl _,peerKeys_refl _⟩
  | peerKeys _ _ _ hkeys => exact ⟨packetsAge_added (packetsAge_refl _),localKeys_refl _,hkeys⟩
  | dispatch _ _ _ _ hpackets hkeys => exact ⟨hpackets,localKeys_refl _,hkeys⟩
  | localKeys _ _ hkeys => exact ⟨packetsAge_added (packetsAge_refl _),hkeys,peerKeys_refl _⟩

theorem commitLocalMessage_ledger (message : OpenedMessage) (trusted visible : Bool) (now : ℤ)
    (s : PacketStore) : LedgerStep rt (.work (.commit message trusted visible now)) s
      (commitLocalMessage rt message trusted visible now s).2 := by
  unfold commitLocalMessage
  rcases transaction_cases (commitMessage rt message trusted visible now) s with
    ⟨created,s',hb,ht⟩ | ⟨e,-,ht⟩
  · rw [ht]
    rcases commitMessage_cases hb with ⟨-,-,rfl⟩ | ⟨_,_,_,localPrekeys,-,-,-,-,-,-,hkeys,rfl⟩
    · exact ⟨packetsAge_added (packetsAge_deliver _ _),localKeys_refl _,peerKeys_refl _⟩
    · exact ⟨packetsAge_added (packetsAge_deliver _ _),consumePrekey_rows hkeys,peerKeys_refl _⟩
  · rw [ht]
    exact ledgerStep_of_ledger rfl

theorem ledger_step (rt : Runtime) (hop : op.Allowed w) :
    LedgerStep rt op w.store (op.exec rt w.store) := by
  by_cases hwork : ∃ op', op = .work op'
  · obtain ⟨op',rfl⟩ := hwork
    rcases work_ledger op' with hsame | ⟨m,t,v,now,rfl⟩ | ⟨peerId,now,rfl⟩ | ⟨n,r,now,rfl⟩ | ⟨s',rfl⟩
    · rw [StoreOp.exec]
      exact ledgerStep_of_ledger hsame
    · rw [StoreOp.exec,WorkOp.exec,WorkOp.outcome,WorkOp.done_store]
      exact commitLocalMessage_ledger m t v now w.store
    · rw [StoreOp.exec,WorkOp.exec,WorkOp.outcome,WorkOp.done_store]
      exact ⟨packetsAge_added (revokePeer_age peerId now w.store),
        revokePeer_localKeys peerId now w.store,revokePeer_peerKeys peerId now w.store⟩
    · rw [StoreOp.exec,WorkOp.exec,WorkOp.outcome]
      dsimp only
      exact ⟨packetsAge_added (purgePrefix_age n r now w.store),
        purgePrefix_localKeys n r now w.store,purgePrefix_peerKeys n r now w.store⟩
    · have hsame := hop.2 s' rfl
      rw [StoreOp.exec,WorkOp.exec,WorkOp.outcome]
      exact ledgerStep_of_ledger hsame
  · push Not at hwork
    exact callEffect_ledger (call_effect rt hwork w.store)

theorem asWork_exec (rt : Runtime) (op : StoreOp) (s : PacketStore) :
    (op.asWork rt s).exec rt s = op.exec rt s := by
  unfold StoreOp.asWork
  split <;> rfl

@[simp] theorem next_store (rt : Runtime) (w : WorkWorld) (op : StoreOp) :
    (w.next rt op).store = op.exec rt w.store :=
  asWork_exec rt op w.store

end Runs
end Anet
