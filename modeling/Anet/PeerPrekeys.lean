import Anet.OneShot
import Anet.Transition
import Anet.Maintenance

/-! One-time keys on the sending side, along every run. A peer's key is a one-shot
resource: it is lent to one reservation, spent on one packet or on none, and no
import, retry or second sender brings it back. -/
namespace Anet

open PacketStore Packet

namespace PeerPrekey

/-- Free while available, lent to a reservation, and then spent on a packet; a key
that was never bound is spent on the empty packet id. -/
def phase (r : PeerPrekey) : Phase String String :=
  match r.state with
  | .available => .free
  | .reserved => .lent r.reservationId
  | .used | .burned | .revoked | .expired => .spent r.packetId

/-- The same key at a later time. -/
structure Later (r r' : PeerPrekey) : Prop where
  same : r'.publicKey = r.publicKey
  leads : r.phase.Leads r'.phase

section Phases

variable {r r' : PeerPrekey} {reservationId : String} {now : ℤ}

theorem phase_free : r.phase = .free ↔ r.state = .available := by
  unfold phase
  cases r.state <;> simp

theorem phase_lent :
    r.phase = .lent reservationId ↔ r.state = .reserved ∧ r.reservationId = reservationId := by
  unfold phase
  cases r.state <;> simp

theorem phase_spent {packetId : String} (h : r.phase = .spent packetId) :
    r.packetId = packetId := by
  unfold phase at h
  cases hstate : r.state <;> simp_all

theorem Later.refl (r : PeerPrekey) : Later r r := ⟨rfl,.refl _⟩

theorem Later.trans {r r' r'' : PeerPrekey} (h : Later r r') (h' : Later r' r'') : Later r r'' :=
  ⟨h'.same.trans h.same,h.leads.trans h'.leads⟩

theorem later_reserve (h : r.state = .available) : Later r (r.reserve reservationId now) := by
  refine ⟨rfl,?_⟩
  rw [phase_free.mpr h]
  exact .lend reservationId

theorem later_bind {packetId : String} (h : r.state = .reserved) :
    Later r (r.bind packetId now) := by
  refine ⟨rfl,?_⟩
  rw [phase_lent.mpr ⟨h,rfl⟩]
  exact .spend r.reservationId packetId

theorem later_burn (h : r.state = .reserved) : Later r (r.burn now) := by
  refine ⟨rfl,?_⟩
  rw [phase_lent.mpr ⟨h,rfl⟩]
  exact .spend r.reservationId r.packetId

theorem later_expire (h : r.state = .available) : Later r (r.expire now) := by
  refine ⟨rfl,?_⟩
  rw [phase_free.mpr h]
  exact .consume r.packetId

theorem later_revoke : Later r (r.revoke now) := by
  refine ⟨rfl,?_⟩
  have hrevoked : (r.revoke now).phase = .spent r.packetId := rfl
  rw [hrevoked]
  unfold phase
  cases r.state with
  | available => exact .consume r.packetId
  | reserved => exact .spend r.reservationId r.packetId
  | used => exact .refl _
  | burned => exact .refl _
  | revoked => exact .refl _
  | expired => exact .refl _

end Phases
end PeerPrekey

/-- The rows of a table of keys are kept, each at a later phase. -/
abbrev KeysMove (t t' : PeerPrekeys) : Prop := Table.Moves PeerPrekey.Later t t'

theorem keysMove_update {t : PeerPrekeys} {p : PeerPrekey → Prop} [DecidablePred p]
    {f : PeerPrekey → PeerPrekey} (h : ∀ r, p r → PeerPrekey.Later r (f r))
    (hkey : ∀ r, (f r).key = r.key) :
    KeysMove t (t.update p f hkey (noMarks_subset f)) :=
  Table.Moves.update hkey (noMarks_subset f) PeerPrekey.Later.refl h

namespace PacketStore

section Keys

variable {rt : Runtime} {s s' : PacketStore} {now : ℤ}

theorem keysMove_refl (t : PeerPrekeys) : KeysMove t t := Table.Moves.refl PeerPrekey.Later.refl t

theorem keysMove_trans {t t' t'' : PeerPrekeys} (h : KeysMove t t') (h' : KeysMove t' t'') :
    KeysMove t t'' :=
  Table.Moves.trans (fun _ _ _ => PeerPrekey.Later.trans) h h'

/-- An import adds keys and touches none that was known. -/
theorem insertPeerKeys_keeps {bundle : PeerBundle} {items : List PeerKey} {t t' : PeerPrekeys}
    (h : insertPeerKeys bundle items t = .ok t') : Table.Moves Eq t t' := by
  induction items generalizing t with
  | nil =>
    cases h
    exact Table.Moves.refl (fun _ => rfl) _
  | cons item items ih =>
    simp only [insertPeerKeys,bind_ok,raiseIf_ok] at h
    obtain ⟨_,-,t₁,hins,hrest⟩ := h
    exact (Table.Moves.insert (fun _ => rfl) (integrity_ok.mp hins)).trans
      (fun _ _ _ => Eq.trans) (ih hrest)

/-- An import returns with nothing changed, or has inserted every key and the bundle. -/
theorem importBundle_cases {bundle : PeerBundle} {keys : List PeerKey} {result : ImportResult}
    (h : s.importBundle bundle keys now = .ok (result,s')) :
    s' = s ∨ ∃ peerPrekeys bundles, insertPeerKeys bundle keys s.peerPrekeys = .ok peerPrekeys ∧
      s' = { s with peerPrekeys := peerPrekeys, peerPrekeyBundles := bundles } := by
  have hfresh {result : ImportResult} (h : (do
      let peerPrekeys ← insertPeerKeys bundle keys s.peerPrekeys
      let bundles ← integrity (s.peerPrekeyBundles.insert ⟨bundle.peerId,bundle.generation,
        bundle.bundleVersion,bundle.intendedPeerId,bundle.bundleHash,bundle.createdMs,
        bundle.expiresMs,now⟩)
      return ((⟨bundle.peerId,bundle.generation,keys.length,keys.length,false⟩ : ImportResult),
        { s with peerPrekeys := peerPrekeys, peerPrekeyBundles := bundles })) =
          .ok (result,s')) :
      ∃ peerPrekeys bundles, insertPeerKeys bundle keys s.peerPrekeys = .ok peerPrekeys ∧
        s' = { s with peerPrekeys := peerPrekeys, peerPrekeyBundles := bundles } := by
    obtain ⟨peerPrekeys,hkeys,hrest⟩ := bind_ok.mp h
    obtain ⟨bundles,-,hval⟩ := bind_ok.mp hrest
    cases hval
    exact ⟨peerPrekeys,bundles,hkeys,rfl⟩
  unfold importBundle at h
  dsimp only at h
  split at h
  · exact Or.inr (hfresh h)
  · split at h
    · cases h
    split at h
    · split at h
      · cases h
      · cases h
        exact Or.inl rfl
    · exact Or.inr (hfresh h)

theorem importPeerPrekeyBundle_keeps (bundle : PeerBundle) (keys : List PeerKey) (now : ℤ)
    (s : PacketStore) :
    Table.Moves Eq s.peerPrekeys (importPeerPrekeyBundle bundle keys now s).2.peerPrekeys ∧
      (importPeerPrekeyBundle bundle keys now s).2.packets = s.packets := by
  have hsame : Table.Moves Eq s.peerPrekeys s.peerPrekeys := Table.Moves.refl (fun _ => rfl) _
  unfold importPeerPrekeyBundle
  rcases transaction_cases _ s with ⟨a,s',hb,ht⟩ | ⟨e,-,ht⟩
  · rw [ht]
    obtain ⟨arguments,-,himport⟩ := bind_ok.mp hb
    rcases importBundle_cases himport with rfl | ⟨peerPrekeys,bundles,hkeys,rfl⟩
    · exact ⟨hsame,rfl⟩
    · exact ⟨insertPeerKeys_keeps hkeys,rfl⟩
  · rw [ht]
    exact ⟨hsame,rfl⟩

theorem nextPeerPrekey_available {peerId : String} {minBundleVersion : ℤ} {r : PeerPrekey}
    (h : s.nextPeerPrekey peerId minBundleVersion now = some r) :
    s.peerPrekeys.get r.key = some r ∧ r.peerId = peerId ∧ r.state = .available := by
  have hmem := List.mem_of_mem_head? h
  rw [List.mem_insertionSort] at hmem
  obtain ⟨hr,hpeer,hstate,-⟩ := Table.mem_select.mp hmem
  exact ⟨hr,hpeer,hstate⟩

/-- A reservation finds no key, returns the key it already holds, or takes one
that was available. -/
theorem reserveNext_cases {peerId reservationId : String} {reuse : Bool} {minBundleVersion : ℤ}
    {result : Option ReservedPrekey}
    (h : s.reserveNext peerId reservationId reuse minBundleVersion now = .ok (result,s')) :
    (result = none ∧ s' = s) ∨
      ∃ r, s.peerPrekeys.get r.key = some r ∧ result = some (r.handedOut reservationId) ∧
        ((r.state = .reserved ∧ r.reservationId = reservationId ∧ s' = s) ∨
          (r.state = .available ∧ s' = { s with
            peerPrekeys := s.peerPrekeys.update
              (fun x => x.peerId = peerId ∧ x.prekeyId = r.prekeyId ∧ x.state = .available)
              (PeerPrekey.reserve reservationId now) (fun _ => rfl) (noMarks_subset _) } ∧
            r.peerId = peerId)) := by
  unfold reserveNext at h
  split at h
  · rename_i r hheld
    cases h
    right
    split at hheld
    · obtain ⟨hr,-,hstate,hid,-⟩ := Table.first_some hheld
      exact ⟨r,hr,rfl,Or.inl ⟨hstate,hid,rfl⟩⟩
    · cases hheld
  · split at h
    · cases h
      exact Or.inl ⟨rfl,rfl⟩
    · rename_i r hnext
      obtain ⟨hr,hpeer,hstate⟩ := nextPeerPrekey_available hnext
      dsimp only at h
      split at h
      · cases h
      · cases h
        exact Or.inr ⟨r,hr,rfl,Or.inr ⟨hstate,rfl,hpeer⟩⟩

theorem get_reserve (t : PeerPrekeys) (peerId keyId reservationId : String) (now : ℤ)
    (k : String × String) :
    (t.update (fun x => x.peerId = peerId ∧ x.prekeyId = keyId ∧ x.state = .available)
      (PeerPrekey.reserve reservationId now) (fun _ => rfl) (noMarks_subset _)).get k =
        (t.get k).map fun x => if x.peerId = peerId ∧ x.prekeyId = keyId ∧ x.state = .available
          then x.reserve reservationId now else x :=
  Table.get_update ..

theorem get_bindPrekey (t : PeerPrekeys) (peerId keyId reservationId packetId : String) (now : ℤ)
    (k : String × String) :
    (t.update (PeerPrekey.reservedAs peerId keyId reservationId) (PeerPrekey.bind packetId now)
      (fun _ => rfl) (noMarks_subset _)).get k =
        (t.get k).map fun x => if x.reservedAs peerId keyId reservationId
          then x.bind packetId now else x :=
  Table.get_update ..

/-- A reservation only takes keys that are available. -/
theorem reservePeerPrekey_moves (peerId reservationId : String) (minBundleVersion : ℤ)
    (drawn : Token) (now : ℤ) (s : PacketStore) :
    KeysMove s.peerPrekeys
        (reservePeerPrekey peerId reservationId minBundleVersion drawn now s).2.peerPrekeys ∧
      (reservePeerPrekey peerId reservationId minBundleVersion drawn now s).2.packets =
        s.packets := by
  unfold reservePeerPrekey
  rcases transaction_cases _ s with ⟨a,s',hb,ht⟩ | ⟨e,-,ht⟩
  · rw [ht]
    simp only [bind_ok,raiseIf_ok] at hb
    obtain ⟨_,-,_,-,_,-,hnext⟩ := hb
    rcases reserveNext_cases hnext with ⟨-,rfl⟩ | ⟨r,-,-,⟨-,-,rfl⟩ | ⟨-,rfl,-⟩⟩
    · exact ⟨keysMove_refl _,rfl⟩
    · exact ⟨keysMove_refl _,rfl⟩
    · refine ⟨keysMove_update ?_ (by intro _; rfl),rfl⟩
      intro _ hx
      exact PeerPrekey.later_reserve hx.2.2
  · rw [ht]
    exact ⟨keysMove_refl _,rfl⟩

/-- The key a reservation is given was available or lent to this reservation, and is
lent to it afterwards. -/
theorem reservePeerPrekey_spec {peerId reservationId : String} {minBundleVersion : ℤ}
    {drawn : Token} {held : ReservedPrekey}
    (h : (reservePeerPrekey peerId reservationId minBundleVersion drawn now s).1 =
      .ok (some held)) :
    (∃ r, s.peerPrekeys.get (held.peerId,held.prekeyId) = some r ∧
        (r.phase = .free ∨ r.phase = .lent held.reservationId)) ∧
      ∃ r, (reservePeerPrekey peerId reservationId minBundleVersion drawn now s).2.peerPrekeys.get
        (held.peerId,held.prekeyId) = some r ∧ r.phase = .lent held.reservationId := by
  have hbody := transaction_ok h
  simp only [bind_ok,raiseIf_ok] at hbody
  obtain ⟨_,-,_,-,⟨reuse,id⟩,-,hnext⟩ := hbody
  change s.reserveNext _ _ _ _ _ = .ok (_,(reservePeerPrekey peerId reservationId
    minBundleVersion drawn now s).2) at hnext
  rcases reserveNext_cases hnext with ⟨hnone,-⟩ | ⟨r,hr,hresult,⟨hstate,hid,hs⟩ | ⟨hstate,hs,hpeer⟩⟩
  · cases hnone
  · obtain rfl := Option.some.inj hresult
    have hlent : r.phase = .lent id := PeerPrekey.phase_lent.mpr ⟨hstate,hid⟩
    rw [hs]
    exact ⟨⟨r,hr,Or.inr hlent⟩,r,hr,hlent⟩
  · obtain rfl := Option.some.inj hresult
    refine ⟨⟨r,hr,Or.inl (PeerPrekey.phase_free.mpr hstate)⟩,r.reserve id now,?_,
      PeerPrekey.phase_lent.mpr ⟨rfl,rfl⟩⟩
    rw [hs]
    change Table.get _ r.key = _
    rw [get_reserve,hr,Option.map_some,if_pos ⟨hpeer,rfl,hstate⟩]

theorem bindPeerPrekey_moves (peerId keyId reservationId packetId : String) (now : ℤ)
    (s : PacketStore) :
    KeysMove s.peerPrekeys
        (bindPeerPrekey peerId keyId reservationId packetId now s).2.peerPrekeys ∧
      (bindPeerPrekey peerId keyId reservationId packetId now s).2.packets = s.packets := by
  unfold bindPeerPrekey
  split
  · exact ⟨keysMove_refl _,rfl⟩
  · exact ⟨keysMove_refl _,rfl⟩
  · rename_i key reservation hkey hreservation
    dsimp only
    have hbound : KeysMove s.peerPrekeys (s.peerPrekeys.update
        (PeerPrekey.reservedAs (strip peerId) key reservation)
        (PeerPrekey.bind (strip packetId) now) (fun _ => rfl) (noMarks_subset _)) := by
      refine keysMove_update ?_ (by intro _; rfl)
      intro _ hx
      exact PeerPrekey.later_bind hx.2.2.1
    split
    · exact ⟨keysMove_refl _,rfl⟩
    · split
      · exact ⟨hbound,rfl⟩
      · exact ⟨hbound,rfl⟩

/-- The key a packet is bound to was reserved and is spent on that packet afterwards. -/
theorem reserved_bind {t : PeerPrekeys} {peerId keyId reservationId : String} (now : ℤ)
    (packetId : String)
    (h : 0 < t.count (PeerPrekey.reservedAs peerId keyId reservationId)) :
    (∃ r, t.get (peerId,keyId) = some r ∧ r.phase = .lent reservationId) ∧
      ∃ r, (t.update (PeerPrekey.reservedAs peerId keyId reservationId)
        (PeerPrekey.bind packetId now) (fun _ => rfl) (noMarks_subset _)).get (peerId,keyId) =
          some r ∧ r.phase = .spent packetId := by
  obtain ⟨r,hr,hreserved⟩ := Table.count_pos.mp h
  have hget : t.get (peerId,keyId) = some r := by
    rw [← hreserved.1,← hreserved.2.1]
    exact Table.mem_rows.mp hr
  refine ⟨⟨r,hget,PeerPrekey.phase_lent.mpr hreserved.2.2⟩,r.bind packetId now,?_,rfl⟩
  rw [get_bindPrekey,hget,Option.map_some,if_pos hreserved]

theorem bindPeerPrekey_spec {peerId keyId reservationId packetId key : String}
    (hkey : prekeyId keyId = .ok key)
    (h : (bindPeerPrekey peerId keyId reservationId packetId now s).1 = .ok ()) :
    (∃ r t, s.peerPrekeys.get (strip peerId,key) = some r ∧ r.phase = .lent t) ∧
      ∃ r, (bindPeerPrekey peerId keyId reservationId packetId now s).2.peerPrekeys.get
        (strip peerId,key) = some r ∧ r.phase = .spent (strip packetId) := by
  unfold bindPeerPrekey at h ⊢
  split at h
  · cases h
  · cases h
  · rename_i id reservation hid hreservation
    obtain rfl := Except.ok.inj (hkey.symm.trans hid)
    dsimp only at h ⊢
    split at h
    · cases h
    · rename_i hpacket
      split at h
      · rename_i hcount
        have hpos : 0 < s.peerPrekeys.count
            (PeerPrekey.reservedAs (strip peerId) key reservation) := by rw [hcount]; simp
        obtain ⟨⟨r,hr,hlent⟩,hspent⟩ := reserved_bind now (strip packetId) hpos
        exact ⟨⟨r,reservation,hr,hlent⟩,by rw [if_neg hpacket,if_pos hcount]; exact hspent⟩
      · cases h

theorem burnPeerPrekey_moves (peerId keyId reservationId : String) (now : ℤ) (s : PacketStore) :
    KeysMove s.peerPrekeys (burnPeerPrekey peerId keyId reservationId now s).2.peerPrekeys ∧
      (burnPeerPrekey peerId keyId reservationId now s).2.packets = s.packets := by
  unfold burnPeerPrekey
  split
  · exact ⟨keysMove_refl _,rfl⟩
  · exact ⟨keysMove_refl _,rfl⟩
  · refine ⟨keysMove_update ?_ (by intro _; rfl),rfl⟩
    intro _ hx
    exact PeerPrekey.later_burn hx.2.2.1

theorem claimA2ADispatches_cases (rt : Runtime) (owner : ConsumerId) (limit : ℤ) (lease : LeaseMs)
    (now : ℤ) (draws : ℕ → Token) (s : PacketStore) : ∃ dispatches,
      (claimA2ADispatches rt owner limit lease now draws s).2 =
        { s with a2aDispatches := dispatches } := by
  unfold claimA2ADispatches
  rcases transaction_cases _ s with ⟨a,s',hb,ht⟩ | ⟨e,-,ht⟩
  · rw [ht]
    obtain ⟨claimed,-,hval⟩ := bind_ok.mp hb
    cases hval
    exact ⟨claimed.2,rfl⟩
  · exact ⟨_,by rw [ht]⟩

theorem retryA2ADispatch_moves (owner : ConsumerId) (claimToken : Token) (error : String)
    (retry : RetryMs) (drawn : Token) (now : ℤ) (s : PacketStore) :
    KeysMove s.peerPrekeys
        (retryA2ADispatch owner claimToken error retry drawn now s).2.peerPrekeys ∧
      (retryA2ADispatch owner claimToken error retry drawn now s).2.packets = s.packets := by
  unfold retryA2ADispatch
  rcases transaction_cases _ s with ⟨a,s',hb,ht⟩ | ⟨e,-,ht⟩
  · rw [ht]
    simp only [bind_ok,raiseIf_ok] at hb
    obtain ⟨_,-,claimed,-,_,-,hval⟩ := hb
    cases hval
    refine ⟨keysMove_update ?_ (by intro _; rfl),rfl⟩
    intro _ hx
    exact PeerPrekey.later_burn hx.2.1
  · rw [ht]
    exact ⟨keysMove_refl _,rfl⟩

/-- The commit of a dispatch stores the packet and binds the key it was sealed to. -/
theorem commitA2ADispatchPacket_cases (rt : Runtime) (owner : ConsumerId) (claimToken : Token)
    (raw : Bytes) (keyId reservationId : String) (now : ℤ) (s : PacketStore) :
    ((∃ e, (commitA2ADispatchPacket rt owner claimToken raw keyId reservationId now s).1 =
          .error e) ∧
        (commitA2ADispatchPacket rt owner claimToken raw keyId reservationId now s).2 = s) ∨
      ∃ row info dispatch key peerPrekeys packets dispatches tasks,
        (commitA2ADispatchPacket rt owner claimToken raw keyId reservationId now s).1 = .ok row ∧
        inspectPacket rt now raw false = .ok info ∧
        dispatchPrekeyArguments info keyId reservationId = .ok key ∧
        s.bindDispatchPrekey dispatch info key.1 key.2 now = .ok peerPrekeys ∧
        s.packets.insert ⟨info.packetId,info.destinationId,info.createdMs,info.expiresMs,
          info.maxHops,0,raw,"a2a-gateway","",now,false,info.qos⟩ = some packets ∧
        (commitA2ADispatchPacket rt owner claimToken raw keyId reservationId now s).2 = { s with
          peerPrekeys := peerPrekeys, packets := packets, a2aDispatches := dispatches
          a2aTasks := tasks } := by
  unfold commitA2ADispatchPacket
  rcases transaction_cases _ s with ⟨a,s',hb,ht⟩ | ⟨e,-,ht⟩
  · right
    rw [ht]
    simp only [bind_ok,raiseIf_ok] at hb
    obtain ⟨info,hinfo,key,hkey,dispatch,-,_,-,peerPrekeys,hkeys,packets,hpackets,_,-,hval⟩ := hb
    cases hval
    exact ⟨_,info,dispatch,key,peerPrekeys,packets,_,_,rfl,hinfo,hkey,hkeys,
      integrity_ok.mp hpackets,rfl⟩
  · exact Or.inl ⟨⟨e,by rw [ht]⟩,by rw [ht]⟩

theorem bindDispatchPrekey_moves {dispatch : A2ADispatch} {info : PacketInfo}
    {keyId reservationId : String} {t : PeerPrekeys}
    (h : s.bindDispatchPrekey dispatch info keyId reservationId now = .ok t) :
    KeysMove s.peerPrekeys t := by
  unfold bindDispatchPrekey at h
  split at h
  · cases h
    exact keysMove_refl _
  · dsimp only at h
    split at h
    · cases h
    · split at h
      · cases h
      · cases h
        refine keysMove_update ?_ (by intro _; rfl)
        intro _ hx
        exact PeerPrekey.later_bind hx.2.2.1

theorem commitA2ADispatchPacket_moves (rt : Runtime) (owner : ConsumerId) (claimToken : Token)
    (raw : Bytes) (keyId reservationId : String) (now : ℤ) (s : PacketStore) :
    KeysMove s.peerPrekeys
      (commitA2ADispatchPacket rt owner claimToken raw keyId reservationId now s).2.peerPrekeys := by
  rcases commitA2ADispatchPacket_cases rt owner claimToken raw keyId reservationId now s
    with ⟨-,hs⟩ | ⟨_,_,_,_,_,_,_,_,-,-,-,hkeys,-,hs⟩
  · rw [hs]
    exact keysMove_refl _
  · rw [hs]
    exact bindDispatchPrekey_moves hkeys

theorem bindDispatchPrekey_spec {dispatch : A2ADispatch} {info : PacketInfo}
    {keyId reservationId : String} {key : String × String} {t : PeerPrekeys}
    (hmode : info.keyMode = .opk)
    (hkey : dispatchPrekeyArguments info keyId reservationId = .ok key)
    (h : s.bindDispatchPrekey dispatch info key.1 key.2 now = .ok t) :
    (∃ r x, s.peerPrekeys.get (info.destinationId,info.prekeyId) = some r ∧
        r.phase = .lent x) ∧
      ∃ r, t.get (info.destinationId,info.prekeyId) = some r ∧ r.phase = .spent info.packetId := by
  have hid : info.prekeyId = key.1 := by
    unfold dispatchPrekeyArguments at hkey
    simp only [hmode,bind_ok,raiseIf_ok] at hkey
    obtain ⟨id,-,reservation,-,_,hsame,hval⟩ := hkey
    cases hval
    exact not_not.mp hsame
  simp only [bindDispatchPrekey,hmode] at h
  split at h
  · cases h
  · split at h
    · cases h
    · rename_i hcount
      cases h
      rw [hid]
      have hpos : 0 < s.peerPrekeys.count
          (PeerPrekey.reservedAs info.destinationId key.1 key.2) := by omega
      obtain ⟨⟨r,hr,hlent⟩,hspent⟩ := reserved_bind now info.packetId hpos
      exact ⟨⟨r,_,hr,hlent⟩,hspent⟩

theorem revokePeer_moves (peerId : String) (now : ℤ) (s : PacketStore) :
    KeysMove s.peerPrekeys (revokePeer peerId now s).2.peerPrekeys := by
  rcases revokePeer_cases peerId now s with hs | ⟨peerId',hs⟩
  · rw [hs]
    exact keysMove_refl _
  · rw [hs]
    unfold revokePeerPrekeys
    refine keysMove_update ?_ (by intro _; rfl)
    intro _ _
    exact PeerPrekey.later_revoke

theorem purgePrefix_moves (n : ℕ) (retentionMs now : ℤ) (s : PacketStore) :
    KeysMove s.peerPrekeys (purgePrefix n retentionMs now s).peerPrekeys := by
  refine runStatements_keeps (I := fun s' => KeysMove s.peerPrekeys s'.peerPrekeys) _ ?_ s
    (keysMove_refl _)
  intro statement hmem s' h
  have hmem := List.mem_of_mem_take hmem
  simp only [purgeStatements,List.mem_cons,List.not_mem_nil,or_false] at hmem
  rcases hmem with rfl | rfl | rfl | rfl | rfl | rfl | rfl | rfl | rfl
  iterate 8 exact h
  have hexpire : KeysMove s'.peerPrekeys (expirePeerPrekeys now s').2.peerPrekeys := by
    unfold expirePeerPrekeys
    refine keysMove_update ?_ (by intro _; rfl)
    intro _ hx
    exact PeerPrekey.later_expire hx.1
  exact keysMove_trans h hexpire

theorem commitA2ADispatchPacket_binds {owner : ConsumerId} {claimToken : Token} {raw : Bytes}
    {keyId reservationId : String} {info : PacketInfo} {row : Option A2ADispatch}
    (hmode : info.keyMode = .opk) (hinfo : inspectPacket rt now raw false = .ok info)
    (h : (commitA2ADispatchPacket rt owner claimToken raw keyId reservationId now s).1 =
      .ok row) :
    (∃ r x, s.peerPrekeys.get (info.destinationId,info.prekeyId) = some r ∧
        r.phase = .lent x) ∧
      ∃ r, (commitA2ADispatchPacket rt owner claimToken raw keyId reservationId now
        s).2.peerPrekeys.get (info.destinationId,info.prekeyId) = some r ∧
          r.phase = .spent info.packetId := by
  rcases commitA2ADispatchPacket_cases rt owner claimToken raw keyId reservationId now s
    with ⟨⟨e,herr⟩,-⟩ | ⟨_,info',_,_,_,_,_,_,-,hinfo',hkey,hkeys,-,hs⟩
  · rw [herr] at h
    cases h
  · obtain rfl := Except.ok.inj (hinfo.symm.trans hinfo')
    rw [hs]
    exact bindDispatchPrekey_spec hmode hkey hkeys

end Keys

section Packets

/-- No packet of `t'` is new or carries other bytes. -/
def PacketsFrom (t t' : Packets) : Prop :=
  ∀ k p', t'.get k = some p' → ∃ p, t.get k = some p ∧ p'.raw = p.raw ∧ p'.origin = p.origin

theorem packetsFrom_refl (t : Packets) : PacketsFrom t t := fun _ p hp => ⟨p,hp,rfl,rfl⟩

theorem packetsFrom_update {t : Packets} {p : PacketRow → Prop} [DecidablePred p]
    {f : PacketRow → PacketRow} (h : ∀ r, (f r).raw = r.raw ∧ (f r).origin = r.origin)
    (hkey : ∀ r, (f r).packetId = r.packetId) :
    PacketsFrom t (t.update p f hkey (noMarks_subset f)) := by
  intro k p' hp'
  rw [Table.get_update] at hp'
  obtain ⟨r,hr,rfl⟩ := Option.map_eq_some_iff.mp hp'
  refine ⟨r,hr,?_⟩
  split
  · exact h r
  · exact ⟨rfl,rfl⟩

theorem revokePeer_packets (peerId : String) (now : ℤ) (s : PacketStore) :
    PacketsFrom s.packets (revokePeer peerId now s).2.packets := by
  rcases revokePeer_cases peerId now s with hs | ⟨peerId',hs⟩
  · rw [hs]
    exact packetsFrom_refl _
  · rw [hs]
    unfold expirePending
    refine packetsFrom_update ?_ (by intro _; rfl)
    exact fun _ => ⟨rfl,rfl⟩

theorem purgePrefix_packets (n : ℕ) (retentionMs now : ℤ) (s : PacketStore) :
    PacketsFrom s.packets (purgePrefix n retentionMs now s).packets := by
  refine runStatements_keeps (I := fun s' => PacketsFrom s.packets s'.packets) _ ?_ s
    (packetsFrom_refl _)
  intro statement hmem s' h
  have hmem := List.mem_of_mem_take hmem
  simp only [purgeStatements,List.mem_cons,List.not_mem_nil,or_false] at hmem
  rcases hmem with rfl | rfl | rfl | rfl | rfl | rfl | rfl | rfl | rfl
  · intro k p' hp'
    have hdelete : (expirePackets now s').2.packets.get k =
        (s'.packets.get k).filter fun r => ¬ r.expiresMs ≤ now := Table.get_delete ..
    rw [hdelete] at hp'
    exact h k p' (Option.filter_eq_some_iff.mp hp').1
  iterate 8 exact h

/-- Adding a packet leaves the others and inserts at most this one. -/
theorem addPacket_cases (rt : Runtime) (raw : Bytes) (depth : ℤ) (origin receivedFrom : String)
    (now : ℤ) (s : PacketStore) :
    PacketsFrom s.packets (addPacket rt raw depth origin receivedFrom now s).2.packets ∨
      ∃ info packets, inspectPacket rt now raw false = .ok info ∧
        s.packets.insert ⟨info.packetId,info.destinationId,info.createdMs,info.expiresMs,
          info.maxHops,depth,raw,origin,receivedFrom,now,false,info.qos⟩ = some packets ∧
        (addPacket rt raw depth origin receivedFrom now s).2 = { s with packets := packets } := by
  unfold addPacket
  cases hinfo : inspectPacket rt now raw false with
  | error e => exact Or.inl (packetsFrom_refl _)
  | ok info =>
    dsimp only
    split
    · exact Or.inl (packetsFrom_refl _)
    · split
      · rename_i packets hins
        exact Or.inr ⟨info,packets,rfl,hins,rfl⟩
      · left
        refine packetsFrom_update ?_ (by intro _; rfl)
        exact fun _ => ⟨rfl,rfl⟩

theorem addPacket_prekeys (rt : Runtime) (raw : Bytes) (depth : ℤ) (origin receivedFrom : String)
    (now : ℤ) (s : PacketStore) :
    (addPacket rt raw depth origin receivedFrom now s).2.peerPrekeys = s.peerPrekeys := by
  unfold addPacket
  cases inspectPacket rt now raw false with
  | error e => rfl
  | ok info =>
    dsimp only
    split
    · rfl
    · split <;> rfl

end Packets
end PacketStore

/-- The database with what the senders of this process have bound so far: peer,
key and packet. -/
structure PrekeyWorld where
  store : PacketStore
  bound : Set (String × String × String)

inductive PrekeyOp
  | importBundle (bundle : PeerBundle) (keys : List PeerKey) (now : ℤ)
  | reserve (peerId reservationId : String) (minBundleVersion : ℤ) (drawn : Token) (now : ℤ)
  | bind (peerId keyId reservationId packetId : String) (now : ℤ)
  | burn (peerId keyId reservationId : String) (now : ℤ)
  | addPacket (raw : Bytes) (depth : ℤ) (origin receivedFrom : String) (now : ℤ)
  | claimDispatches (owner : ConsumerId) (limit : ℤ) (lease : LeaseMs) (now : ℤ)
      (draws : ℕ → Token)
  | retryDispatch (owner : ConsumerId) (claimToken : Token) (error : String) (retry : RetryMs)
      (drawn : Token) (now : ℤ)
  | commitDispatch (owner : ConsumerId) (claimToken : Token) (raw : Bytes)
      (keyId reservationId : String) (now : ℤ)
  | revoke (peerId : String) (now : ℤ)
  | purge (statements : ℕ) (retentionMs now : ℤ)
  | elsewhere (s' : PacketStore)

/-- The origins under which this node stores packets it sealed itself. -/
def ownOrigins : List String := ["local","prekey-control","a2a-gateway"]

/-- The packet names a one-time key of the peer. -/
def sealedTo (rt : Runtime) (raw : Bytes) (peerId keyId : String) : Prop :=
  ∃ now allowExpired info, inspectPacket rt now raw allowExpired = .ok info ∧
    info.keyMode = .opk ∧ info.destinationId = peerId ∧ info.prekeyId = keyId

namespace PrekeyOp

def exec (rt : Runtime) : PrekeyOp → PacketStore → PacketStore
  | .importBundle bundle keys now,s => (importPeerPrekeyBundle bundle keys now s).2
  | .reserve peerId reservationId minBundleVersion drawn now,s =>
    (reservePeerPrekey peerId reservationId minBundleVersion drawn now s).2
  | .bind peerId keyId reservationId packetId now,s =>
    (bindPeerPrekey peerId keyId reservationId packetId now s).2
  | .burn peerId keyId reservationId now,s => (burnPeerPrekey peerId keyId reservationId now s).2
  | .addPacket raw depth origin receivedFrom now,s =>
    (PacketStore.addPacket rt raw depth origin receivedFrom now s).2
  | .claimDispatches owner limit lease now draws,s =>
    (claimA2ADispatches rt owner limit lease now draws s).2
  | .retryDispatch owner claimToken error retry drawn now,s =>
    (retryA2ADispatch owner claimToken error retry drawn now s).2
  | .commitDispatch owner claimToken raw keyId reservationId now,s =>
    (commitA2ADispatchPacket rt owner claimToken raw keyId reservationId now s).2
  | .revoke peerId now,s => (revokePeer peerId now s).2
  | .purge statements retentionMs now,s => purgePrefix statements retentionMs now s
  | .elsewhere s',_ => s'

/-- The key a reservation returns. -/
def handsOut : PrekeyOp → PacketStore → Option ReservedPrekey
  | .reserve peerId reservationId minBundleVersion drawn now,s =>
    (reservePeerPrekey peerId reservationId minBundleVersion drawn now s).1.toOption.join
  | _,_ => none

/-- The peer, the key and the packet of a binding that does not raise. -/
def binds (rt : Runtime) : PrekeyOp → PacketStore → Option (String × String × String)
  | .bind peerId keyId reservationId packetId now,s =>
    match prekeyId keyId,(bindPeerPrekey peerId keyId reservationId packetId now s).1 with
    | .ok key,.ok () => some (strip peerId,key,strip packetId)
    | _,_ => none
  | .commitDispatch owner claimToken raw keyId reservationId now,s =>
    match inspectPacket rt now raw false,
      (commitA2ADispatchPacket rt owner claimToken raw keyId reservationId now s).1 with
    | .ok info,.ok _ =>
      if info.keyMode = .opk then some (info.destinationId,info.prekeyId,info.packetId) else none
    | _,_ => none
  | _,_ => none

/-- A sender stores its packet after it has bound the key the packet names; calls on
other tables leave the peers' keys and add no packet. -/
def Allowed (rt : Runtime) (w : PrekeyWorld) : PrekeyOp → Prop
  | .addPacket raw _ origin _ now => origin ∈ ownOrigins → ∀ info,
      inspectPacket rt now raw false = .ok info → info.keyMode = .opk →
        (info.destinationId,info.prekeyId,info.packetId) ∈ w.bound
  | .elsewhere s' => s'.peerPrekeys = w.store.peerPrekeys ∧
    PacketsFrom w.store.packets s'.packets
  | _ => True

end PrekeyOp

def PrekeyWorld.initial : PrekeyWorld := ⟨PacketStore.empty,∅⟩

def PrekeyWorld.after (rt : Runtime) (w : PrekeyWorld) (op : PrekeyOp) : PrekeyWorld where
  store := op.exec rt w.store
  bound := w.bound ∪ {b | op.binds rt w.store = some b}

def PrekeyStep (rt : Runtime) (w w' : PrekeyWorld) : Prop :=
  ∃ op : PrekeyOp, op.Allowed rt w ∧ w' = w.after rt op

section Runs

variable {rt : Runtime} {w w' : PrekeyWorld} {op : PrekeyOp}

/-- One call moves every known key along its phases. -/
theorem exec_moves (hop : op.Allowed rt w) :
    KeysMove w.store.peerPrekeys (op.exec rt w.store).peerPrekeys := by
  cases op with
  | importBundle bundle keys now =>
    rw [PrekeyOp.exec]
    intro k r hr
    obtain ⟨r',hr',rfl⟩ := (importPeerPrekeyBundle_keeps bundle keys now w.store).1 k r hr
    exact ⟨r,hr',.refl r⟩
  | reserve peerId reservationId minBundleVersion drawn now =>
    simp only [PrekeyOp.exec]
    exact (reservePeerPrekey_moves peerId reservationId minBundleVersion drawn now w.store).1
  | bind peerId keyId reservationId packetId now =>
    simp only [PrekeyOp.exec]
    exact (bindPeerPrekey_moves peerId keyId reservationId packetId now w.store).1
  | burn peerId keyId reservationId now =>
    simp only [PrekeyOp.exec]
    exact (burnPeerPrekey_moves peerId keyId reservationId now w.store).1
  | addPacket raw depth origin receivedFrom now =>
    simp only [PrekeyOp.exec,addPacket_prekeys]
    exact keysMove_refl _
  | claimDispatches owner limit lease now draws =>
    obtain ⟨_,hs⟩ := claimA2ADispatches_cases rt owner limit lease now draws w.store
    simp only [PrekeyOp.exec,hs]
    exact keysMove_refl _
  | retryDispatch owner claimToken error retry drawn now =>
    simp only [PrekeyOp.exec]
    exact (retryA2ADispatch_moves owner claimToken error retry drawn now w.store).1
  | commitDispatch owner claimToken raw keyId reservationId now =>
    simp only [PrekeyOp.exec]
    exact commitA2ADispatchPacket_moves rt owner claimToken raw keyId reservationId now w.store
  | revoke peerId now =>
    simp only [PrekeyOp.exec]
    exact revokePeer_moves peerId now w.store
  | purge statements retentionMs now =>
    simp only [PrekeyOp.exec]
    exact purgePrefix_moves statements retentionMs now w.store
  | elsewhere s' =>
    simp only [PrekeyOp.exec,hop.1]
    exact keysMove_refl _

theorem run_moves (h : Reaches (PrekeyStep rt) w w') :
    KeysMove w.store.peerPrekeys w'.store.peerPrekeys := by
  refine Reaches.preorder (I := fun _ => True)
    (R := fun w w' => KeysMove w.store.peerPrekeys w'.store.peerPrekeys)
    (fun _ => keysMove_refl _) (fun _ _ _ => keysMove_trans)
    (fun _ _ _ _ => trivial) ?_ trivial h
  rintro w _ - ⟨op,hop,rfl⟩
  exact exec_moves hop

theorem PrekeyWorld.after_store (rt : Runtime) (w : PrekeyWorld) (op : PrekeyOp) :
    (w.after rt op).store = op.exec rt w.store := rfl

/-- A reservation finds its key available or already lent to it, and leaves it lent to it. -/
theorem handsOut_lent (rt : Runtime) {held : ReservedPrekey} (h : op.handsOut w.store = some held) :
    (∃ r, w.store.peerPrekeys.get (held.peerId,held.prekeyId) = some r ∧
        (r.phase = .free ∨ r.phase = .lent held.reservationId)) ∧
      ∃ r, (w.after rt op).store.peerPrekeys.get (held.peerId,held.prekeyId) = some r ∧
        r.phase = .lent held.reservationId := by
  cases op with
  | reserve peerId reservationId minBundleVersion drawn now =>
    rw [PrekeyOp.handsOut] at h
    rw [PrekeyWorld.after_store,PrekeyOp.exec]
    exact reservePeerPrekey_spec (toOption_eq_some.mp (Option.join_eq_some_iff.mp h))
  | _ => cases h

/-- A binding finds its key lent and leaves it spent on the packet. -/
theorem binds_spent {peerId keyId packetId : String}
    (h : op.binds rt w.store = some (peerId,keyId,packetId)) :
    (∃ r t, w.store.peerPrekeys.get (peerId,keyId) = some r ∧ r.phase = .lent t) ∧
      ∃ r, (w.after rt op).store.peerPrekeys.get (peerId,keyId) = some r ∧
        r.phase = .spent packetId := by
  cases op with
  | bind peerId keyId reservationId packetId now =>
    unfold PrekeyOp.binds at h
    dsimp only at h
    split at h
    · rename_i key u hkey hok
      cases h
      rw [PrekeyWorld.after_store,PrekeyOp.exec]
      exact bindPeerPrekey_spec hkey hok
    · cases h
  | commitDispatch owner claimToken raw keyId reservationId now =>
    unfold PrekeyOp.binds at h
    dsimp only at h
    split at h
    · rename_i info a hinfo hok
      split at h
      · rename_i hmode
        cases h
        rw [PrekeyWorld.after_store,PrekeyOp.exec]
        exact commitA2ADispatchPacket_binds hmode hinfo hok
      · cases h
    · cases h
  | _ => cases h

/-- Every packet after a call was there before, or the call stored it; a packet of
this node under a one-time key is bound by then. -/
theorem exec_packets (hop : op.Allowed rt w) (k : String) (p' : PacketRow)
    (hp' : (op.exec rt w.store).packets.get k = some p') :
    (∃ p, w.store.packets.get k = some p ∧ p'.raw = p.raw ∧ p'.origin = p.origin) ∨
      ∃ now info, inspectPacket rt now p'.raw false = .ok info ∧ info.packetId = k ∧
        (p'.origin ∈ ownOrigins → info.keyMode = .opk →
          (info.destinationId,info.prekeyId,info.packetId) ∈ (w.after rt op).bound) := by
  cases op with
  | importBundle bundle keys now =>
    simp only [PrekeyOp.exec,(importPeerPrekeyBundle_keeps bundle keys now w.store).2] at hp'
    exact Or.inl ⟨p',hp',rfl,rfl⟩
  | reserve peerId reservationId minBundleVersion drawn now =>
    simp only [PrekeyOp.exec,(reservePeerPrekey_moves peerId reservationId minBundleVersion drawn
      now w.store).2] at hp'
    exact Or.inl ⟨p',hp',rfl,rfl⟩
  | bind peerId keyId reservationId packetId now =>
    simp only [PrekeyOp.exec,(bindPeerPrekey_moves peerId keyId reservationId packetId now
      w.store).2] at hp'
    exact Or.inl ⟨p',hp',rfl,rfl⟩
  | burn peerId keyId reservationId now =>
    simp only [PrekeyOp.exec,(burnPeerPrekey_moves peerId keyId reservationId now w.store).2] at hp'
    exact Or.inl ⟨p',hp',rfl,rfl⟩
  | addPacket raw depth origin receivedFrom now =>
    simp only [PrekeyOp.exec] at hp'
    rcases addPacket_cases rt raw depth origin receivedFrom now w.store
      with hfrom | ⟨info,packets,hinfo,hins,hs⟩
    · exact Or.inl (hfrom k p' hp')
    · rw [hs] at hp'
      change packets.get k = some p' at hp'
      rw [Table.get_insert hins] at hp'
      split at hp'
      · rename_i hk
        cases hp'
        exact Or.inr ⟨now,info,hinfo,hk.symm,fun hown hmode => Or.inl (hop hown info hinfo hmode)⟩
      · exact Or.inl ⟨p',hp',rfl,rfl⟩
  | claimDispatches owner limit lease now draws =>
    obtain ⟨_,hs⟩ := claimA2ADispatches_cases rt owner limit lease now draws w.store
    simp only [PrekeyOp.exec,hs] at hp'
    exact Or.inl ⟨p',hp',rfl,rfl⟩
  | retryDispatch owner claimToken error retry drawn now =>
    simp only [PrekeyOp.exec,(retryA2ADispatch_moves owner claimToken error retry drawn now
      w.store).2] at hp'
    exact Or.inl ⟨p',hp',rfl,rfl⟩
  | commitDispatch owner claimToken raw keyId reservationId now =>
    simp only [PrekeyOp.exec] at hp'
    rcases commitA2ADispatchPacket_cases rt owner claimToken raw keyId reservationId now w.store
      with ⟨-,hs⟩ | ⟨row,info,_,_,_,packets,_,_,hok,hinfo,-,-,hins,hs⟩
    · rw [hs] at hp'
      exact Or.inl ⟨p',hp',rfl,rfl⟩
    · rw [hs] at hp'
      change packets.get k = some p' at hp'
      rw [Table.get_insert hins] at hp'
      split at hp'
      · rename_i hk
        cases hp'
        refine Or.inr ⟨now,info,hinfo,hk.symm,fun _ hmode => Or.inr ?_⟩
        rw [Set.mem_ofPred_eq]
        unfold PrekeyOp.binds
        simp only [hinfo,hok,if_pos hmode]
      · exact Or.inl ⟨p',hp',rfl,rfl⟩
  | revoke peerId now =>
    simp only [PrekeyOp.exec] at hp'
    exact Or.inl (revokePeer_packets peerId now w.store k p' hp')
  | purge statements retentionMs now =>
    simp only [PrekeyOp.exec] at hp'
    exact Or.inl (purgePrefix_packets statements retentionMs now w.store k p' hp')
  | elsewhere s' => exact Or.inl (hop.2 k p' hp')

/-- What was bound is spent on the packet, and the stored packets of this node under
a one-time key are bound to it. -/
structure PrekeyWorld.Sound (rt : Runtime) (w : PrekeyWorld) : Prop where
  spent : ∀ b ∈ w.bound, ∃ r, w.store.peerPrekeys.get (b.1,b.2.1) = some r ∧
    r.phase = .spent b.2.2
  own : ∀ k p, w.store.packets.get k = some p → p.origin ∈ ownOrigins →
    ∀ peerId keyId, sealedTo rt p.raw peerId keyId → (peerId,keyId,k) ∈ w.bound

theorem sound_initial : PrekeyWorld.initial.Sound rt where
  spent _ hb := hb.elim
  own _ _ hp := by cases hp

theorem sound_step (hw : w.Sound rt) (h : PrekeyStep rt w w') : w'.Sound rt := by
  obtain ⟨op,hop,rfl⟩ := h
  constructor
  · rintro ⟨peerId,keyId,packetId⟩ (hb | hb)
    · obtain ⟨r,hr,hphase⟩ := hw.spent _ hb
      obtain ⟨r',hr',hlater⟩ := exec_moves hop _ r hr
      have hleads := hlater.leads
      rw [hphase] at hleads
      exact ⟨r',hr',hleads.of_spent⟩
    · exact (binds_spent hb).2
  · intro k p hp hown peerId keyId hsealed
    rcases exec_packets hop k p hp with ⟨p₀,hp₀,hraw,horigin⟩ | ⟨now,info,hinfo,hk,hbound⟩
    · rw [horigin] at hown
      rw [hraw] at hsealed
      exact Or.inl (hw.own k p₀ hp₀ hown peerId keyId hsealed)
    · obtain ⟨now',allow,info',hinfo',hmode,rfl,rfl⟩ := hsealed
      obtain rfl := inspectPacket_agree hinfo hinfo'
      rw [← hk]
      exact hbound hown hmode

theorem run_sound (hw : w.Sound rt) (h : Reaches (PrekeyStep rt) w w') : w'.Sound rt :=
  Reaches.invariant (I := PrekeyWorld.Sound rt) (fun _ _ hs hstep => sound_step hs hstep) hw h

/-- A peer's key leaves the available state once; it is given to one reservation and
bound to one packet, and no bundle brings back a key that was known. -/
theorem peer_prekeys_single_use (rt : Runtime) {w : PrekeyWorld}
    (h : Reaches (PrekeyStep rt) .initial w) :
    (∀ w', Reaches (PrekeyStep rt) w w' → ∀ k r, w.store.peerPrekeys.get k = some r →
      ∃ r', w'.store.peerPrekeys.get k = some r' ∧ r'.publicKey = r.publicKey ∧
        (r.state ≠ .available → r'.state ≠ .available)) ∧
    (∀ (op : PrekeyOp) (held : ReservedPrekey), op.Allowed rt w →
      op.handsOut w.store = some held →
      ∀ (w' : PrekeyWorld) (op' : PrekeyOp) (held' : ReservedPrekey),
        Reaches (PrekeyStep rt) (w.after rt op) w' → op'.handsOut w'.store = some held' →
          held'.peerId = held.peerId → held'.prekeyId = held.prekeyId →
            held'.reservationId = held.reservationId) ∧
    (∀ (op : PrekeyOp) peerId keyId packetId, op.Allowed rt w →
      op.binds rt w.store = some (peerId,keyId,packetId) →
      ∀ w', Reaches (PrekeyStep rt) (w.after rt op) w' →
        (∃ r, w'.store.peerPrekeys.get (peerId,keyId) = some r ∧ r.packetId = packetId) ∧
        ∀ (op' : PrekeyOp) packetId', op'.binds rt w'.store ≠ some (peerId,keyId,packetId')) ∧
    (∀ w' p p' peerId keyId, Reaches (PrekeyStep rt) w w' → p ∈ w.store.packets.rows →
      p' ∈ w'.store.packets.rows → p.origin ∈ ownOrigins → p'.origin ∈ ownOrigins →
        sealedTo rt p.raw peerId keyId → sealedTo rt p'.raw peerId keyId →
          p'.packetId = p.packetId) ∧
    ∀ bundle keys now k r, w.store.peerPrekeys.get k = some r →
      (importPeerPrekeyBundle bundle keys now w.store).2.peerPrekeys.get k = some r := by
  refine ⟨?_,?_,?_,?_,?_⟩
  · intro w' hrun k r hr
    obtain ⟨r',hr',hlater⟩ := run_moves hrun k r hr
    refine ⟨r',hr',hlater.same,fun hleft hback => hleft ?_⟩
    have hleads := hlater.leads
    rw [PeerPrekey.phase_free.mpr hback] at hleads
    exact PeerPrekey.phase_free.mp hleads.to_free
  · intro op held hop hheld w' op' held' hrun hheld' hpeer hkey
    obtain ⟨r,hr,hlent⟩ := (handsOut_lent rt hheld).2
    obtain ⟨⟨r',hr',hphase⟩,-⟩ := handsOut_lent rt hheld'
    rw [hpeer,hkey] at hr'
    obtain ⟨r₁,hr₁,hlater⟩ := run_moves hrun _ r hr
    obtain rfl := Option.some.inj (hr'.symm.trans hr₁)
    have hleads := hlater.leads
    rw [hlent] at hleads
    rcases hphase with hphase | hphase
    · rw [hphase] at hleads
      exact absurd hleads.to_free (by simp)
    · rw [hphase] at hleads
      rcases hleads.to_lent with hfree | hsame
      · cases hfree
      · exact (Phase.lent.inj hsame).symm
  · intro op peerId keyId packetId hop hbinds w' hrun
    obtain ⟨r,hr,hspent⟩ := (binds_spent hbinds).2
    obtain ⟨r',hr',hlater⟩ := run_moves hrun _ r hr
    have hleads := hlater.leads
    rw [hspent] at hleads
    have hphase := hleads.of_spent
    refine ⟨⟨r',hr',PeerPrekey.phase_spent hphase⟩,?_⟩
    intro op' packetId' hbinds'
    obtain ⟨⟨r₁,t,hr₁,hlent⟩,-⟩ := binds_spent hbinds'
    obtain rfl := Option.some.inj (hr'.symm.trans hr₁)
    rw [hphase] at hlent
    cases hlent
  · intro w' p p' peerId keyId hrun hp hp' hown hown' hsealed hsealed'
    have hw := run_sound sound_initial h
    have hw' := run_sound hw hrun
    obtain ⟨r,hr,hspent⟩ :=
      hw.spent _ (hw.own _ p (Table.mem_rows.mp hp) hown peerId keyId hsealed)
    obtain ⟨r',hr',hspent'⟩ :=
      hw'.spent _ (hw'.own _ p' (Table.mem_rows.mp hp') hown' peerId keyId hsealed')
    obtain ⟨r₁,hr₁,hlater⟩ := run_moves hrun _ r hr
    obtain rfl := Option.some.inj (hr'.symm.trans hr₁)
    have hleads := hlater.leads
    rw [hspent,hspent'] at hleads
    exact Phase.spent.inj hleads.of_spent
  · intro bundle keys now k r hr
    obtain ⟨r',hr',rfl⟩ := (importPeerPrekeyBundle_keeps bundle keys now w.store).1 k r hr
    exact hr'

end Runs

section Sample

def prekeyPeer : String := "an1prekeyprekeyprekey"
def prekeyName : String := "0123456789abcdef0123456789abcdef"
def sampleReservation : Token := .digit 'c' hexDigit_c
def prekeyRuntime : Runtime := Runtime.plain fun _ => .ok .nil

def sampleBundle : PeerBundle :=
  ⟨prekeyPeer,1,"",1,"00000000000000000000000000000000000000000000000000000000000000ff",1000,9000⟩

def importSample : PrekeyOp :=
  .importBundle sampleBundle [⟨prekeyName,List.replicate 32 0⟩] 2000

def reserveSample : PrekeyOp := .reserve prekeyPeer "" 1 sampleReservation 2000
def bindSample : PrekeyOp := .bind prekeyPeer prekeyName sampleReservation.val "p" 2000

def reservedSample : PrekeyWorld :=
  (PrekeyWorld.initial.after prekeyRuntime importSample).after prekeyRuntime reserveSample

theorem reservedSample_reachable : Reaches (PrekeyStep prekeyRuntime) .initial reservedSample :=
  .tail (.single ⟨importSample,trivial,rfl⟩) ⟨reserveSample,trivial,rfl⟩

def boundSample : PrekeyWorld := reservedSample.after prekeyRuntime bindSample

theorem peer_prekeys_single_use_sample :
    (∃ r, boundSample.store.peerPrekeys.get (prekeyPeer,prekeyName) = some r ∧ r.packetId = "p") ∧
      ∀ (op : PrekeyOp) packetId,
        op.binds prekeyRuntime boundSample.store ≠ some (prekeyPeer,prekeyName,packetId) :=
  (peer_prekeys_single_use prekeyRuntime reservedSample_reachable).2.2.1 bindSample prekeyPeer
    prekeyName "p" trivial (by decide +kernel) boundSample .refl

end Sample
end Anet
