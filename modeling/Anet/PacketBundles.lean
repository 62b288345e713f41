import Anet.PacketSeal
import Anet.StoreEffects

/-! Bundles: a file with the packets a store holds for forwarding, written by one node and read
into the store of another. -/
namespace Anet

def bundleMagic : Bytes := utf8 "ANET-BUNDLE-V1" ++ [0]
def legacyBundleMagic : Bytes := utf8 "AINET-BUNDLE-V1" ++ [0]
def maxBundleBytes : ℕ := 256 * 1024 * 1024

/-- What `create_bundle` returns beside the file. -/
structure BundleReport where
  packets : ℕ
  bytes : ℕ
  sha256 : String

/-- What `import_bundle` returns. -/
structure BundleImport where
  imported : ℕ
  duplicates : ℕ
  rejected : ℕ
  sha256 : String

/-- What becomes of one packet of a bundle. -/
inductive ItemOutcome | imported | duplicate | rejected
  deriving DecidableEq

namespace Bundle

open Packet PacketStore

def body (createdMs : ℤ) (destinationId : String) (packets : List Bytes) : Value :=
  .map [(.str "v",.int 1),(.str "created_ms",.int createdMs),
    (.str "destination_id",.str destinationId),(.str "packets",.list (packets.map .bin))]

/-- `create_bundle`, with the bytes of the file. -/
def createBundle (rt : Runtime) (destinationId : String) (now createdMs : ℤ) (s : PacketStore) :
    Result (Bytes × BundleReport) := do
  let packets := s.exportPackets destinationId 10000 now
  let packed ← rt.pack (body createdMs destinationId packets)
  let raw := bundleMagic ++ packed
  raiseIf (maxBundleBytes < raw.length) (.value "bundle exceeds size limit")
  return (raw,⟨packets.length,raw.length,rt.sha256 raw⟩)

/-- The file without its magic number. -/
def stripMagic (raw : Bytes) : Option Bytes :=
  ([bundleMagic,legacyBundleMagic].find? fun magic => magic.isPrefixOf raw).map fun magic =>
    raw.drop magic.length

/-- One packet of the list: it is inspected at the first reading of the clock and added at the
second. -/
def importItem (rt : Runtime) (clock : ℤ × ℤ) (item : Value) (s : PacketStore) :
    ItemOutcome × PacketStore :=
  match rt.bytes item with
  | .error _ => (.rejected,s)
  | .ok packet =>
    match inspectPacket rt clock.1 packet false with
    | .error _ => (.rejected,s)
    | .ok _ =>
      match addPacket rt packet 0 "bundle" "" clock.2 s with
      | (.ok true,s') => (.imported,s')
      | (.ok false,s') => (.duplicate,s')
      | (.error _,s') => (.rejected,s')

/-- The loop over the packets, each with its own readings of the clock. -/
def importItems (rt : Runtime) : (clock : ℕ → ℤ × ℤ) → List Value → PacketStore →
    List ItemOutcome × PacketStore
  | _,[],s => ([],s)
  | clock,item :: items,s =>
    let first := importItem rt (clock 0) item s
    let rest := importItems rt (fun n => clock (n + 1)) items first.2
    (first.1 :: rest.1,rest.2)

/-- The packet list of a bundle file. -/
def readBundle (rt : Runtime) (raw : Bytes) : Result (List Value) := do
  raiseIf (maxBundleBytes < raw.length) (.value "bundle exceeds size limit")
  let packed ← fetched (stripMagic raw) (.value "not an Anet bundle")
  let value ← rt.unpack packed
  let fields ← fetched value.asMap (.value "unsupported Anet bundle")
  let version ← rt.int (Value.fieldOr fields "v" (.int 0))
  raiseIf (version ≠ 1) (.value "unsupported Anet bundle")
  match Value.field fields "packets" with
  | some (.list packets) => return packets
  | _ => .error (.value "bundle packet list is invalid")

/-- `import_bundle`. -/
def importBundle (rt : Runtime) (clock : ℕ → ℤ × ℤ) (raw : Bytes) (s : PacketStore) :
    Result BundleImport × PacketStore :=
  match readBundle rt raw with
  | .error e => (.error e,s)
  | .ok packets =>
    let items := importItems rt clock packets s
    (.ok ⟨items.1.count .imported,items.1.count .duplicate,items.1.count .rejected,rt.sha256 raw⟩,
      items.2)

end Bundle

/-- The packets of a store, by their ids. -/
def PacketStore.held (s : PacketStore) : Set (String × Bytes) :=
  {p | ∃ r, s.packets.get p.1 = some r ∧ r.raw = p.2}

/-- The packets that a bundle of the store carries. -/
def PacketStore.exported (s : PacketStore) (destinationId : String) (now : ℤ) :
    Set (String × Bytes) :=
  {p | ∃ r ∈ s.exportRows destinationId 10000 now, (r.packetId,r.raw) = p}

namespace Bundle

open Packet PacketStore

variable {rt : Runtime}

/-- The file of a store is written, another store reads it without rejecting a packet and holds
what it held and what was exported, and reading it again imports nothing. -/
def RoundTrip (rt : Runtime) (destinationId : String) (now createdMs : ℤ) (s : PacketStore)
    (clock clock' : ℕ → ℤ × ℤ) (t : PacketStore) : Prop :=
  ∃ raw report read t', createBundle rt destinationId now createdMs s = .ok (raw,report) ∧
    importBundle rt clock raw t = (.ok read,t') ∧ read.rejected = 0 ∧
    t'.held = t.held ∪ s.exported destinationId now ∧
    ∃ again t'', importBundle rt clock' raw t' = (.ok again,t'') ∧ again.imported = 0 ∧
      t''.held = t'.held

/-- The packet is accepted at both readings of the clock. -/
def Accepted (rt : Runtime) (clock : ℤ × ℤ) (raw : Bytes) : Prop :=
  (∃ info, inspectPacket rt clock.1 raw false = .ok info) ∧
    ∃ info, inspectPacket rt clock.2 raw false = .ok info

/-- The exported packets are encoded within the size that `unpack` accepts, the importer accepts
each of them when its turn comes, and it holds no other packet under one of their ids. -/
structure Transferable (rt : Runtime) (destinationId : String) (now createdMs : ℤ) (s : PacketStore)
    (clock : ℕ → ℤ × ℤ) (t : PacketStore) : Prop where
  small : ∃ packed, rt.pack (body createdMs destinationId
    (s.exportPackets destinationId 10000 now)) = .ok packed ∧ packed.length ≤ maxWireBytes
  accepted : ∀ i r, (s.exportRows destinationId 10000 now)[i]? = some r →
    Accepted rt (clock i) r.raw
  agrees : ∀ r ∈ s.exportRows destinationId 10000 now, ∀ r', t.packets.get r.packetId = some r' →
    r'.raw = r.raw

/-- What the bundles rely on in msgpack and in Python's conversions. -/
structure BundleLaws (rt : Runtime) : Prop where
  unpack_pack : ∀ v raw, rt.packb v = .ok raw → rt.unpackb raw = .ok v
  int_int : ∀ i, rt.int (.int i) = .ok i
  bytes_bin : ∀ b, rt.bytes (.bin b) = .ok b

section Rows

variable {r : PacketRow} {s t : PacketStore} {clock : ℤ × ℤ} {k : String}

/-- The row is kept under the id that its packet states. -/
def Named (rt : Runtime) (k : String) (raw : Bytes) : Prop :=
  ∃ now info, inspectPacket rt now raw false = .ok info ∧ info.packetId = k

theorem Named.id {raw : Bytes} {now : ℤ} {info : PacketInfo} (h : Named rt k raw)
    (hinfo : inspectPacket rt now raw false = .ok info) : info.packetId = k := by
  obtain ⟨now',info',hinfo',rfl⟩ := h
  rw [inspectPacket_agree hinfo' hinfo]

/-- Every packet of the store has been inspected. -/
def AllNamed (rt : Runtime) (s : PacketStore) : Prop :=
  ∀ k r, s.packets.get k = some r → Named rt k r.raw

theorem allNamed_of_derives {op : StoreOp} (h : LedgerStep rt op s t) (hadds : op.adds rt s = none)
    (hs : AllNamed rt s) : AllNamed rt t := by
  intro k r hr
  rcases h.packets k r hr with ⟨r',hr',hlater⟩ | ⟨-,info,hinfo,-⟩
  · rw [hlater.raw]
    exact hs k r' hr'
  · rw [hadds] at hinfo
    cases hinfo

theorem allNamed_insert {raw : Bytes} {now : ℤ} {info : PacketInfo} {packets : Packets}
    (hinfo : inspectPacket rt now raw false = .ok info) (hid : r.packetId = info.packetId)
    (hraw : r.raw = raw) (hins : s.packets.insert r = some packets) (hs : AllNamed rt s)
    {k : String} {r' : PacketRow} (hr' : packets.get k = some r') : Named rt k r'.raw := by
  rw [Table.get_insert hins] at hr'
  split at hr'
  · rename_i hk
    obtain rfl := Option.some.inj hr'
    exact ⟨now,info,by rw [hraw]; exact hinfo,hid.symm.trans hk.symm⟩
  · exact hs k r' hr'

/-- Only the two calls that inspect a packet store one. -/
theorem allNamed_step {w w' : WorkWorld} (hw : AllNamed rt w.store) (h : StoreStep rt w w') :
    AllNamed rt w'.store := by
  obtain ⟨op,hop,rfl⟩ := h
  rw [next_store]
  have hledger := ledger_step rt hop
  cases op with
  | addPacket raw depth origin receivedFrom now =>
    rcases addPacket_cases rt raw depth origin receivedFrom now w.store with
      hfrom | ⟨info,packets,hinfo,hins,hs⟩
    · intro k r hr
      obtain ⟨r',hr',hraw,-⟩ := hfrom k r hr
      rw [hraw]
      exact hw k r' hr'
    · rw [StoreOp.exec,hs]
      exact fun k r hr => allNamed_insert hinfo rfl rfl hins hw hr
  | commitDispatch owner claimToken raw keyId reservationId now =>
    rcases commitA2ADispatchPacket_cases rt owner claimToken raw keyId reservationId now w.store
      with ⟨-,hs⟩ | ⟨_,info,_,_,_,_,_,_,-,hinfo,-,-,hins,hs⟩
    · rw [StoreOp.exec,hs]
      exact hw
    · rw [StoreOp.exec,hs]
      exact fun k r hr => allNamed_insert hinfo rfl rfl hins hw hr
  | _ => exact allNamed_of_derives hledger rfl hw

theorem allNamed_run {w : WorkWorld} (h : Reaches (StoreStep rt) .initial w) :
    AllNamed rt w.store :=
  Reaches.invariant (I := fun w => AllNamed rt w.store) (fun _ _ => allNamed_step)
    (fun k r hr => by cases hr) h

end Rows

section Items

variable {r : PacketRow} {s t : PacketStore} {clock : ℤ × ℤ} {k : String} {raw : Bytes}

/-- The bytes of the packet under an id. -/
def rawAt (s : PacketStore) (k : String) : Option Bytes := (s.packets.get k).map PacketRow.raw

theorem mem_held {p : String × Bytes} : p ∈ s.held ↔ rawAt s p.1 = some p.2 := by
  simp [held,rawAt]

/-- A packet with a new id is stored. -/
theorem addPacket_inserts {now : ℤ} {info : PacketInfo} (origin : String)
    (hinfo : inspectPacket rt now raw false = .ok info)
    (hnew : s.packets.get info.packetId = none) :
    ∃ packets, s.packets.insert ⟨info.packetId,info.destinationId,info.createdMs,info.expiresMs,
        info.maxHops,0,raw,origin,"",now,false,info.qos⟩ = some packets ∧
      addPacket rt raw 0 origin "" now s = (.ok true,{ s with packets := packets }) := by
  unfold addPacket
  rw [hinfo]
  dsimp only
  have hhops := inspectPacket_hops hinfo
  rw [if_neg (by omega)]
  cases hins : s.packets.insert ⟨info.packetId,info.destinationId,info.createdMs,info.expiresMs,
      info.maxHops,0,raw,origin,"",now,false,info.qos⟩ with
  | some packets => exact ⟨packets,rfl,rfl⟩
  | none =>
    have hfree := Table.get_eq_none.mp hnew
    rw [Table.insert,dif_pos ⟨hfree,fun _ _ m hm => by cases hm⟩] at hins
    cases hins

theorem addPacket_new {now : ℤ} {info : PacketInfo} (hinfo : inspectPacket rt now raw false = .ok info)
    (hnew : s.packets.get info.packetId = none) :
    ∃ s', addPacket rt raw 0 "bundle" "" now s = (.ok true,s') ∧
      ∀ k, rawAt s' k = if k = info.packetId then some raw else rawAt s k := by
  obtain ⟨packets,hins,hadd⟩ := addPacket_inserts "bundle" hinfo hnew
  refine ⟨_,hadd,fun k => ?_⟩
  change (packets.get k).map PacketRow.raw = _
  rw [Table.get_insert hins]
  by_cases hk : k = info.packetId
  · rw [if_pos hk,if_pos hk]
    rfl
  · rw [if_neg hk,if_neg hk]
    rfl

/-- A packet whose id is known changes no bytes. -/
theorem addPacket_known {now : ℤ} {info : PacketInfo}
    (hinfo : inspectPacket rt now raw false = .ok info)
    (hknown : s.packets.get info.packetId = some r) :
    ∃ s', addPacket rt raw 0 "bundle" "" now s = (.ok false,s') ∧ ∀ k, rawAt s' k = rawAt s k := by
  unfold addPacket
  rw [hinfo]
  dsimp only
  have hhops := inspectPacket_hops hinfo
  rw [if_neg (by omega)]
  cases hins : s.packets.insert ⟨info.packetId,info.destinationId,info.createdMs,info.expiresMs,
      info.maxHops,0,raw,"bundle","",now,false,info.qos⟩ with
  | some packets =>
    have hnone := (Table.insert_eq_some hins).1
    change s.packets.get info.packetId = none at hnone
    rw [hknown] at hnone
    cases hnone
  | none =>
    refine ⟨_,rfl,fun k => ?_⟩
    unfold rawAt
    rw [Table.get_update]
    cases s.packets.get k with
    | none => rfl
    | some r =>
      change some (if r.packetId = info.packetId then _ else r).raw = some r.raw
      split <;> rfl

/-- An accepted packet is stored under its id, unless the id is known. -/
theorem importItem_accepted (laws : BundleLaws rt) (hnamed : Named rt k raw)
    (h : Accepted rt clock raw) :
    (importItem rt clock (.bin raw) s).1 = (if (rawAt s k).isSome then .duplicate else .imported) ∧
      ∀ k', rawAt (importItem rt clock (.bin raw) s).2 k' =
        if k' = k then some ((rawAt s k).getD raw) else rawAt s k' := by
  obtain ⟨⟨info,hinfo⟩,info',hinfo'⟩ := h
  obtain rfl := hnamed.id hinfo'
  unfold importItem
  rw [laws.bytes_bin]
  dsimp only
  rw [hinfo]
  dsimp only
  cases hget : s.packets.get info'.packetId with
  | none =>
    obtain ⟨s',hadd,hraw⟩ := addPacket_new hinfo' hget
    rw [hadd]
    have hnone : rawAt s info'.packetId = none := by rw [rawAt,hget]; rfl
    rw [hnone]
    exact ⟨rfl,hraw⟩
  | some r =>
    obtain ⟨s',hadd,hraw⟩ := addPacket_known hinfo' hget
    rw [hadd]
    have hsome : rawAt s info'.packetId = some r.raw := by rw [rawAt,hget]; rfl
    rw [hsome]
    refine ⟨rfl,fun k' => (hraw k').trans ?_⟩
    split
    · rename_i hk
      rw [hk,hsome]
      rfl
    · rfl

theorem importItem_refused (laws : BundleLaws rt) (h : ¬ Accepted rt clock raw) :
    importItem rt clock (.bin raw) s = (.rejected,s) := by
  unfold importItem
  rw [laws.bytes_bin]
  dsimp only
  cases hfirst : inspectPacket rt clock.1 raw false with
  | error e => rfl
  | ok info =>
    dsimp only
    unfold addPacket
    cases hsecond : inspectPacket rt clock.2 raw false with
    | error e => rfl
    | ok info' => exact absurd ⟨⟨info,hfirst⟩,info',hsecond⟩ h

/-- A packet whose id is known is not imported. -/
theorem importItem_known (laws : BundleLaws rt) (clock : ℤ × ℤ) (hnamed : Named rt k raw)
    (h : (rawAt s k).isSome) :
    (importItem rt clock (.bin raw) s).1 ≠ .imported ∧
      ∀ k', rawAt (importItem rt clock (.bin raw) s).2 k' = rawAt s k' := by
  by_cases hacc : Accepted rt clock raw
  · obtain ⟨hout,hraw⟩ := importItem_accepted (s := s) laws hnamed hacc
    rw [hout,if_pos h]
    refine ⟨by decide,fun k' => (hraw k').trans ?_⟩
    split
    · rename_i hk
      rw [hk]
      obtain ⟨x,hx⟩ := Option.isSome_iff_exists.mp h
      rw [hx]
      rfl
    · rfl
  · rw [importItem_refused laws hacc]
    exact ⟨nofun,fun _ => rfl⟩

end Items

section Lists

variable {rows : List PacketRow} {s t : PacketStore} {clock : ℕ → ℤ × ℤ}

def items (rows : List PacketRow) : List Value := (rows.map PacketRow.raw).map .bin

theorem importItems_cons (r : PacketRow) :
    importItems rt clock (items (r :: rows)) t =
      ((importItem rt (clock 0) (.bin r.raw) t).1 ::
          (importItems rt (fun n => clock (n + 1)) (items rows)
            (importItem rt (clock 0) (.bin r.raw) t).2).1,
        (importItems rt (fun n => clock (n + 1)) (items rows)
          (importItem rt (clock 0) (.bin r.raw) t).2).2) := rfl

/-- Where no packet is rejected, each was accepted in its turn. -/
theorem accepted_of_importItems (laws : BundleLaws rt)
    (h : (importItems rt clock (items rows) t).1.count .rejected = 0) (i : ℕ) {r : PacketRow}
    (hr : rows[i]? = some r) : Accepted rt (clock i) r.raw := by
  induction rows generalizing clock t i with
  | nil => cases hr
  | cons row rows ih =>
    rw [importItems_cons,List.count_cons,Nat.add_eq_zero_iff] at h
    cases i with
    | zero =>
      obtain rfl := Option.some.inj hr
      by_contra hacc
      rw [importItem_refused laws hacc] at h
      simp at h
    | succ i => exact ih h.1 i hr

/-- Where each packet is accepted in its turn, none is rejected, and each is held unless its id
was known. -/
theorem importItems_accepted (laws : BundleLaws rt) (hnamed : ∀ r ∈ rows, Named rt r.packetId r.raw)
    (h : ∀ i r, rows[i]? = some r → Accepted rt (clock i) r.raw) :
    (importItems rt clock (items rows) t).1.count .rejected = 0 ∧
      ∀ k, rawAt (importItems rt clock (items rows) t).2 k =
        (rawAt t k).or ((rows.find? fun r => r.packetId = k).map PacketRow.raw) := by
  induction rows generalizing clock t with
  | nil => exact ⟨rfl,fun k => (Option.or_none).symm⟩
  | cons row rows ih =>
    obtain ⟨hout,hraw⟩ := importItem_accepted (s := t) laws (hnamed row (by simp)) (h 0 row rfl)
    have ih := ih (t := (importItem rt (clock 0) (.bin row.raw) t).2)
      (fun r hr => hnamed r (List.mem_cons_of_mem _ hr)) (fun i r hr => h (i + 1) r hr)
    rw [importItems_cons]
    refine ⟨?_,fun k => ?_⟩
    · rw [List.count_cons,ih.1,hout]
      split <;> rfl
    · rw [ih.2,hraw,List.find?_cons]
      by_cases hk : k = row.packetId
      · subst hk
        cases rawAt t row.packetId <;> simp
      · rw [if_neg hk]
        have hne : ¬ row.packetId = k := fun h => hk h.symm
        simp [hne]

/-- Packets whose ids are known are not imported again. -/
theorem importItems_known (laws : BundleLaws rt) (clock : ℕ → ℤ × ℤ)
    (hnamed : ∀ r ∈ rows, Named rt r.packetId r.raw) (h : ∀ r ∈ rows, (rawAt t r.packetId).isSome) :
    (importItems rt clock (items rows) t).1.count .imported = 0 ∧
      ∀ k, rawAt (importItems rt clock (items rows) t).2 k = rawAt t k := by
  induction rows generalizing clock t with
  | nil => exact ⟨rfl,fun _ => rfl⟩
  | cons row rows ih =>
    obtain ⟨hout,hraw⟩ := importItem_known laws (clock 0) (hnamed row (by simp))
      (h row (by simp))
    have hrest (r) (hr : r ∈ rows) :
        (rawAt (importItem rt (clock 0) (.bin row.raw) t).2 r.packetId).isSome := by
      rw [hraw]
      exact h r (List.mem_cons_of_mem _ hr)
    have ih := ih (fun n => clock (n + 1))
      (fun r hr => hnamed r (List.mem_cons_of_mem _ hr)) hrest
    rw [importItems_cons]
    refine ⟨?_,fun k => (ih.2 k).trans (hraw k)⟩
    rw [List.count_cons,ih.1]
    simpa using hout

end Lists

section Files

variable {s t : PacketStore} {clock clock' : ℕ → ℤ × ℤ} {destinationId : String} {now createdMs : ℤ}
  {packed raw : Bytes} {packets : List Bytes}

theorem stripMagic_magic (packed : Bytes) : stripMagic (bundleMagic ++ packed) = some packed := by
  have hmagic : bundleMagic.isPrefixOf (bundleMagic ++ packed) :=
    List.isPrefixOf_iff_prefix.mpr (List.prefix_append _ _)
  rw [stripMagic,List.find?_cons,hmagic]
  exact congrArg some (List.drop_left)

/-- A written list is read where the file and its body are within their limits. -/
theorem readBundle_body (laws : BundleLaws rt)
    (hpack : rt.pack (body createdMs destinationId packets) = .ok packed)
    (hfile : (bundleMagic ++ packed).length ≤ maxBundleBytes) {list : List Value} :
    readBundle rt (bundleMagic ++ packed) = .ok list ↔
      packed.length ≤ maxWireBytes ∧ list = packets.map .bin := by
  simp only [readBundle,bind_ok,raiseIf_ok,fetched_ok,stripMagic_magic,Option.some.injEq]
  constructor
  · rintro ⟨_,-,_,rfl,value,hvalue,fields,hfields,_,-,_,-,hlist⟩
    unfold Runtime.unpack at hvalue
    split at hvalue
    · cases hvalue
    · rename_i hsmall
      obtain rfl := Except.ok.inj ((laws.unpack_pack _ _ hpack).symm.trans hvalue)
      obtain rfl := Option.some.inj hfields
      exact ⟨by omega,(Except.ok.inj hlist).symm⟩
  · rintro ⟨hsmall,rfl⟩
    refine ⟨(),by omega,packed,rfl,body createdMs destinationId packets,?_,_,rfl,1,?_,(),by simp,rfl⟩
    · rw [Runtime.unpack,if_neg (by omega)]
      exact laws.unpack_pack _ _ hpack
    · exact laws.int_int 1

theorem createBundle_ok {report : BundleReport} :
    createBundle rt destinationId now createdMs s = .ok (raw,report) ↔
      ∃ packed, rt.pack (body createdMs destinationId
          (s.exportPackets destinationId 10000 now)) = .ok packed ∧
        (bundleMagic ++ packed).length ≤ maxBundleBytes ∧ raw = bundleMagic ++ packed ∧
        report = ⟨(s.exportPackets destinationId 10000 now).length,raw.length,rt.sha256 raw⟩ := by
  simp only [createBundle,bind_ok,raiseIf_ok,not_lt]
  constructor
  · rintro ⟨packed,hpack,_,hfile,hval⟩
    obtain ⟨rfl,rfl⟩ := Prod.mk.inj (Except.ok.inj hval)
    exact ⟨packed,hpack,hfile,rfl,rfl⟩
  · rintro ⟨packed,hpack,hfile,rfl,rfl⟩
    exact ⟨packed,hpack,(),hfile,rfl⟩

theorem importBundle_read {list : List Value} (h : readBundle rt raw = .ok list) :
    importBundle rt clock raw t = (.ok ⟨(importItems rt clock list t).1.count .imported,
      (importItems rt clock list t).1.count .duplicate,
      (importItems rt clock list t).1.count .rejected,rt.sha256 raw⟩,
      (importItems rt clock list t).2) := by
  unfold importBundle
  rw [h]

theorem mem_exportRows {r : PacketRow} (h : r ∈ s.exportRows destinationId 10000 now) :
    s.packets.get r.packetId = some r :=
  (mem_livePackets.mp (List.mem_of_mem_take h)).1

/-- An import that stores each exported packet unless its id is known adds exactly the exported
packets, where the store holds no other packet under their ids. -/
theorem held_union {t' : PacketStore} (hraw : ∀ k, rawAt t' k = (rawAt t k).or
    (((s.exportRows destinationId 10000 now).find? fun r => r.packetId = k).map PacketRow.raw)) :
    t'.held = t.held ∪ s.exported destinationId now ↔
      ∀ r ∈ s.exportRows destinationId 10000 now, ∀ r', t.packets.get r.packetId = some r' →
        r'.raw = r.raw := by
  constructor
  · intro hheld r hr r' hr'
    have hown : (r.packetId,r'.raw) ∈ t'.held := by
      rw [hheld]
      exact Or.inl ⟨r',hr',rfl⟩
    have hother : (r.packetId,r.raw) ∈ t'.held := by
      rw [hheld]
      exact Or.inr ⟨r,hr,rfl⟩
    rw [mem_held] at hown hother
    exact Option.some.inj (hown.symm.trans hother)
  · intro hagree
    ext ⟨k,raw⟩
    rw [Set.mem_union,mem_held,mem_held,hraw]
    cases hown : rawAt t k with
    | some x =>
      simp only [Option.some_or,Option.some.injEq]
      refine ⟨Or.inl,fun h => h.elim id ?_⟩
      rintro ⟨r,hr,heq⟩
      obtain ⟨rfl,rfl⟩ := Prod.mk.inj heq
      obtain ⟨r',hr',rfl⟩ := Option.map_eq_some_iff.mp hown
      exact hagree r hr r' hr'
    | none =>
      simp only [Option.none_or,reduceCtorEq,false_or]
      constructor
      · intro h
        obtain ⟨r,hr,rfl⟩ := Option.map_eq_some_iff.mp h
        have hid : r.packetId = k := by simpa using List.find?_some hr
        exact ⟨r,List.mem_of_find?_eq_some hr,by rw [hid]⟩
      · rintro ⟨r,hr,heq⟩
        obtain ⟨rfl,rfl⟩ := Prod.mk.inj heq
        cases hfind : (s.exportRows destinationId 10000 now).find?
            fun r' => r'.packetId = r.packetId with
        | none => simpa using List.find?_eq_none.mp hfind r hr
        | some r' =>
          have hid : r'.packetId = r.packetId := by simpa using List.find?_some hfind
          have hsame := mem_exportRows (List.mem_of_find?_eq_some hfind)
          rw [hid,mem_exportRows hr] at hsame
          obtain rfl := Option.some.inj hsame
          rfl

theorem exportRows_named (h : AllNamed rt s) :
    ∀ r ∈ s.exportRows destinationId 10000 now, Named rt r.packetId r.raw :=
  fun r hr => h r.packetId r (mem_exportRows hr)

/-- A bundle that makes the round trip is small, and its packets are accepted and agree. -/
theorem transferable_of_roundTrip (laws : BundleLaws rt) (hs : AllNamed rt s)
    (h : RoundTrip rt destinationId now createdMs s clock clock' t) :
    Transferable rt destinationId now createdMs s clock t := by
  obtain ⟨raw,report,read,t',hcreate,himport,hrejected,hheld,-⟩ := h
  obtain ⟨packed,hpack,hfile,rfl,-⟩ := createBundle_ok.mp hcreate
  cases hlist : readBundle rt (bundleMagic ++ packed) with
  | error e =>
    unfold importBundle at himport
    rw [hlist] at himport
    cases himport
  | ok list =>
    obtain ⟨hsmall,rfl⟩ := (readBundle_body laws hpack hfile).mp hlist
    rw [importBundle_read hlist] at himport
    obtain ⟨hread,rfl⟩ := Prod.mk.inj himport
    obtain rfl := Except.ok.inj hread
    have haccepted (i) {r} := accepted_of_importItems laws hrejected i (r := r)
    exact ⟨⟨packed,hpack,hsmall⟩,fun i r hr => haccepted i hr,(held_union
      (importItems_accepted laws (exportRows_named hs) fun i r hr => haccepted i hr).2).mp hheld⟩

/-- A small bundle whose packets are accepted and agree makes the round trip. -/
theorem roundTrip_of_transferable (laws : BundleLaws rt) (hs : AllNamed rt s)
    (h : Transferable rt destinationId now createdMs s clock t) :
    RoundTrip rt destinationId now createdMs s clock clock' t := by
  obtain ⟨⟨packed,hpack,hsmall⟩,haccepted,hagree⟩ := h
  have hmagic : bundleMagic.length = 15 := by decide
  have hfile : (bundleMagic ++ packed).length ≤ maxBundleBytes := by
    rw [List.length_append,hmagic]
    unfold maxWireBytes at hsmall
    unfold maxBundleBytes
    omega
  have hlist := (readBundle_body laws hpack hfile).mpr ⟨hsmall,rfl⟩
  obtain ⟨hrejected,hraw⟩ := importItems_accepted (t := t) laws (exportRows_named hs) haccepted
  have hheld := (held_union hraw).mpr hagree
  have hknown (r) (hr : r ∈ s.exportRows destinationId 10000 now) :
      (rawAt (importItems rt clock (items (s.exportRows destinationId 10000 now)) t).2
        r.packetId).isSome := by
    have hmem : (r.packetId,r.raw) ∈
        (importItems rt clock (items (s.exportRows destinationId 10000 now)) t).2.held := by
      rw [hheld]
      exact Or.inr ⟨r,hr,rfl⟩
    rw [mem_held] at hmem
    rw [hmem]
    rfl
  obtain ⟨hagain,hsame⟩ := importItems_known laws clock' (exportRows_named hs) hknown
  refine ⟨_,_,_,_,createBundle_ok.mpr ⟨packed,hpack,hfile,rfl,rfl⟩,importBundle_read hlist,hrejected,
    hheld,_,_,importBundle_read hlist,hagain,?_⟩
  ext p
  rw [mem_held,mem_held]
  exact iff_of_eq (congrArg (· = some p.2) (hsame p.1))

/-- The round trip of a bundle succeeds exactly where its body is no larger than `unpack` accepts,
its packets are still accepted when they are read, and the reading store holds no other packet
under their ids. -/
theorem bundle_round_trip_iff (laws : BundleLaws rt) {w : WorkWorld}
    (h : Reaches (StoreStep rt) .initial w) (destinationId : String) (now createdMs : ℤ)
    (clock clock' : ℕ → ℤ × ℤ) (t : PacketStore) :
    RoundTrip rt destinationId now createdMs w.store clock clock' t ↔
      Transferable rt destinationId now createdMs w.store clock t :=
  ⟨transferable_of_roundTrip laws (allNamed_run h),roundTrip_of_transferable laws (allNamed_run h)⟩

end Files

section Sample

theorem msgpack_bundles : BundleLaws .msgpack where
  unpack_pack _ _ h := unpackValue_packValue h
  int_int _ := rfl
  bytes_bin _ := rfl

def heldId (second : Bool) : String :=
  if second then "00000000000000000000000000000002" else "00000000000000000000000000000001"

def heldFields (second : Bool) : List (Value × Value) :=
  [(.str "v",.int 1),(.str "id",.str (heldId second)),(.str "dst",.str "an1-receiver-of-packets"),
    (.str "ts",.int 1000),(.str "exp",.int 90000),(.str "hops",.int 4),
    (.str "epk",.bin (List.replicate 32 0)),(.str "nonce",.bin (List.replicate 12 0))]

/-- Two packets with a ciphertext of `n` bytes. -/
def heldPacket (n : ℕ) (second : Bool) : Bytes :=
  (Value.map (heldFields second ++ [(.str "ct",.bin (List.replicate n 0))])).wire

def heldInfo (n : ℕ) (second : Bool) : PacketInfo :=
  ⟨heldId second,"an1-receiver-of-packets",1000,90000,4,"normal",heldPacket n second,.static,"",1⟩

theorem heldPacket_length (n : ℕ) (second : Bool) :
    n < (heldPacket n second).length ∧ (heldPacket n second).length ≤ n + 500 := by
  have hfields : (wireEntries (heldFields second)).length ≤ 400 := by
    cases second <;> decide +kernel
  have hname : (utf8 "ct").length = 2 := by decide
  simp only [heldPacket,Value.wire,wireEntries_append,wireEntries,List.length_cons,List.length_append,
    length_wordBytes,List.length_replicate,hname,List.length_nil]
  omega

theorem heldPacket_inspected {n : ℕ} (hlow : 32 ≤ n) (hhigh : n ≤ maxPlaintextBytes) (second : Bool)
    (now : ℤ) (hnow : 1000 ≤ now ∧ now < 90000) :
    inspectPacket .msgpack now (heldPacket n second) false = .ok (heldInfo n second) := by
  obtain ⟨-,hlength⟩ := heldPacket_length n second
  unfold maxPlaintextBytes at hhigh
  have hwire : ¬ maxWireBytes < (heldPacket n second).length := by
    unfold maxWireBytes
    omega
  have hfits : (Value.map (heldFields second ++ [(.str "ct",.bin (List.replicate n 0))])).fits := by
    have hsize : (heldFields second).length = 8 := by cases second <;> rfl
    have hfields : entriesFit (heldFields second) := by cases second <;> decide
    have hname : (Value.str "ct").fits := by decide
    have hlast : (Value.bin (List.replicate n 0)).fits := by
      simp only [Value.fits,List.length_replicate,decide_eq_true_eq]
      omega
    simp only [Value.fits,Bool.and_eq_true,decide_eq_true_eq,List.length_append,hsize]
    refine ⟨by simp,(entriesFit_iff _).mpr fun e he => ?_⟩
    rcases List.mem_append.mp he with he | he
    · exact (entriesFit_iff _).mp hfields e he
    · obtain rfl := List.mem_singleton.mp he
      exact ⟨hname,hlast⟩
  have hid : (heldId second).toList.length = 32 ∧ (fromHex (heldId second)).isNone = false := by
    cases second <;> decide
  have hdestination : startsWith "an1-receiver-of-packets" "an1" ∧
      ¬ "an1-receiver-of-packets".toList.length < 20 := by decide
  have hqos : "normal" ∈ ["control","interactive","normal","bulk"] := by decide
  refine inspectPacket_ok.mpr ⟨not_lt.mp hwire,_,_,
    (if_neg hwire).trans (unpackValue_packValue (if_pos hfits)),rfl,?_,?_⟩
  · refine bind_ok.mpr ⟨1,rfl,?_⟩
    refine bind_ok.mpr ⟨(),rfl,?_⟩
    refine bind_ok.mpr ⟨(),raiseIf_ok.mpr (not_not.mpr hid.1),?_⟩
    refine bind_ok.mpr ⟨(),raiseIf_ok.mpr (Bool.eq_false_iff.mp hid.2),?_⟩
    refine bind_ok.mpr ⟨(),raiseIf_ok.mpr ?_,?_⟩
    · exact fun h => h.elim (fun h => h hdestination.1) hdestination.2
    refine bind_ok.mpr ⟨1000,rfl,bind_ok.mpr ⟨90000,rfl,bind_ok.mpr ⟨4,rfl,?_⟩⟩⟩
    refine bind_ok.mpr ⟨(),checkLifetime_ok.mpr ?_,?_⟩
    · unfold maxTtlSeconds maxClockSkewMs
      omega
    refine bind_ok.mpr ⟨List.replicate 32 0,rfl,bind_ok.mpr ⟨(),rfl,?_⟩⟩
    refine bind_ok.mpr ⟨List.replicate 12 0,rfl,bind_ok.mpr ⟨(),rfl,?_⟩⟩
    refine bind_ok.mpr ⟨(),raiseIf_ok.mpr (not_not.mpr hqos),?_⟩
    refine bind_ok.mpr ⟨(.static,""),rfl,?_⟩
    refine bind_ok.mpr ⟨List.replicate n 0,rfl,bind_ok.mpr ⟨(),raiseIf_ok.mpr ?_,rfl⟩⟩
    rw [List.length_replicate]
    unfold maxPlaintextBytes
    omega
  · change ¬ (¬ false = true ∧ 90000 ≤ now)
    omega

/-- A store that added the two packets. -/
def heldWorld (n : ℕ) : WorkWorld :=
  (WorkWorld.initial.next .msgpack (.addPacket (heldPacket n false) 0 "local" "" 2000)).next .msgpack
    (.addPacket (heldPacket n true) 0 "local" "" 2000)

theorem heldWorld_reachable (n : ℕ) : Reaches (StoreStep .msgpack) .initial (heldWorld n) :=
  (Relation.ReflTransGen.single ⟨.addPacket (heldPacket n false) 0 "local" "" 2000,trivial,rfl⟩).tail
    ⟨.addPacket (heldPacket n true) 0 "local" "" 2000,trivial,rfl⟩

def heldRow (n : ℕ) (second : Bool) : PacketRow :=
  ⟨heldId second,"an1-receiver-of-packets",1000,90000,4,0,heldPacket n second,"local","",2000,false,
    "normal"⟩

theorem heldWorld_rows {n : ℕ} (hlow : 32 ≤ n) (hhigh : n ≤ maxPlaintextBytes) :
    (heldWorld n).store.packets.rows = [heldRow n false,heldRow n true] := by
  have hfirst := heldPacket_inspected hlow hhigh false 2000 (by decide)
  have hsecond := heldPacket_inspected hlow hhigh true 2000 (by decide)
  obtain ⟨packets,hins,hadd⟩ := addPacket_inserts (s := PacketStore.empty) "local" hfirst rfl
  have hrows := (Table.insert_eq_some hins).2.2
  have hfree : ({ PacketStore.empty with packets := packets } : PacketStore).packets.get
      (heldInfo n true).packetId = none := by
    refine Table.get_eq_none.mpr fun r hr => ?_
    change r ∈ packets.rows at hr
    rw [hrows] at hr
    obtain rfl := List.mem_singleton.mp hr
    exact (by decide : heldId false ≠ heldId true)
  obtain ⟨packets',hins',hadd'⟩ := addPacket_inserts "local" hsecond hfree
  have hrows' := (Table.insert_eq_some hins').2.2
  unfold heldWorld
  rw [next_store,next_store,StoreOp.exec,StoreOp.exec]
  change (addPacket _ _ _ _ _ _ (addPacket _ _ _ _ _ _ PacketStore.empty).2).2.packets.rows = _
  rw [hadd,hadd']
  change packets'.rows = _
  rw [hrows']
  change packets.rows ++ _ = _
  rw [hrows]
  rfl

theorem heldWorld_exports {n : ℕ} (hlow : 32 ≤ n) (hhigh : n ≤ maxPlaintextBytes) :
    (heldWorld n).store.exportRows "" 10000 3000 = [heldRow n false,heldRow n true] := by
  unfold exportRows livePackets Table.select
  rw [heldWorld_rows hlow hhigh]
  rfl

/-- The list of a bundle with the two packets. -/
theorem heldBody {n : ℕ} (hhigh : n ≤ maxPlaintextBytes) :
    ∃ packed, Runtime.msgpack.pack (body 3000 "" [heldPacket n false,heldPacket n true]) =
      .ok packed ∧ 2 * n < packed.length ∧ packed.length ≤ 2 * n + 1500 := by
  have hfirst := heldPacket_length n false
  have hsecond := heldPacket_length n true
  unfold maxPlaintextBytes at hhigh
  have hkeys : (utf8 "v").length = 1 ∧ (utf8 "created_ms").length = 10 ∧
      (utf8 "destination_id").length = 14 ∧ (utf8 "packets").length = 7 ∧ (utf8 "").length = 0 := by
    decide
  have hfits : (body 3000 "" [heldPacket n false,heldPacket n true]).fits := by
    simp only [body,Value.fits,entriesFit,itemsFit,List.map_cons,List.map_nil,List.length_cons,
      List.length_nil,Bool.and_eq_true,decide_eq_true_eq,hkeys]
    refine ⟨by decide,by decide,by decide,by decide,⟨by decide,by decide,?_,?_,trivial⟩,trivial⟩ <;>
      omega
  refine ⟨_,if_pos hfits,?_⟩
  simp only [body,Value.wire,wireEntries,wireItems,List.map_cons,List.map_nil,List.length_cons,
    List.length_nil,List.length_append,length_wordBytes,hkeys]
  omega

theorem heldWorld_accepted {n : ℕ} (hlow : 32 ≤ n) (hhigh : n ≤ maxPlaintextBytes) (i : ℕ)
    {r : PacketRow} (hr : ((heldWorld n).store.exportRows "" 10000 3000)[i]? = some r) :
    Accepted .msgpack (4000,4000) r.raw := by
  rw [heldWorld_exports hlow hhigh] at hr
  have hmem := List.mem_of_getElem? hr
  simp only [List.mem_cons,List.not_mem_nil,or_false] at hmem
  rcases hmem with rfl | rfl
  · exact ⟨⟨_,heldPacket_inspected hlow hhigh false _ (by decide)⟩,
      _,heldPacket_inspected hlow hhigh false _ (by decide)⟩
  · exact ⟨⟨_,heldPacket_inspected hlow hhigh true _ (by decide)⟩,
      _,heldPacket_inspected hlow hhigh true _ (by decide)⟩

/-- Two small packets are carried into an empty store. -/
theorem bundle_round_trip_iff_sample :
    RoundTrip .msgpack "" 3000 3000 (heldWorld 32).store (fun _ => (4000,4000))
      (fun _ => (5000,5000)) .empty := by
  obtain ⟨packed,hpack,-,hsmall⟩ := heldBody (n := 32) (by decide)
  refine (bundle_round_trip_iff msgpack_bundles (heldWorld_reachable 32) "" 3000 3000
    (fun _ => (4000,4000)) (fun _ => (5000,5000)) .empty).mpr ⟨⟨packed,?_,?_⟩,?_,?_⟩
  · rw [exportPackets,heldWorld_exports (by decide) (by decide)]
    exact hpack
  · unfold maxWireBytes
    omega
  · exact fun i r hr => heldWorld_accepted (by decide) (by decide) i hr
  · intro r hr r' hr'
    cases hr'

theorem large_bundle {n : ℕ} (hn : n = maxPlaintextBytes) :
    Reaches (StoreStep .msgpack) .initial (heldWorld n) ∧
      ((heldWorld n).store.packets.rows.map fun r : PacketRow => r.raw.length).sum < maxBundleBytes ∧
      (∀ (i : ℕ) r, ((heldWorld n).store.exportRows "" 10000 3000)[i]? = some r →
        Accepted .msgpack (4000,4000) r.raw) ∧
      (createBundle .msgpack "" 3000 3000 (heldWorld n).store).toOption.isSome ∧
      ∀ clock', ¬ RoundTrip .msgpack "" 3000 3000 (heldWorld n).store (fun _ => (4000,4000)) clock'
        .empty := by
  have hlow : 32 ≤ n := by
    rw [hn]
    decide
  have hhigh : n ≤ maxPlaintextBytes := hn.le
  have hfirst := heldPacket_length n false
  have hsecond := heldPacket_length n true
  obtain ⟨packed,hpack,hlarge,hsmall⟩ := heldBody hhigh
  have hexports : (heldWorld n).store.exportPackets "" 10000 3000 =
      [heldPacket n false,heldPacket n true] := by
    rw [exportPackets,heldWorld_exports hlow hhigh]
    rfl
  have hmagic : bundleMagic.length = 15 := by decide
  unfold maxPlaintextBytes at hn
  refine ⟨heldWorld_reachable n,?_,fun i r hr => heldWorld_accepted hlow hhigh i hr,?_,?_⟩
  · rw [heldWorld_rows hlow hhigh]
    change (heldPacket n false).length + ((heldPacket n true).length + 0) < maxBundleBytes
    unfold maxBundleBytes
    omega
  · have hfile : (bundleMagic ++ packed).length ≤ maxBundleBytes := by
      rw [List.length_append,hmagic]
      unfold maxBundleBytes
      omega
    rw [← hexports] at hpack
    rw [createBundle_ok.mpr ⟨packed,hpack,hfile,rfl,rfl⟩]
    rfl
  · intro clock' hround
    obtain ⟨⟨packed',hpack',hle⟩,-,-⟩ := transferable_of_roundTrip msgpack_bundles
      (allNamed_run (heldWorld_reachable n)) hround
    rw [hexports] at hpack'
    obtain rfl := Except.ok.inj (hpack.symm.trans hpack')
    unfold maxWireBytes at hle
    omega

/-- Two packets of eight megabytes, far below the limit of a bundle, which the importer accepts:
the bundle is written and is not read. -/
theorem large_bundle_refused : ∃ w clock, Reaches (StoreStep .msgpack) .initial w ∧
    (w.store.packets.rows.map fun r : PacketRow => r.raw.length).sum < maxBundleBytes ∧
    (∀ i r, (w.store.exportRows "" 10000 3000)[i]? = some r → Accepted .msgpack (clock i) r.raw) ∧
    (createBundle .msgpack "" 3000 3000 w.store).toOption.isSome ∧
    ∀ clock', ¬ RoundTrip .msgpack "" 3000 3000 w.store clock clock' .empty :=
  ⟨_,fun _ => (4000,4000),large_bundle rfl⟩

end Sample

end Bundle
end Anet
