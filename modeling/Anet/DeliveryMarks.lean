import Anet.Joins
import Anet.PacketTables
import Mathlib.Data.Fintype.Order
import Mathlib.Order.WithBot

/-! What the store keeps of a packet's way to its peers: attempts, custody and acknowledgements
join into the rows of the peer and of the path, in whatever order they are marked. -/
namespace Anet

namespace Table

variable {κ ρ L : Type*} {key : ρ → κ} [DecidableEq κ] [SemilatticeSup L]

/-- A column of the row under a key, below all values where there is no row. -/
def column (c : ρ → L) (t : Table key noMarks) (k : κ) : WithBot L :=
  (t.get k).elim ⊥ fun r => (c r : WithBot L)

/-- An upsert whose row and whose update both join a value joins it to the column. -/
theorem column_upsert {c : ρ → L} (t : Table key noMarks) (r : ρ) {f : ρ → ρ}
    (hkey : ∀ r, key (f r) = key r) {x : L} (hr : c r = x) (hf : ∀ r, c (f r) = c r ⊔ x) (k : κ) :
    column c ((t.upsert r f hkey).getD t) k =
      column c t k ⊔ if k = key r then (x : WithBot L) else ⊥ := by
  obtain ⟨t',ht⟩ := upsert_noMarks t r f hkey
  have hget := get_upsert ht k
  rw [ht,Option.getD_some]
  unfold column
  rw [hget]
  by_cases hk : k = key r
  · rw [if_pos hk,if_pos hk,hk]
    cases hrow : t.get (key r) with
    | none => simp [hr]
    | some r' => simp [hf]
  · rw [if_neg hk,if_neg hk,sup_bot_eq]

end Table

def SyncState.rank : SyncState → ℕ
  | .sent => 0
  | .acked => 1

instance : LinearOrder SyncState :=
  LinearOrder.lift' SyncState.rank fun a b h => by cases a <;> cases b <;> first | rfl | cases h

def PathState.rank : PathState → ℕ
  | .sent => 0
  | .custodied => 1
  | .acked => 2

instance : LinearOrder PathState :=
  LinearOrder.lift' PathState.rank fun a b h => by cases a <;> cases b <;> first | rfl | cases h

inductive MarkKind
  | attempt (error : String)
  | custodied
  | acked

/-- One packet marked for a peer on a path. -/
structure Mark where
  kind : MarkKind
  packetId : String
  peerId : String
  pathId : String
  now : ℤ

/-- A call of `mark_attempt`, `mark_custodied` or `mark_acked`. -/
structure MarkCall where
  kind : MarkKind
  packetIds : List String
  peerId : String
  pathId : String
  now : ℤ

/-- What a peer has of a packet, what a path to it has, and whether the packet is delivered. -/
abbrev Progress : Type :=
  (String × String → WithBot SyncState) × (String × String × String → WithBot PathState) ×
    (String → Bool)

namespace PacketStore

def progress (s : PacketStore) : Progress :=
  (s.deliveries.column DeliveryRow.state,s.deliveryPaths.column DeliveryPathRow.state,
    s.packetDelivered)

def destinationOf (s : PacketStore) (packetId : String) : Option String :=
  (s.packets.get packetId).map PacketRow.destinationId

def mark (s : PacketStore) (m : Mark) : PacketStore :=
  match m.kind with
  | .attempt error => attemptOne m.peerId error m.pathId m.now s m.packetId
  | .custodied => custodyOne m.peerId m.pathId m.now s m.packetId
  | .acked => ackOne m.peerId m.pathId m.now s m.packetId

def call (s : PacketStore) (c : MarkCall) : PacketStore :=
  match c.kind with
  | .attempt error => markAttempt c.packetIds c.peerId error c.pathId c.now s
  | .custodied => markCustodied c.packetIds c.peerId c.pathId c.now s
  | .acked => markAcked c.packetIds c.peerId c.pathId c.now s

end PacketStore

def MarkCall.marks (c : MarkCall) : List Mark :=
  c.packetIds.map fun packetId => ⟨c.kind,packetId,c.peerId,c.pathId,c.now⟩

namespace Mark

/-- What a mark says of the peer. -/
def sync (m : Mark) : WithBot SyncState :=
  match m.kind with
  | .attempt _ => SyncState.sent
  | .custodied => ⊥
  | .acked => SyncState.acked

/-- What a mark says of the path. -/
def path (m : Mark) : PathState :=
  match m.kind with
  | .attempt _ => .sent
  | .custodied => .custodied
  | .acked => .acked

/-- What a mark joins, `destination` being the packets' own. -/
def effect (destination : String → Option String) (m : Mark) : Progress :=
  (fun k => if k = (m.packetId,m.peerId) then m.sync else ⊥,
    fun k => if k = (m.packetId,m.peerId,m.pathId) then (m.path : WithBot PathState) else ⊥,
    fun packetId => decide (m.path = .acked ∧ packetId = m.packetId ∧
      destination packetId = some m.peerId))

end Mark

namespace PacketStore

variable {s : PacketStore}

theorem call_marks (c : MarkCall) (s : PacketStore) : s.call c = c.marks.foldl mark s := by
  obtain ⟨kind,packetIds,peerId,pathId,now⟩ := c
  rw [MarkCall.marks,List.foldl_map]
  cases kind <;> rfl

theorem calls_marks (calls : List MarkCall) (s : PacketStore) :
    calls.foldl call s = (calls.flatMap MarkCall.marks).foldl mark s := by
  induction calls generalizing s with
  | nil => rfl
  | cons c rest ih => rw [List.foldl_cons,ih,List.flatMap_cons,List.foldl_append,call_marks]

theorem deliver_get (p : PacketRow → Prop) [DecidablePred p] (t : Packets) (packetId : String) :
    (deliver t p).get packetId = (t.get packetId).map fun r =>
      if p r then { r with delivered := true } else r :=
  Table.get_update t p (fun r => { r with delivered := true }) (fun _ => rfl) _ packetId

theorem destinationOf_mark (m : Mark) (s : PacketStore) :
    (s.mark m).destinationOf = s.destinationOf := by
  funext packetId
  unfold mark destinationOf
  cases m.kind with
  | attempt error => rfl
  | custodied => rfl
  | acked =>
    simp only [ackOne,deliver_get,Option.map_map]
    congr 1
    funext r
    simp only [Function.comp]
    split <;> rfl

theorem packetDelivered_ack (packetId peerId : String) (s : PacketStore) (id : String) :
    ({ s with packets := deliver s.packets fun r => r.packetId = packetId ∧
      r.destinationId = peerId } : PacketStore).packetDelivered id =
        (s.packetDelivered id || decide (id = packetId ∧ s.destinationOf id = some peerId)) := by
  unfold packetDelivered destinationOf
  simp only [deliver_get]
  cases hget : s.packets.get id with
  | none => simp
  | some r =>
    have hid : r.packetId = id := Table.get_key hget
    simp only [Option.map_some,Option.getD_some,hid,Option.some.injEq]
    split
    · next h => simp [h]
    · next h => simp [h]

theorem sync_upsert (d : Deliveries) (packetId peerId : String) (state : SyncState) (attempts : ℕ)
    (now : ℤ) (error : String) (f : DeliveryRow → DeliveryRow) (hf : ∀ r, (f r).key = r.key)
    (hstate : ∀ r, (f r).state = r.state ⊔ state) (k : String × String) :
    (upsertDelivery d packetId peerId state attempts now error f hf).column DeliveryRow.state k =
      d.column DeliveryRow.state k ⊔
        if k = (packetId,peerId) then (state : WithBot SyncState) else ⊥ :=
  Table.column_upsert d ⟨packetId,peerId,state,attempts,now,error⟩ hf rfl hstate k

theorem path_upsert (d : DeliveryPaths) (packetId peerId pathId : String) (state : PathState)
    (now : ℤ) (error : String) (f : DeliveryPathRow → DeliveryPathRow)
    (hf : ∀ r, (f r).key = r.key) (hstate : ∀ r, (f r).state = r.state ⊔ state)
    (k : String × String × String) :
    (upsertPath d packetId peerId pathId state now error f hf).column DeliveryPathRow.state k =
      d.column DeliveryPathRow.state k ⊔
        if k = (packetId,peerId,pathId) then (state : WithBot PathState) else ⊥ :=
  Table.column_upsert d ⟨packetId,peerId,pathId,state,1,now,error⟩ hf rfl hstate k

/-- A mark joins its effect to the progress. -/
theorem progress_mark (m : Mark) (s : PacketStore) :
    (s.mark m).progress = s.progress ⊔ m.effect s.destinationOf := by
  obtain ⟨kind,packetId,peerId,pathId,now⟩ := m
  refine Prod.ext (funext fun k => ?_) (Prod.ext (funext fun k => ?_) (funext fun id => ?_))
  · cases kind with
    | attempt error =>
      refine sync_upsert s.deliveries packetId peerId .sent 1 now (cut 1000 error) _ _ ?_ k
      intro r
      change (if r.state = .acked then SyncState.acked else .sent) = r.state ⊔ .sent
      cases r.state <;> rfl
    | custodied =>
      change s.deliveries.column DeliveryRow.state k =
        s.deliveries.column DeliveryRow.state k ⊔ if k = (packetId,peerId) then ⊥ else ⊥
      rw [ite_self,sup_bot_eq]
    | acked =>
      refine sync_upsert s.deliveries packetId peerId .acked 1 now "" _ _ ?_ k
      intro r
      change SyncState.acked = r.state ⊔ .acked
      cases r.state <;> rfl
  · cases kind with
    | attempt error =>
      refine path_upsert s.deliveryPaths packetId peerId pathId .sent now (cut 1000 error) _ _ ?_ k
      intro r
      change (if r.state = .acked ∨ r.state = .custodied then r.state else .sent) = r.state ⊔ .sent
      cases r.state <;> rfl
    | custodied =>
      refine path_upsert s.deliveryPaths packetId peerId pathId .custodied now "" _ _ ?_ k
      intro r
      change (if r.state = .acked then PathState.acked else .custodied) = r.state ⊔ .custodied
      cases r.state <;> rfl
    | acked =>
      refine path_upsert s.deliveryPaths packetId peerId pathId .acked now "" _ _ ?_ k
      intro r
      change PathState.acked = r.state ⊔ .acked
      cases r.state <;> rfl
  · cases kind with
    | acked =>
      refine (packetDelivered_ack packetId peerId s id).trans ?_
      change _ = (s.packetDelivered id || _)
      simp [Mark.effect,Mark.path]
    | _ =>
      change s.packetDelivered id = (s.packetDelivered id || _)
      simp [Mark.effect,Mark.path]

/-- Marks join their effects, whatever the packets are destined for. -/
theorem marks_join (destination : String → Option String) :
    JoinCalls mark (fun s => s.destinationOf = destination) progress (Mark.effect destination) where
  keeps s m h := (destinationOf_mark m s).trans h
  observes s m h := by rw [← h,progress_mark]

def syncState (s : PacketStore) (packetId peerId : String) : WithBot SyncState :=
  s.progress.1 (packetId,peerId)

def pathState (s : PacketStore) (packetId peerId pathId : String) : WithBot PathState :=
  s.progress.2.1 (packetId,peerId,pathId)

theorem calls_perm {calls calls' : List MarkCall} (h : calls.Perm calls') (s : PacketStore) :
    (calls.foldl call s).progress = (calls'.foldl call s).progress := by
  rw [calls_marks,calls_marks]
  exact (marks_join s.destinationOf).perm (h.flatMap_right MarkCall.marks) rfl

theorem calls_le (calls : List MarkCall) (s : PacketStore) :
    s.progress ≤ (calls.foldl call s).progress := by
  rw [calls_marks]
  exact (marks_join s.destinationOf).le_run (calls.flatMap MarkCall.marks) rfl

theorem syncState_le (calls : List MarkCall) (s : PacketStore) (packetId peerId : String) :
    s.syncState packetId peerId ≤ (calls.foldl call s).syncState packetId peerId :=
  (calls_le calls s).1 (packetId,peerId)

theorem pathState_le (calls : List MarkCall) (s : PacketStore) (packetId peerId pathId : String) :
    s.pathState packetId peerId pathId ≤ (calls.foldl call s).pathState packetId peerId pathId :=
  (calls_le calls s).2.1 (packetId,peerId,pathId)

theorem acked_le {x : WithBot SyncState} (h : (SyncState.acked : WithBot SyncState) ≤ x) :
    x = SyncState.acked := by
  cases x with
  | bot => exact absurd h (by decide)
  | coe state => cases state with
    | sent => exact absurd h (by decide)
    | acked => rfl

theorem custodied_le {x : WithBot PathState} (h : (PathState.custodied : WithBot PathState) ≤ x) :
    x = PathState.custodied ∨ x = PathState.acked := by
  cases x with
  | bot => exact absurd h (by decide)
  | coe state => cases state with
    | sent => exact absurd h (by decide)
    | custodied => exact .inl rfl
    | acked => exact .inr rfl

theorem path_acked_le {x : WithBot PathState} (h : (PathState.acked : WithBot PathState) ≤ x) :
    x = PathState.acked := by
  cases x with
  | bot => exact absurd h (by decide)
  | coe state => cases state with
    | sent => exact absurd h (by decide)
    | custodied => exact absurd h (by decide)
    | acked => rfl

/-- A packet that a peer has acknowledged is not offered to it. -/
theorem not_offered {packetId peerId : String} (h : s.syncState packetId peerId = SyncState.acked)
    {limit retryAfterMs now : ℤ} {pathId : Option String} {qosAllow : Option (List String)}
    {l : List PendingPacket}
    (hl : s.pendingForPeer peerId limit retryAfterMs pathId qosAllow now = .ok l)
    {x : PendingPacket} (hx : x ∈ l) : x.packetId ≠ packetId := by
  rintro rfl
  obtain ⟨p,-,⟨-,-,-,-,hdelivery,-⟩,rfl⟩ := mem_pendingForPeer hl hx
  change (s.deliveries.get (p.packetId,peerId)).elim ⊥
    (fun r => (r.state : WithBot SyncState)) = _ at h
  cases hrow : s.deliveries.get (p.packetId,peerId) with
  | none =>
    rw [hrow] at h
    cases h
  | some d =>
    rw [hrow] at h
    exact (hdelivery d hrow).1 (WithBot.coe_injective h)

theorem acked_call {c : MarkCall} {calls : List MarkCall} (hc : c ∈ calls) (hkind : c.kind = .acked)
    {packetId : String} (hid : packetId ∈ c.packetIds) (s : PacketStore) :
    (calls.foldl call s).syncState packetId c.peerId = SyncState.acked := by
  have hmark : (⟨c.kind,packetId,c.peerId,c.pathId,c.now⟩ : Mark) ∈ calls.flatMap MarkCall.marks :=
    List.mem_flatMap.mpr ⟨c,hc,List.mem_map.mpr ⟨packetId,hid,rfl⟩⟩
  have hle := ((marks_join s.destinationOf).effect_le_run hmark rfl).1 (packetId,c.peerId)
  rw [← calls_marks] at hle
  refine acked_le (le_trans (le_of_eq ?_) hle)
  simp [Mark.effect,Mark.sync,hkind]

end PacketStore

open PacketStore

/-- From any store, the marks of any calls can be made in any order; an acknowledgement is final,
custody is not lost to an attempt, and what a peer acknowledged is not offered to it again. -/
theorem delivery_marks_join (s : PacketStore) :
    (∀ calls calls' : List MarkCall, calls.Perm calls' → ∀ packetId peerId,
      (calls.foldl call s).syncState packetId peerId =
          (calls'.foldl call s).syncState packetId peerId ∧
        (∀ pathId, (calls.foldl call s).pathState packetId peerId pathId =
          (calls'.foldl call s).pathState packetId peerId pathId) ∧
        (calls.foldl call s).packetDelivered packetId =
          (calls'.foldl call s).packetDelivered packetId) ∧
    (∀ (calls : List MarkCall) packetId peerId,
      (s.syncState packetId peerId = SyncState.acked →
        (calls.foldl call s).syncState packetId peerId = SyncState.acked) ∧
      (s.packetDelivered packetId = true →
        (calls.foldl call s).packetDelivered packetId = true) ∧
      ∀ pathId, (s.pathState packetId peerId pathId = PathState.acked →
          (calls.foldl call s).pathState packetId peerId pathId = PathState.acked) ∧
        (s.pathState packetId peerId pathId = PathState.custodied →
          (calls.foldl call s).pathState packetId peerId pathId = PathState.custodied ∨
          (calls.foldl call s).pathState packetId peerId pathId = PathState.acked)) ∧
    ∀ (calls : List MarkCall) packetId peerId,
      (s.syncState packetId peerId = SyncState.acked ∨
        ∃ c ∈ calls, c.kind = .acked ∧ c.peerId = peerId ∧ packetId ∈ c.packetIds) →
      ∀ limit retryAfterMs pathId qosAllow now l,
        (calls.foldl call s).pendingForPeer peerId limit retryAfterMs pathId qosAllow now = .ok l →
          ∀ x ∈ l, x.packetId ≠ packetId := by
  refine ⟨?_,?_,?_⟩
  · intro calls calls' h packetId peerId
    have hsame := calls_perm h s
    exact ⟨congrFun (congrArg Prod.fst hsame) (packetId,peerId),
      fun pathId => congrFun (congrArg (fun p => p.2.1) hsame) (packetId,peerId,pathId),
      congrFun (congrArg (fun p => p.2.2) hsame) packetId⟩
  · intro calls packetId peerId
    have hdelivered : s.packetDelivered packetId ≤ (calls.foldl call s).packetDelivered packetId :=
      (calls_le calls s).2.2 packetId
    refine ⟨fun h => acked_le (h ▸ syncState_le calls s packetId peerId),
      Bool.le_iff_imp.mp hdelivered,fun pathId => ⟨fun h => ?_,fun h => ?_⟩⟩
    · exact path_acked_le (h ▸ pathState_le calls s packetId peerId pathId)
    · exact custodied_le (h ▸ pathState_le calls s packetId peerId pathId)
  · intro calls packetId peerId hacked limit retryAfterMs pathId qosAllow now l hl x hx
    refine not_offered ?_ hl hx
    rcases hacked with h | ⟨c,hc,hkind,rfl,hid⟩
    · exact acked_le (h ▸ syncState_le calls s packetId peerId)
    · exact acked_call hc hkind hid s

/-- An acknowledgement before and after a failed attempt. -/
theorem delivery_marks_join_sample :
    let acked : MarkCall := ⟨.acked,["packet"],"peer","path",1000⟩
    let failed : MarkCall := ⟨.attempt "timeout",["packet"],"peer","path",2000⟩
    ([acked,failed].foldl call .empty).syncState "packet" "peer" =
      ([failed,acked].foldl call .empty).syncState "packet" "peer" :=
  ((delivery_marks_join .empty).1 _ _ (.swap _ _ []) "packet" "peer").1

end Anet
