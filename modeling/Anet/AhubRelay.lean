import Anet.Ahub
import Anet.Sessions
import Anet.Transition
import Mathlib.Logic.Function.Basic

/-! The Relay coordinator. Its tables change only in the parts of `_wait_as_owner` and
`_join_as_peer` that hold the lock, each of which is one step here; between them the
sessions forward frames, and any coroutine can be cancelled where it awaits. -/
namespace Anet

inductive RelayStage | relaying | closing | ended
  deriving DecidableEq

/-- One direction of a session: what its pump has counted, what it has sent on, and
whether it still runs. -/
structure Pump where
  counted : ℕ
  relayed : ℕ
  running : Bool

inductive RelayDirection | ownerToPeer | peerToOwner
  deriving DecidableEq

structure RelaySession where
  reservation : RelayReservation
  stage : RelayStage
  pumps : RelayDirection → Pump

/-- The dictionaries of the coordinator. A waiting endpoint is named by the position of
its call. -/
structure RelayCoordinator where
  waiting : String → Option ℕ
  activeReservations : String → Bool
  activeByNode : String → Option ℕ

structure RelayWorld where
  coordinator : RelayCoordinator
  owners : List RelayReservation
  sessions : List RelaySession

inductive RelayAction
  | handle (reservation : RelayReservation) (nodeId : String)
  | ownerDone (call : ℕ)
  | frame (session : ℕ) (direction : RelayDirection) (length : ℕ) (delivered : Bool)
  | pumpDone (session : ℕ) (direction : RelayDirection)
  | finish (session : ℕ)
  | release (session : ℕ)
  | cancelCleanup (session : ℕ)

namespace RelaySession

def live (s : RelaySession) : Bool := s.stage ≠ .ended

def takesPart (node : String) (s : RelaySession) : Bool :=
  s.live && (s.reservation.ownerId = node || s.reservation.allowedPeerId = node)

def begun (reservation : RelayReservation) : RelaySession :=
  ⟨reservation,.relaying,fun _ => ⟨0,0,true⟩⟩

def setStage (stage : RelayStage) (s : RelaySession) : RelaySession := { s with stage := stage }

def setPump (direction : RelayDirection) (pump : Pump) (s : RelaySession) : RelaySession :=
  { s with pumps := Function.update s.pumps direction pump }

end RelaySession

namespace RelayCoordinator

def initial : RelayCoordinator := ⟨fun _ => none,fun _ => false,fun _ => none⟩

/-- `_active_by_node.get(node_id, 0)`. -/
def active (c : RelayCoordinator) (node : String) : ℕ := (c.activeByNode node).getD 0

/-- `_node_has_capacity`. -/
def hasCapacity (limits : AhubLimits) (c : RelayCoordinator) (node : String) : Bool :=
  c.active node < limits.maxRelayConnectionsPerNode

/-- `_increment_node`. -/
def increment (node : String) (c : RelayCoordinator) : RelayCoordinator :=
  { c with activeByNode := Function.update c.activeByNode node (some (c.active node + 1)) }

/-- `_decrement_node`; a counter that reaches zero is removed. -/
def decrement (node : String) (c : RelayCoordinator) : RelayCoordinator :=
  { c with
    activeByNode := Function.update c.activeByNode node
      (if 1 < c.active node then some (c.active node - 1) else none) }

/-- What `_join_as_peer` does once it has found the owner waiting. -/
def pair (r : RelayReservation) (c : RelayCoordinator) : RelayCoordinator :=
  increment r.allowedPeerId (increment r.ownerId { c with
    waiting := Function.update c.waiting r.reservationId none
    activeReservations := Function.update c.activeReservations r.reservationId true })

/-- The release in the cleanup of `_join_as_peer`. -/
def release (r : RelayReservation) (c : RelayCoordinator) : RelayCoordinator :=
  decrement r.allowedPeerId (decrement r.ownerId { c with
    activeReservations := Function.update c.activeReservations r.reservationId false })

end RelayCoordinator

namespace RelayWorld

variable (limits : AhubLimits)

def initial : RelayWorld := ⟨.initial,[],[]⟩

/-- `_wait_as_owner` up to its registration. -/
def waitAsOwner (w : RelayWorld) (r : RelayReservation) : RelayWorld :=
  if (w.coordinator.waiting r.reservationId).isSome ∨
      w.coordinator.activeReservations r.reservationId then w
  else if ¬ w.coordinator.hasCapacity limits r.ownerId then w
  else { w with
    coordinator := { w.coordinator with
      waiting := Function.update w.coordinator.waiting r.reservationId (some w.owners.length) }
    owners := w.owners ++ [r] }

/-- `_join_as_peer` up to the begin of its session. -/
def joinAsPeer (w : RelayWorld) (r : RelayReservation) : RelayWorld :=
  if (w.coordinator.waiting r.reservationId).isNone then w
  else if w.coordinator.activeReservations r.reservationId then w
  else if ¬ w.coordinator.hasCapacity limits r.allowedPeerId then w
  else { w with
    coordinator := w.coordinator.pair r
    sessions := w.sessions ++ [.begun r] }

/-- The cleanup of `_wait_as_owner`: its own entry is removed. -/
def ownerDone (w : RelayWorld) (i : ℕ) : RelayWorld :=
  match w.owners[i]? with
  | none => w
  | some r =>
    if w.coordinator.waiting r.reservationId = some i then { w with
      coordinator := { w.coordinator with
        waiting := Function.update w.coordinator.waiting r.reservationId none } }
    else w

/-- `_pump` on one binary frame: it is counted, checked, and then sent on. -/
def pumpFrame (s : RelaySession) (d : RelayDirection) (length : ℕ) (delivered : Bool) : Pump :=
  let pump := s.pumps d
  let counted := pump.counted + length
  if ¬ pump.running then pump
  else if limits.maxRelayFrameBytes < length then { pump with running := false }
  else if s.reservation.maxBytesEachDirection < counted then ⟨counted,pump.relayed,false⟩
  else if delivered then ⟨counted,pump.relayed + length,true⟩
  else ⟨counted,pump.relayed,false⟩

def exec (w : RelayWorld) : RelayAction → RelayWorld
  | .handle r node =>
    if node = r.ownerId then w.waitAsOwner limits r
    else if node = r.allowedPeerId then w.joinAsPeer limits r
    else w
  | .ownerDone i => w.ownerDone i
  | .frame k d length delivered => { w with
      sessions := w.sessions.modify k fun s => s.setPump d (pumpFrame limits s d length delivered) }
  | .pumpDone k d => { w with
      sessions := w.sessions.modify k fun s => s.setPump d { s.pumps d with running := false } }
  | .finish k =>
    match w.sessions[k]? with
    | none => w
    | some s =>
      if s.stage = .relaying then { w with sessions := w.sessions.modify k (.setStage .closing) }
      else w
  | .release k =>
    match w.sessions[k]? with
    | none => w
    | some s =>
      if s.stage = .closing then { w with
        coordinator := w.coordinator.release s.reservation
        sessions := w.sessions.modify k (.setStage .ended) }
      else w
  | .cancelCleanup k =>
    match w.sessions[k]? with
    | none => w
    | some s =>
      if s.stage = .closing then { w with sessions := w.sessions.modify k (.setStage .ended) }
      else w

def RelayStep (w w' : RelayWorld) : Prop := ∃ a, w' = w.exec limits a

/-- The sessions a node takes part in. -/
def load (w : RelayWorld) (node : String) : ℕ := w.sessions.countP (RelaySession.takesPart node)

/-- The accounts are right: one session for a reservation, counters that count the
sessions, no node over its limit, no direction over its bytes, and nothing left over. -/
structure Accounted (w : RelayWorld) : Prop where
  single : ∀ (i j : ℕ) s t, w.sessions[i]? = some s → w.sessions[j]? = some t → s.live → t.live →
    s.reservation.reservationId = t.reservation.reservationId → i = j
  counter : ∀ node, w.coordinator.active node = w.load node
  capacity : ∀ node, w.load node ≤ limits.maxRelayConnectionsPerNode
  bytes : ∀ s ∈ w.sessions, ∀ d, (s.pumps d).relayed ≤ s.reservation.maxBytesEachDirection
  zero : (∀ s ∈ w.sessions, s.stage = .ended) → ∀ node, w.coordinator.activeByNode node = none

/-- A peer that may join finds the owner below its limit as well, and no session is
cancelled while it cleans up. -/
def Meets (w : RelayWorld) : RelayAction → Prop
  | .handle r node => node = r.allowedPeerId →
      (w.coordinator.waiting r.reservationId).isSome →
      w.coordinator.activeReservations r.reservationId = false →
      w.coordinator.hasCapacity limits r.allowedPeerId → w.coordinator.hasCapacity limits r.ownerId
  | .cancelCleanup k => ∀ s, w.sessions[k]? = some s → s.stage ≠ .closing
  | _ => True

def MeetingStep (w w' : RelayWorld) : Prop := ∃ a, w.Meets limits a ∧ w' = w.exec limits a

end RelayWorld

namespace RelayCoordinator

variable {c : RelayCoordinator} {n m : String}

theorem active_increment : (c.increment n).active m = c.active m + if m = n then 1 else 0 := by
  by_cases h : m = n
  · subst h
    simp [increment,active]
  · simp [increment,active,h]

theorem active_decrement : (c.decrement n).active m = c.active m - if m = n then 1 else 0 := by
  by_cases h : m = n
  · subst h
    by_cases hlt : 1 < c.active m
    · simp [decrement,active,show 1 < (c.activeByNode m).getD 0 from hlt]
    · simp only [decrement,if_neg hlt,if_true]
      change (Function.update c.activeByNode m none m).getD 0 = _
      rw [Function.update_self,Option.getD_none]
      omega
  · simp [decrement,active,h]

/-- No counter stands at zero. -/
def NonZero (c : RelayCoordinator) : Prop := ∀ node, c.activeByNode node ≠ some 0

theorem nonZero_increment (h : c.NonZero) : (c.increment n).NonZero := by
  intro m
  by_cases hm : m = n
  · subst hm
    simp [increment]
  · simpa [increment,hm] using h m

theorem nonZero_decrement (h : c.NonZero) : (c.decrement n).NonZero := by
  intro m
  by_cases hm : m = n
  · subst hm
    simp only [decrement,Function.update_self]
    split_ifs with hlt
    · intro hzero
      have := Option.some.inj hzero
      omega
    · nofun
  · simpa [decrement,hm] using h m

theorem active_pair (r : RelayReservation) : (c.pair r).active m =
    c.active m + (if m = r.ownerId then 1 else 0) + if m = r.allowedPeerId then 1 else 0 := by
  rw [pair,active_increment,active_increment]
  rfl

theorem active_release (r : RelayReservation) : (c.release r).active m =
    c.active m - (if m = r.ownerId then 1 else 0) - if m = r.allowedPeerId then 1 else 0 := by
  rw [release,active_decrement,active_decrement]
  rfl

end RelayCoordinator

namespace RelaySession

/-- A node is counted once in a session it takes part in, as owner or as peer. -/
theorem takesPart_live {s : RelaySession} (h : s.live) (node : String) :
    (if s.takesPart node then 1 else 0) = (if node = s.reservation.ownerId then 1 else 0) +
      if node = s.reservation.allowedPeerId then 1 else 0 := by
  have hdistinct := s.reservation.distinct
  by_cases howner : node = s.reservation.ownerId
  · have hpeer : node ≠ s.reservation.allowedPeerId := fun hp => hdistinct (howner.symm.trans hp)
    simp [takesPart,h,howner,hdistinct]
  · by_cases hpeer : node = s.reservation.allowedPeerId
    · simp [takesPart,h,hpeer,hdistinct.symm]
    · simp [takesPart,howner,hpeer,Ne.symm howner,Ne.symm hpeer]

theorem takesPart_ended {s : RelaySession} (h : s.live = false) (node : String) :
    s.takesPart node = false := by
  simp [takesPart,h]

end RelaySession

namespace RelayWorld

section Runs

variable {limits : AhubLimits} {w : RelayWorld}

/-- What every step of a run keeps. -/
structure Kept (limits : AhubLimits) (w : RelayWorld) : Prop where
  single : ∀ (i j : ℕ) s t, w.sessions[i]? = some s → w.sessions[j]? = some t → s.live → t.live →
    s.reservation.reservationId = t.reservation.reservationId → i = j
  active : ∀ s ∈ w.sessions, s.live →
    w.coordinator.activeReservations s.reservation.reservationId = true
  counter : ∀ node, w.coordinator.active node = w.load node
  nonZero : w.coordinator.NonZero
  capacity : ∀ node, w.load node ≤ limits.maxRelayConnectionsPerNode
  bytes : ∀ s ∈ w.sessions, ∀ d, (s.pumps d).relayed ≤ (s.pumps d).counted ∧
    (s.pumps d).relayed ≤ s.reservation.maxBytesEachDirection

theorem Kept.initial : RelayWorld.initial.Kept limits := by
  refine ⟨?_,?_,?_,?_,?_,?_⟩ <;>
    simp [RelayWorld.initial,RelayCoordinator.initial,RelayCoordinator.active,load,
      RelayCoordinator.NonZero]

theorem Kept.accounted (hw : w.Kept limits) : w.Accounted limits := by
  refine ⟨hw.single,hw.counter,hw.capacity,fun s hs d => (hw.bytes s hs d).2,?_⟩
  intro hended node
  have hload : w.load node = 0 := by
    rw [load,List.countP_eq_zero]
    intro s hs
    have hlive : s.live = false := by simp [RelaySession.live,hended s hs]
    simp [RelaySession.takesPart_ended hlive]
  have hactive := (hw.counter node).trans hload
  cases hnode : w.coordinator.activeByNode node with
  | none => rfl
  | some n =>
    have hzero : n = 0 := by simpa [RelayCoordinator.active,hnode] using hactive
    rw [hzero] at hnode
    exact absurd hnode (hw.nonZero node)

/-- A step that only moves waiting endpoints. -/
theorem kept_waiting (hw : w.Kept limits) (waiting : String → Option ℕ)
    (owners : List RelayReservation) :
    Kept limits { w with
      coordinator := { w.coordinator with waiting := waiting }, owners := owners } :=
  ⟨hw.single,hw.active,hw.counter,hw.nonZero,hw.capacity,hw.bytes⟩

/-- A step within one session that neither ends it nor moves more bytes than allowed. -/
theorem kept_session (hw : w.Kept limits) (k : ℕ) (f : RelaySession → RelaySession)
    (hreservation : ∀ s, (f s).reservation = s.reservation)
    (hlive : ∀ s, w.sessions[k]? = some s → (f s).live = s.live)
    (hbytes : ∀ s, w.sessions[k]? = some s → ∀ d, ((f s).pumps d).relayed ≤ ((f s).pumps d).counted ∧
      ((f s).pumps d).relayed ≤ s.reservation.maxBytesEachDirection) :
    Kept limits { w with sessions := w.sessions.modify k f } := by
  have hold {i : ℕ} {s : RelaySession} (hs : (w.sessions.modify k f)[i]? = some s) :
      ∃ t, w.sessions[i]? = some t ∧ s.reservation = t.reservation ∧ s.live = t.live := by
    rcases getElem?_modified hs with ⟨ht,-⟩ | ⟨t,ht,rfl,rfl⟩
    · exact ⟨s,ht,rfl,rfl⟩
    · exact ⟨t,ht,hreservation t,hlive t ht⟩
  have hload : ∀ node, load { w with sessions := w.sessions.modify k f } node = w.load node := by
    intro node
    unfold load
    cases hk : w.sessions[k]? with
    | none => rw [List.modify_eq_self (by simpa using hk)]
    | some s =>
      have hcount := countP_modified (RelaySession.takesPart node) f hk
      have hsame : (f s).takesPart node = s.takesPart node := by
        simp [RelaySession.takesPart,hreservation,hlive s hk]
      rw [hsame] at hcount
      exact Nat.add_right_cancel hcount
  refine ⟨?_,?_,?_,hw.nonZero,?_,?_⟩
  · intro i j s t hs ht hsl htl hid
    obtain ⟨s',hs',hsr,hsl'⟩ := hold hs
    obtain ⟨t',ht',htr,htl'⟩ := hold ht
    rw [hsl'] at hsl
    rw [htl'] at htl
    rw [hsr,htr] at hid
    exact hw.single i j s' t' hs' ht' hsl htl hid
  · intro s hs hsl
    obtain ⟨i,hi⟩ := List.mem_iff_getElem?.mp hs
    obtain ⟨s',hs',hsr,hsl'⟩ := hold hi
    rw [hsl'] at hsl
    rw [hsr]
    exact hw.active s' (List.mem_of_getElem? hs') hsl
  · intro node
    rw [hload]
    exact hw.counter node
  · intro node
    rw [hload]
    exact hw.capacity node
  · intro s hs d
    rcases mem_modified hs with hin | ⟨t,ht,rfl⟩
    · exact hw.bytes s hin d
    · rw [hreservation]
      exact hbytes t ht d

theorem pumpFrame_bytes {s : RelaySession} {d : RelayDirection} {length : ℕ} {delivered : Bool}
    (h : (s.pumps d).relayed ≤ (s.pumps d).counted ∧
      (s.pumps d).relayed ≤ s.reservation.maxBytesEachDirection) :
    (pumpFrame limits s d length delivered).relayed ≤
        (pumpFrame limits s d length delivered).counted ∧
      (pumpFrame limits s d length delivered).relayed ≤ s.reservation.maxBytesEachDirection := by
  have hcounted : (s.pumps d).relayed ≤ (s.pumps d).counted + length := by omega
  unfold pumpFrame
  dsimp only
  split
  · exact h
  split
  · exact h
  split
  · exact ⟨hcounted,h.2⟩
  rename_i hlimit
  split
  · have hmore : (s.pumps d).relayed + length ≤ (s.pumps d).counted + length := by omega
    exact ⟨hmore,hmore.trans (not_lt.mp hlimit)⟩
  · exact ⟨hcounted,h.2⟩

theorem setPump_bytes {s : RelaySession} {d : RelayDirection} {pump : Pump}
    (h : ∀ d, (s.pumps d).relayed ≤ (s.pumps d).counted ∧
      (s.pumps d).relayed ≤ s.reservation.maxBytesEachDirection)
    (hpump : pump.relayed ≤ pump.counted ∧ pump.relayed ≤ s.reservation.maxBytesEachDirection)
    (d' : RelayDirection) : ((s.setPump d pump).pumps d').relayed ≤
      ((s.setPump d pump).pumps d').counted ∧
      ((s.setPump d pump).pumps d').relayed ≤ s.reservation.maxBytesEachDirection := by
  by_cases hd : d' = d
  · subst hd
    simpa [RelaySession.setPump] using hpump
  · simpa [RelaySession.setPump,hd] using h d'

theorem load_begun (r : RelayReservation) (node : String) :
    (w.sessions ++ [RelaySession.begun r]).countP (RelaySession.takesPart node) = w.load node +
      ((if node = r.ownerId then 1 else 0) + if node = r.allowedPeerId then 1 else 0) := by
  have hnew := RelaySession.takesPart_live (s := RelaySession.begun r) rfl node
  rw [List.countP_append,List.countP_singleton,hnew]
  rfl

/-- A join keeps the accounts when the owner is below its limit too. -/
theorem kept_pair (hw : w.Kept limits) (r : RelayReservation)
    (hfree : w.coordinator.activeReservations r.reservationId = false)
    (howner : w.coordinator.hasCapacity limits r.ownerId)
    (hpeer : w.coordinator.hasCapacity limits r.allowedPeerId) :
    Kept limits { w with
      coordinator := w.coordinator.pair r, sessions := w.sessions ++ [.begun r] } := by
  have hother {s : RelaySession} (hs : s ∈ w.sessions) (hsl : s.live) :
      s.reservation.reservationId ≠ r.reservationId := by
    intro hid
    have hactive := hw.active s hs hsl
    rw [hid,hfree] at hactive
    cases hactive
  simp only [RelayCoordinator.hasCapacity,decide_eq_true_eq,hw.counter] at howner hpeer
  refine ⟨?_,?_,?_,?_,?_,?_⟩
  · intro i j s t hs ht hsl htl hid
    rcases getElem?_snoc hs with hs | ⟨hi,rfl⟩ <;> rcases getElem?_snoc ht with ht | ⟨hj,rfl⟩
    · exact hw.single i j s t hs ht hsl htl hid
    · exact absurd hid (hother (List.mem_of_getElem? hs) hsl)
    · exact absurd hid.symm (hother (List.mem_of_getElem? ht) htl)
    · exact hi.trans hj.symm
  · intro s hs hsl
    change Function.update w.coordinator.activeReservations r.reservationId true _ = true
    rcases List.mem_append.mp hs with hold | hnew
    · rw [Function.update_of_ne (hother hold hsl)]
      exact hw.active s hold hsl
    · rw [List.mem_singleton.mp hnew]
      exact Function.update_self ..
  · intro node
    change (w.coordinator.pair r).active node = _
    rw [RelayCoordinator.active_pair,hw.counter]
    exact (Nat.add_assoc ..).trans (load_begun r node).symm
  · exact RelayCoordinator.nonZero_increment (RelayCoordinator.nonZero_increment hw.nonZero)
  · intro node
    have hdistinct := r.distinct
    have hcapacity := hw.capacity node
    refine (load_begun r node).trans_le ?_
    by_cases hnode : node = r.ownerId
    · subst hnode
      simp only [if_true,if_neg hdistinct]
      omega
    · by_cases hnode' : node = r.allowedPeerId
      · subst hnode'
        simp only [if_true,if_neg hnode]
        omega
      · simp only [if_neg hnode,if_neg hnode']
        omega
  · intro s hs d
    rcases List.mem_append.mp hs with hold | hnew
    · exact hw.bytes s hold d
    · rw [List.mem_singleton.mp hnew]
      exact ⟨le_refl _,Nat.zero_le _⟩

theorem load_ended {k : ℕ} {s : RelaySession} (hk : w.sessions[k]? = some s) (hs : s.live)
    (node : String) :
    (w.sessions.modify k (.setStage .ended)).countP (RelaySession.takesPart node) +
      ((if node = s.reservation.ownerId then 1 else 0) +
        if node = s.reservation.allowedPeerId then 1 else 0) = w.load node := by
  have hcount := countP_modified (RelaySession.takesPart node) (RelaySession.setStage .ended) hk
  have hgone : (s.setStage .ended).takesPart node = false :=
    RelaySession.takesPart_ended rfl node
  rw [hgone,RelaySession.takesPart_live hs] at hcount
  simpa [load] using hcount

/-- A session that ends gives back what it took. -/
theorem kept_release (hw : w.Kept limits) {k : ℕ} {s : RelaySession}
    (hk : w.sessions[k]? = some s) (hs : s.live) :
    Kept limits { w with
      coordinator := w.coordinator.release s.reservation
      sessions := w.sessions.modify k (.setStage .ended) } := by
  have hold {i : ℕ} {t : RelaySession} (ht : (w.sessions.modify k (.setStage .ended))[i]? = some t)
      (htl : t.live) : w.sessions[i]? = some t ∧ k ≠ i := by
    rcases getElem?_modified ht with hin | ⟨_,-,rfl,rfl⟩
    · exact hin
    · cases htl
  refine ⟨?_,?_,?_,?_,?_,?_⟩
  · intro i j t u ht hu htl hul hid
    exact hw.single i j t u (hold ht htl).1 (hold hu hul).1 htl hul hid
  · intro t ht htl
    obtain ⟨i,hi⟩ := List.mem_iff_getElem?.mp ht
    obtain ⟨ht',hne⟩ := hold hi htl
    have hid : t.reservation.reservationId ≠ s.reservation.reservationId := by
      intro hid
      exact hne (hw.single k i s t hk ht' hs htl hid.symm)
    change Function.update w.coordinator.activeReservations s.reservation.reservationId false _ = true
    rw [Function.update_of_ne hid]
    exact hw.active t (List.mem_of_getElem? ht') htl
  · intro node
    change (w.coordinator.release s.reservation).active node = _
    have hload := load_ended hk hs node
    rw [RelayCoordinator.active_release,hw.counter]
    change _ = (w.sessions.modify k (.setStage .ended)).countP _
    omega
  · exact RelayCoordinator.nonZero_decrement (RelayCoordinator.nonZero_decrement hw.nonZero)
  · intro node
    have hload := load_ended hk hs node
    have hcapacity := hw.capacity node
    change (w.sessions.modify k (.setStage .ended)).countP _ ≤ _
    omega
  · intro t ht d
    rcases mem_modified ht with hin | ⟨u,hu,rfl⟩
    · exact hw.bytes t hin d
    · exact hw.bytes u (List.mem_of_getElem? hu) d

theorem kept_step (hw : w.Kept limits) {a : RelayAction} (ha : w.Meets limits a) :
    (w.exec limits a).Kept limits := by
  cases a with
  | handle r node =>
    simp only [exec]
    split_ifs with howner hpeer
    · unfold waitAsOwner
      split_ifs
      · exact hw
      · exact kept_waiting hw _ _
      · exact hw
    · unfold joinAsPeer
      split_ifs with hnone hbusy hfull
      · exact hw
      · exact hw
      · have hsome : (w.coordinator.waiting r.reservationId).isSome := by
          simpa [Option.isSome_iff_ne_none] using hnone
        have hfree : w.coordinator.activeReservations r.reservationId = false := by
          simpa using hbusy
        exact kept_pair hw r hfree (ha hpeer hsome hfree hfull) hfull
      · exact hw
    · exact hw
  | ownerDone i =>
    change (w.ownerDone i).Kept limits
    unfold ownerDone
    split
    · exact hw
    · split_ifs
      · exact kept_waiting hw _ _
      · exact hw
  | frame k d length delivered =>
    refine kept_session hw k _ (fun _ => rfl) (fun _ _ => rfl) ?_
    intro s hs
    have hbytes := hw.bytes s (List.mem_of_getElem? hs)
    exact setPump_bytes hbytes (pumpFrame_bytes (hbytes d))
  | pumpDone k d =>
    refine kept_session hw k _ (fun _ => rfl) (fun _ _ => rfl) ?_
    intro s hs
    have hbytes := hw.bytes s (List.mem_of_getElem? hs)
    exact setPump_bytes hbytes (hbytes d)
  | finish k =>
    simp only [exec]
    split
    · exact hw
    · rename_i s hs
      split_ifs with hstage
      · refine kept_session hw k _ (fun _ => rfl) ?_ ?_
        · intro t ht
          have hsame : t = s := Option.some.inj (ht.symm.trans hs)
          simp [RelaySession.live,RelaySession.setStage,hsame,hstage]
        · intro t ht d
          exact hw.bytes t (List.mem_of_getElem? ht) d
      · exact hw
  | release k =>
    simp only [exec]
    split
    · exact hw
    · rename_i s hs
      split_ifs with hstage
      · exact kept_release hw hs (by simp [RelaySession.live,hstage])
      · exact hw
  | cancelCleanup k =>
    simp only [exec]
    split
    · exact hw
    · rename_i s hs
      rw [if_neg (ha s hs)]
      exact hw

theorem kept_reaches (h : Reaches (MeetingStep limits) .initial w) : w.Kept limits := by
  refine h.invariant ?_ Kept.initial
  rintro v v' hv ⟨a,ha,rfl⟩
  exact kept_step hv ha

/-- A step that does not meet the condition puts the accounts wrong at once. -/
theorem meets_of_accounted (hw : w.Kept limits) {a : RelayAction}
    (h : (w.exec limits a).Accounted limits) : w.Meets limits a := by
  cases a with
  | handle r node =>
    intro hnode hsome hfree hpeer
    have howner : node ≠ r.ownerId := by
      rw [hnode]
      exact r.distinct.symm
    have hjoin : (w.exec limits (.handle r node)) = { w with
        coordinator := w.coordinator.pair r, sessions := w.sessions ++ [.begun r] } := by
      have hwaiting : ¬ (w.coordinator.waiting r.reservationId).isNone := by
        simpa [Option.isSome_iff_ne_none] using hsome
      rw [exec,if_neg howner,if_pos hnode,joinAsPeer,if_neg hwaiting,if_neg (by simp [hfree]),
        if_neg (by simp [hpeer])]
    have hcapacity := h.capacity r.ownerId
    rw [hjoin,load,load_begun,if_pos rfl,if_neg r.distinct] at hcapacity
    simp only [RelayCoordinator.hasCapacity,hw.counter,decide_eq_true_eq]
    omega
  | cancelCleanup k =>
    intro s hs hstage
    have hdone : (w.exec limits (.cancelCleanup k)) = { w with
        sessions := w.sessions.modify k (.setStage .ended) } := by
      simp [exec,hs,hstage]
    have hcounter := h.counter s.reservation.ownerId
    have hload := load_ended hs (by simp [RelaySession.live,hstage]) s.reservation.ownerId
    rw [hdone] at hcounter
    change w.coordinator.active _ = (w.sessions.modify k (.setStage .ended)).countP _ at hcounter
    rw [hw.counter,← hload,if_pos rfl] at hcounter
    omega
  | ownerDone => trivial
  | frame => trivial
  | pumpDone => trivial
  | finish => trivial
  | release => trivial

end Runs

section Sample

/-- Limits of one connection for a node. -/
def oneConnection : AhubLimits :=
  { AhubLimits.default with
    maxRelayConnectionsPerNode := 1, positive := by decide }

def relayOwner : String := "an1" ++ String.ofList (List.replicate 32 'o')

def relayPeer (c : Char) : String := "an1" ++ String.ofList (List.replicate 32 c)

def relayReservation (digit peer : Char) (h : isHex 32 (String.ofList (List.replicate 32 digit)))
    (hp : isControlNodeId (relayPeer peer)) (hne : relayOwner ≠ relayPeer peer) : RelayReservation where
  reservationId := String.ofList (List.replicate 32 digit)
  ownerId := relayOwner
  allowedPeerId := relayPeer peer
  createdMs := 1
  expiresMs := 900001
  maxDurationMs := 300000
  maxBytesEachDirection := 100
  identifier := h
  owner := by decide
  peer := hp
  distinct := hne
  lifetime := by decide
  duration := by decide
  bytes := by decide

def firstReservation : RelayReservation :=
  relayReservation 'a' 'p' (by decide) (by decide) (by decide)

def secondReservation : RelayReservation :=
  relayReservation 'b' 'q' (by decide) (by decide) (by decide)

def execAll (actions : List RelayAction) : RelayWorld :=
  actions.foldl (exec oneConnection) .initial

theorem execAll_runs (actions : List RelayAction) :
    Reaches (RelayStep oneConnection) .initial (execAll actions) :=
  Reaches.of_steps (fun _ a => ⟨a,rfl⟩) actions _

/-- One session from its owner's call to its release. -/
def relayedSession : List RelayAction :=
  [.handle firstReservation relayOwner,.handle firstReservation (relayPeer 'p'),
    .frame 0 .ownerToPeer 60 true,.frame 0 .ownerToPeer 60 true,.finish 0,.release 0]

/-- The owner waits under two reservations before either peer joins. -/
def overbooked : List RelayAction :=
  [.handle firstReservation relayOwner,.handle secondReservation relayOwner,
    .handle firstReservation (relayPeer 'p'),.handle secondReservation (relayPeer 'q')]

/-- The session is cancelled while it closes its connections. -/
def cancelledCleanup : List RelayAction :=
  [.handle firstReservation relayOwner,.handle firstReservation (relayPeer 'p'),.finish 0,
    .cancelCleanup 0]

end Sample

/-- In a run whose joins find the owner below its limit and whose cleanups are not cancelled
the accounts are right in every state, and the next step keeps them right exactly if it
meets the condition too. -/
theorem relay_accounted (limits : AhubLimits) (w : RelayWorld)
    (h : Reaches (MeetingStep limits) .initial w) :
    w.Accounted limits ∧ ∀ a, (w.exec limits a).Accounted limits ↔ w.Meets limits a := by
  have hkept := kept_reaches h
  exact ⟨hkept.accounted,fun a =>
    ⟨meets_of_accounted hkept,fun ha => (kept_step hkept ha).accounted⟩⟩

theorem relay_accounted_sample : (execAll relayedSession).Accounted oneConnection ∧
    (execAll relayedSession).sessions.map (fun s => (s.pumps .ownerToPeer).relayed) = [60] := by
  have hreach : Reaches (MeetingStep oneConnection) .initial (execAll relayedSession) := by
    refine Reaches.of_calls (fun w a ha => ⟨a,ha,rfl⟩) relayedSession _ ?_
    exact ⟨fun _ _ _ _ => by decide,fun _ _ _ _ => by decide,trivial,trivial,
      trivial,trivial,trivial⟩
  exact ⟨(relay_accounted oneConnection _ hreach).1,by decide⟩

/-- An owner below its limit twice is in two sessions at a limit of one, and a session
cancelled in its cleanup is counted for ever. -/
theorem relay_overbooked :
    (∃ w, Reaches (RelayStep oneConnection) .initial w ∧ w.load relayOwner = 2) ∧
    ∃ w, Reaches (RelayStep oneConnection) .initial w ∧
      w.sessions.map RelaySession.stage = [.ended] ∧ w.load relayOwner = 0 ∧
      w.coordinator.active relayOwner = 1 :=
  ⟨⟨_,execAll_runs overbooked,by decide⟩,
    _,execAll_runs cancelledCleanup,by decide,by decide,by decide⟩

end RelayWorld
end Anet
