import Anet.Python
import Anet.Table
import Anet.Transition
import Mathlib.Data.List.Sort

/-! The route outbox of an Amesh home: a signal is stored once for each destination and delivered
with growing delays until it succeeds, fails too often or expires. -/
namespace Anet.Amesh

inductive RouteState
  | pending | retrying | delivered | failed | expired
  deriving DecidableEq

/-- A row of `amesh_routes`, its signal decoded. -/
structure Route where
  routeId : String
  destination : String
  adapter : String
  kind : String
  signal : List (Value × Value)
  state : RouteState
  attempts : ℕ
  nextRetryMs : ℤ
  expiresMs : ℤ
  dedupKey : String
  createdMs : ℤ
  updatedMs : ℤ
  lastError : String

abbrev Routes := Table Route.routeId fun r => [r.dedupKey]

/-- `str`, the JSON packing of a signal and `sha256` of a text. -/
structure RouteLibrary where
  str : Value → String
  pack : List (Value × Value) → Result Bytes
  hash : String → String

structure RouteStore where
  defaultAllow : Bool
  routes : Routes
  policy : String → String → Option Bool

structure EnqueueReply where
  routeId : String
  duplicate : Bool
  state : RouteState

def maxAttempts : ℕ := 8

def maxSignalJsonBytes : ℕ := 64 * 1024

/-- `_retry_delay` in milliseconds. -/
def retryDelayMs (attempts : ℕ) : ℕ := min (2 ^ min (max 1 attempts - 1) 12) 3600 * 1000

def positiveOrZero : Value → ℤ
  | .int i => max 0 i
  | _ => 0

def normalRouteId (value : String) : Result String := do
  let text := lower (strip value)
  raiseIf (isHex 32 text = false) (.value "invalid route ID")
  return text

def normalSignalId (lib : RouteLibrary) (signal : List (Value × Value)) : String :=
  lower (strip (lib.str (Value.fieldOr signal "signal_id" (.str ""))))

def dedupKeyOf (lib : RouteLibrary) (destination signalId : String) : String :=
  lib.hash (destination ++ "\x00" ++ signalId)

/-- The state and the delay after a failed attempt. -/
def Route.afterFailure (attempts : ℕ) (error : String) (now : ℤ) (r : Route) : Route :=
  if maxAttempts ≤ attempts then
    { r with
      state := .failed, attempts := attempts, nextRetryMs := 0, updatedMs := now
      lastError := cut 256 error }
  else
    { r with
      state := .retrying, attempts := attempts, nextRetryMs := now + retryDelayMs attempts
      updatedMs := now, lastError := cut 256 error }

def Route.afterSuccess (now : ℤ) (r : Route) : Route :=
  { r with state := .delivered, attempts := r.attempts + 1, updatedMs := now, lastError := "" }

/-- The two `UPDATE`s of `attempt`. -/
def Route.afterAttempt (ok : Bool) (attempts : ℕ) (error : String) (now : ℤ) (r : Route) : Route :=
  if ok then r.afterSuccess now else r.afterFailure attempts error now

def Route.afterRetry (now : ℤ) (r : Route) : Route :=
  { r with
    state := .retrying, attempts := 0, nextRetryMs := now, updatedMs := now, lastError := "" }

def Route.afterExpiry (now : ℤ) (r : Route) : Route := { r with state := .expired, updatedMs := now }

@[simp] theorem Route.afterFailure_routeId (attempts : ℕ) (error : String) (now : ℤ) (r : Route) :
    (r.afterFailure attempts error now).routeId = r.routeId := by
  unfold Route.afterFailure
  split <;> rfl

@[simp] theorem Route.afterFailure_dedupKey (attempts : ℕ) (error : String) (now : ℤ) (r : Route) :
    (r.afterFailure attempts error now).dedupKey = r.dedupKey := by
  unfold Route.afterFailure
  split <;> rfl

@[simp] theorem Route.afterAttempt_routeId (ok : Bool) (attempts : ℕ) (error : String) (now : ℤ)
    (r : Route) : (r.afterAttempt ok attempts error now).routeId = r.routeId := by
  cases ok with
  | true => rfl
  | false => exact Route.afterFailure_routeId attempts error now r

@[simp] theorem Route.afterAttempt_dedupKey (ok : Bool) (attempts : ℕ) (error : String) (now : ℤ)
    (r : Route) : (r.afterAttempt ok attempts error now).dedupKey = r.dedupKey := by
  cases ok with
  | true => rfl
  | false => exact Route.afterFailure_dedupKey attempts error now r

namespace RouteStore

/-- `UPDATE amesh_routes SET f WHERE route_id = ?`. -/
def assign (s : RouteStore) (routeId : String) (f : Route → Route)
    (hid : ∀ r, (f r).routeId = r.routeId) (hkey : ∀ r, (f r).dedupKey = r.dedupKey) : RouteStore :=
  { s with
    routes := s.routes.update (fun r => r.routeId = routeId) f hid fun r => by simp [hkey r] }

/-- `_route`. -/
def route (s : RouteStore) (routeId : String) : Result (Option Route) := do
  let normalized ← normalRouteId routeId
  return s.routes.get normalized

/-- `_require`. -/
def require (s : RouteStore) (routeId : String) : Result Route := do
  let found ← s.route routeId
  fetched found (.runtime "route disappeared")

def destinationAllowed (s : RouteStore) (destination adapter : String) : Bool :=
  (s.policy (strip destination) (lower (strip adapter))).getD s.defaultAllow

def setPolicy (s : RouteStore) (destination adapter : String) (allowed : Bool) :
    Result RouteStore := do
  let destination := strip destination
  raiseIf (destination = "" ∨ 128 < destination.length) (.value "route destination is invalid")
  let adapter := lower (strip adapter)
  raiseIf (adapter = "" ∨ 64 < adapter.length) (.value "route adapter is invalid")
  return { s with policy := fun d a =>
    if d = destination ∧ a = adapter then some allowed else s.policy d a }

/-- The row for a signal that is new to its destination. -/
def newRoute (lib : RouteLibrary) (routeId destination adapter kind : String)
    (signal : List (Value × Value)) (now : ℤ) : Route :=
  ⟨routeId,destination,adapter,kind,signal,.pending,0,0,
    positiveOrZero (Value.fieldOr signal "expires_ms" (.int 0)),
    dedupKeyOf lib destination (normalSignalId lib signal),now,now,""⟩

/-- The `INSERT`, or the row that stands in its way. -/
def insertRoute (s : RouteStore) (r : Route) : Result (EnqueueReply × RouteStore) :=
  match s.routes.insert r with
  | some routes => .ok (⟨r.routeId,false,.pending⟩,{ s with routes := routes })
  | none =>
    match s.routes.first fun r' => r'.dedupKey = r.dedupKey with
    | some existing => .ok (⟨existing.routeId,true,existing.state⟩,s)
    | none => .error (.runtime "route dedup key disappeared")

/-- `RouteStore.enqueue`; `routeId` is the token made for the row. -/
def enqueue (lib : RouteLibrary) (s : RouteStore) (routeId destination adapter kind : String)
    (signal : Value) (now : ℤ) : Result (EnqueueReply × RouteStore) := do
  let destination := strip destination
  raiseIf (destination = "" ∨ 128 < destination.length) (.value "route destination is invalid")
  let adapter := lower (strip adapter)
  raiseIf (adapter = "" ∨ 64 < adapter.length) (.value "route adapter is invalid")
  let kind := strip kind
  raiseIf (kind = "" ∨ 64 < kind.length) (.value "route kind is invalid")
  let entries ← fetched signal.asMap (.value "route signal must be an object")
  raiseIf (isHex 32 (normalSignalId lib entries) = false)
    (.value "route signal requires a valid signal_id")
  let encoded ← lib.pack entries
  raiseIf (maxSignalJsonBytes < encoded.length) (.value "route signal is too large")
  raiseIf (s.destinationAllowed destination adapter = false) (.value
    s!"route policy denies destination {destination} for adapter {adapter}")
  s.insertRoute (newRoute lib routeId destination adapter kind entries now)

/-- Whether `due` selects the row. -/
def isDue (now : ℤ) (r : Route) : Prop :=
  (r.state = .pending ∨ r.state = .retrying) ∧ r.nextRetryMs ≤ now

instance (now : ℤ) (r : Route) : Decidable (isDue now r) :=
  inferInstanceAs (Decidable (_ ∧ _))

/-- `ORDER BY next_retry_ms, created_ms`. -/
def sooner (r r' : Route) : Prop :=
  r.nextRetryMs < r'.nextRetryMs ∨ (r.nextRetryMs = r'.nextRetryMs ∧ r.createdMs ≤ r'.createdMs)

instance : DecidableRel sooner := fun _ _ => inferInstanceAs (Decidable (_ ∨ _))

def due (s : RouteStore) (now : ℤ) (limit : ℕ) : Result (List Route) := do
  raiseIf (¬ (1 ≤ limit ∧ limit ≤ 10000)) (.value "route limit must be 1 to 10000")
  return ((s.routes.select (isDue now)).insertionSort sooner).take limit

/-- `RouteStore.attempt`. -/
def attempt (s : RouteStore) (routeId : String) (ok : Bool) (error : String) (now : ℤ) :
    Result (Route × RouteStore) := do
  let found ← s.route routeId
  let r ← fetched found (.value s!"unknown route: {routeId}")
  let s' := s.assign routeId (Route.afterAttempt ok (r.attempts + 1) error now) (by simp) (by simp)
  let r' ← s'.require routeId
  return (r',s')

/-- `RouteStore.retry`. -/
def retry (s : RouteStore) (routeId : String) (now : ℤ) : Result (Route × RouteStore) := do
  let r ← s.require routeId
  raiseIf (r.state ≠ .failed ∧ r.state ≠ .expired) (.value s!"route {routeId} is not retryable")
  let s' := s.assign routeId (Route.afterRetry now) (fun _ => rfl) fun _ => rfl
  let r' ← s'.require routeId
  return (r',s')

end RouteStore

/-- What has happened to the routes: a call of the deliver callback, a failure with the delay set
for it, and a reset by `retry`. -/
inductive RouteEvent
  | called (r : Route) (now : ℤ) | failed (routeId : String) (now delayMs : ℤ)
  | retried (routeId : String)

/-- A store and what has happened to its routes, the newest first. -/
structure Outbox where
  store : RouteStore
  log : List RouteEvent

namespace Outbox

/-- The delay that a failed attempt sets for the row it updates. -/
def noteFailure (routeId : String) (ok : Bool) (now : ℤ) (r : Route) (log : List RouteEvent) :
    List RouteEvent :=
  if ok = false ∧ r.routeId = routeId ∧ r.state = .retrying then
    .failed routeId now (r.nextRetryMs - now) :: log
  else log

def attempt (w : Outbox) (routeId : String) (ok : Bool) (error : String) (now : ℤ) :
    Result Outbox := do
  let settled ← w.store.attempt routeId ok error now
  return ⟨settled.2,noteFailure routeId ok now settled.1 w.log⟩

/-- One route of a pass; `outcome` is the error that the callback raises, and the attempt is
recorded at `finished`. -/
def deliverRoute (w : Outbox) (r : Route) (outcome : Option String) (now finished : ℤ) :
    Outbox × Result Unit :=
  if r.expiresMs ≠ 0 ∧ r.expiresMs < now then
    ({ w with store := w.store.assign r.routeId (Route.afterExpiry now) (fun _ => rfl) fun _ => rfl },
      .ok ())
  else
    let called : Outbox := { w with log := .called r now :: w.log }
    match called.attempt r.routeId outcome.isNone (outcome.getD "") finished with
    | .ok w' => (w',.ok ())
    | .error e => (called,.error e)

/-- The loop of `deliver_due` over the routes it has selected. -/
def deliverRoutes (outcome : Route → Option String) (finished : Route → ℤ) (now : ℤ) :
    List Route → Outbox → Outbox × Result Unit
  | [],w => (w,.ok ())
  | r :: rs,w =>
    match w.deliverRoute r (outcome r) now (finished r) with
    | (w',.ok _) => deliverRoutes outcome finished now rs w'
    | (w',.error e) => (w',.error e)

/-- `RouteStore.deliver_due`. -/
def deliverDue (w : Outbox) (outcome : Route → Option String) (finished : Route → ℤ) (now : ℤ)
    (limit : ℕ) : Outbox × Result Unit :=
  match w.store.due now limit with
  | .ok routes => deliverRoutes outcome finished now routes w
  | .error e => (w,.error e)

def retry (w : Outbox) (routeId : String) (now : ℤ) : Result Outbox := do
  let reset ← w.store.retry routeId now
  return ⟨reset.2,.retried reset.1.routeId :: w.log⟩

end Outbox

namespace Route

def IsOpen (r : Route) : Prop := r.state = .pending ∨ r.state = .retrying

def IsClosed (r : Route) : Prop := r.state = .failed ∨ r.state = .expired

/-- What no update of a row changes. -/
structure SameSignal (r r' : Route) : Prop where
  routeId : r'.routeId = r.routeId
  destination : r'.destination = r.destination
  signal : r'.signal = r.signal
  expiresMs : r'.expiresMs = r.expiresMs
  dedupKey : r'.dedupKey = r.dedupKey

theorem afterFailure_signal (attempts : ℕ) (error : String) (now : ℤ) (r : Route) :
    SameSignal r (r.afterFailure attempts error now) := by
  unfold afterFailure
  split <;> exact ⟨rfl,rfl,rfl,rfl,rfl⟩

end Route

theorem retryDelayMs_mono {a b : ℕ} (h : a ≤ b) : retryDelayMs a ≤ retryDelayMs b := by
  have hexp : min (max 1 a - 1) 12 ≤ min (max 1 b - 1) 12 := by omega
  have hpow := Nat.pow_le_pow_right (show 0 < 2 by decide) hexp
  unfold retryDelayMs
  omega

theorem retryDelayMs_range (a : ℕ) : 1000 ≤ retryDelayMs a ∧ retryDelayMs a ≤ 3600000 := by
  have hpow := Nat.one_le_two_pow (n := min (max 1 a - 1) 12)
  unfold retryDelayMs
  omega

theorem normalRouteId_ok {value text : String} (h : normalRouteId value = .ok text) :
    text = lower (strip value) ∧ isHex 32 text := by
  simp only [normalRouteId,bind_ok,raiseIf_ok] at h
  obtain ⟨_,hhex,h⟩ := h
  obtain rfl := Except.ok.inj h
  exact ⟨rfl,Bool.not_eq_false _ ▸ hhex⟩

/-- The time and the delay of the last failure of a route, if it has not been reset since. -/
def lastFailure (routeId : String) : List RouteEvent → Option (ℤ × ℤ)
  | [] => none
  | .called .. :: log => lastFailure routeId log
  | .failed id now delayMs :: log =>
    if id = routeId then some (now,delayMs) else lastFailure routeId log
  | .retried id :: log => if id = routeId then none else lastFailure routeId log

/-- Delays of a route grow up to an hour until it is reset, and no call comes before they end. -/
def WellSpaced : List RouteEvent → Prop
  | [] => True
  | .called r now :: log => WellSpaced log ∧ ∀ t d, lastFailure r.routeId log = some (t,d) → t + d ≤ now
  | .failed id _ delayMs :: log => WellSpaced log ∧ 0 < delayMs ∧ delayMs ≤ 3600000 ∧
      ∀ t d, lastFailure id log = some (t,d) → d ≤ delayMs
  | .retried _ :: log => WellSpaced log

/-- An open route has attempts left, and is not due before its last failure's delay ends. -/
structure RowOk (log : List RouteEvent) (r : Route) : Prop where
  bounded : r.attempts ≤ maxAttempts
  left : r.IsOpen → r.attempts < maxAttempts
  waits : r.IsOpen → ∀ t d, lastFailure r.routeId log = some (t,d) →
    d = retryDelayMs r.attempts ∧ r.nextRetryMs = t + d

/-- A row and the calls of it agree with its signal. -/
structure Faithful (lib : RouteLibrary) (r : Route) : Prop where
  dedup : r.dedupKey = dedupKeyOf lib r.destination (normalSignalId lib r.signal)
  expires : r.expiresMs = positiveOrZero (Value.fieldOr r.signal "expires_ms" (.int 0))

theorem Faithful.same {lib : RouteLibrary} {r r' : Route} (h : Faithful lib r)
    (hsame : r.SameSignal r') : Faithful lib r' :=
  ⟨by rw [hsame.dedupKey,hsame.destination,hsame.signal,h.dedup],
    by rw [hsame.expiresMs,hsame.signal,h.expires]⟩

namespace Outbox

variable {lib : RouteLibrary} {w w' : Outbox}

abbrev get (w : Outbox) (routeId : String) : Option Route := w.store.routes.get routeId

/-- What every state of an outbox keeps. -/
structure Kept (lib : RouteLibrary) (w : Outbox) : Prop where
  hex : ∀ id r, w.get id = some r → isHex 32 id
  rows : ∀ id r, w.get id = some r → RowOk w.log r
  faithful : ∀ id r, w.get id = some r → Faithful lib r
  fresh : ∀ id, w.get id = none → lastFailure id w.log = none
  calls : ∀ r now, .called r now ∈ w.log →
    Faithful lib r ∧ (r.expiresMs = 0 ∨ now ≤ r.expiresMs)
  spaced : WellSpaced w.log

/-- What becomes of a row while `new` happens. -/
structure Follows (new : List RouteEvent) (r r' : Route) : Prop where
  delivered : r.state = .delivered → r'.state = .delivered ∧ r'.attempts = r.attempts ∧
    ∀ c now, RouteEvent.called c now ∈ new → c.routeId ≠ r.routeId
  closed : r.IsClosed → r'.state = r.state ∨ .retried r.routeId ∈ new

/-- A later state of an outbox. -/
def Later (w w' : Outbox) : Prop :=
  ∃ new, w'.log = new ++ w.log ∧
    ∀ id r, w.get id = some r → ∃ r', w'.get id = some r' ∧ Follows new r r'

theorem Follows.refl (r : Route) : Follows [] r r :=
  ⟨fun h => ⟨h,rfl,by simp⟩,fun _ => .inl rfl⟩

theorem Later.refl (w : Outbox) : Later w w := ⟨[],rfl,fun _ r hr => ⟨r,hr,.refl r⟩⟩

theorem Later.trans {w'' : Outbox} (h : Later w w') (h' : Later w' w'') : Later w w'' := by
  obtain ⟨new,hlog,hrows⟩ := h
  obtain ⟨new',hlog',hrows'⟩ := h'
  refine ⟨new' ++ new,by rw [hlog',hlog,List.append_assoc],fun id r hr => ?_⟩
  obtain ⟨r',hr',hfollows⟩ := hrows id r hr
  obtain ⟨r'',hr'',hfollows'⟩ := hrows' id r' hr'
  have hid : r'.routeId = r.routeId := (Table.get_key hr').trans (Table.get_key hr).symm
  refine ⟨r'',hr'',fun hd => ?_,fun hc => ?_⟩
  · obtain ⟨hd',hattempts,hcalls⟩ := hfollows.delivered hd
    obtain ⟨hd'',hattempts',hcalls'⟩ := hfollows'.delivered hd'
    refine ⟨hd'',hattempts'.trans hattempts,fun c now hcall => ?_⟩
    rcases List.mem_append.mp hcall with hcall | hcall
    · rw [← hid]
      exact hcalls' c now hcall
    · exact hcalls c now hcall
  · rcases hfollows.closed hc with hsame | hretried
    · have hc' : r'.IsClosed := by
        unfold Route.IsClosed
        rwa [hsame]
      rw [← hsame,← hid,List.mem_append]
      exact (hfollows'.closed hc').imp (fun hsame' => hsame') .inl
    · exact .inr (List.mem_append_right _ hretried)

theorem get_assign (s : RouteStore) (id : String) (f : Route → Route)
    (hid : ∀ r, (f r).routeId = r.routeId) (hkey : ∀ r, (f r).dedupKey = r.dedupKey) (k : String) :
    (s.assign id f hid hkey).routes.get k = if k = id then (s.routes.get id).map f else s.routes.get k :=
  Table.get_update_key s.routes id f hid (fun r => by simp [hkey r]) k

/-- One row changes, and at most the waiting time of that row with it. -/
theorem Kept.change (h : Kept lib w) {id : String} {r r' : Route} {new : List RouteEvent}
    (hr : w.get id = some r) (hget : ∀ k, w'.get k = if k = id then some r' else w.get k)
    (hlog : w'.log = new ++ w.log) (hsame : r.SameSignal r') (hrow : RowOk w'.log r')
    (hothers : ∀ k, k ≠ id → lastFailure k w'.log = lastFailure k w.log)
    (hcalls : ∀ c now, RouteEvent.called c now ∉ new) (hspaced : WellSpaced w'.log) :
    Kept lib w' := by
  have hcases : ∀ k x, w'.get k = some x → (k = id ∧ x = r') ∨ (k ≠ id ∧ w.get k = some x) := by
    intro k x hx
    rw [hget] at hx
    by_cases hk : k = id
    · rw [if_pos hk] at hx
      exact .inl ⟨hk,(Option.some.inj hx).symm⟩
    · rw [if_neg hk] at hx
      exact .inr ⟨hk,hx⟩
  refine ⟨fun k x hx => ?_,fun k x hx => ?_,fun k x hx => ?_,fun k hk => ?_,fun c now hc => ?_,hspaced⟩
  · rcases hcases k x hx with ⟨rfl,-⟩ | ⟨-,hx⟩
    · exact h.hex k r hr
    · exact h.hex k x hx
  · rcases hcases k x hx with ⟨-,rfl⟩ | ⟨hk,hx⟩
    · exact hrow
    · have hold := h.rows k x hx
      refine ⟨hold.bounded,hold.left,fun ho => ?_⟩
      rw [Table.get_key hx,hothers k hk,← Table.get_key hx]
      exact hold.waits ho
  · rcases hcases k x hx with ⟨-,rfl⟩ | ⟨-,hx⟩
    · exact (h.faithful id r hr).same hsame
    · exact h.faithful k x hx
  · rw [hget] at hk
    by_cases hkid : k = id
    · simp [hkid] at hk
    · rw [if_neg hkid] at hk
      rw [hothers k hkid]
      exact h.fresh k hk
  · rw [hlog] at hc
    rcases List.mem_append.mp hc with hc | hc
    · exact absurd hc (hcalls c now)
    · exact h.calls c now hc

theorem Later.change {id : String} {r r' : Route} {new : List RouteEvent} (hr : w.get id = some r)
    (hget : ∀ k, w'.get k = if k = id then some r' else w.get k) (hlog : w'.log = new ++ w.log)
    (hcalls : ∀ c now, RouteEvent.called c now ∉ new) (hfollows : Follows new r r') : Later w w' := by
  refine ⟨new,hlog,fun k x hx => ?_⟩
  rw [hget]
  by_cases hk : k = id
  · rw [hk,hr] at hx
    cases hx
    exact ⟨r',by simp [hk],hfollows⟩
  · exact ⟨x,by simp [hk,hx],fun hd => ⟨hd,rfl,fun c now hc => absurd hc (hcalls c now)⟩,
      fun _ => .inl rfl⟩

theorem route_ok {s : RouteStore} {routeId : String} {found : Option Route}
    (h : s.route routeId = .ok found) :
    isHex 32 (lower (strip routeId)) ∧ found = s.routes.get (lower (strip routeId)) := by
  simp only [RouteStore.route,bind_ok] at h
  obtain ⟨n,hn,h⟩ := h
  cases h
  obtain ⟨rfl,hhex⟩ := normalRouteId_ok hn
  exact ⟨hhex,rfl⟩

theorem require_ok {s : RouteStore} {routeId : String} {r : Route}
    (h : s.require routeId = .ok r) : s.routes.get (lower (strip routeId)) = some r := by
  simp only [RouteStore.require,bind_ok,fetched_ok] at h
  obtain ⟨found,hfound,rfl⟩ := h
  exact (route_ok hfound).2.symm

/-- A row that is named in normal form is the row that the name stands for. -/
theorem Kept.normal (h : Kept lib w) {id : String} {r : Route} (hr : w.get id = some r) :
    lower (strip id) = id := normal_hex (h.hex id r hr)

theorem assign_absent {s : RouteStore} {id : String} (hnone : s.routes.get id = none)
    (f : Route → Route) (hid : ∀ r, (f r).routeId = r.routeId)
    (hkey : ∀ r, (f r).dedupKey = r.dedupKey) (k : String) :
    (s.assign id f hid hkey).routes.get k = s.routes.get k := by
  rw [get_assign]
  by_cases hk : k = id
  · rw [if_pos hk,hk,hnone]
    rfl
  · rw [if_neg hk]

theorem assign_present {s : RouteStore} {id : String} {r : Route} (hr : s.routes.get id = some r)
    (f : Route → Route) (hid : ∀ r, (f r).routeId = r.routeId)
    (hkey : ∀ r, (f r).dedupKey = r.dedupKey) (k : String) :
    (s.assign id f hid hkey).routes.get k = if k = id then some (f r) else s.routes.get k := by
  rw [get_assign,hr]
  rfl

/-- An attempt updates the row whose id is given in normal form, and no other. -/
theorem attempt_cases (h : Kept lib w) {routeId : String} {ok : Bool} {error : String} {now : ℤ}
    (hok : w.attempt routeId ok error now = .ok w') :
    (w.get routeId = none ∧ w'.log = w.log ∧ ∀ k, w'.get k = w.get k) ∨
      ∃ r, w.get routeId = some r ∧
        (∀ k, w'.get k = if k = routeId then some (r.afterAttempt ok (r.attempts + 1) error now)
          else w.get k) ∧
        w'.log = noteFailure routeId ok now (r.afterAttempt ok (r.attempts + 1) error now) w.log := by
  simp only [attempt,RouteStore.attempt,bind_ok,fetched_ok] at hok
  obtain ⟨settled,⟨found,hfound,r,rfl,r',hr',hsettled⟩,hw'⟩ := hok
  obtain rfl := Except.ok.inj hsettled
  obtain rfl := Except.ok.inj hw'
  have hr := (route_ok hfound).2.symm
  have hrequired := require_ok hr'
  cases hget : w.get routeId with
  | none =>
    have hne : lower (strip routeId) ≠ routeId := by
      intro heq
      rw [heq] at hr
      exact absurd (hr.symm.trans hget) (by simp)
    have hid : r'.routeId = lower (strip routeId) := Table.get_key hrequired
    refine .inl ⟨rfl,?_,assign_absent hget (Route.afterAttempt ok (r.attempts + 1) error now)
      (by simp) (by simp)⟩
    simp [noteFailure,hid,hne]
  | some x =>
    have hnormal := h.normal hget
    rw [hnormal] at hr hrequired
    obtain rfl := Option.some.inj (hget.symm.trans hr)
    have hchange := assign_present hget (Route.afterAttempt ok (x.attempts + 1) error now) (by simp)
      (by simp)
    have hself := hchange routeId
    rw [if_pos rfl] at hself
    have hrow := Option.some.inj (hrequired.symm.trans hself)
    exact .inr ⟨x,rfl,hchange,by rw [hrow]⟩

theorem open_not_settled {r : Route} (h : r.IsOpen) : r.state ≠ .delivered ∧ ¬ r.IsClosed := by
  unfold Route.IsOpen at h
  unfold Route.IsClosed
  rcases h with h | h <;> simp [h]

theorem Follows.of_open {new : List RouteEvent} {r r' : Route} (h : r.IsOpen) :
    Follows new r r' :=
  ⟨fun hd => absurd hd (open_not_settled h).1,fun hc => absurd hc (open_not_settled h).2⟩

/-- An attempt on an open route settles it or sets its next delay. -/
theorem Kept.attempt (h : Kept lib w) {routeId : String} {ok : Bool} {error : String} {now : ℤ}
    (hopen : ∀ r, w.get routeId = some r → r.IsOpen)
    (hok : w.attempt routeId ok error now = .ok w') :
    Kept lib w' ∧ Later w w' ∧ ∀ k, k ≠ routeId → w'.get k = w.get k := by
  rcases attempt_cases h hok with ⟨-,hlog,hsame⟩ | ⟨r,hr,hget,hlog⟩
  · refine ⟨⟨fun k x hx => h.hex k x (hsame k ▸ hx),fun k x hx => ?_,
      fun k x hx => h.faithful k x (hsame k ▸ hx),fun k hk => ?_,?_,?_⟩,
      ⟨[],hlog,fun k x hx => ⟨x,(hsame k).trans hx,.refl x⟩⟩,fun k _ => hsame k⟩
    · rw [hlog]
      exact h.rows k x (hsame k ▸ hx)
    · rw [hlog]
      exact h.fresh k (hsame k ▸ hk)
    · rw [hlog]
      exact h.calls
    · rw [hlog]
      exact h.spaced
  · have hid : r.routeId = routeId := Table.get_key hr
    have hrow := h.rows routeId r hr
    have hro := hopen r hr
    have hleft := hrow.left hro
    have hothers : ∀ k, k ≠ routeId → w'.get k = w.get k := fun k hk => by rw [hget,if_neg hk]
    cases ok with
    | true =>
      have hlog' : w'.log = [] ++ w.log := hlog
      refine ⟨h.change hr hget hlog' ⟨rfl,rfl,rfl,rfl,rfl⟩ ?_ (fun k _ => by rw [hlog']; rfl)
        (by simp) (by rw [hlog']; exact h.spaced),
        .change hr hget hlog' (by simp) (.of_open hro),hothers⟩
      refine ⟨hleft,fun ho => ?_,fun ho => ?_⟩
      · rcases ho with ho | ho <;> cases ho
      · rcases ho with ho | ho <;> cases ho
    | false =>
      have hdelays : ∀ t d, lastFailure routeId w.log = some (t,d) →
          d ≤ retryDelayMs (r.attempts + 1) := by
        intro t d hlast
        rw [← hid] at hlast
        rw [(hrow.waits hro t d hlast).1]
        exact_mod_cast retryDelayMs_mono (Nat.le_succ _)
      obtain ⟨hlow,hhigh⟩ := retryDelayMs_range (r.attempts + 1)
      have hsignal := Route.afterFailure_signal (r.attempts + 1) error now r
      by_cases hmax : maxAttempts ≤ r.attempts + 1
      · have hrow' : r.afterFailure (r.attempts + 1) error now = { r with
            state := .failed, attempts := r.attempts + 1, nextRetryMs := 0, updatedMs := now
            lastError := cut 256 error } := if_pos hmax
        have hlog' : w'.log = [] ++ w.log := by
          rw [hlog]
          simp [noteFailure,Route.afterAttempt,hrow']
        refine ⟨h.change hr hget hlog' hsignal ?_ (fun k _ => by rw [hlog']; rfl)
          (by simp) (by rw [hlog']; exact h.spaced),
          .change hr hget hlog' (by simp) (.of_open hro),hothers⟩
        change RowOk _ (r.afterFailure (r.attempts + 1) error now)
        rw [hrow']
        refine ⟨hleft,fun ho => ?_,fun ho => ?_⟩
        · rcases ho with ho | ho <;> cases ho
        · rcases ho with ho | ho <;> cases ho
      · have hrow' : r.afterFailure (r.attempts + 1) error now = { r with
            state := .retrying, attempts := r.attempts + 1
            nextRetryMs := now + retryDelayMs (r.attempts + 1), updatedMs := now
            lastError := cut 256 error } := if_neg hmax
        have hdelta : now + (retryDelayMs (r.attempts + 1) : ℤ) - now = retryDelayMs (r.attempts + 1) := by
          omega
        have hlog' : w'.log = [.failed routeId now (retryDelayMs (r.attempts + 1))] ++ w.log := by
          rw [hlog]
          simp [noteFailure,Route.afterAttempt,hrow',hid,hdelta]
        refine ⟨h.change hr hget hlog' hsignal ?_ (fun k hk => ?_) (by simp) ?_,
          .change hr hget hlog' (by simp) (.of_open hro),hothers⟩
        · change RowOk _ (r.afterFailure (r.attempts + 1) error now)
          rw [hrow',hlog']
          refine ⟨hleft,fun _ => by simpa using hmax,fun _ t d hlast => ?_⟩
          simp only [hid,List.singleton_append,lastFailure,if_true,Option.some.injEq,
            Prod.mk.injEq] at hlast
          obtain ⟨rfl,rfl⟩ := hlast
          exact ⟨rfl,rfl⟩
        · rw [hlog']
          simp [lastFailure,Ne.symm hk]
        · rw [hlog']
          exact ⟨h.spaced,by omega,by omega,hdelays⟩

/-- A call that is not early and not too late may be noted. -/
theorem Kept.call (h : Kept lib w) {r : Route} {now : ℤ} (hr : w.get r.routeId = some r)
    (hdue : RouteStore.isDue now r) (hexpires : r.expiresMs = 0 ∨ now ≤ r.expiresMs) :
    Kept lib { w with log := .called r now :: w.log } := by
  refine ⟨h.hex,fun k x hx => ?_,h.faithful,h.fresh,fun c n hc => ?_,h.spaced,fun t d hlast => ?_⟩
  · exact ⟨(h.rows k x hx).bounded,(h.rows k x hx).left,(h.rows k x hx).waits⟩
  · rcases List.mem_cons.mp hc with hc | hc
    · cases hc
      exact ⟨h.faithful _ _ hr,hexpires⟩
    · exact h.calls c n hc
  · rw [← ((h.rows _ r hr).waits hdue.1 t d hlast).2]
    exact hdue.2

theorem Later.call {r : Route} {now : ℤ} (hr : w.get r.routeId = some r) (hopen : r.IsOpen) :
    Later w { w with log := .called r now :: w.log } := by
  refine ⟨[.called r now],rfl,fun k x hx => ⟨x,hx,fun hd => ⟨hd,rfl,fun c n hc => ?_⟩,fun _ => .inl rfl⟩⟩
  rw [List.mem_singleton] at hc
  cases hc
  intro heq
  rw [Table.get_key hx] at heq
  rw [heq,hx] at hr
  cases hr
  exact (open_not_settled hopen).1 hd

theorem Kept.expire (h : Kept lib w) {r : Route} {now : ℤ} (hr : w.get r.routeId = some r)
    (hopen : r.IsOpen) {w' : Outbox} (hget : ∀ k, w'.get k = if k = r.routeId then
      some (r.afterExpiry now) else w.get k) (hlog : w'.log = w.log) :
    Kept lib w' ∧ Later w w' := by
  have hlog' : w'.log = [] ++ w.log := hlog
  refine ⟨h.change hr hget hlog' ⟨rfl,rfl,rfl,rfl,rfl⟩ ?_ (fun k _ => by rw [hlog]) (by simp)
    (by rw [hlog]; exact h.spaced),.change hr hget hlog' (by simp) (.of_open hopen)⟩
  refine ⟨(h.rows _ r hr).bounded,fun ho => ?_,fun ho => ?_⟩
  · rcases ho with ho | ho <;> cases ho
  · rcases ho with ho | ho <;> cases ho

/-- One route of a pass keeps the outbox, and touches no other route. -/
theorem Kept.deliverRoute (h : Kept lib w) {r : Route} {now : ℤ} (hr : w.get r.routeId = some r)
    (hdue : RouteStore.isDue now r) (outcome : Option String) (finished : ℤ) :
    Kept lib (w.deliverRoute r outcome now finished).1 ∧
      Later w (w.deliverRoute r outcome now finished).1 ∧
      ∀ k, k ≠ r.routeId → (w.deliverRoute r outcome now finished).1.get k = w.get k := by
  unfold Outbox.deliverRoute
  split
  · next hexpired =>
    have hget := assign_present hr (Route.afterExpiry now) (fun _ => rfl) fun _ => rfl
    obtain ⟨hkept,hlater⟩ : Kept lib ⟨_,w.log⟩ ∧ Later w ⟨_,w.log⟩ :=
      h.expire hr hdue.1 hget rfl
    exact ⟨hkept,hlater,fun k hk => (hget k).trans (if_neg hk)⟩
  · next hexpired =>
    have hexpires : r.expiresMs = 0 ∨ now ≤ r.expiresMs := by
      rcases Classical.em (r.expiresMs = 0) with hzero | hzero
      · exact .inl hzero
      · exact .inr (not_lt.mp fun hlt => hexpired ⟨hzero,hlt⟩)
    have hcall := h.call hr hdue hexpires
    have hlater : Later w { w with log := .called r now :: w.log } := .call hr hdue.1
    simp only
    split
    · next w' hw' =>
      have hopen : ∀ x, w.get r.routeId = some x → x.IsOpen := by
        intro x hx
        rw [hr] at hx
        cases hx
        exact hdue.1
      obtain ⟨hkept,hlater',hothers⟩ := hcall.attempt hopen hw'
      exact ⟨hkept,hlater.trans hlater',hothers⟩
    · exact ⟨hcall,hlater,fun _ _ => rfl⟩

theorem Kept.deliverRoutes (outcome : Route → Option String) (finished : Route → ℤ) (now : ℤ)
    (rs : List Route) (h : Kept lib w) (hrs : ∀ r ∈ rs, w.get r.routeId = some r)
    (hdue : ∀ r ∈ rs, RouteStore.isDue now r) (hnodup : (rs.map Route.routeId).Nodup) :
    Kept lib (Outbox.deliverRoutes outcome finished now rs w).1 ∧
      Later w (Outbox.deliverRoutes outcome finished now rs w).1 := by
  induction rs generalizing w with
  | nil => exact ⟨h,.refl w⟩
  | cons r rs ih =>
    obtain ⟨hkept,hlater,hothers⟩ := h.deliverRoute (hrs r (List.mem_cons_self ..))
      (hdue r (List.mem_cons_self ..)) (outcome r) (finished r)
    rw [List.map_cons,List.nodup_cons] at hnodup
    simp only [Outbox.deliverRoutes]
    split
    · next w' _ hw' =>
      rw [hw'] at hkept hlater hothers
      have hrest : ∀ x ∈ rs, w'.get x.routeId = some x := by
        intro x hx
        have hne : x.routeId ≠ r.routeId := fun heq => hnodup.1 (heq ▸ List.mem_map_of_mem hx)
        exact (hothers _ hne).trans (hrs x (List.mem_cons_of_mem _ hx))
      obtain ⟨hkept',hlater'⟩ := ih hkept hrest
        (fun x hx => hdue x (List.mem_cons_of_mem _ hx)) hnodup.2
      exact ⟨hkept',hlater.trans hlater'⟩
    · next w' _ hw' =>
      rw [hw'] at hkept hlater
      exact ⟨hkept,hlater⟩

/-- A pass selects routes that are due, each of them once. -/
theorem due_ok {s : RouteStore} {now : ℤ} {limit : ℕ} {rs : List Route}
    (h : s.due now limit = .ok rs) : (∀ r ∈ rs, s.routes.get r.routeId = some r) ∧
      (∀ r ∈ rs, RouteStore.isDue now r) ∧ (rs.map Route.routeId).Nodup := by
  simp only [RouteStore.due,bind_ok] at h
  obtain ⟨-,-,h⟩ := h
  obtain rfl := Except.ok.inj h
  have hmem : ∀ r ∈ ((s.routes.select (RouteStore.isDue now)).insertionSort RouteStore.sooner).take limit,
      r ∈ s.routes.rows ∧ RouteStore.isDue now r := by
    intro r hr
    have hsorted := (List.perm_insertionSort _ _).mem_iff.mp (List.mem_of_mem_take hr)
    simpa [Table.select] using hsorted
  refine ⟨fun r hr => Table.mem_rows.mp (hmem r hr).1,fun r hr => (hmem r hr).2,?_⟩
  have hselected : ((s.routes.select (RouteStore.isDue now)).map Route.routeId).Nodup :=
    s.routes.keys.sublist (List.filter_sublist.map _)
  have hsorted := ((List.perm_insertionSort RouteStore.sooner
    (s.routes.select (RouteStore.isDue now))).map Route.routeId).nodup_iff.mpr hselected
  exact hsorted.sublist ((List.take_sublist _ _).map _)

theorem Kept.deliverDue (h : Kept lib w) (outcome : Route → Option String) (finished : Route → ℤ)
    (now : ℤ) (limit : ℕ) : Kept lib (w.deliverDue outcome finished now limit).1 ∧
      Later w (w.deliverDue outcome finished now limit).1 := by
  unfold Outbox.deliverDue
  split
  · next rs hrs =>
    obtain ⟨hmem,hdue,hnodup⟩ := due_ok hrs
    exact Kept.deliverRoutes outcome finished now rs h hmem hdue hnodup
  · exact ⟨h,.refl w⟩

/-- A retry resets the row whose id is given in normal form, if it is closed. -/
theorem Kept.retry (h : Kept lib w) {routeId : String} {now : ℤ}
    (hok : w.retry routeId now = .ok w') : Kept lib w' ∧ Later w w' := by
  simp only [Outbox.retry,RouteStore.retry,bind_ok,raiseIf_ok] at hok
  obtain ⟨reset,⟨r,hr,-,hclosed,r',hr',hreset⟩,hw'⟩ := hok
  obtain rfl := Except.ok.inj hreset
  obtain rfl := Except.ok.inj hw'
  have hrow := require_ok hr
  have hrow' := require_ok hr'
  have hid' : r'.routeId = lower (strip routeId) := Table.get_key hrow'
  have hcalls : ∀ c n, RouteEvent.called c n ∉ [RouteEvent.retried r'.routeId] := by simp
  cases hget : w.get routeId with
  | none =>
    have hsame := assign_absent hget (Route.afterRetry now) (fun _ => rfl) fun _ => rfl
    have hlast : ∀ k t d, lastFailure k (.retried r'.routeId :: w.log) = some (t,d) →
        lastFailure k w.log = some (t,d) := by
      intro k t d hk
      simp only [lastFailure] at hk
      split at hk
      · cases hk
      · exact hk
    refine ⟨⟨fun k x hx => h.hex k x ((hsame k).symm.trans hx),fun k x hx => ?_,
      fun k x hx => h.faithful k x ((hsame k).symm.trans hx),fun k hk => ?_,fun c n hc => ?_,h.spaced⟩,
      ⟨[.retried r'.routeId],rfl,fun k x hx => ⟨x,(hsame k).trans hx,
        fun hd => ⟨hd,rfl,fun c n hc => absurd hc (hcalls c n)⟩,fun _ => .inl rfl⟩⟩⟩
    · have hold := h.rows k x ((hsame k).symm.trans hx)
      exact ⟨hold.bounded,hold.left,fun ho t d hk => hold.waits ho t d (hlast _ t d hk)⟩
    · have hnone := h.fresh k ((hsame k).symm.trans hk)
      simp only [lastFailure]
      split
      · rfl
      · exact hnone
    · rcases List.mem_cons.mp hc with hc | hc
      · cases hc
      · exact h.calls c n hc
  | some x =>
    rw [h.normal hget] at hrow hid'
    obtain rfl := Option.some.inj (hget.symm.trans hrow)
    have hchange := assign_present hget (Route.afterRetry now) (fun _ => rfl) fun _ => rfl
    have hid : x.routeId = routeId := Table.get_key hget
    refine ⟨h.change hget hchange rfl ⟨rfl,rfl,rfl,rfl,rfl⟩ ?_ (fun k hk => ?_) hcalls h.spaced,
      .change hget hchange rfl hcalls ⟨fun hd => ?_,fun _ => .inr ?_⟩⟩
    · refine ⟨Nat.zero_le _,fun _ => by simp [Route.afterRetry,maxAttempts],fun _ t d hlast => ?_⟩
      simp [Route.afterRetry,lastFailure,hid,hid'] at hlast
    · simp [lastFailure,hid',Ne.symm hk]
    · simp [hd] at hclosed
    · simp [hid,hid']

/-- A new row starts open, with no failure. -/
theorem Kept.insert (h : Kept lib w) {r : Route} {routes : Routes}
    (hinsert : w.store.routes.insert r = some routes) (hhex : isHex 32 r.routeId)
    (hfaithful : Faithful lib r) (hstate : r.state = .pending) (hattempts : r.attempts = 0) :
    Kept lib { w with store := { w.store with routes := routes } } ∧
      Later w { w with store := { w.store with routes := routes } } := by
  have hget : ∀ k, routes.get k = if k = r.routeId then some r else w.get k := Table.get_insert hinsert
  have hnone : w.get r.routeId = none := (Table.insert_eq_some hinsert).1
  have hcases : ∀ k x, routes.get k = some x → (k = r.routeId ∧ x = r) ∨ w.get k = some x := by
    intro k x hx
    rw [hget] at hx
    split at hx
    · next hk => exact .inl ⟨hk,(Option.some.inj hx).symm⟩
    · exact .inr hx
  refine ⟨⟨fun k x hx => ?_,fun k x hx => ?_,fun k x hx => ?_,fun k hk => ?_,h.calls,h.spaced⟩,
    [],rfl,fun k x hx => ⟨x,?_,.refl x⟩⟩
  · rcases hcases k x hx with ⟨rfl,rfl⟩ | hx
    · exact hhex
    · exact h.hex k x hx
  · rcases hcases k x hx with ⟨rfl,rfl⟩ | hx
    · refine ⟨by simp [hattempts],fun _ => by simp [hattempts,maxAttempts],fun _ t d hlast => ?_⟩
      rw [h.fresh _ hnone] at hlast
      cases hlast
    · exact h.rows k x hx
  · rcases hcases k x hx with ⟨rfl,rfl⟩ | hx
    · exact hfaithful
    · exact h.faithful k x hx
  · have hk' : routes.get k = none := hk
    rw [hget] at hk'
    split at hk'
    · cases hk'
    · exact h.fresh k hk'
  · change routes.get k = some x
    rw [hget,if_neg]
    · exact hx
    · rintro rfl
      rw [hnone] at hx
      cases hx

theorem enqueue_ok {s s' : RouteStore} {routeId destination adapter kind : String} {signal : Value}
    {now : ℤ} {reply : EnqueueReply}
    (h : s.enqueue lib routeId destination adapter kind signal now = .ok (reply,s')) :
    ∃ entries, signal.asMap = some entries ∧
      s.destinationAllowed (strip destination) (lower (strip adapter)) = true ∧
      s.insertRoute (RouteStore.newRoute lib routeId (strip destination) (lower (strip adapter))
        (strip kind) entries now) = .ok (reply,s') := by
  simp only [RouteStore.enqueue,bind_ok,raiseIf_ok,fetched_ok] at h
  obtain ⟨-,-,-,-,-,-,entries,hentries,-,-,encoded,-,-,-,-,hallowed,hinsert⟩ := h
  exact ⟨entries,hentries,by simpa using hallowed,hinsert⟩

theorem insertRoute_cases {s s' : RouteStore} {r : Route} {reply : EnqueueReply}
    (h : s.insertRoute r = .ok (reply,s')) :
    (∃ routes, s.routes.insert r = some routes ∧ s' = { s with routes := routes } ∧
        reply = ⟨r.routeId,false,.pending⟩) ∨
      ∃ existing, s.routes.insert r = none ∧ existing.dedupKey = r.dedupKey ∧
        s.routes.get existing.routeId = some existing ∧ s' = s ∧
        reply = ⟨existing.routeId,true,existing.state⟩ := by
  unfold RouteStore.insertRoute at h
  split at h
  · next routes hroutes =>
    cases h
    exact .inl ⟨routes,hroutes,rfl,rfl⟩
  · next hnone =>
    split at h
    · next existing hexisting =>
      cases h
      obtain ⟨hmem,hkey⟩ := Table.first_some hexisting
      exact .inr ⟨existing,hnone,hkey,hmem,rfl,rfl⟩
    · cases h

theorem Kept.enqueue (h : Kept lib w) {routeId destination adapter kind : String} {signal : Value}
    {now : ℤ} {reply : EnqueueReply} {s' : RouteStore} (hhex : isHex 32 routeId)
    (hok : w.store.enqueue lib routeId destination adapter kind signal now = .ok (reply,s')) :
    Kept lib { w with store := s' } ∧ Later w { w with store := s' } := by
  obtain ⟨entries,-,-,hinsert⟩ := enqueue_ok hok
  rcases insertRoute_cases hinsert with ⟨routes,hroutes,rfl,-⟩ | ⟨existing,-,-,-,rfl,-⟩
  · exact h.insert hroutes hhex ⟨rfl,rfl⟩ rfl rfl
  · exact ⟨h,.refl w⟩

/-- The operations of an outbox. An attempt is recorded for a route that is open. -/
inductive Step (lib : RouteLibrary) : Outbox → Outbox → Prop
  | enqueue (w : Outbox) (routeId destination adapter kind : String) (signal : Value) (now : ℤ)
      (reply : EnqueueReply) (s' : RouteStore) (hhex : isHex 32 routeId)
      (hok : w.store.enqueue lib routeId destination adapter kind signal now = .ok (reply,s')) :
      Step lib w { w with store := s' }
  | setPolicy (w : Outbox) (destination adapter : String) (allowed : Bool) (s' : RouteStore)
      (hok : w.store.setPolicy destination adapter allowed = .ok s') :
      Step lib w { w with store := s' }
  | attempt (w w' : Outbox) (routeId : String) (ok : Bool) (error : String) (now : ℤ)
      (hopen : ∀ r, w.get routeId = some r → r.IsOpen)
      (hok : w.attempt routeId ok error now = .ok w') : Step lib w w'
  | deliverDue (w : Outbox) (outcome : Route → Option String) (finished : Route → ℤ) (now : ℤ)
      (limit : ℕ) : Step lib w (w.deliverDue outcome finished now limit).1
  | retry (w w' : Outbox) (routeId : String) (now : ℤ) (hok : w.retry routeId now = .ok w') :
      Step lib w w'

theorem setPolicy_routes {s s' : RouteStore} {destination adapter : String} {allowed : Bool}
    (h : s.setPolicy destination adapter allowed = .ok s') : s'.routes = s.routes := by
  simp only [RouteStore.setPolicy,bind_ok] at h
  obtain ⟨-,-,-,-,h⟩ := h
  obtain rfl := Except.ok.inj h
  rfl

theorem Kept.of_routes {s' : RouteStore} (h : Kept lib w) (hroutes : s'.routes = w.store.routes) :
    Kept lib { w with store := s' } ∧ Later w { w with store := s' } := by
  have hget : ∀ k, s'.routes.get k = w.get k := fun k => by rw [hroutes]
  exact ⟨⟨fun k x hx => h.hex k x ((hget k).symm.trans hx),
    fun k x hx => h.rows k x ((hget k).symm.trans hx),
    fun k x hx => h.faithful k x ((hget k).symm.trans hx),
    fun k hk => h.fresh k ((hget k).symm.trans hk),h.calls,h.spaced⟩,
    [],rfl,fun k x hx => ⟨x,(hget k).trans hx,.refl x⟩⟩

theorem Kept.step (h : Kept lib w) (hstep : Step lib w w') : Kept lib w' ∧ Later w w' := by
  cases hstep with
  | enqueue routeId destination adapter kind signal now reply s' hhex hok => exact h.enqueue hhex hok
  | setPolicy destination adapter allowed s' hok => exact h.of_routes (setPolicy_routes hok)
  | attempt _ routeId ok error now hopen hok =>
    obtain ⟨hkept,hlater,-⟩ := h.attempt hopen hok
    exact ⟨hkept,hlater⟩
  | deliverDue outcome finished now limit => exact h.deliverDue outcome finished now limit
  | retry _ routeId now hok => exact h.retry hok

/-- An empty store, with whatever default its policy has. -/
def start (defaultAllow : Bool) : Outbox := ⟨⟨defaultAllow,Table.empty,fun _ _ => none⟩,[]⟩

theorem Kept.start (lib : RouteLibrary) (defaultAllow : Bool) : Kept lib (start defaultAllow) := by
  have hnone : ∀ id, (Outbox.start defaultAllow).get id = none := fun _ => rfl
  refine ⟨fun id r hr => ?_,fun id r hr => ?_,fun id r hr => ?_,fun _ _ => rfl,fun r now hc => ?_,
    trivial⟩
  · rw [hnone id] at hr
    cases hr
  · rw [hnone id] at hr
    cases hr
  · rw [hnone id] at hr
    cases hr
  · cases hc

theorem Kept.run (h : Kept lib w) (hrun : Reaches (Step lib) w w') : Kept lib w' ∧ Later w w' := by
  have hkept : ∀ s t, Kept lib s → Step lib s t → Kept lib t := fun s t hs hstep => (hs.step hstep).1
  have hlater : ∀ s t, Kept lib s → Step lib s t → Later s t := fun s t hs hstep => (hs.step hstep).2
  exact ⟨Reaches.invariant hkept h hrun,
    Reaches.preorder Later.refl (fun _ _ _ => Later.trans) hkept hlater h hrun⟩

/-- A row for a destination and a signal id stands in the way of another one. -/
theorem Kept.same_route (h : Kept lib w) {r r' : Route} {id id' : String} (hr : w.get id = some r)
    (hr' : w.get id' = some r') (hdestination : r'.destination = r.destination)
    (hsignal : normalSignalId lib r'.signal = normalSignalId lib r.signal) : r = r' := by
  have hkey : r'.dedupKey = r.dedupKey := by
    rw [(h.faithful id r hr).dedup,(h.faithful id' r' hr').dedup,hdestination,hsignal]
  exact Table.mark_unique hr hr' (List.mem_singleton_self _) (List.mem_singleton.mpr hkey.symm)

/-- Enqueueing a signal again for its destination returns its route and changes nothing. -/
theorem Kept.enqueue_again (h : Kept lib w) {r : Route} {id : String} (hr : w.get id = some r)
    {routeId destination adapter kind : String} {signal : Value} {entries : List (Value × Value)}
    {now : ℤ} {reply : EnqueueReply} {s' : RouteStore} (hentries : signal.asMap = some entries)
    (hdestination : strip destination = r.destination)
    (hsignal : normalSignalId lib entries = normalSignalId lib r.signal)
    (hok : w.store.enqueue lib routeId destination adapter kind signal now = .ok (reply,s')) :
    s' = w.store ∧ reply = ⟨r.routeId,true,r.state⟩ := by
  obtain ⟨entries',hentries',-,hinsert⟩ := enqueue_ok hok
  obtain rfl := Option.some.inj (hentries.symm.trans hentries')
  have hkey : r.dedupKey = (RouteStore.newRoute lib routeId (strip destination)
      (lower (strip adapter)) (strip kind) entries now).dedupKey := by
    rw [(h.faithful id r hr).dedup]
    simp only [RouteStore.newRoute,hdestination,hsignal]
  rcases insertRoute_cases hinsert with ⟨routes,hroutes,-,-⟩ | ⟨existing,-,hexisting,hget,rfl,rfl⟩
  · have hconflict := (Table.insert_eq_some hroutes).2.1 r (Table.get_eq_some.mp hr).1 r.dedupKey
      (List.mem_singleton_self _)
    exact absurd (List.mem_singleton.mpr hkey) hconflict
  · have hsame : existing = r := Table.mark_unique hget hr (List.mem_singleton_self _)
      (List.mem_singleton.mpr (hexisting.trans hkey.symm))
    rw [hsame]
    exact ⟨rfl,rfl⟩

/-- What an outbox promises in a state that a run has reached, and from there to a later state. -/
structure IsOutbox (lib : RouteLibrary) (w w' : Outbox) : Prop where
  unique : ∀ id id' r r', w.get id = some r → w.get id' = some r' → r'.destination = r.destination →
    normalSignalId lib r'.signal = normalSignalId lib r.signal → r = r'
  repeated : ∀ id r routeId destination adapter kind signal entries now reply s',
    w.get id = some r → Value.asMap signal = some entries → strip destination = r.destination →
    normalSignalId lib entries = normalSignalId lib r.signal →
    w.store.enqueue lib routeId destination adapter kind signal now = .ok (reply,s') →
      s' = w.store ∧ reply = ⟨r.routeId,true,r.state⟩
  later : ∃ new, w'.log = new ++ w.log ∧ ∀ id r, w.get id = some r →
    ∃ r', w'.get id = some r' ∧
      (r.state = .delivered → r'.state = .delivered ∧ r'.attempts = r.attempts ∧
        ∀ c now, RouteEvent.called c now ∈ new → c.routeId ≠ id) ∧
      (r.IsClosed → r'.state = r.state ∨ .retried id ∈ new)
  bounded : ∀ id r, w.get id = some r → r.attempts ≤ maxAttempts
  unexpired : ∀ r now, RouteEvent.called r now ∈ w.log →
    positiveOrZero (Value.fieldOr r.signal "expires_ms" (.int 0)) = 0 ∨
      now ≤ positiveOrZero (Value.fieldOr r.signal "expires_ms" (.int 0))
  admitted : ∀ routeId destination adapter kind signal now reply s',
    w.store.enqueue lib routeId destination adapter kind signal now = .ok (reply,s') →
      w.store.destinationAllowed (strip destination) (lower (strip adapter)) = true
  spaced : WellSpaced w.log

/-- Every run of the operations is a run of an outbox. -/
theorem runs_are_outbox {defaultAllow : Bool} (hreached : Reaches (Step lib) (start defaultAllow) w)
    (hrun : Reaches (Step lib) w w') : IsOutbox lib w w' := by
  have h := (Kept.start lib defaultAllow).run hreached
  obtain ⟨new,hlog,hrows⟩ := (h.1.run hrun).2
  refine ⟨fun id id' r r' => h.1.same_route,fun id r routeId destination adapter kind signal entries
    now reply s' hr => h.1.enqueue_again hr,⟨new,hlog,fun id r hr => ?_⟩,
    fun id r hr => (h.1.rows id r hr).bounded,fun r now hcall => ?_,
    fun routeId destination adapter kind signal now reply s' hok => ?_,h.1.spaced⟩
  · obtain ⟨r',hr',hfollows⟩ := hrows id r hr
    rw [← Table.get_key hr]
    exact ⟨r',by rw [Table.get_key hr]; exact hr',hfollows.delivered,hfollows.closed⟩
  · obtain ⟨hfaithful,hexpires⟩ := h.1.calls r now hcall
    rwa [hfaithful.expires] at hexpires
  · obtain ⟨entries,-,hallowed,-⟩ := enqueue_ok hok
    exact hallowed

/-- Text and packing for the examples below. -/
def sampleLibrary : RouteLibrary :=
  ⟨fun v => match v with
    | .str s => s
    | _ => "",fun _ => .ok [],fun s => s⟩

def sampleSignal : Value := .map [(.str "signal_id",.str "00000000000000000000000000000001")]

def sampleQueued : Outbox :=
  match (start true).store.enqueue sampleLibrary "0000000000000000000000000000000a" "agent" "loopback"
    "signal" sampleSignal 1 with
  | .ok (_,s) => ⟨s,[]⟩
  | .error _ => start true

def sampleDenied : Outbox :=
  match sampleQueued.store.setPolicy "agent" "loopback" false with
  | .ok s => ⟨s,sampleQueued.log⟩
  | .error _ => sampleQueued

/-- The routes that the callback was called for. -/
def calledRoutes (w : Outbox) : List (String × ℤ) :=
  w.log.filterMap fun e => match e with
    | .called r now => some (r.routeId,now)
    | _ => none

/-- The policy is asked when a signal is enqueued, not when it is delivered; and an attempt can be
recorded for a route that has been delivered. -/
theorem denied_route_called :
    sampleDenied.store.destinationAllowed "agent" "loopback" = false ∧
      (sampleDenied.deliverDue (fun _ => none) (fun _ => 5) 5 100).1.calledRoutes =
        [("0000000000000000000000000000000a",5)] ∧
      ((((sampleDenied.deliverDue (fun _ => none) (fun _ => 5) 5 100).1.attempt
        "0000000000000000000000000000000a" false "late" 9).toOption.bind fun w =>
          w.get "0000000000000000000000000000000a").map Route.state) = some .retrying := by
  decide +kernel

theorem runs_are_outbox_sample : IsOutbox sampleLibrary sampleQueued
    (sampleQueued.deliverDue (fun _ => some "timeout") (fun _ => 5) 5 100).1 :=
  runs_are_outbox
    (.single (.enqueue (start true) "0000000000000000000000000000000a" "agent" "loopback" "signal"
      sampleSignal 1 _ _ (by decide) rfl))
    (.single (.deliverDue sampleQueued (fun _ => some "timeout") (fun _ => 5) 5 100))

end Outbox
end Anet.Amesh
