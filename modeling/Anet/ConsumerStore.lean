import Anet.StoreSchema
import Mathlib.Data.List.Sort
import Mathlib.Data.List.Lattice

/-! Consumer groups: named cursors over the Inbox whose messages workers claim
under a lease and then acknowledge, reject or renew. -/
namespace Anet

/-- `_CONSUMER_ID_RE`. -/
def isConsumerId : String → Bool :=
  matchesWord (fun c => isAlpha c || isDigit c)
    (fun c => isAlpha c || isDigit c || c ∈ ['.','_',':','@','/','-']) 127

structure ConsumerId where
  val : String
  valid : isConsumerId val

/-- A claim or execution token, `secrets.token_hex(16)`. -/
structure Token where
  val : String
  hex : isHex 32 val

/-- A token of one repeated digit. -/
def Token.digit (c : Char) (h : isHexDigit c) : Token :=
  ⟨String.ofList (List.replicate 32 c),by simp [isHex,h]⟩

theorem hexDigit_a : isHexDigit 'a' := by decide
theorem hexDigit_b : isHexDigit 'b' := by decide
theorem hexDigit_c : isHexDigit 'c' := by decide
theorem consumerId_worker : isConsumerId "worker" := by decide

/-- The lease a claim asks for, in milliseconds, clamped to five seconds and one day. -/
structure LeaseMs where
  val : ℤ
  low : 5000 ≤ val
  high : val ≤ 86400000

/-- The delay of a retry in milliseconds, clamped to one day. -/
structure RetryMs where
  val : ℤ
  low : 0 ≤ val
  high : val ≤ 86400000

theorem lease_low : (5000 : ℤ) ≤ 5000 := le_rfl
theorem lease_high : (5000 : ℤ) ≤ 86400000 := by decide
theorem retry_low : (0 : ℤ) ≤ 0 := le_rfl
theorem retry_high : (0 : ℤ) ≤ 86400000 := by decide

/-- `_consumer_id`. -/
def consumerId (label value : String) : Result ConsumerId :=
  let value := strip value
  if h : isConsumerId value then .ok ⟨value,h⟩ else .error (.value s!"invalid consumer {label}")

/-- `_claim_token`. -/
def claimToken (value : String) : Result Token :=
  let value := lower (strip value)
  if h : isHex 32 value then .ok ⟨value,h⟩ else .error (.value "invalid claim token")

theorem Token.ne_empty (t : Token) : t.val ≠ "" := by
  intro h
  have := t.hex
  rw [h] at this
  revert this
  decide

@[simp] theorem textMark_empty : textMark "" = [] := by
  simp [textMark]

theorem mem_textMark {m column : String} : m ∈ textMark column ↔ m = column ∧ column ≠ "" := by
  unfold textMark
  split <;> simp_all

namespace ConsumerDelivery

/-- `WHERE group_id = ? AND owner = ? AND claim_token = ? AND state = 'leased'`. -/
def leasedBy (groupId owner claimToken : String) (r : ConsumerDelivery) : Prop :=
  r.groupId = groupId ∧ r.owner = owner ∧ r.claimToken = claimToken ∧ r.state = .leased

instance (groupId owner claimToken : String) : DecidablePred (leasedBy groupId owner claimToken) :=
  fun _ => inferInstanceAs (Decidable (_ ∧ _))

/-- The delivery may be handed to a worker: its lease ran out or its retry is due. -/
def due (now : ℤ) (r : ConsumerDelivery) : Prop :=
  (r.state = .leased ∧ r.leaseUntilMs ≤ now) ∨ (r.state = .retry ∧ r.retryAfterMs ≤ now)

instance (now : ℤ) : DecidablePred (due now) := fun _ => inferInstanceAs (Decidable (_ ∨ _))

def fresh (groupId packetId owner claimToken : String) (leaseUntilMs : ℤ) : ConsumerDelivery :=
  ⟨groupId,packetId,.leased,owner,claimToken,leaseUntilMs,0,1,0,""⟩

def claim (owner claimToken : String) (leaseUntilMs : ℤ) (r : ConsumerDelivery) :
    ConsumerDelivery :=
  { r with
    state := .leased, owner := owner, claimToken := claimToken, leaseUntilMs := leaseUntilMs,
    retryAfterMs := 0, attempts := r.attempts + 1, ackedMs := 0, lastError := "" }

def ack (now : ℤ) (r : ConsumerDelivery) : ConsumerDelivery :=
  { r with
    state := .acked, owner := "", claimToken := "", leaseUntilMs := 0, retryAfterMs := 0,
    ackedMs := now, lastError := "" }

def release (retryAfterMs : ℤ) (error : String) (r : ConsumerDelivery) : ConsumerDelivery :=
  { r with
    state := .retry, owner := "", claimToken := "", leaseUntilMs := 0,
    retryAfterMs := retryAfterMs, ackedMs := 0, lastError := error }

def renew (leaseUntilMs : ℤ) (r : ConsumerDelivery) : ConsumerDelivery :=
  { r with leaseUntilMs := leaseUntilMs }

def revoke (r : ConsumerDelivery) : ConsumerDelivery :=
  { r with
    state := .revoked, claimToken := "", leaseUntilMs := 0, retryAfterMs := 0,
    lastError := "peer trust revoked" }

theorem ack_key (now : ℤ) (r : ConsumerDelivery) : (r.ack now).key = r.key := rfl

theorem ack_marks (now : ℤ) (r : ConsumerDelivery) : (r.ack now).marks ⊆ r.marks := by
  simp [marks,ack]

theorem release_marks (retryAfterMs : ℤ) (error : String) (r : ConsumerDelivery) :
    (r.release retryAfterMs error).marks ⊆ r.marks := by
  simp [marks,release]

theorem revoke_marks (r : ConsumerDelivery) : r.revoke.marks ⊆ r.marks := by
  simp [marks,revoke]

end ConsumerDelivery

namespace ConsumerDeliveries

open ConsumerDelivery

/-- The update that settles a claim, at every place that acknowledges one. -/
def ackLeased (d : ConsumerDeliveries) (groupId owner claimToken : String) (now : ℤ) :
    ConsumerDeliveries :=
  d.update (leasedBy groupId owner claimToken) (ack now) (fun _ => rfl) (ack_marks now)

def releaseLeased (d : ConsumerDeliveries) (groupId owner claimToken : String)
    (retryAfterMs : ℤ) (error : String) : ConsumerDeliveries :=
  d.update (leasedBy groupId owner claimToken) (release retryAfterMs error) (fun _ => rfl)
    (release_marks retryAfterMs error)

end ConsumerDeliveries

structure InboxItem where
  packetId : String
  senderId : String
  kind : String
  createdMs : ℤ
  receivedMs : ℤ
  codec : String
  body : Value
  causal : Value
  replyTo : String
  qos : String
  trusted : Bool
  read : Bool
  transient : Bool

/-- `_inbox_item`. -/
def inboxItem (rt : Runtime) (row : InboxRow) : Result InboxItem := do
  let body ← rt.unpack row.body
  let causal ← rt.unpack row.causal
  return ⟨row.packetId,row.senderId,row.kind,row.createdMs,row.receivedMs,row.codec,body,causal,
    row.replyTo,row.qos,row.trusted,row.isRead,! row.visible⟩

structure ClaimedMessage where
  item : InboxItem
  consumerGroup : String
  claimOwner : String
  claimToken : Token
  leaseUntilMs : ℤ
  deliveryAttempt : ℕ

/-- What `acknowledge_claim`, `reject_claim` and `renew_claim` report. -/
structure ClaimStatus where
  groupId : String
  state : DeliveryState
  atMs : ℤ

def staleClaim : PyError := .value "claim is stale, unknown, or owned by another worker"

def typedTaskClaim : PyError := .value "typed Agent task claims must use settle_agent_task"

namespace ConsumerGroup

/-- The conditions of `_consumer_filters` on the message itself. -/
def filters (group : ConsumerGroup) (i : InboxRow) : Prop :=
  (group.trustedOnly → i.trusted) ∧ (¬ group.includeTransient → i.visible) ∧
    (group.kindPrefix ≠ "" → startsWith i.kind group.kindPrefix) ∧
    (group.senderId ≠ "" → i.senderId = group.senderId)

instance (group : ConsumerGroup) : DecidablePred group.filters :=
  fun _ => inferInstanceAs (Decidable (_ ∧ _))

/-- `_consumer_filters`. -/
def admits (group : ConsumerGroup) (i : InboxRow) : Prop :=
  group.startAfterRowid < i.rowid ∧ group.filters i

instance (group : ConsumerGroup) : DecidablePred group.admits :=
  fun _ => inferInstanceAs (Decidable (_ ∧ _))

end ConsumerGroup

namespace PacketStore

open ConsumerDelivery

/-- `SELECT COALESCE(MAX(rowid), 0) FROM inbox`. -/
def maxRowid (s : PacketStore) : ℕ := s.inbox.rows.foldr (fun r n => max r.rowid n) 0

/-- `open_consumer_group`; the flag of the result says whether the group is new. -/
def openConsumerGroup (groupId : ConsumerId) (start kindPrefix senderId : String)
    (trustedOnly includeTransient : Bool) (now : ℤ) (s : PacketStore) :
    Result (ConsumerGroup × Bool) × PacketStore :=
  let start := lower (strip start)
  let kindPrefix := strip kindPrefix
  let senderId := strip senderId
  if ¬ (start = "latest" ∨ start = "earliest") then
    (.error (.value "consumer start must be latest or earliest"),s)
  else if 128 < kindPrefix.toList.length ∨ 128 < senderId.toList.length then
    (.error (.value "consumer filter is too long"),s)
  else
    match s.consumerGroups.get groupId.val with
    | some existing =>
      if existing.kindPrefix ≠ kindPrefix ∨ existing.senderId ≠ senderId ∨
          existing.trustedOnly ≠ trustedOnly ∨ existing.includeTransient ≠ includeTransient then
        (.error (.value "consumer group already exists with different filters"),s)
      else (.ok (existing,false),s)
    | none =>
      let group : ConsumerGroup :=
        ⟨groupId.val,now,if start = "latest" then s.maxRowid else 0,kindPrefix,senderId,
          trustedOnly,includeTransient⟩
      match s.consumerGroups.insert group with
      | some groups => (.ok (group,true),{ s with consumerGroups := groups })
      | none => (.error .integrity,s)

def requireConsumerGroup (s : PacketStore) (groupId : String) : Result ConsumerGroup :=
  (s.consumerGroups.get groupId).elim (.error (.key s!"unknown consumer group: {groupId}")) .ok

/-- No delivery of the packet to the group is live, settled or waiting. -/
def claimable (d : ConsumerDeliveries) (groupId : String) (now : ℤ) (packetId : String) : Prop :=
  ∀ r, d.get (groupId,packetId) = some r → r.due now

instance (d : ConsumerDeliveries) (groupId : String) (now : ℤ) :
    DecidablePred (claimable d groupId now) := fun packetId =>
  match h : d.get (groupId,packetId) with
  | none => isTrue (by simp [claimable,h])
  | some r => decidable_of_iff (r.due now) (by simp [claimable,h])

def inboxOrder (a b : InboxRow) : Prop :=
  a.receivedMs < b.receivedMs ∨ (a.receivedMs = b.receivedMs ∧ a.rowid ≤ b.rowid)

instance : DecidableRel inboxOrder := fun _ _ => inferInstanceAs (Decidable (_ ∨ _))

/-- The Inbox rows a claim of the group may return, oldest first. -/
def claimCandidates (s : PacketStore) (group : ConsumerGroup) (now : ℤ) : List InboxRow :=
  (s.inbox.select fun i => group.admits i ∧
    claimable s.consumerDeliveries group.groupId now i.packetId).insertionSort inboxOrder

/-- The rows one claim returns. -/
def nextClaims (s : PacketStore) (group : ConsumerGroup) (now limit : ℤ) : List InboxRow :=
  (s.claimCandidates group now).take (max 1 (min limit 100)).toNat

/-- The rows of one claim in order, each under the next drawn token; `before` is
the table the rows were selected from. -/
def claimRows (rt : Runtime) (groupId owner : String) (leaseUntilMs : ℤ)
    (before : ConsumerDeliveries) : List InboxRow → (ℕ → Token) → ConsumerDeliveries →
    Result (List ClaimedMessage × ConsumerDeliveries)
  | [],_,d => .ok ([],d)
  | row :: rows,draws,d => do
    let token := draws 0
    let d ← integrity (d.upsert (fresh groupId row.packetId owner token.val leaseUntilMs)
      (claim owner token.val leaseUntilMs) (fun _ => rfl))
    let item ← inboxItem rt row
    let attempts := ((before.get (groupId,row.packetId)).map ConsumerDelivery.attempts).getD 0
    let rest ← claimRows rt groupId owner leaseUntilMs before rows (fun i => draws (i + 1)) d
    return (⟨item,groupId,owner,token,leaseUntilMs,attempts + 1⟩ :: rest.1,rest.2)

/-- `claim_consumer_messages`; `draws` are the tokens of this call in order. -/
def claimConsumerMessages (rt : Runtime) (groupId owner : ConsumerId) (limit : ℤ)
    (lease : LeaseMs) (now : ℤ) (draws : ℕ → Token) :
    PacketStore → Result (List ClaimedMessage) × PacketStore :=
  transaction fun s => do
    let group ← s.requireConsumerGroup groupId.val
    let claimed ← claimRows rt groupId.val owner.val (now + lease.val) s.consumerDeliveries
      (s.nextClaims group now limit) draws s.consumerDeliveries
    return (claimed.1,{ s with consumerDeliveries := claimed.2 })

/-- `EXISTS (SELECT 1 FROM agent_task_executions t ...)` beside a delivery. -/
def typedTask (t : Executions) (r : ConsumerDelivery) : Prop :=
  ∃ e ∈ t.rows, e.key.groupId = r.groupId ∧ e.claimToken = r.claimToken ∧ e.state.running

instance (t : Executions) : DecidablePred (typedTask t) :=
  fun _ => inferInstanceAs (Decidable (∃ e ∈ t.rows, _))

/-- The claim is open to the generic operations: no running task holds it. -/
def openClaim (t : Executions) (groupId owner claimToken : String) (r : ConsumerDelivery) : Prop :=
  r.leasedBy groupId owner claimToken ∧ ¬ typedTask t r

instance (t : Executions) (groupId owner claimToken : String) :
    DecidablePred (openClaim t groupId owner claimToken) :=
  fun _ => inferInstanceAs (Decidable (_ ∧ _))

/-- Why a generic operation found no open claim. -/
def claimRefusal (t : Executions) (groupId owner claimToken : String) : PyError :=
  if ∃ e ∈ t.rows, e.key.groupId = groupId ∧ e.owner = owner ∧ e.claimToken = claimToken ∧
      e.state.running then typedTaskClaim else staleClaim

/-- An update that has to change one row; otherwise the caller is refused. -/
def updateOne (p : ConsumerDelivery → Prop) [DecidablePred p]
    (f : ConsumerDelivery → ConsumerDelivery) (hkey : ∀ r, (f r).key = r.key)
    (hmarks : ∀ r, (f r).marks ⊆ r.marks) (status : ClaimStatus) (refusal : PyError)
    (s : PacketStore) : Result ClaimStatus × PacketStore :=
  let s' := { s with consumerDeliveries := s.consumerDeliveries.update p f hkey hmarks }
  if s.consumerDeliveries.count p = 1 then (.ok status,s') else (.error refusal,s')

/-- `acknowledge_claim`. -/
def acknowledgeClaim (groupId owner : ConsumerId) (claimToken : Token) (now : ℤ)
    (s : PacketStore) : Result ClaimStatus × PacketStore :=
  updateOne (openClaim s.agentTaskExecutions groupId.val owner.val claimToken.val) (ack now)
    (fun _ => rfl) (ack_marks now) ⟨groupId.val,.acked,now⟩
    (claimRefusal s.agentTaskExecutions groupId.val owner.val claimToken.val) s

/-- `reject_claim`. -/
def rejectClaim (groupId owner : ConsumerId) (claimToken : Token) (retry : RetryMs)
    (error : String) (now : ℤ) (s : PacketStore) : Result ClaimStatus × PacketStore :=
  updateOne (openClaim s.agentTaskExecutions groupId.val owner.val claimToken.val)
    (release (now + retry.val) (cut 1000 error)) (fun _ => rfl)
    (release_marks (now + retry.val) (cut 1000 error)) ⟨groupId.val,.retry,now + retry.val⟩
    (claimRefusal s.agentTaskExecutions groupId.val owner.val claimToken.val) s

/-- `renew_claim`. -/
def renewClaim (groupId owner : ConsumerId) (claimToken : Token) (lease : LeaseMs) (now : ℤ)
    (s : PacketStore) : Result ClaimStatus × PacketStore :=
  updateOne (leasedBy groupId.val owner.val claimToken.val) (renew (now + lease.val))
    (fun _ => rfl) (fun _ => List.Subset.refl _) ⟨groupId.val,.leased,now + lease.val⟩
    staleClaim s

/-- The join of a live claim with its Inbox row that every typed operation reads first. -/
def liveClaim (s : PacketStore) (groupId owner claimToken : String) (now : ℤ) :
    Option (ConsumerDelivery × InboxRow) :=
  (s.consumerDeliveries.first fun r => r.leasedBy groupId owner claimToken ∧
    now < r.leaseUntilMs ∧ (s.inbox.get r.packetId).isSome).bind fun r =>
      (s.inbox.get r.packetId).map fun i => (r,i)

section Specs

variable {s : PacketStore} {groupId owner : String} {claimToken : Token} {now : ℤ}

theorem leasedBy_mark {r : ConsumerDelivery} (h : r.leasedBy groupId owner claimToken.val) :
    claimToken.val ∈ r.marks := by
  rw [marks,mem_textMark]
  exact ⟨h.2.2.1.symm,h.2.2.1 ▸ claimToken.ne_empty⟩

theorem rowid_le_max {packetId : String} {i : InboxRow} (h : s.inbox.get packetId = some i) :
    i.rowid ≤ s.maxRowid := by
  have hfold (l : List InboxRow) (hi : i ∈ l) : i.rowid ≤ l.foldr (fun r n => max r.rowid n) 0 := by
    induction l with
    | nil => cases hi
    | cons r l ih =>
      rcases List.mem_cons.mp hi with rfl | hi
      · exact le_max_left _ _
      · exact (ih hi).trans (le_max_right _ _)
  exact hfold s.inbox.rows (Table.get_eq_some.mp h).1

/-- A token names one claim at most. -/
theorem leasedBy_unique {d : ConsumerDeliveries} {k k' : String × String} {r r' : ConsumerDelivery}
    {groupId' owner' : String} (hr : d.get k = some r) (hr' : d.get k' = some r')
    (h : r.leasedBy groupId owner claimToken.val) (h' : r'.leasedBy groupId' owner' claimToken.val) :
    r = r' :=
  Table.mark_unique hr hr' (leasedBy_mark h) (leasedBy_mark h')

/-- A refused generic operation found no row and changed none. -/
theorem updateOne_cases {p : ConsumerDelivery → Prop} [DecidablePred p]
    (f : ConsumerDelivery → ConsumerDelivery) (hkey : ∀ r, (f r).key = r.key)
    (hmarks : ∀ r, (f r).marks ⊆ r.marks) (status : ClaimStatus) (refusal : PyError)
    (s : PacketStore)
    (hp : ∀ r, p r → r.leasedBy groupId owner claimToken.val) :
    (updateOne p f hkey hmarks status refusal s = (.error refusal,s) ∧
      ∀ k r, s.consumerDeliveries.get k = some r → ¬ p r) ∨
    (updateOne p f hkey hmarks status refusal s = (.ok status,
        { s with consumerDeliveries := s.consumerDeliveries.update p f hkey hmarks }) ∧
      ∃ k r, s.consumerDeliveries.get k = some r ∧ p r) := by
  have hle : s.consumerDeliveries.count p ≤ 1 :=
    Table.count_le_one fun r hr => leasedBy_mark (hp r hr)
  by_cases hone : s.consumerDeliveries.count p = 1
  · right
    obtain ⟨r,hr,hpr⟩ := Table.count_pos.mp (by rw [hone]; exact Nat.one_pos)
    refine ⟨?_,_,r,Table.mem_rows.mp hr,hpr⟩
    rw [updateOne]
    exact if_pos hone
  · left
    have hzero := Table.count_eq_zero.mp (show s.consumerDeliveries.count p = 0 by omega)
    refine ⟨?_,fun k r hr => hzero r (Table.get_eq_some.mp hr).1⟩
    rw [updateOne,Table.update_eq_self hzero]
    exact if_neg hone

theorem openClaim_leasedBy (r : ConsumerDelivery)
    (h : openClaim s.agentTaskExecutions groupId owner claimToken.val r) :
    r.leasedBy groupId owner claimToken.val := h.1

/-- The rows an update by a claim leaves behind. -/
def rewrites (d d' : ConsumerDeliveries) (p : ConsumerDelivery → Prop) [DecidablePred p]
    (f : ConsumerDelivery → ConsumerDelivery) : Prop :=
  ∀ k, d'.get k = (d.get k).map fun r => if p r then f r else r

theorem acknowledgeClaim_cases (groupId owner : ConsumerId) (claimToken : Token) (now : ℤ)
    (s : PacketStore) :
    (∃ e, acknowledgeClaim groupId owner claimToken now s = (.error e,s) ∧
      ∀ k r, s.consumerDeliveries.get k = some r →
        ¬ openClaim s.agentTaskExecutions groupId.val owner.val claimToken.val r) ∨
    ∃ d, acknowledgeClaim groupId owner claimToken now s =
        (.ok ⟨groupId.val,.acked,now⟩,{ s with consumerDeliveries := d }) ∧
      rewrites s.consumerDeliveries d
        (openClaim s.agentTaskExecutions groupId.val owner.val claimToken.val) (ack now) ∧
      ∃ k r, s.consumerDeliveries.get k = some r ∧
        openClaim s.agentTaskExecutions groupId.val owner.val claimToken.val r := by
  unfold acknowledgeClaim
  rcases updateOne_cases (ack now) (fun _ => rfl) (ack_marks now) ⟨groupId.val,.acked,now⟩
    (claimRefusal s.agentTaskExecutions groupId.val owner.val claimToken.val) s
    openClaim_leasedBy with ⟨ht,hnone⟩ | ⟨ht,hrow⟩
  · exact Or.inl ⟨_,ht,hnone⟩
  · exact Or.inr ⟨_,ht,Table.get_update _ _ _ _ _,hrow⟩

theorem rejectClaim_cases (groupId owner : ConsumerId) (claimToken : Token) (retry : RetryMs)
    (error : String) (now : ℤ) (s : PacketStore) :
    (∃ e, rejectClaim groupId owner claimToken retry error now s = (.error e,s) ∧
      ∀ k r, s.consumerDeliveries.get k = some r →
        ¬ openClaim s.agentTaskExecutions groupId.val owner.val claimToken.val r) ∨
    ∃ d, rejectClaim groupId owner claimToken retry error now s =
        (.ok ⟨groupId.val,.retry,now + retry.val⟩,{ s with consumerDeliveries := d }) ∧
      rewrites s.consumerDeliveries d
        (openClaim s.agentTaskExecutions groupId.val owner.val claimToken.val)
        (release (now + retry.val) (cut 1000 error)) ∧
      ∃ k r, s.consumerDeliveries.get k = some r ∧
        openClaim s.agentTaskExecutions groupId.val owner.val claimToken.val r := by
  unfold rejectClaim
  rcases updateOne_cases (release (now + retry.val) (cut 1000 error)) (fun _ => rfl)
    (release_marks (now + retry.val) (cut 1000 error)) ⟨groupId.val,.retry,now + retry.val⟩
    (claimRefusal s.agentTaskExecutions groupId.val owner.val claimToken.val) s
    openClaim_leasedBy with ⟨ht,hnone⟩ | ⟨ht,hrow⟩
  · exact Or.inl ⟨_,ht,hnone⟩
  · exact Or.inr ⟨_,ht,Table.get_update _ _ _ _ _,hrow⟩

theorem renewClaim_cases (groupId owner : ConsumerId) (claimToken : Token) (lease : LeaseMs)
    (now : ℤ) (s : PacketStore) :
    (∃ e, renewClaim groupId owner claimToken lease now s = (.error e,s) ∧
      ∀ k r, s.consumerDeliveries.get k = some r →
        ¬ r.leasedBy groupId.val owner.val claimToken.val) ∨
    ∃ d, renewClaim groupId owner claimToken lease now s =
        (.ok ⟨groupId.val,.leased,now + lease.val⟩,{ s with consumerDeliveries := d }) ∧
      rewrites s.consumerDeliveries d (leasedBy groupId.val owner.val claimToken.val)
        (renew (now + lease.val)) ∧
      ∃ k r, s.consumerDeliveries.get k = some r ∧
        r.leasedBy groupId.val owner.val claimToken.val := by
  unfold renewClaim
  rcases updateOne_cases (renew (now + lease.val)) (fun _ => rfl)
    (fun _ => List.Subset.refl _) ⟨groupId.val,.leased,now + lease.val⟩ staleClaim s
    (fun _ h => h) with ⟨ht,hnone⟩ | ⟨ht,hrow⟩
  · exact Or.inl ⟨_,ht,hnone⟩
  · exact Or.inr ⟨_,ht,Table.get_update _ _ _ _ _,hrow⟩

theorem liveClaim_some {r : ConsumerDelivery} {i : InboxRow}
    (h : s.liveClaim groupId owner claimToken.val now = some (r,i)) :
    s.consumerDeliveries.get (groupId,r.packetId) = some r ∧
      r.leasedBy groupId owner claimToken.val ∧ now < r.leaseUntilMs ∧
      s.inbox.get r.packetId = some i := by
  unfold liveClaim at h
  obtain ⟨r',hr',hi⟩ := Option.bind_eq_some_iff.mp h
  obtain ⟨i',hi',he⟩ := Option.map_eq_some_iff.mp hi
  cases he
  obtain ⟨hget,hleased,hlease,-⟩ := Table.first_some hr'
  refine ⟨?_,hleased,hlease,hi'⟩
  rw [← hget,← hleased.1]
  rfl

theorem get_ackLeased (d : ConsumerDeliveries) (k : String × String) :
    (d.ackLeased groupId owner claimToken.val now).get k =
      (d.get k).map fun r => if r.leasedBy groupId owner claimToken.val then r.ack now else r :=
  Table.get_update ..

theorem get_releaseLeased (d : ConsumerDeliveries) (retryAfterMs : ℤ) (error : String)
    (k : String × String) :
    (d.releaseLeased groupId owner claimToken.val retryAfterMs error).get k = (d.get k).map fun r =>
      if r.leasedBy groupId owner claimToken.val then r.release retryAfterMs error else r :=
  Table.get_update ..

section Claims

variable {rt : Runtime} {leaseUntilMs : ℤ} {before : ConsumerDeliveries}

/-- A claim writes the rows it returns, each under its own token, and no other row. -/
theorem claimRows_get {rows : List InboxRow} {draws : ℕ → Token} {d d' : ConsumerDeliveries}
    {claims : List ClaimedMessage} (hrows : (rows.map InboxRow.packetId).Nodup)
    (h : claimRows rt groupId owner leaseUntilMs before rows draws d = .ok (claims,d')) :
    (∀ k, (∀ row ∈ rows, k ≠ (groupId,row.packetId)) → d'.get k = d.get k) ∧
      ∀ i row, rows[i]? = some row → d'.get (groupId,row.packetId) =
        some ((d.get (groupId,row.packetId)).elim
          (fresh groupId row.packetId owner (draws i).val leaseUntilMs)
          (claim owner (draws i).val leaseUntilMs)) := by
  induction rows generalizing draws d claims with
  | nil =>
    rw [claimRows] at h
    cases h
    simp
  | cons row rows ih =>
    rw [claimRows] at h
    simp only [bind_ok] at h
    obtain ⟨d₁,hd₁,item,-,⟨claims',d₂⟩,hrest,he⟩ := h
    cases he
    obtain ⟨hrow,hnodup⟩ := List.nodup_cons.mp hrows
    obtain ⟨hother,hset⟩ := ih hnodup hrest
    have hget := Table.get_upsert (integrity_ok.mp hd₁)
    have hkey : (fresh groupId row.packetId owner (draws 0).val leaseUntilMs).key =
        (groupId,row.packetId) := rfl
    rw [hkey] at hget
    constructor
    · intro k hk
      rw [hother k fun x hx => hk x (List.mem_cons_of_mem _ hx),hget,
        if_neg (hk row List.mem_cons_self)]
    · intro i x hx
      cases i with
      | zero =>
        obtain rfl := Option.some.inj hx
        rw [hother,hget,if_pos rfl]
        intro y hy hxy
        have : y.packetId = row.packetId := (Prod.mk.inj hxy).2.symm
        exact hrow (this ▸ List.mem_map_of_mem hy)
      | succ i =>
        rw [List.getElem?_cons_succ] at hx
        rw [hset i x hx,hget,if_neg]
        intro hxy
        have : x.packetId = row.packetId := (Prod.mk.inj hxy).2
        exact hrow (this ▸ List.mem_map_of_mem (List.mem_of_getElem? hx))

/-- The messages of a claim are its rows in order, under the drawn tokens. -/
theorem claimRows_items {rows : List InboxRow} {draws : ℕ → Token} {d d' : ConsumerDeliveries}
    {claims : List ClaimedMessage}
    (h : claimRows rt groupId owner leaseUntilMs before rows draws d = .ok (claims,d')) :
    claims.length = rows.length ∧ ∀ i c, claims[i]? = some c → c.claimToken = draws i ∧
      c.consumerGroup = groupId ∧ c.claimOwner = owner ∧
      ∃ row, rows[i]? = some row ∧ c.item.packetId = row.packetId := by
  induction rows generalizing draws d claims with
  | nil =>
    rw [claimRows] at h
    cases h
    simp
  | cons row rows ih =>
    rw [claimRows] at h
    simp only [bind_ok] at h
    obtain ⟨d₁,-,item,hitem,⟨claims',d₂⟩,hrest,he⟩ := h
    cases he
    obtain ⟨hlen,hitems⟩ := ih hrest
    refine ⟨by simp [hlen],?_⟩
    intro i c hc
    cases i with
    | zero =>
      obtain rfl := Option.some.inj hc
      refine ⟨rfl,rfl,rfl,row,rfl,?_⟩
      unfold inboxItem at hitem
      simp only [bind_ok] at hitem
      obtain ⟨_,-,_,-,hval⟩ := hitem
      cases hval
      rfl
    | succ i => exact hitems i c hc

theorem mem_nextClaims {group : ConsumerGroup} {limit : ℤ} {i : InboxRow}
    (h : i ∈ s.nextClaims group now limit) : s.inbox.get i.packetId = some i ∧ group.admits i ∧
      claimable s.consumerDeliveries group.groupId now i.packetId := by
  have hmem := List.mem_of_mem_take h
  rw [claimCandidates,List.mem_insertionSort] at hmem
  exact Table.mem_select.mp hmem

theorem nextClaims_nodup (group : ConsumerGroup) (limit : ℤ) :
    ((s.nextClaims group now limit).map InboxRow.packetId).Nodup := by
  rw [nextClaims,List.map_take]
  apply List.Nodup.sublist (List.take_sublist _ _)
  have hperm := (List.perm_insertionSort inboxOrder (s.inbox.select fun i => group.admits i ∧
    claimable s.consumerDeliveries group.groupId now i.packetId)).map InboxRow.packetId
  exact hperm.nodup_iff.mpr (s.inbox.keys.sublist (List.filter_sublist.map _))

theorem requireConsumerGroup_ok {group : ConsumerGroup}
    (h : s.requireConsumerGroup groupId = .ok group) :
    s.consumerGroups.get groupId = some group ∧ group.groupId = groupId := by
  unfold requireConsumerGroup at h
  cases hg : s.consumerGroups.get groupId with
  | none =>
    rw [hg] at h
    cases h
  | some g =>
    rw [hg] at h
    cases h
    exact ⟨rfl,Table.get_key hg⟩

end Claims

/-- `claim_consumer_messages` raises without effect, or leases the next rows. -/
theorem claimConsumerMessages_cases (rt : Runtime) (groupId owner : ConsumerId) (limit : ℤ)
    (lease : LeaseMs) (now : ℤ) (draws : ℕ → Token) (s : PacketStore) :
    (∃ e, claimConsumerMessages rt groupId owner limit lease now draws s = (.error e,s)) ∨
    ∃ group claims d, s.consumerGroups.get groupId.val = some group ∧
      group.groupId = groupId.val ∧
      claimRows rt groupId.val owner.val (now + lease.val) s.consumerDeliveries
        (s.nextClaims group now limit) draws s.consumerDeliveries = .ok (claims,d) ∧
      claimConsumerMessages rt groupId owner limit lease now draws s =
        (.ok claims,{ s with consumerDeliveries := d }) := by
  unfold claimConsumerMessages
  rcases transaction_cases _ s with ⟨claims,s',hb,ht⟩ | ⟨e,-,ht⟩
  · right
    rw [ht]
    simp only [bind_ok] at hb
    obtain ⟨group,hgroup,⟨claims',d⟩,hrows,he⟩ := hb
    cases he
    obtain ⟨hget,hid⟩ := requireConsumerGroup_ok hgroup
    exact ⟨group,_,d,hget,hid,hrows,rfl⟩
  · exact Or.inl ⟨e,ht⟩

end Specs

end PacketStore
end Anet
