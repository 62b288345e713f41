import Anet.ConsumerStore
import Anet.CompanionProtocol
import Anet.Packet

/-! Companion approvals: a registered request, the one decision that authorizes
it, and the effects that spend the authorization. -/
namespace Anet

open CompanionProtocol

/-- What the approval operations ask of the control plane at one moment. -/
structure ControlStore where
  isHumanDeviceRevoked : (humanId deviceNodeId : String) → Bool
  humanDeviceGrant : (humanId deviceNodeId : String) → (now : ℤ) → Result (Option (List String))

structure RegisteredRequest where
  requestId : String
  registered : Bool
  requestHash : String

structure Activation where
  requestId : String
  decisionId : String
  state : AuthorizationState
  activated : Bool
  maxUses : ℕ
  grantExpiresMs : ℤ

structure EffectItem where
  requestId : String
  effectId : String
  idempotencyKey : String
  state : EffectState
  attempts : ℕ
  leaseUntilMs : ℤ
  retryAfterMs : ℤ
  startedMs : ℤ
  updatedMs : ℤ
  completedMs : ℤ
  result : Value
  error : String
  executionToken : String
  acquired : Bool

/-- `_companion_effect_item` of a fetched row. -/
def companionEffectItem (rt : Runtime) (executionToken : String) (acquired : Bool) :
    Option ApprovalEffect → Result EffectItem
  | none => .error (.type "'NoneType' object is not subscriptable")
  | some r => do
    let result ← (r.result.map rt.unpack).getD (.ok .nil)
    return ⟨r.requestId,r.effectId,r.idempotencyKey,r.state,r.attempts,r.leaseUntilMs,
      r.retryAfterMs,r.startedMs,r.updatedMs,r.completedMs,result,r.error,executionToken,acquired⟩

namespace ApprovalEffect

def begun (requestId effectId idempotencyKey owner executionToken : String)
    (leaseUntilMs now : ℤ) : ApprovalEffect :=
  ⟨requestId,effectId,idempotencyKey,.working,owner,executionToken,leaseUntilMs,0,1,now,now,0,
    none,""⟩

def takeOver (owner executionToken : String) (leaseUntilMs now : ℤ) (r : ApprovalEffect) :
    ApprovalEffect :=
  { r with
    state := .working, owner := owner, executionToken := executionToken,
    leaseUntilMs := leaseUntilMs, retryAfterMs := 0, attempts := r.attempts + 1,
    updatedMs := now, error := "" }

def execute (now : ℤ) (result : Option Bytes) (r : ApprovalEffect) : ApprovalEffect :=
  { r with
    state := .executed, owner := "", executionToken := "", leaseUntilMs := 0, retryAfterMs := 0,
    updatedMs := now, completedMs := now, result := result, error := "" }

def retry (retryAfterMs now : ℤ) (error : String) (r : ApprovalEffect) : ApprovalEffect :=
  { r with
    state := .retry, owner := "", executionToken := "", leaseUntilMs := 0,
    retryAfterMs := retryAfterMs, updatedMs := now, result := none, error := error }

def reject (now : ℤ) (error : String) (r : ApprovalEffect) : ApprovalEffect :=
  { r with
    state := .rejected, owner := "", executionToken := "", leaseUntilMs := 0, retryAfterMs := 0,
    updatedMs := now, completedMs := now, result := none, error := error }

/-- The states that count against `max_uses`. -/
def reserved (r : ApprovalEffect) : Prop :=
  r.state = .working ∨ r.state = .retry ∨ r.state = .executed

instance : DecidablePred reserved := fun _ => inferInstanceAs (Decidable (_ ∨ _))

end ApprovalEffect

inductive EffectOutcome | executed | retry | rejected
  deriving DecidableEq

namespace PacketStore

open ApprovalEffect

/-- `_companion_approval_hash`. -/
def companionApprovalHash (rt : Runtime) (fields : Fields) : Result String := do
  let packed ← rt.canonicalPack (.map fields)
  return rt.sha256 packed

/-- `_require_approval_grant`. -/
def requireApprovalGrant (control : ControlStore) (humanId deviceNodeId : String) (now : ℤ) :
    Result Unit := do
  raiseIf (control.isHumanDeviceRevoked humanId deviceNodeId)
    (.permission "approval device is revoked")
  let grant ← match control.humanDeviceGrant humanId deviceNodeId now with
    | .error (.value _) => .error (.permission "approval device grant is not current")
    | r => r
  let capabilities ← fetched grant (.permission "approval device has no current grant")
  raiseIf ("approval.sign" ∉ capabilities)
    (.permission "approval device grant lacks approval.sign")

/-- An insert whose integrity error is reported as a value error. -/
def insertOrConflict {α : Type} (message : String) (t : Option α) : Result α :=
  t.elim (.error (.value message)) .ok

/-- The transaction of `register_companion_approval_request`. -/
def registerApprovalRequest (request : ApprovalRequestBody) (requestHash : String)
    (encoded : Bytes) (now : ℤ) (s : PacketStore) : Result (RegisteredRequest × PacketStore) :=
  match s.approvalRequests.get request.requestId with
  | some existing =>
    if existing.requestHash ≠ requestHash then
      .error (.value "approval request ID conflicts with another body")
    else .ok (⟨request.requestId,false,requestHash⟩,s)
  | none => do
    let requests ← insertOrConflict "approval nonce is already bound to another request"
      (s.approvalRequests.insert ⟨request.requestId,request.humanId,request.deviceNodeId,
        request.nonce,requestHash,encoded,request.createdMs,request.expiresMs,now⟩)
    return (⟨request.requestId,true,requestHash⟩,{ s with approvalRequests := requests })

/-- `register_companion_approval_request`. -/
def registerCompanionApprovalRequest (rt : Runtime) (requestBody : Value) (now : ℤ) :
    PacketStore → Result RegisteredRequest × PacketStore :=
  transaction fun s => do
    let normalized ← validateApprovalRequest rt requestBody
    raiseIf (now + maxClockSkewMs < normalized.createdMs)
      (.value "approval request creation time is too far in the future")
    raiseIf (normalized.expiresMs ≤ now) (.value "approval request expired")
    let requestHash ← companionApprovalHash rt normalized.fields
    let encoded ← rt.pack (.map normalized.fields)
    s.registerApprovalRequest normalized requestHash encoded now

/-- What `activate_companion_approval` has established when its transaction begins. -/
structure PreparedActivation where
  decision : ApprovalDecisionBody
  senderId : String
  requestHash : String
  decisionHash : String

/-- The reads and checks of `activate_companion_approval` before its transaction. -/
def prepareActivation (rt : Runtime) (groupId owner : ConsumerId) (claimToken : Token)
    (control : ControlStore) (now : ℤ) (s : PacketStore) : Result PreparedActivation := do
  let stale := PyError.value "approval claim is stale, expired, or unknown"
  let d ← fetched (s.consumerDeliveries.first fun r =>
      r.leasedBy groupId.val owner.val claimToken.val ∧ (s.inbox.get r.packetId).isSome) stale
  let i ← fetched (s.inbox.get d.packetId) stale
  raiseIf (d.leaseUntilMs ≤ now) stale
  raiseIf (¬ i.trusted) (.permission "approval decision requires a trusted sender")
  raiseIf (i.kind ≠ approvalDecisionKind) (.value "claim does not contain an ApprovalDecision")
  let body ← rt.unpack i.body
  let decision ← validateApprovalDecision rt body
  raiseIf (decision.deviceNodeId ≠ i.senderId)
    (.permission "approval decision device does not match Packet sender")
  raiseIf (decision.expiresMs ≤ now) (.value "approval decision expired")
  let row ← fetched (s.approvalRequests.get decision.requestId)
    (.permission "approval decision has no local request")
  let requestBody ← rt.unpack row.requestBody
  let request ← validateApprovalRequest rt requestBody
  let _ ← validateApprovalDecisionBinding rt (.map request.fields) (.map decision.fields)
  raiseIf (decision.scope.grantExpiresMs ≤ now) (.value "approval grant scope expired")
  requireApprovalGrant control decision.humanId decision.deviceNodeId now
  let decisionHash ← companionApprovalHash rt decision.fields
  return ⟨decision,i.senderId,row.requestHash,decisionHash⟩

def decidedState (decision : ApprovalDecisionBody) : AuthorizationState :=
  if decision.decision = "approved" then .active else .rejected

def decidedUses (decision : ApprovalDecisionBody) : ℕ :=
  if decision.decision = "approved" then decision.scope.maxUses else 0

/-- The row an activation inserts. -/
def decidedRow (p : PreparedActivation) (packetId : String) (now : ℤ) : ApprovalAuthorization :=
  ⟨p.decision.requestId,p.decision.decisionId,packetId,p.decisionHash,p.senderId,
    p.decision.humanId,p.decision.deviceNodeId,p.decision.nonce,p.decision.decision,
    decidedState p.decision,decidedUses p.decision,p.decision.scope.grantExpiresMs,now⟩

/-- The insert of the decision, unless the same decision is already there. -/
def authorize (p : PreparedActivation) (packetId : String) (now : ℤ) (s : PacketStore) :
    Result (Bool × Authorizations) :=
  match s.approvalAuthorizations.get p.decision.requestId with
  | some existing =>
    if existing.decisionHash ≠ p.decisionHash ∨ existing.senderNodeId ≠ p.senderId then
      .error (.value "approval request already has another decision")
    else .ok (false,s.approvalAuthorizations)
  | none => do
    let authorizations ← insertOrConflict "approval decision or nonce is already consumed"
      (s.approvalAuthorizations.insert (decidedRow p packetId now))
    return (true,authorizations)

/-- The transaction of `activate_companion_approval`. -/
def commitActivation (rt : Runtime) (groupId owner : ConsumerId) (claimToken : Token)
    (p : PreparedActivation) (now : ℤ) (s : PacketStore) : Result (Activation × PacketStore) := do
  let claim ← fetched (s.liveClaim groupId.val owner.val claimToken.val now)
    (.value "approval claim changed before activation")
  let i := claim.2
  let body ← rt.unpack i.body
  let live ← validateApprovalDecision rt body
  let liveHash ← companionApprovalHash rt live.fields
  raiseIf (i.senderId ≠ p.senderId ∨ liveHash ≠ p.decisionHash)
    (.value "approval claim changed before activation")
  raiseIf ((s.approvalRequests.get p.decision.requestId).map ApprovalRequest.requestHash ≠
      some p.requestHash)
    (.value "approval request changed before activation")
  let authorized ← s.authorize p i.packetId now
  raiseIf (s.consumerDeliveries.count
      (ConsumerDelivery.leasedBy groupId.val owner.val claimToken.val) ≠ 1)
    (.value "approval claim changed before acknowledgement")
  return (⟨p.decision.requestId,p.decision.decisionId,decidedState p.decision,authorized.1,
      decidedUses p.decision,p.decision.scope.grantExpiresMs⟩,
    { s with
      approvalAuthorizations := authorized.2
      consumerDeliveries := s.consumerDeliveries.ackLeased groupId.val owner.val claimToken.val
        now })

/-- `activate_companion_approval` with no other writer between its reads and its
transaction. -/
def activateCompanionApproval (rt : Runtime) (groupId owner : ConsumerId) (claimToken : Token)
    (control : ControlStore) (now : ℤ) (s : PacketStore) : Result Activation × PacketStore :=
  match s.prepareActivation rt groupId owner claimToken control now with
  | .error e => (.error e,s)
  | .ok p => transaction (commitActivation rt groupId owner claimToken p now) s

def activeAuthorization (s : PacketStore) (requestId : String) : Option ApprovalAuthorization :=
  (s.approvalAuthorizations.get requestId).filter fun a => a.state = .active

/-- The reads and checks of `begin_companion_approval_effect` before its
transaction; the result is the effect's idempotency key. -/
def prepareEffect (rt : Runtime) (requestId effectId : Token) (control : ControlStore) (now : ℤ)
    (s : PacketStore) : Result String := do
  let a ← fetched (s.activeAuthorization requestId.val)
    (.permission "approval request is not active")
  raiseIf (a.grantExpiresMs ≤ now) (.permission "approval authorization expired")
  requireApprovalGrant control a.humanId a.deviceNodeId now
  let packed ← rt.canonicalPack
    (.list [.str "anet.companion.approval-effect.v1",.str requestId.val,.str effectId.val])
  return rt.sha256 packed

/-- The effect row a transaction reports, with its token and whether it was acquired. -/
structure EffectOutcomeRow where
  row : Option ApprovalEffect
  executionToken : String
  acquired : Bool

def EffectOutcomeRow.item (rt : Runtime) (o : EffectOutcomeRow) : Result EffectItem :=
  companionEffectItem rt o.executionToken o.acquired o.row

/-- The transaction of `begin_companion_approval_effect`. -/
def acquireEffect (requestId effectId : Token) (effectKey : String) (owner : ConsumerId)
    (executionToken : Token) (lease : LeaseMs) (now : ℤ) (s : PacketStore) :
    Result (EffectOutcomeRow × PacketStore) := do
  let expired := PyError.permission "approval authorization expired"
  let a ← fetched (s.activeAuthorization requestId.val) expired
  raiseIf (a.grantExpiresMs ≤ now) expired
  match s.approvalEffects.get (requestId.val,effectId.val) with
  | some e =>
    if e.state = .executed ∨ e.state = .rejected then
      return (⟨some e,"",false⟩,s)
    else if e.state = .working ∧ now < e.leaseUntilMs then
      if e.owner ≠ owner.val then
        throw (.value "approval effect is leased by another worker")
      else return (⟨some e,e.executionToken,false⟩,s)
    else if e.state = .retry ∧ now < e.retryAfterMs then
      throw (.value "approval effect retry is not due")
    else
      let effects ← integrity (s.approvalEffects.assign (requestId.val,effectId.val)
        (takeOver owner.val executionToken.val (now + lease.val) now) (fun _ => rfl))
      return (⟨effects.get (requestId.val,effectId.val),executionToken.val,true⟩,
        { s with approvalEffects := effects })
  | none =>
    raiseIf (a.maxUses ≤ s.approvalEffects.count fun e => e.requestId = requestId.val ∧ e.reserved)
      (.permission "approval use limit exhausted")
    let effects ← integrity (s.approvalEffects.insert (begun requestId.val effectId.val effectKey
      owner.val executionToken.val (now + lease.val) now))
    return (⟨effects.get (requestId.val,effectId.val),executionToken.val,true⟩,
      { s with approvalEffects := effects })

/-- `begin_companion_approval_effect` with no other writer between its reads and
its transaction. -/
def beginCompanionApprovalEffect (rt : Runtime) (requestId effectId : Token) (owner : ConsumerId)
    (control : ControlStore) (executionToken : Token) (lease : LeaseMs) (now : ℤ)
    (s : PacketStore) : Result EffectItem × PacketStore :=
  match s.prepareEffect rt requestId effectId control now with
  | .error e => (.error e,s)
  | .ok effectKey =>
    afterCommit (EffectOutcomeRow.item rt)
      (transaction (acquireEffect requestId effectId effectKey owner executionToken lease now) s)

def effectOutcome (outcome : String) : Result EffectOutcome :=
  match lower (strip outcome) with
  | "executed" => .ok .executed
  | "retry" => .ok .retry
  | "rejected" => .ok .rejected
  | _ => .error (.value "invalid approval effect outcome")

/-- The checks `settle_companion_approval_effect` makes on its arguments. -/
def effectArguments (rt : Runtime) (outcome : String) (result : Option Value) (error : String) :
    Result (EffectOutcome × Option Bytes × String) := do
  let outcome ← effectOutcome outcome
  let error := strip error
  raiseIf (outcome = .executed ∧ error ≠ "")
    (.value "executed approval effect cannot contain an error")
  raiseIf (outcome = .rejected ∧ error = "") (.value "rejected approval effect requires an error")
  let encoded ← match result with
    | none => pure none
    | some r => (rt.pack r).map some
  raiseIf (maxWireBytes < (encoded.getD []).length) (.value "approval effect result is too large")
  return (outcome,encoded,error)

/-- The row a settlement leaves. -/
def settledEffect (outcome : EffectOutcome) (result : Option Bytes) (error : String)
    (retryMs now : ℤ) (r : ApprovalEffect) : ApprovalEffect :=
  match outcome with
  | .executed => execute now result r
  | .retry => retry (now + retryMs) now (cut 1000 error) r
  | .rejected => reject now (cut 1000 error) r

/-- The transaction of `settle_companion_approval_effect`. -/
def settleEffect (requestId effectId executionToken : Token) (outcome : EffectOutcome)
    (result : Option Bytes) (error : String) (retryMs now : ℤ) (s : PacketStore) :
    Result (EffectOutcomeRow × PacketStore) := do
  let key := (requestId.val,effectId.val)
  let _ ← fetched ((s.approvalEffects.get key).filter fun e =>
      e.executionToken = executionToken.val ∧ e.state = .working)
    (.value "approval execution token is stale or fenced")
  let effects := s.approvalEffects.update (fun e => e.key = key)
    (settledEffect outcome result error retryMs now)
    (fun e => by cases outcome <;> rfl)
    (fun e => by cases outcome <;> simp [settledEffect,execute,retry,reject,marks])
  return (⟨effects.get key,"",false⟩,{ s with approvalEffects := effects })

/-- `settle_companion_approval_effect`. -/
def settleCompanionApprovalEffect (rt : Runtime) (requestId effectId executionToken : Token)
    (outcome : String) (result : Option Value) (error : String) (retry : RetryMs) (now : ℤ)
    (s : PacketStore) : Result EffectItem × PacketStore :=
  match effectArguments rt outcome result error with
  | .error e => (.error e,s)
  | .ok (outcome,encoded,error) =>
    afterCommit (EffectOutcomeRow.item rt)
      (transaction (settleEffect requestId effectId executionToken outcome encoded error retry.val
        now) s)

section Specs

variable {s s' : PacketStore} {now : ℤ}

theorem insertOrConflict_ok {α : Type} {message : String} {t : Option α} {a : α} :
    insertOrConflict message t = .ok a ↔ t = some a := by
  cases t <;> simp [insertOrConflict]

theorem registerApprovalRequest_cases {request : ApprovalRequestBody} {requestHash : String}
    {encoded : Bytes} {r : RegisteredRequest}
    (h : registerApprovalRequest request requestHash encoded now s = .ok (r,s')) :
    ∃ requests, s' = { s with approvalRequests := requests } := by
  unfold registerApprovalRequest at h
  split at h
  · split at h
    · cases h
    · cases h
      exact ⟨s.approvalRequests,rfl⟩
  · obtain ⟨requests,-,hrest⟩ := bind_ok.mp h
    cases hrest
    exact ⟨requests,rfl⟩

theorem authorize_cases {p : PreparedActivation} {packetId : String} {r : Bool × Authorizations}
    (h : s.authorize p packetId now = .ok r) : r.2 = s.approvalAuthorizations ∨
      s.approvalAuthorizations.insert (decidedRow p packetId now) = some r.2 := by
  unfold authorize at h
  split at h
  · split at h
    · cases h
    · cases h
      exact Or.inl rfl
  · obtain ⟨authorizations,hins,hrest⟩ := bind_ok.mp h
    cases hrest
    exact Or.inr (insertOrConflict_ok.mp hins)

/-- An activation acknowledges its claim and inserts one authorization at most. -/
theorem commitActivation_cases {rt : Runtime} {groupId owner : ConsumerId} {claimToken : Token}
    {p : PreparedActivation} {a : Activation}
    (h : commitActivation rt groupId owner claimToken p now s = .ok (a,s')) :
    ∃ r i body live authorizations,
      s.liveClaim groupId.val owner.val claimToken.val now = some (r,i) ∧
      rt.unpack i.body = .ok body ∧ validateApprovalDecision rt body = .ok live ∧
      s' = { s with
        approvalAuthorizations := authorizations
        consumerDeliveries := s.consumerDeliveries.ackLeased groupId.val owner.val claimToken.val
          now } ∧
      (authorizations = s.approvalAuthorizations ∨
        s.approvalAuthorizations.insert (decidedRow p i.packetId now) = some authorizations) := by
  unfold commitActivation at h
  simp only [bind_ok,fetched_ok,raiseIf_ok] at h
  obtain ⟨⟨r,i⟩,hclaim,body,hbody,live,hlive,-,-,-,-,-,-,authorized,hauth,-,-,hrest⟩ := h
  cases hrest
  exact ⟨r,i,body,live,authorized.2,hclaim,hbody,hlive,rfl,authorize_cases hauth⟩

/-- An effect is acquired under an unexpired active authorization only: it was
waiting or its lease ran out, or it is new and a use is left. -/
theorem acquireEffect_cases {requestId effectId : Token} {effectKey : String} {owner : ConsumerId}
    {executionToken : Token} {lease : LeaseMs} {o : EffectOutcomeRow}
    (h : acquireEffect requestId effectId effectKey owner executionToken lease now s = .ok (o,s')) :
    ∃ a, s.approvalAuthorizations.get requestId.val = some a ∧ a.state = .active ∧
      now < a.grantExpiresMs ∧
      ((s' = s ∧ o.acquired = false) ∨
        (∃ e effects, s.approvalEffects.get (requestId.val,effectId.val) = some e ∧
          (e.state = .working ∨ e.state = .retry) ∧
          s.approvalEffects.assign (requestId.val,effectId.val)
            (takeOver owner.val executionToken.val (now + lease.val) now) (fun _ => rfl) =
              some effects ∧
          s' = { s with approvalEffects := effects }) ∨
        (∃ effects, s.approvalEffects.get (requestId.val,effectId.val) = none ∧
          s.approvalEffects.count (fun e => e.requestId = requestId.val ∧ e.reserved) < a.maxUses ∧
          s.approvalEffects.insert (begun requestId.val effectId.val effectKey owner.val
            executionToken.val (now + lease.val) now) = some effects ∧
          s' = { s with approvalEffects := effects })) := by
  unfold acquireEffect at h
  simp only [bind_ok,fetched_ok,raiseIf_ok,activeAuthorization,Option.filter_eq_some_iff,
    decide_eq_true_eq] at h
  obtain ⟨a,⟨ha,hactive⟩,-,hexp,h⟩ := h
  refine ⟨a,ha,hactive,not_le.mp hexp,?_⟩
  split at h
  · rename_i e he
    split at h
    · cases h
      exact Or.inl ⟨rfl,rfl⟩
    split at h
    · split at h
      · cases h
      · cases h
        exact Or.inl ⟨rfl,rfl⟩
    split at h
    · cases h
    rename_i hdone hlive hdue
    obtain ⟨effects,heffects,hrest⟩ := bind_ok.mp h
    cases hrest
    refine Or.inr (Or.inl ⟨e,effects,he,?_,integrity_ok.mp heffects,rfl⟩)
    cases hs : e.state <;> simp_all
  · rename_i he
    simp only [bind_ok,raiseIf_ok] at h
    obtain ⟨-,hused,effects,heffects,hrest⟩ := h
    cases hrest
    exact Or.inr (Or.inr ⟨effects,he,not_le.mp hused,integrity_ok.mp heffects,rfl⟩)

/-- A settlement found the effect working under its token and rewrites that row only. -/
theorem settleEffect_cases {requestId effectId executionToken : Token} {outcome : EffectOutcome}
    {result : Option Bytes} {error : String} {retryMs : ℤ} {o : EffectOutcomeRow}
    (h : settleEffect requestId effectId executionToken outcome result error retryMs now s =
      .ok (o,s')) :
    ∃ e effects, s.approvalEffects.get (requestId.val,effectId.val) = some e ∧
      e.executionToken = executionToken.val ∧ e.state = .working ∧
      s' = { s with approvalEffects := effects } ∧
      (∀ k, effects.get k = if k = (requestId.val,effectId.val) then
        some (settledEffect outcome result error retryMs now e) else s.approvalEffects.get k) ∧
      ∀ requestId', effects.count (fun e => e.requestId = requestId' ∧ e.reserved) ≤
        s.approvalEffects.count (fun e => e.requestId = requestId' ∧ e.reserved) := by
  unfold settleEffect at h
  simp only [bind_ok,fetched_ok,Option.filter_eq_some_iff,decide_eq_true_eq] at h
  obtain ⟨e,⟨he,htoken,hstate⟩,hrest⟩ := h
  cases hrest
  refine ⟨e,_,he,htoken,hstate,rfl,?_,?_⟩
  · intro k
    rw [Table.get_update]
    by_cases hk : k = (requestId.val,effectId.val)
    · subst hk
      simp [he,Table.get_key he]
    · rw [if_neg hk]
      cases hg : s.approvalEffects.get k with
      | none => rfl
      | some e' => simp [Table.get_key hg,hk]
  · intro requestId'
    apply Table.count_update_le
    intro r hr hkey hres
    have hre : r = e := by
      have := Table.mem_rows.mp hr
      rw [hkey,he] at this
      exact (Option.some.inj this).symm
    subst hre
    refine ⟨?_,Or.inl hstate⟩
    cases outcome <;> exact hres.1

end Specs

end PacketStore
end Anet
