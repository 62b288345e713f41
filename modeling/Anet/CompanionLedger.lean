import Anet.CompanionMessages
import Anet.MsgPack
import Anet.Table
import Anet.Transition

/-! The companion's ledger on the phone: consent grants, the encrypted outbox and
the interventions, with every operation as one transaction over the three tables.
The claim tokens stand under a unique index, the empty token among them. -/
namespace Anet

variable {κ ρ ι : Type*}

namespace Table

variable {key : ρ → κ} {marks : ρ → List ι}

/-- `UPDATE ... SET f WHERE p`, for an `f` that may enter unique indexes; `none` is an
integrity error. -/
def alter [DecidableEq ι] (t : Table key marks) (p : ρ → Prop) [DecidablePred p] (f : ρ → ρ)
    (hkey : ∀ r, key (f r) = key r) : Option (Table key marks) :=
  if h : (t.rows.map fun r => if p r then f r else r).Pairwise
      (fun r r' => ∀ m ∈ marks r, m ∉ marks r') then
    some
      { rows := t.rows.map fun r => if p r then f r else r
        keys := t.changed_keys p f hkey
        unique := h.imp fun hd m ha hb => hd m ha hb }
  else none

theorem get_alter [DecidableEq κ] [DecidableEq ι] {t t' : Table key marks} {p : ρ → Prop}
    [DecidablePred p] {f : ρ → ρ} {hkey : ∀ r, key (f r) = key r}
    (h : t.alter p f hkey = some t') (k : κ) :
    t'.get k = (t.get k).map fun r => if p r then f r else r := by
  unfold alter at h
  split at h
  · obtain rfl := Option.some.inj h
    simp only [get,List.find?_map]
    congr 2
    funext r
    by_cases hp : p r <;> simp [hp,hkey]
  · cases h

theorem alter_single [DecidableEq ι] {t : Table key marks} {p : ρ → Prop} [DecidablePred p]
    {f : ρ → ρ} {hkey : ∀ r, key (f r) = key r} {r' : ρ}
    (h : (t.rows.map fun r => if p r then f r else r) = [r']) :
    ∃ t', t.alter p f hkey = some t' ∧ t'.rows = [r'] := by
  have hp : (t.rows.map fun r => if p r then f r else r).Pairwise
      (fun r r' => ∀ m ∈ marks r, m ∉ marks r') := by
    rw [h]
    exact List.pairwise_singleton _ _
  exact ⟨_,dif_pos hp,h⟩

theorem assign_single [DecidableEq κ] [DecidableEq ι] {t : Table key marks} {k : κ} {f : ρ → ρ}
    {hkey : ∀ r, key (f r) = key r} {r' : ρ}
    (h : (t.rows.map fun r => if key r = k then f r else r) = [r']) :
    ∃ t', t.assign k f hkey = some t' ∧ t'.rows = [r'] := by
  have hp : (t.rows.map fun r => if key r = k then f r else r).Pairwise
      (fun r r' => ∀ m ∈ marks r, m ∉ marks r') := by
    rw [h]
    exact List.pairwise_singleton _ _
  exact ⟨_,dif_pos hp,h⟩

end Table

structure EncryptedPayload where
  ciphertext : Bytes
  iv : Bytes
  deriving DecidableEq

/-- What the ledger takes from its platform: the JSON reader and writer, `toDouble`, SHA-256
in hexadecimal, and the payload cipher with the randomness of its IV made explicit. -/
structure CompanionPlatform where
  parseToJsonElement : String → Option Value
  render : Value → String
  toDouble : ℤ → UInt64
  sha256 : Bytes → String
  encrypt : (random plaintext aad : Bytes) → EncryptedPayload
  decrypt : EncryptedPayload → (aad : Bytes) → Option Bytes

/-- Authenticated decryption gives back what was encrypted under the same data. -/
structure CompanionPlatform.Opens (lib : CompanionPlatform) : Prop where
  decrypt_encrypt : ∀ random plaintext aad,
    lib.decrypt (lib.encrypt random plaintext aad) aad = some plaintext

inductive ConsentState
  | active | withdrawn
  deriving DecidableEq

structure ConsentGrantRow where
  grantId : String
  scopes : List String
  createdMs : ℤ
  expiresMs : ℤ
  state : ConsentState
  withdrawnMs : ℤ

inductive OutboundState
  | pending | leased | retry | sent
  deriving DecidableEq

structure OutboundRow where
  semanticId : String
  kind : String
  bodyHash : String
  payload : EncryptedPayload
  aad : Bytes
  createdMs : ℤ
  expiresMs : ℤ
  consentGrantId : String
  state : OutboundState
  owner : String
  claimToken : String
  leaseUntilMs : ℤ
  retryAfterMs : ℤ
  attempts : ℕ
  updatedMs : ℤ

inductive InterventionState
  | received | presented | responded
  deriving DecidableEq

structure InterventionRow where
  interventionId : String
  dedupeKey : String
  bodyHash : String
  payload : EncryptedPayload
  aad : Bytes
  humanId : String
  targetDeviceId : String
  createdMs : ℤ
  expiresMs : ℤ
  state : InterventionState
  responseId : String
  receivedMs : ℤ
  updatedMs : ℤ

/-- `Index(value = ["claimToken"], unique = true)`. -/
def outboundMarks (r : OutboundRow) : List String := [r.claimToken]

def interventionMarks (r : InterventionRow) : List String := [r.dedupeKey]

def ConsentGrantRow.withdrawn (withdrawnMs : ℤ) (r : ConsentGrantRow) : ConsentGrantRow :=
  { r with state := .withdrawn, withdrawnMs }

def OutboundRow.recovered (nowMs : ℤ) (r : OutboundRow) : OutboundRow :=
  { r with state := .pending, owner := "", claimToken := "", leaseUntilMs := 0, updatedMs := nowMs }

def OutboundRow.lease (owner claimToken : String) (leaseUntilMs nowMs : ℤ) (r : OutboundRow) :
    OutboundRow :=
  { r with state := .leased, owner, claimToken, leaseUntilMs, attempts := r.attempts + 1,
           updatedMs := nowMs }

def OutboundRow.settled (sent : Bool) (nowMs retryAfterMs : ℤ) (r : OutboundRow) : OutboundRow :=
  { r with state := if sent then .sent else .retry, owner := "", claimToken := "",
           leaseUntilMs := 0, retryAfterMs := if sent then 0 else retryAfterMs, updatedMs := nowMs }

def InterventionRow.shown (nowMs : ℤ) (r : InterventionRow) : InterventionRow :=
  { r with state := .presented, updatedMs := nowMs }

def InterventionRow.answered (responseId : String) (nowMs : ℤ) (r : InterventionRow) :
    InterventionRow :=
  { r with state := .responded, responseId, updatedMs := nowMs }

/-- What `recordUserResponse` knows of the response before it looks at the outbox. -/
structure UserResponse where
  interventionId : String
  actionId : String
  responseId : String

structure CompanionState where
  consents : Table ConsentGrantRow.grantId noMarks
  outbox : Table OutboundRow.semanticId outboundMarks
  interventions : Table InterventionRow.interventionId interventionMarks

def CompanionState.empty : CompanionState := ⟨.empty,.empty,.empty⟩

structure OutboundClaim where
  semanticId : String
  kind : String
  claimToken : String
  body : String
  expiresMs : ℤ
  attempts : ℕ
  deriving DecidableEq

namespace CompanionState

open MobileProtocol (Fields trim trimLower)

def userOptInScopes : List String := ["human.presence","device.app-category-window"]
def maxConsentTtlMs : ℤ := 365 * 24 * 60 * 60 * 1000
def maxRetryMs : ℤ := 24 * 60 * 60 * 1000

/-- `require(c) { message }`. -/
def require (c : Prop) [Decidable c] (message : String) : MobileResult Unit :=
  if c then .ok () else .error (.illegalArgument message)

/-- `requireNotNull`, and `?: throw e`. -/
def orThrow {α : Type} (x : Option α) (e : MobileError) : MobileResult α := x.elim (.error e) .ok

def localIdentifier (value name : String) : MobileResult String :=
  if isHex 32 (trimLower value) then .ok (trimLower value)
  else .error (.illegalArgument s!"{name} must be 32 lowercase hexadecimal characters")

def isWorkerStart (c : Char) : Bool := isAlpha c || isDigit c

def workerName (value : String) : MobileResult String :=
  if matchesWord isWorkerStart
      (fun c => isWorkerStart c || c = '_' || c = '.' || c = '-') 127 (trim value)
  then .ok (trim value)
  else .error (.illegalArgument "invalid worker name")

/-- `requireNotNull(this[name]).jsonPrimitive.content` of a text. -/
def content (body : Fields) (name : String) : MobileResult String :=
  match Value.field body name with
  | some (.str s) => .ok s
  | _ => .error (.illegalArgument "Required value was null.")

def contentLong (body : Fields) (name : String) : MobileResult ℤ :=
  match Value.field body name with
  | some (.int i) => .ok i
  | _ => .error (.illegalArgument "Required value was null.")

variable (lib : CompanionPlatform)

def canonicalJson (body : Fields) : String := lib.render (MobileProtocol.canonical (.map body))

def bodyHash (body : Fields) : String := lib.sha256 (utf8 (canonicalJson lib body))

def aad (recordType semanticId kind : String) (createdMs expiresMs : ℤ) : Bytes :=
  utf8 ("\x00".intercalate ["anet.companion.local.v1",recordType,semanticId,kind,
    toString createdMs,toString expiresMs])

def semanticIdField (kind : String) : MobileResult String :=
  if kind = MobileProtocol.observationBatch then .ok "batch_id"
  else if kind = MobileProtocol.episode then .ok "episode_id"
  else if kind = MobileProtocol.intervention then .ok "intervention_id"
  else if kind = MobileProtocol.userResponse then .ok "response_id"
  else if kind = MobileProtocol.approvalRequest then .ok "request_id"
  else if kind = MobileProtocol.approvalDecision then .ok "decision_id"
  else .error (.illegalArgument "unsupported Companion kind")

def semanticId (kind : String) (body : Fields) : MobileResult String := do
  content body (← semanticIdField kind)

def parse (encodedBody : String) : MobileResult Value :=
  orThrow (lib.parseToJsonElement encodedBody) .serialization

section Consent

def installConsent (grantId : String) (scopes : List String) (expiresMs nowMs : ℤ)
    (s : CompanionState) : MobileResult (Bool × CompanionState) := do
  let normalizedId ← localIdentifier grantId "consent grant ID"
  require (nowMs < expiresMs) "consent grant must expire in the future"
  require (expiresMs - nowMs ≤ maxConsentTtlMs) "consent grant lifetime exceeds local limit"
  let normalizedScopes := sortedStrings (scopes.map trimLower).dedup
  require (normalizedScopes ≠ []) "consent scope is empty"
  require (∀ x ∈ normalizedScopes, x ∈ userOptInScopes) "consent contains an unsupported P0 scope"
  match s.consents.get normalizedId with
  | some existing => do
    require (existing.scopes = normalizedScopes ∧ existing.expiresMs = expiresMs ∧
      existing.state = .active) "consent grant ID conflicts with existing state"
    return (false,s)
  | none => do
    let consents ← orThrow (s.consents.insert
      ⟨normalizedId,normalizedScopes,nowMs,expiresMs,.active,0⟩) .constraint
    return (true,{ s with consents })

/-- `state IN ('pending', 'leased', 'retry')` for rows of one grant. -/
def unsentFor (grantId : String) (r : OutboundRow) : Prop :=
  r.consentGrantId = grantId ∧ r.state ≠ .sent

instance (grantId : String) : DecidablePred (unsentFor grantId) := fun _ => by
  unfold unsentFor
  infer_instance

def withdrawConsent (grantId : String) (nowMs : ℤ) (s : CompanionState) :
    MobileResult (ℕ × CompanionState) := do
  let normalizedId ← localIdentifier grantId "consent grant ID"
  let existing ← orThrow (s.consents.get normalizedId) (.illegalArgument "unknown consent grant")
  if existing.state = .active then
    let consents := s.consents.update (fun r => r.grantId = normalizedId)
      (ConsentGrantRow.withdrawn nowMs) (fun _ => rfl) (noMarks_subset _)
    return (s.outbox.count (unsentFor normalizedId),
      { s with consents, outbox := s.outbox.delete (unsentFor normalizedId) })
  require (existing.state = .withdrawn) "consent grant is not active"
  return (0,s)

/-- `requireLocalConsent`: the grant a message is queued under, or the empty text. -/
def requireLocalConsent (kind : String) (body : Fields) (nowMs : ℤ) (userInitiated : Bool)
    (s : CompanionState) : MobileResult String :=
  if kind ≠ MobileProtocol.observationBatch ∧ kind ≠ MobileProtocol.episode then .ok ""
  else do
    let consent ← match Value.field body "consent" with
      | some (.map entries) => .ok entries
      | _ => .error (.illegalArgument "Required value was null.")
    let basis ← content consent "basis"
    if basis = "device-essential" then return ""
    else if basis = "user-initiated" then
      require userInitiated "user-initiated observation requires a local user action"
      return ""
    else if basis = "user-opt-in" then
      let grantId ← content consent "grant_id"
      let grant ← orThrow (s.consents.get grantId) (.security "local consent grant is missing")
      require (grant.state = .active ∧ nowMs < grant.expiresMs) "local consent grant is not active"
      let messageScopes ← match Value.field consent "scope" with
        | some (.list items) => .ok items
        | _ => .error (.illegalArgument "Required value was null.")
      require (∀ v ∈ messageScopes, MobileProtocol.keyText v ∈ grant.scopes)
        "message scope exceeds local consent"
      return grantId
    else throw (.security "unsupported local consent basis")

end Consent

section Outbox

def queueValidated (kind : String) (normalized : Fields) (nowMs : ℤ) (userInitiated : Bool)
    (random : Bytes) (s : CompanionState) : MobileResult (Bool × CompanionState) := do
  let semanticId ← semanticId kind normalized
  let consentGrantId ← requireLocalConsent kind normalized nowMs userInitiated s
  match s.outbox.get semanticId with
  | some existing => do
    require (existing.kind = kind ∧ existing.bodyHash = bodyHash lib normalized)
      "semantic ID conflicts with another outbound body"
    return (false,s)
  | none => do
    let createdMs ← contentLong normalized "created_ms"
    let expiresMs ← contentLong normalized "expires_ms"
    let aad := aad "outbox" semanticId kind createdMs expiresMs
    let outbox ← orThrow (s.outbox.insert
      ⟨semanticId,kind,bodyHash lib normalized,
        lib.encrypt random (utf8 (canonicalJson lib normalized)) aad,aad,createdMs,expiresMs,
        consentGrantId,.pending,"","",0,0,0,nowMs⟩) .constraint
    return (true,{ s with outbox })

/-- What a call of `queueOutbound` validates: the normalized message. -/
def outbound (kind encodedBody senderNodeId destinationNodeId : String) (nowMs : ℤ) :
    MobileResult Fields := do
  MobileProtocol.validateEndpointBinding lib.toDouble kind (← parse lib encodedBody)
    senderNodeId destinationNodeId nowMs

def queueOutbound (kind encodedBody senderNodeId destinationNodeId : String) (nowMs : ℤ)
    (userInitiated : Bool) (random : Bytes) (s : CompanionState) :
    MobileResult (Bool × CompanionState) := do
  let normalized ← outbound lib kind encodedBody senderNodeId destinationNodeId nowMs
  queueValidated lib (trimLower kind) normalized nowMs userInitiated random s

/-- `state IN ('pending', 'retry') AND retryAfterMs <= now AND expiresMs > now`. -/
def ready (nowMs : ℤ) (r : OutboundRow) : Prop :=
  (r.state = .pending ∨ r.state = .retry) ∧ r.retryAfterMs ≤ nowMs ∧ nowMs < r.expiresMs

instance (nowMs : ℤ) : DecidablePred (ready nowMs) := fun _ => by
  unfold ready
  infer_instance

def claimedFirst (r r' : OutboundRow) : Prop :=
  r.createdMs < r'.createdMs ∨ (r.createdMs = r'.createdMs ∧ r.semanticId ≤ r'.semanticId)

instance : DecidableRel claimedFirst := fun _ _ => by
  unfold claimedFirst
  infer_instance

def readyOutboxIds (nowMs : ℤ) (limit : ℕ)
    (outbox : Table OutboundRow.semanticId outboundMarks) : List String :=
  (((outbox.select (ready nowMs)).insertionSort claimedFirst).take limit).map
    OutboundRow.semanticId

def leasedUnder (claimToken : String) (r : OutboundRow) : Prop :=
  r.claimToken = claimToken ∧ r.state = .leased

instance (claimToken : String) : DecidablePred (leasedUnder claimToken) := fun _ => by
  unfold leasedUnder
  infer_instance

/-- `deleteExpiredOutbox` and `recoverExpiredLeases`. -/
def recover (nowMs : ℤ) (outbox : Table OutboundRow.semanticId outboundMarks) :
    MobileResult (Table OutboundRow.semanticId outboundMarks) :=
  orThrow ((outbox.delete fun r => r.expiresMs ≤ nowMs ∧ r.state ≠ .sent).alter
    (fun r => r.state = .leased ∧ r.leaseUntilMs ≤ nowMs) (OutboundRow.recovered nowMs)
    (fun _ => rfl)) .constraint

/-- One turn of the loop: the lease of a row, and the claim read back from it. -/
def claimRow (owner token : String) (leaseMs nowMs : ℤ) (id : String)
    (outbox : Table OutboundRow.semanticId outboundMarks) :
    MobileResult (Option OutboundClaim × Table OutboundRow.semanticId outboundMarks) :=
  match outbox.get id with
  | none => .ok (none,outbox)
  | some existing =>
    if ready nowMs existing then do
      let leased ← orThrow (outbox.assign id
        (OutboundRow.lease owner token (nowMs + leaseMs) nowMs) (fun _ => rfl)) .constraint
      let row ← orThrow (leased.first (leasedUnder token))
        (.illegalArgument "Required value was null.")
      let plaintext ← orThrow (lib.decrypt row.payload row.aad) .badTag
      let body ← orThrow (utf8Text plaintext) .badTag
      return (some ⟨row.semanticId,row.kind,token,body,row.expiresMs,row.attempts⟩,leased)
    else .ok (none,outbox)

/-- The loop, with the identifiers it draws. -/
def claimRows (owner : String) (draw : ℕ → String) (leaseMs nowMs : ℤ) :
    List String → ℕ → Table OutboundRow.semanticId outboundMarks →
      MobileResult (List OutboundClaim × Table OutboundRow.semanticId outboundMarks)
  | [],_,outbox => .ok ([],outbox)
  | id :: ids,n,outbox => do
    let claimed ← claimRow lib owner (draw n) leaseMs nowMs id outbox
    let rest ← claimRows owner draw leaseMs nowMs ids (n + 1) claimed.2
    return (claimed.1.toList ++ rest.1,rest.2)

def claimOutbound (owner : String) (limit leaseMs nowMs : ℤ) (draw : ℕ → String)
    (s : CompanionState) : MobileResult (List OutboundClaim × CompanionState) := do
  let normalizedOwner ← workerName owner
  require (1 ≤ limit ∧ limit ≤ 100) "claim limit must be between 1 and 100"
  require (5000 ≤ leaseMs ∧ leaseMs ≤ 86400000) "claim lease is outside the allowed range"
  let outbox ← recover nowMs s.outbox
  let (result,outbox) ← claimRows lib normalizedOwner draw leaseMs nowMs
    (readyOutboxIds nowMs limit.toNat outbox) 0 outbox
  return (result,{ s with outbox })

def settleOutbound (claimToken : String) (sent : Bool) (nowMs retryAfterMs : ℤ)
    (s : CompanionState) : MobileResult (Unit × CompanionState) := do
  let normalizedToken ← localIdentifier claimToken "claim token"
  require (sent = true ∨ (nowMs ≤ retryAfterMs ∧ retryAfterMs ≤ nowMs + maxRetryMs))
    "retry time is outside the allowed range"
  let row ← orThrow (s.outbox.first (leasedUnder normalizedToken))
    (.illegalArgument "outbox claim is stale or fenced")
  let outbox ← orThrow (s.outbox.assign row.semanticId
    (OutboundRow.settled sent nowMs retryAfterMs) (fun _ => rfl)) .constraint
  return ((),{ s with outbox })

end Outbox

section Interventions

def acceptIntervention (encodedBody senderNodeId localDeviceNodeId localHumanId : String)
    (nowMs : ℤ) (random : Bytes) (s : CompanionState) : MobileResult (Bool × CompanionState) := do
  let normalized ← MobileProtocol.validateEndpointBinding lib.toDouble
    MobileProtocol.intervention (← parse lib encodedBody) senderNodeId localDeviceNodeId nowMs
  require ((← content normalized "human_id") = localHumanId)
    "intervention human does not match local principal"
  let interventionId ← content normalized "intervention_id"
  let dedupeKey ← content normalized "dedupe_key"
  match (s.interventions.get interventionId).or
      (s.interventions.first fun r => r.dedupeKey = dedupeKey) with
  | some existing => do
    require (existing.interventionId = interventionId ∧ existing.dedupeKey = dedupeKey ∧
      existing.bodyHash = bodyHash lib normalized)
      "intervention ID or dedupe key conflicts with another body"
    return (false,s)
  | none => do
    let createdMs ← contentLong normalized "created_ms"
    let expiresMs ← contentLong normalized "expires_ms"
    let aad := aad "intervention" interventionId MobileProtocol.intervention createdMs expiresMs
    let humanId ← content normalized "human_id"
    let targetDeviceId ← content normalized "target_device_id"
    let interventions ← orThrow (s.interventions.insert
      ⟨interventionId,dedupeKey,bodyHash lib normalized,
        lib.encrypt random (utf8 (canonicalJson lib normalized)) aad,aad,humanId,targetDeviceId,
        createdMs,expiresMs,.received,"",nowMs,nowMs⟩) .constraint
    return (true,{ s with interventions })

def markInterventionPresented (interventionId : String) (nowMs : ℤ) (s : CompanionState) :
    MobileResult (Bool × CompanionState) := do
  let normalizedId ← localIdentifier interventionId "intervention ID"
  let existing ← orThrow (s.interventions.get normalizedId)
    (.illegalArgument "unknown intervention")
  if existing.state = .received then
    return (true,{ s with
      interventions := s.interventions.update (fun r => r.interventionId = normalizedId)
        (InterventionRow.shown nowMs) (fun _ => rfl) (fun _ => List.Subset.refl _) })
  require (existing.state = .presented ∨ existing.state = .responded)
    "intervention cannot be presented"
  return (false,s)

/-- `decryptIntervention`. -/
def decryptIntervention (row : InterventionRow) : MobileResult Fields := do
  let plaintext ← orThrow (lib.decrypt row.payload row.aad) .badTag
  let encoded ← orThrow (utf8Text plaintext) .badTag
  MobileProtocol.validate lib.toDouble MobileProtocol.intervention (← parse lib encoded)

/-- The actions the response options of an intervention offer. -/
def offeredActions (intervention : Fields) : MobileResult (List String) := do
  let options ← match Value.field intervention "response_options" with
    | some (.list items) => .ok items
    | _ => .error (.illegalArgument "Required value was null.")
  options.mapM fun v => match v with
    | .map entries => content entries "action_id"
    | _ => .error (.illegalArgument "Required value was null.")

def requireOffered (intervention : Fields) (actionId : String) : MobileResult Unit :=
  if actionId = "" then .ok ()
  else do
    let allowed ← offeredActions intervention
    require (actionId ∈ allowed) "response action is not offered by the intervention"

/-- The checks of a response against the intervention it answers. -/
def checkResponse (normalized : Fields) (localDeviceNodeId localHumanId : String)
    (s : CompanionState) : MobileResult (UserResponse × InterventionRow) := do
  require ((← content normalized "human_id") = localHumanId)
    "response human does not match local principal"
  let interventionId ← content normalized "intervention_id"
  let row ← orThrow (s.interventions.get interventionId)
    (.illegalArgument "response has no local intervention")
  require (row.humanId = localHumanId) "response human does not match intervention"
  require (row.targetDeviceId = localDeviceNodeId) "response device does not match intervention"
  let intervention ← decryptIntervention lib row
  let actionId ← content normalized "action_id"
  requireOffered intervention actionId
  let responseId ← content normalized "response_id"
  return (⟨interventionId,actionId,responseId⟩,row)

def recordUserResponse (encodedBody localDeviceNodeId destinationNodeId localHumanId : String)
    (nowMs : ℤ) (random : Bytes) (s : CompanionState) :
    MobileResult ((Bool × UserResponse) × CompanionState) := do
  let normalized ← outbound lib MobileProtocol.userResponse encodedBody localDeviceNodeId
    destinationNodeId nowMs
  let (response,row) ← checkResponse lib normalized localDeviceNodeId localHumanId s
  if row.responseId ≠ "" then
    require (row.responseId = response.responseId) "intervention already has another response"
    let existing ← orThrow (s.outbox.get response.responseId)
      (.illegalState "response ledger is incomplete")
    require (existing.bodyHash = bodyHash lib normalized) "response ID conflicts with another body"
    return ((false,response),s)
  let (_,queued) ← queueValidated lib MobileProtocol.userResponse normalized nowMs true random s
  require ((row.state = .received ∨ row.state = .presented) ∧ row.responseId = "")
    "intervention response state changed concurrently"
  return ((true,response),{ queued with
    interventions := queued.interventions.update
      (fun r => r.interventionId = response.interventionId)
      (InterventionRow.answered response.responseId nowMs) (fun _ => rfl)
      (fun _ => List.Subset.refl _) })

end Interventions

end CompanionState
end Anet
