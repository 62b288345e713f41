import Anet.ApprovalAnswers
import Anet.CompanionLedger
import Anet.TokenFence

/-! Runs of the companion's ledger. A world keeps, besides the tables, the messages
the ledger queued, the responses it recorded and the claim tokens that ever stood
in the outbox. What each operation can do to a table is said once; the guarantees
follow for every run. -/
namespace Anet

namespace CompanionState

open MobileProtocol (Fields trimLower)

variable {lib : CompanionPlatform} {s s' : CompanionState}

section Results

variable {α β : Type}

theorem mobile_bind_ok {x : MobileResult α} {f : α → MobileResult β} {b : β} :
    (x >>= f) = .ok b ↔ ∃ a, x = .ok a ∧ f a = .ok b := by
  cases x with
  | error e => simp [bind,Except.bind]
  | ok a => simp [bind,Except.bind]

@[simp] theorem require_ok {c : Prop} [Decidable c] {message : String} {u : Unit} :
    require c message = .ok u ↔ c := by
  unfold require
  split <;> simp_all

@[simp] theorem orThrow_ok {x : Option α} {e : MobileError} {a : α} :
    orThrow x e = .ok a ↔ x = some a := by
  cases x <;> simp [orThrow]

theorem localIdentifier_ok {value name id : String} (h : localIdentifier value name = .ok id) :
    trimLower value = id ∧ isHex 32 id := by
  unfold localIdentifier at h
  split at h
  · rename_i hhex
    obtain rfl := Except.ok.inj h
    exact ⟨rfl,hhex⟩
  · cases h

theorem isHex_ne_empty {id : String} (h : isHex 32 id) : id ≠ "" := by
  intro he
  subst he
  revert h
  decide

end Results

section Consent

/-- A grant is withdrawn or stays as it is. -/
def ConsentMove (r r' : ConsentGrantRow) : Prop :=
  r' = r ∨ (r.state = .active ∧ ∃ withdrawnMs, r' = r.withdrawn withdrawnMs)

theorem installConsent_effect {grantId : String} {scopes : List String} {expiresMs nowMs : ℤ}
    {b : Bool} (h : s.installConsent grantId scopes expiresMs nowMs = .ok (b,s')) :
    s'.outbox = s.outbox ∧ s'.interventions = s.interventions ∧
      (s'.consents = s.consents ∨ ∃ row, s.consents.insert row = some s'.consents) := by
  unfold installConsent at h
  simp only [mobile_bind_ok,require_ok] at h
  obtain ⟨id,-,-,-,-,-,-,-,-,-,h⟩ := h
  cases hget : s.consents.get id with
  | some existing =>
    simp only [hget,mobile_bind_ok] at h
    obtain ⟨-,-,h⟩ := h
    obtain ⟨rfl,rfl⟩ := Prod.mk.inj (Except.ok.inj h)
    exact ⟨rfl,rfl,Or.inl rfl⟩
  | none =>
    simp only [hget,mobile_bind_ok,orThrow_ok] at h
    obtain ⟨consents,hinsert,h⟩ := h
    obtain ⟨rfl,rfl⟩ := Prod.mk.inj (Except.ok.inj h)
    exact ⟨rfl,rfl,Or.inr ⟨_,hinsert⟩⟩

/-- A withdrawal ends one active grant and drops the rows queued under it that are not sent. -/
theorem withdrawConsent_effect {grantId : String} {nowMs : ℤ} {n : ℕ}
    (h : s.withdrawConsent grantId nowMs = .ok (n,s')) :
    s'.interventions = s.interventions ∧ (s' = s ∨ ∃ id row, s.consents.get id = some row ∧
      row.state = .active ∧
      (∀ k, s'.consents.get k = if k = id then some (row.withdrawn nowMs) else s.consents.get k) ∧
      s'.outbox = s.outbox.delete (unsentFor id)) := by
  unfold withdrawConsent at h
  simp only [mobile_bind_ok,orThrow_ok] at h
  obtain ⟨id,-,row,hrow,h⟩ := h
  split at h
  · rename_i hactive
    obtain ⟨-,rfl⟩ := Prod.mk.inj (Except.ok.inj h)
    refine ⟨rfl,Or.inr ⟨id,row,hrow,hactive,?_,rfl⟩⟩
    intro k
    have hget := Table.get_update_key s.consents id (ConsentGrantRow.withdrawn nowMs)
      (fun _ => rfl) (noMarks_subset _) k
    simpa [hrow] using hget
  · simp only [mobile_bind_ok] at h
    obtain ⟨-,-,h⟩ := h
    obtain ⟨-,rfl⟩ := Prod.mk.inj (Except.ok.inj h)
    exact ⟨rfl,Or.inl rfl⟩

/-- A message that names a grant: its consent block has basis user-opt-in. -/
def OptsIn (kind : String) (body : Fields) (grantId : String) (scopes : List String) : Prop :=
  (kind = MobileProtocol.observationBatch ∨ kind = MobileProtocol.episode) ∧
    ∃ consent items, Value.field body "consent" = some (.map consent) ∧
      content consent "basis" = .ok "user-opt-in" ∧ content consent "grant_id" = .ok grantId ∧
      Value.field consent "scope" = some (.list items) ∧ scopes = items.map MobileProtocol.keyText

/-- What queueing knows about the grant of a message. -/
theorem requireLocalConsent_effect {kind : String} {body : Fields} {nowMs : ℤ}
    {userInitiated : Bool} {grantId g : String} {scopes : List String}
    (h : s.requireLocalConsent kind body nowMs userInitiated = .ok grantId)
    (hopts : OptsIn kind body g scopes) : grantId = g ∧ ∃ row, s.consents.get g = some row ∧
      row.state = .active ∧ nowMs < row.expiresMs ∧ ∀ x ∈ scopes, x ∈ row.scopes := by
  obtain ⟨hkind,consent,items,hconsent,hbasis,hgrant,hscope,rfl⟩ := hopts
  unfold requireLocalConsent at h
  rw [if_neg (by tauto)] at h
  simp only [hconsent,hscope,hbasis,hgrant,mobile_bind_ok,Except.ok.injEq,exists_eq_left'] at h
  rw [if_neg (by decide),if_neg (by decide),if_pos trivial] at h
  simp only [mobile_bind_ok,orThrow_ok,require_ok,Except.ok.injEq,exists_eq_left'] at h
  obtain ⟨row,hrow,-,⟨hactive,hlive⟩,-,hcovers,h⟩ := h
  refine ⟨(Except.ok.inj h).symm,row,hrow,hactive,hlive,?_⟩
  intro x hx
  obtain ⟨v,hv,rfl⟩ := List.mem_map.mp hx
  exact hcovers v hv

end Consent

section Outbox

variable {fresh : String → Prop} {r r' r'' : OutboundRow}

/-- A row keeps its message; once sent it keeps everything; its token is kept, cleared or
a fresh one. -/
structure OutboundMove (fresh : String → Prop) (r r' : OutboundRow) : Prop where
  semanticId : r'.semanticId = r.semanticId
  kind : r'.kind = r.kind
  payload : r'.payload = r.payload
  aad : r'.aad = r.aad
  consentGrantId : r'.consentGrantId = r.consentGrantId
  sent : r.state = .sent → r' = r
  token : r'.claimToken = "" ∨ r'.claimToken = r.claimToken ∨ fresh r'.claimToken

theorem OutboundMove.refl (r : OutboundRow) : OutboundMove fresh r r :=
  ⟨rfl,rfl,rfl,rfl,rfl,fun _ => rfl,Or.inr (Or.inl rfl)⟩

theorem OutboundMove.trans (h : OutboundMove fresh r r') (h' : OutboundMove fresh r' r'') :
    OutboundMove fresh r r'' where
  semanticId := h'.semanticId.trans h.semanticId
  kind := h'.kind.trans h.kind
  payload := h'.payload.trans h.payload
  aad := h'.aad.trans h.aad
  consentGrantId := h'.consentGrantId.trans h.consentGrantId
  sent hsent := by
    have hsame := h.sent hsent
    rw [hsame] at h'
    exact h'.sent hsent
  token := by
    rcases h'.token with hnone | hold | hnew
    · exact Or.inl hnone
    · rw [hold]
      exact h.token
    · exact Or.inr (Or.inr hnew)

/-- A row that is not sent was not sent. -/
theorem OutboundMove.unsent (h : OutboundMove fresh r r') (hr : r'.state ≠ .sent) :
    r.state ≠ .sent := by
  intro hsent
  exact hr (by rw [h.sent hsent]; exact hsent)

/-- A change of the outbox: its rows come from rows before or are new, and a sent row stays. -/
structure OutboxStep (fresh : String → Prop) (new : OutboundRow → Prop)
    (t t' : Table OutboundRow.semanticId outboundMarks) : Prop where
  origin : ∀ k r', t'.get k = some r' →
    (∃ r, t.get k = some r ∧ OutboundMove fresh r r') ∨ new r'
  sent : ∀ k r, t.get k = some r → r.state = .sent → t'.get k = some r

/-- The outbox, changed without a new row. -/
abbrev Moved (fresh : String → Prop) := OutboxStep fresh fun _ => False

variable {new : OutboundRow → Prop} {t t' t'' : Table OutboundRow.semanticId outboundMarks}

theorem OutboxStep.refl (t : Table OutboundRow.semanticId outboundMarks) :
    OutboxStep fresh new t t where
  origin _ r' hr' := Or.inl ⟨r',hr',OutboundMove.refl r'⟩
  sent _ _ hr _ := hr

theorem OutboxStep.source (h : Moved fresh t t') {k : String} (hr : t'.get k = some r') :
    ∃ r, t.get k = some r ∧ OutboundMove fresh r r' := by
  rcases h.origin k r' hr with hold | hnew
  · exact hold
  · exact hnew.elim

theorem OutboxStep.trans (h : Moved fresh t t') (h' : Moved fresh t' t'') : Moved fresh t t'' where
  origin k r'' hr'' := by
    obtain ⟨r',hr',hmove'⟩ := h'.source hr''
    obtain ⟨r,hr,hmove⟩ := h.source hr'
    exact Or.inl ⟨r,hr,hmove.trans hmove'⟩
  sent k r hr hsent := h'.sent k r (h.sent k r hr hsent) hsent

theorem OutboxStep.insert {row : OutboundRow} (h : t.insert row = some t') (hnew : new row) :
    OutboxStep fresh new t t' where
  origin k r' hr' := by
    rw [Table.get_insert h] at hr'
    split at hr'
    · obtain rfl := Option.some.inj hr'
      exact Or.inr hnew
    · exact Or.inl ⟨r',hr',OutboundMove.refl r'⟩
  sent k r hr _ := by
    rw [Table.get_insert h,if_neg]
    · exact hr
    · rintro rfl
      rw [(Table.insert_eq_some h).1] at hr
      cases hr

/-- Dropping rows that are not sent. -/
theorem OutboxStep.delete {p : OutboundRow → Prop} [DecidablePred p]
    (h : ∀ r, p r → r.state ≠ .sent) : OutboxStep fresh new t (t.delete p) where
  origin k r' hr' := by
    rw [Table.get_delete] at hr'
    exact Or.inl ⟨r',(Option.filter_eq_some_iff.mp hr').1,OutboundMove.refl r'⟩
  sent k r hr hsent := by
    rw [Table.get_delete,hr,Option.filter_some,if_pos]
    simpa using fun hp => h r hp hsent

/-- Rewriting one row that is not sent. -/
theorem OutboxStep.rewrite {k : String} (hr : t.get k = some r) (hsent : r.state ≠ .sent)
    (hmove : OutboundMove fresh r r')
    (h : ∀ k', t'.get k' = if k' = k then some r' else t.get k') : OutboxStep fresh new t t' where
  origin k' r'' hr'' := by
    rw [h] at hr''
    by_cases hk : k' = k
    · rw [if_pos hk] at hr''
      obtain rfl := Option.some.inj hr''
      exact Or.inl ⟨r,hk ▸ hr,hmove⟩
    · rw [if_neg hk] at hr''
      exact Or.inl ⟨r'',hr'',OutboundMove.refl r''⟩
  sent k' r'' hr'' hsent' := by
    rw [h,if_neg]
    · exact hr''
    · rintro rfl
      obtain rfl := Option.some.inj (hr.symm.trans hr'')
      exact hsent hsent'

theorem recover_effect {nowMs : ℤ} (h : recover nowMs t = .ok t') : Moved fresh t t' := by
  simp only [recover,orThrow_ok] at h
  have hdelete : Moved fresh t (t.delete fun r => r.expiresMs ≤ nowMs ∧ r.state ≠ .sent) :=
    OutboxStep.delete fun _ hp => hp.2
  refine hdelete.trans ⟨?_,?_⟩
  · intro k r' hr'
    rw [Table.get_alter h] at hr'
    obtain ⟨r,hr,rfl⟩ := Option.map_eq_some_iff.mp hr'
    refine Or.inl ⟨r,hr,?_⟩
    by_cases hleased : r.state = .leased ∧ r.leaseUntilMs ≤ nowMs
    · rw [if_pos hleased]
      refine ⟨rfl,rfl,rfl,rfl,rfl,?_,Or.inl rfl⟩
      intro hsent
      rw [hleased.1] at hsent
      cases hsent
    · rw [if_neg hleased]
      exact OutboundMove.refl r
  · intro k r hr hsent
    rw [Table.get_alter h,hr,Option.map_some,if_neg]
    rw [hsent]
    simp

/-- What a claim says of the row it was taken from. -/
def Reads (lib : CompanionPlatform) (c : OutboundClaim) (r : OutboundRow) : Prop :=
  r.state ≠ .sent ∧ c.kind = r.kind ∧
    ∃ plaintext, lib.decrypt r.payload r.aad = some plaintext ∧ utf8Text plaintext = some c.body

theorem Reads.back {c : OutboundClaim} (h : Reads lib c r') (hmove : OutboundMove fresh r r') :
    Reads lib c r := by
  obtain ⟨hsent,hkind,hread⟩ := h
  rw [hmove.kind] at hkind
  rw [hmove.payload,hmove.aad] at hread
  exact ⟨hmove.unsent hsent,hkind,hread⟩

theorem claimRow_effect {owner token id : String} {leaseMs nowMs : ℤ}
    {claimed : Option OutboundClaim}
    (hfresh : fresh token)
    (h : claimRow lib owner token leaseMs nowMs id t = .ok (claimed,t')) :
    Moved fresh t t' ∧ ∀ c ∈ claimed, ∃ r, t.get c.semanticId = some r ∧ Reads lib c r := by
  unfold claimRow at h
  cases hget : t.get id with
  | none =>
    simp only [hget] at h
    obtain ⟨rfl,rfl⟩ := Prod.mk.inj (Except.ok.inj h)
    exact ⟨OutboxStep.refl t,by simp⟩
  | some existing =>
    simp only [hget] at h
    split at h
    swap
    · obtain ⟨rfl,rfl⟩ := Prod.mk.inj (Except.ok.inj h)
      exact ⟨OutboxStep.refl t,by simp⟩
    rename_i hready
    simp only [mobile_bind_ok,orThrow_ok] at h
    obtain ⟨leased,hassign,row,hrow,plaintext,hplain,body,hbody,h⟩ := h
    obtain ⟨rfl,rfl⟩ := Prod.mk.inj (Except.ok.inj h)
    have hkey := Table.get_key hget
    have hunsent : existing.state ≠ .sent := by
      rcases hready.1 with hs | hs <;> simp [hs]
    have hmoved : Moved fresh t leased := by
      refine OutboxStep.rewrite hget hunsent ?_ fun k' => by
        rw [Table.get_assign hassign,hget,Option.map_some]
      exact ⟨rfl,rfl,rfl,rfl,rfl,fun hsent => absurd hsent hunsent,Or.inr (Or.inr hfresh)⟩
    refine ⟨hmoved,?_⟩
    intro c hc
    obtain rfl := Option.some.inj hc
    obtain ⟨hmem,htoken,hstate⟩ := Table.first_some hrow
    obtain ⟨r,hr,hmove⟩ := hmoved.source hmem
    refine ⟨r,hr,Reads.back ⟨?_,rfl,plaintext,hplain,hbody⟩ hmove⟩
    simp [hstate]

theorem claimRows_effect {owner : String} {draw : ℕ → String} {leaseMs nowMs : ℤ}
    (hfresh : ∀ n, fresh (draw n)) {ids : List String} {n : ℕ}
    {claims : List OutboundClaim}
    (h : claimRows lib owner draw leaseMs nowMs ids n t = .ok (claims,t')) :
    Moved fresh t t' ∧ ∀ c ∈ claims, ∃ r, t.get c.semanticId = some r ∧ Reads lib c r := by
  induction ids generalizing n t claims with
  | nil =>
    obtain ⟨rfl,rfl⟩ := Prod.mk.inj (Except.ok.inj h)
    exact ⟨OutboxStep.refl t,by simp⟩
  | cons id ids ih =>
    simp only [claimRows,mobile_bind_ok] at h
    obtain ⟨⟨claimed,t₁⟩,hclaim,⟨rest,t₂⟩,hrest,h⟩ := h
    obtain ⟨rfl,rfl⟩ := Prod.mk.inj (Except.ok.inj h)
    obtain ⟨hmoved,hclaimed⟩ := claimRow_effect (hfresh n) hclaim
    obtain ⟨hmoved',hothers⟩ := ih hrest
    refine ⟨hmoved.trans hmoved',?_⟩
    intro c hc
    rcases List.mem_append.mp hc with hfirst | hlater
    · exact hclaimed c (by simpa using hfirst)
    · obtain ⟨r',hr',hreads⟩ := hothers c hlater
      obtain ⟨r,hr,hmove⟩ := hmoved.source hr'
      exact ⟨r,hr,hreads.back hmove⟩

variable (fresh) in
/-- A claim changes only the outbox, and every message it returns stood there unsent. -/
theorem claimOutbound_effect {owner : String} {limit leaseMs nowMs : ℤ} {draw : ℕ → String}
    (hfresh : ∀ n, fresh (draw n)) {claims : List OutboundClaim}
    (h : s.claimOutbound lib owner limit leaseMs nowMs draw = .ok (claims,s')) :
    s'.consents = s.consents ∧ s'.interventions = s.interventions ∧
      Moved fresh s.outbox s'.outbox ∧
      ∀ c ∈ claims, ∃ r, s.outbox.get c.semanticId = some r ∧ Reads lib c r := by
  simp only [claimOutbound,mobile_bind_ok] at h
  obtain ⟨owner,-,-,-,-,-,outbox,hrecover,⟨result,outbox'⟩,hrows,h⟩ := h
  obtain ⟨rfl,rfl⟩ := Prod.mk.inj (Except.ok.inj h)
  obtain ⟨hmoved,hclaims⟩ := claimRows_effect hfresh hrows
  have hrecovered : Moved fresh s.outbox outbox := recover_effect hrecover
  refine ⟨rfl,rfl,hrecovered.trans hmoved,?_⟩
  intro c hc
  obtain ⟨r',hr',hreads⟩ := hclaims c hc
  obtain ⟨r,hr,hmove⟩ := hrecovered.source hr'
  exact ⟨r,hr,hreads.back hmove⟩

/-- A settlement that is accepted changes the one row leased under its token. -/
theorem settleOutbound_effect {claimToken : String} {sent : Bool} {nowMs retryAfterMs : ℤ}
    {u : Unit} (h : s.settleOutbound claimToken sent nowMs retryAfterMs = .ok (u,s')) :
    s'.consents = s.consents ∧ s'.interventions = s.interventions ∧
      ∃ row, s.outbox.get row.semanticId = some row ∧ row.state = .leased ∧
        trimLower claimToken = row.claimToken ∧ isHex 32 row.claimToken ∧
        ∀ k, s'.outbox.get k = if k = row.semanticId then
          some (row.settled sent nowMs retryAfterMs) else s.outbox.get k := by
  simp only [settleOutbound,mobile_bind_ok,orThrow_ok] at h
  obtain ⟨token,htoken,-,-,row,hrow,outbox,hassign,h⟩ := h
  obtain ⟨-,rfl⟩ := Prod.mk.inj (Except.ok.inj h)
  obtain ⟨hget,rfl,hstate⟩ := Table.first_some hrow
  obtain ⟨hnormal,hhex⟩ := localIdentifier_ok htoken
  refine ⟨rfl,rfl,row,hget,hstate,hnormal,hhex,?_⟩
  intro k
  rw [Table.get_assign hassign,hget,Option.map_some]

/-- Queueing leaves the ledger alone when the message stands there, and adds its row otherwise. -/
theorem queueValidated_effect {kind : String} {normalized : Fields} {nowMs : ℤ}
    {userInitiated : Bool} {random : Bytes} {b : Bool}
    (h : s.queueValidated lib kind normalized nowMs userInitiated random = .ok (b,s')) :
    ∃ id grantId, semanticId kind normalized = .ok id ∧
      s.requireLocalConsent kind normalized nowMs userInitiated = .ok grantId ∧
      s'.consents = s.consents ∧ s'.interventions = s.interventions ∧
      (∃ row, s'.outbox.get id = some row ∧ row.kind = kind ∧
        row.bodyHash = bodyHash lib normalized) ∧
      (s'.outbox = s.outbox ∨ ∃ row, s.outbox.insert row = some s'.outbox ∧
        row.semanticId = id ∧ row.kind = kind ∧ row.state = .pending ∧ row.claimToken = "" ∧
        row.consentGrantId = grantId ∧
        row.payload = lib.encrypt random (utf8 (canonicalJson lib normalized)) row.aad) := by
  simp only [queueValidated,mobile_bind_ok] at h
  obtain ⟨id,hid,grantId,hgrant,h⟩ := h
  refine ⟨id,grantId,hid,hgrant,?_⟩
  cases hget : s.outbox.get id with
  | some existing =>
    simp only [hget,mobile_bind_ok,require_ok] at h
    obtain ⟨-,⟨hkind,hhash⟩,h⟩ := h
    obtain ⟨-,rfl⟩ := Prod.mk.inj (Except.ok.inj h)
    exact ⟨rfl,rfl,⟨existing,hget,hkind,hhash⟩,Or.inl rfl⟩
  | none =>
    simp only [hget,mobile_bind_ok,orThrow_ok] at h
    obtain ⟨createdMs,-,expiresMs,-,outbox,hinsert,h⟩ := h
    obtain ⟨-,rfl⟩ := Prod.mk.inj (Except.ok.inj h)
    have hnew := Table.get_insert hinsert id
    rw [if_pos rfl] at hnew
    refine ⟨rfl,rfl,⟨_,hnew,?_⟩,Or.inr ⟨_,hinsert,?_⟩⟩
    · exact ⟨rfl,rfl⟩
    · refine ⟨rfl,rfl,rfl,rfl,rfl,?_⟩
      dsimp only

end Outbox

section Interventions

/-- The response of an intervention's row stays, and a new row has none. -/
theorem acceptIntervention_effect {encodedBody senderNodeId localDeviceNodeId localHumanId : String}
    {nowMs : ℤ} {random : Bytes} {b : Bool}
    (h : s.acceptIntervention lib encodedBody senderNodeId localDeviceNodeId localHumanId nowMs
      random = .ok (b,s')) :
    s'.consents = s.consents ∧ s'.outbox = s.outbox ∧ (s'.interventions = s.interventions ∨
      ∃ row, s.interventions.insert row = some s'.interventions ∧ row.responseId = "") := by
  simp only [acceptIntervention,mobile_bind_ok] at h
  obtain ⟨_,-,normalized,-,_,-,-,-,interventionId,-,dedupeKey,-,h⟩ := h
  cases hfound : (s.interventions.get interventionId).or
      (s.interventions.first fun r => r.dedupeKey = dedupeKey) with
  | some existing =>
    simp only [hfound,mobile_bind_ok] at h
    obtain ⟨-,-,h⟩ := h
    obtain ⟨-,rfl⟩ := Prod.mk.inj (Except.ok.inj h)
    exact ⟨rfl,rfl,Or.inl rfl⟩
  | none =>
    simp only [hfound,mobile_bind_ok,orThrow_ok] at h
    obtain ⟨_,-,_,-,_,-,_,-,interventions,hinsert,h⟩ := h
    obtain ⟨-,rfl⟩ := Prod.mk.inj (Except.ok.inj h)
    exact ⟨rfl,rfl,Or.inr ⟨_,hinsert,rfl⟩⟩

theorem markInterventionPresented_effect {interventionId : String} {nowMs : ℤ} {b : Bool}
    (h : s.markInterventionPresented interventionId nowMs = .ok (b,s')) :
    s'.consents = s.consents ∧ s'.outbox = s.outbox ∧
      ∀ k, (s'.interventions.get k = s.interventions.get k) ∨
        s'.interventions.get k = (s.interventions.get k).map (InterventionRow.shown nowMs) := by
  simp only [markInterventionPresented,mobile_bind_ok,orThrow_ok] at h
  obtain ⟨id,-,existing,-,h⟩ := h
  split at h
  · obtain ⟨-,rfl⟩ := Prod.mk.inj (Except.ok.inj h)
    refine ⟨rfl,rfl,?_⟩
    intro k
    have hget := Table.get_update_key s.interventions id (InterventionRow.shown nowMs)
      (fun _ => rfl) (fun _ => List.Subset.refl _) k
    by_cases hk : k = id
    · subst hk
      rw [if_pos rfl] at hget
      exact Or.inr hget
    · rw [if_neg hk] at hget
      exact Or.inl hget
  · simp only [mobile_bind_ok] at h
    obtain ⟨-,-,h⟩ := h
    obtain ⟨-,rfl⟩ := Prod.mk.inj (Except.ok.inj h)
    exact ⟨rfl,rfl,fun _ => Or.inl rfl⟩

/-- The stored intervention lists the action among its response options. -/
def Offers (lib : CompanionPlatform) (row : InterventionRow) (actionId : String) : Prop :=
  ∃ intervention actions, decryptIntervention lib row = .ok intervention ∧
    offeredActions intervention = .ok actions ∧ actionId ∈ actions

theorem field_override {value : Fields} {news : List (String × Value)} {name : String}
    (h : ∀ n ∈ news, n.1 ≠ name) :
    Value.field (CompanionProtocol.override value news) name = Value.field value name := by
  -- an entry under this name is none of the new ones
  have hnew : (news.find? fun n => name = n.1) = none := by
    rw [List.find?_eq_none]
    intro n hn
    simpa using (h n hn).symm
  rw [CompanionProtocol.field_overridden,hnew]
  cases Value.field value name with
  | none => rfl
  | some old => rfl

/-- An object of any kind has an identifier. -/
theorem base_id {objectType idName id : String} {body : Value} {additional : List String}
    {maxTtlMs : ℤ} {fields : Fields}
    (h : MobileProtocol.base objectType body idName additional maxTtlMs = .ok fields)
    (hid : content fields idName = .ok id) : id ≠ "" := by
  unfold MobileProtocol.base at h
  rw [mobile_bind_ok] at h
  obtain ⟨value,-,h⟩ := h
  iterate 6
    rw [mobile_bind_ok] at h
    obtain ⟨_,-,h⟩ := h
  rw [mobile_bind_ok] at h
  obtain ⟨rawId,hraw,h⟩ := h
  rw [mobile_bind_ok] at h
  obtain ⟨_,hidentifier,h⟩ := h
  iterate 3
    rw [mobile_bind_ok] at h
    obtain ⟨_,-,h⟩ := h
  obtain rfl := Except.ok.inj h
  have hsame : rawId = id := by
    unfold MobileProtocol.string at hraw
    unfold content at hid
    cases hfield : Value.field value idName with
    | none => simp [hfield] at hid
    | some v => cases v <;> simp_all [MobileProtocol.fail]
  rw [hsame] at hidentifier
  intro hempty
  rw [hempty,MobileProtocol.identifier,if_neg (by decide)] at hidentifier
  cases hidentifier

/-- A validated response has an identifier. -/
theorem validateUserResponse_id {body : Value} {fields : Fields} {id : String}
    (h : MobileProtocol.validateUserResponse body = .ok fields)
    (hid : content fields "response_id" = .ok id) : id ≠ "" := by
  unfold MobileProtocol.validateUserResponse at h
  rw [mobile_bind_ok] at h
  obtain ⟨value,hbase,h⟩ := h
  -- the checks of the other fields
  iterate 12
    rw [mobile_bind_ok] at h
    obtain ⟨_,-,h⟩ := h
    try dsimp only at h
  obtain rfl := Except.ok.inj h
  rw [content,field_override (by simp)] at hid
  exact base_id hbase hid

theorem outbound_id {encodedBody senderNodeId destinationNodeId id : String} {nowMs : ℤ}
    {normalized : Fields} (h : outbound lib MobileProtocol.userResponse encodedBody senderNodeId
      destinationNodeId nowMs = .ok normalized)
    (hid : content normalized "response_id" = .ok id) : id ≠ "" := by
  unfold outbound MobileProtocol.validateEndpointBinding at h
  rw [mobile_bind_ok] at h
  obtain ⟨body,-,h⟩ := h
  rw [mobile_bind_ok] at h
  obtain ⟨validated,hvalid,h⟩ := h
  iterate 9
    rw [mobile_bind_ok] at h
    obtain ⟨_,-,h⟩ := h
  obtain rfl := Except.ok.inj h
  have hkind : trimLower (trimLower MobileProtocol.userResponse) = MobileProtocol.userResponse := by
    decide
  rw [MobileProtocol.validate,hkind,if_neg (by decide),if_neg (by decide),if_neg (by decide),
    if_pos rfl] at hvalid
  exact validateUserResponse_id hvalid hid

theorem checkResponse_effect {normalized : Fields} {localDeviceNodeId localHumanId : String}
    {response : UserResponse} {row : InterventionRow}
    (h : s.checkResponse lib normalized localDeviceNodeId localHumanId = .ok (response,row)) :
    s.interventions.get response.interventionId = some row ∧
      (response.actionId = "" ∨ Offers lib row response.actionId) ∧
      content normalized "response_id" = .ok response.responseId := by
  simp only [checkResponse,mobile_bind_ok,orThrow_ok] at h
  obtain ⟨_,-,_,-,interventionId,-,found,hfound,_,-,_,-,intervention,hopened,actionId,-,_,hoffered,
    responseId,hresponse,h⟩ := h
  obtain ⟨rfl,rfl⟩ := Prod.mk.inj (Except.ok.inj h)
  refine ⟨hfound,?_,hresponse⟩
  unfold requireOffered at hoffered
  split at hoffered
  · rename_i hnone
    exact Or.inl hnone
  · simp only [mobile_bind_ok,require_ok] at hoffered
    obtain ⟨actions,hactions,hmem⟩ := hoffered
    exact Or.inr ⟨intervention,actions,hopened,hactions,hmem⟩

/-- A response is recorded on an intervention that has none, with its message queued. -/
theorem recordUserResponse_effect
    {encodedBody localDeviceNodeId destinationNodeId localHumanId : String} {nowMs : ℤ}
    {random : Bytes} {b : Bool} {response : UserResponse}
    (h : s.recordUserResponse lib encodedBody localDeviceNodeId destinationNodeId localHumanId
      nowMs random = .ok ((b,response),s')) :
    (b = false ∧ s' = s) ∨ (b = true ∧ response.responseId ≠ "" ∧
      ∃ row normalized q queued, s.interventions.get response.interventionId = some row ∧
        row.responseId = "" ∧ (response.actionId = "" ∨ Offers lib row response.actionId) ∧
        outbound lib MobileProtocol.userResponse encodedBody localDeviceNodeId destinationNodeId
          nowMs = .ok normalized ∧
        semanticId MobileProtocol.userResponse normalized = .ok response.responseId ∧
        s.queueValidated lib MobileProtocol.userResponse normalized nowMs true random =
          .ok (queued,q) ∧
        s'.consents = q.consents ∧ s'.outbox = q.outbox ∧
        ∀ k, s'.interventions.get k = if k = response.interventionId then
          some (row.answered response.responseId nowMs) else s.interventions.get k) := by
  simp only [recordUserResponse,mobile_bind_ok] at h
  obtain ⟨normalized,houtbound,⟨found,row⟩,hcheck,h⟩ := h
  obtain ⟨hrow,hoffers,hid⟩ := checkResponse_effect hcheck
  split at h
  · simp only [mobile_bind_ok] at h
    obtain ⟨_,-,_,-,_,-,h⟩ := h
    obtain ⟨hreply,rfl⟩ := Prod.mk.inj (Except.ok.inj h)
    exact Or.inl ⟨(Prod.mk.inj hreply).1.symm,rfl⟩
  · rename_i hnone
    simp only [mobile_bind_ok] at h
    obtain ⟨⟨queued,q⟩,hqueue,_,-,h⟩ := h
    obtain ⟨hreply,rfl⟩ := Prod.mk.inj (Except.ok.inj h)
    obtain ⟨rfl,rfl⟩ := Prod.mk.inj hreply
    obtain ⟨_,_,-,-,-,hinterventions,-,-⟩ := queueValidated_effect hqueue
    have hne : found.responseId ≠ "" := outbound_id houtbound hid
    refine Or.inr ⟨rfl,hne,row,normalized,q,queued,hrow,by simpa using hnone,hoffers,houtbound,?_,
      hqueue,rfl,rfl,?_⟩
    · rw [semanticId,semanticIdField,if_neg (by decide),if_neg (by decide),if_neg (by decide),
        if_pos rfl]
      exact hid
    · intro k
      refine (Table.get_update_key q.interventions found.interventionId
        (InterventionRow.answered found.responseId nowMs) (fun _ => rfl)
        (fun _ => List.Subset.refl _) k).trans ?_
      rw [hinterventions,hrow,Option.map_some]

end Interventions

end CompanionState

open MobileProtocol (Fields trimLower)

/-- A message the ledger accepted for its outbox. -/
structure QueuedMessage where
  kind : String
  message : Fields
  queuedMs : ℤ

/-- A state of the ledger with its history: the messages accepted for the outbox, the
responses recorded and the claim tokens that have stood in the outbox. -/
structure LedgerWorld where
  state : CompanionState
  queued : List QueuedMessage
  responses : List UserResponse
  issued : Set String

def LedgerWorld.start : LedgerWorld := ⟨.empty,[],[],∅⟩

inductive CompanionCall
  | installConsent (grantId : String) (scopes : List String) (expiresMs : ℤ)
  | withdrawConsent (grantId : String)
  | queueOutbound (kind encodedBody senderNodeId destinationNodeId : String)
      (userInitiated : Bool) (random : Bytes)
  | claimOutbound (owner : String) (limit leaseMs : ℤ) (draw : ℕ → String)
  | settleOutbound (claimToken : String) (sent : Bool) (retryAfterMs : ℤ)
  | acceptIntervention (encodedBody senderNodeId localDeviceNodeId localHumanId : String)
      (random : Bytes)
  | markInterventionPresented (interventionId : String)
  | recordUserResponse (encodedBody localDeviceNodeId destinationNodeId localHumanId : String)
      (random : Bytes)

/-- What a call that is not refused returns. -/
inductive CompanionReply
  | flag (b : Bool) | deleted (n : ℕ) | claims (claims : List OutboundClaim) | settled
  | response (recorded : Bool) (response : UserResponse)

namespace CompanionCall

variable (lib : CompanionPlatform)

/-- The body of the call's transaction. -/
def body (nowMs : ℤ) (s : CompanionState) :
    CompanionCall → MobileResult (CompanionReply × CompanionState)
  | installConsent grantId scopes expiresMs =>
    (s.installConsent grantId scopes expiresMs nowMs).map (Prod.map .flag id)
  | withdrawConsent grantId => (s.withdrawConsent grantId nowMs).map (Prod.map .deleted id)
  | queueOutbound kind encodedBody senderNodeId destinationNodeId userInitiated random =>
    (s.queueOutbound lib kind encodedBody senderNodeId destinationNodeId nowMs userInitiated
      random).map (Prod.map .flag id)
  | claimOutbound owner limit leaseMs draw =>
    (s.claimOutbound lib owner limit leaseMs nowMs draw).map (Prod.map .claims id)
  | settleOutbound claimToken sent retryAfterMs =>
    (s.settleOutbound claimToken sent nowMs retryAfterMs).map (Prod.map (fun _ => .settled) id)
  | acceptIntervention encodedBody senderNodeId localDeviceNodeId localHumanId random =>
    (s.acceptIntervention lib encodedBody senderNodeId localDeviceNodeId localHumanId nowMs
      random).map (Prod.map .flag id)
  | markInterventionPresented interventionId =>
    (s.markInterventionPresented interventionId nowMs).map (Prod.map .flag id)
  | recordUserResponse encodedBody localDeviceNodeId destinationNodeId localHumanId random =>
    (s.recordUserResponse lib encodedBody localDeviceNodeId destinationNodeId localHumanId nowMs
      random).map (Prod.map (fun r => .response r.1 r.2) id)

def run (nowMs : ℤ) (call : CompanionCall) (s : CompanionState) :
    MobileResult CompanionReply × CompanionState :=
  atomic (call.body lib nowMs) s

/-- The message the call offers to the outbox. -/
def message (nowMs : ℤ) : CompanionCall → List QueuedMessage
  | queueOutbound kind encodedBody senderNodeId destinationNodeId _ _ =>
    match CompanionState.outbound lib kind encodedBody senderNodeId destinationNodeId nowMs with
    | .ok normalized => [⟨trimLower kind,normalized,nowMs⟩]
    | .error _ => []
  | recordUserResponse encodedBody localDeviceNodeId destinationNodeId _ _ =>
    match CompanionState.outbound lib MobileProtocol.userResponse encodedBody localDeviceNodeId
      destinationNodeId nowMs with
    | .ok normalized => [⟨MobileProtocol.userResponse,normalized,nowMs⟩]
    | .error _ => []
  | _ => []

/-- The tokens of a claim are fresh identifiers. -/
def Fresh (w : LedgerWorld) : CompanionCall → Prop
  | claimOutbound _ _ _ draw => ∀ n, isHex 32 (draw n) ∧ draw n ∉ w.issued
  | _ => True

end CompanionCall

/-- The response a call recorded. -/
def CompanionReply.recorded : CompanionReply → List UserResponse
  | response true r => [r]
  | _ => []

namespace LedgerWorld

variable (lib : CompanionPlatform)

def exec (nowMs : ℤ) (call : CompanionCall) (w : LedgerWorld) : LedgerWorld :=
  match call.run lib nowMs w.state with
  | (.ok reply,state) =>
    ⟨state,w.queued ++ call.message lib nowMs,w.responses ++ reply.recorded,
      w.issued ∪ seenTokens OutboundRow.claimToken state.outbox⟩
  | (.error _,state) => { w with state }

def Step (w w' : LedgerWorld) : Prop :=
  ∃ nowMs call, CompanionCall.Fresh w call ∧ w' = w.exec lib nowMs call

end LedgerWorld
end Anet
