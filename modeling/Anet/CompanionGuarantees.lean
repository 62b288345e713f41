import Anet.CompanionRuns

/-! What the companion's ledger guarantees in every run: claims go out under the
consent they were queued with, claim tokens fence, responses are recorded once
and with their message, and a withdrawn grant stays withdrawn. -/
namespace Anet

open MobileProtocol (Fields trimLower)

variable {lib : CompanionPlatform} {nowMs : ℤ} {s s' : CompanionState} {w w' : LedgerWorld}

namespace CompanionCall

open CompanionState

/-- The row was queued from the message, under the grant the message names. -/
structure QueuedFrom (lib : CompanionPlatform) (m : QueuedMessage) (row : OutboundRow) : Prop where
  semanticId : semanticId m.kind m.message = .ok row.semanticId
  kind : row.kind = m.kind
  payload : ∃ random, row.payload = lib.encrypt random (utf8 (canonicalJson lib m.message)) row.aad
  grant : ∀ g scopes, OptsIn m.kind m.message g scopes → row.consentGrantId = g

/-- The grant the message names is active, covers its scopes and had not expired when the
message was queued. -/
def Consented (m : QueuedMessage) (s : CompanionState) : Prop :=
  ∀ g scopes, OptsIn m.kind m.message g scopes → ∃ grant, s.consents.get g = some grant ∧
    grant.state = .active ∧ m.queuedMs < grant.expiresMs ∧ ∀ x ∈ scopes, x ∈ grant.scopes

/-- The row of a message this call queues. -/
def NewRow (lib : CompanionPlatform) (nowMs : ℤ) (call : CompanionCall) (s : CompanionState)
    (row : OutboundRow) : Prop :=
  row.claimToken = "" ∧ ∃ m ∈ call.message lib nowMs, QueuedFrom lib m row ∧ Consented m s

/-- The response is recorded on the intervention it answers, together with its message. -/
structure Records (lib : CompanionPlatform) (s s' : CompanionState) (e : UserResponse) : Prop where
  named : e.responseId ≠ ""
  row : ∃ row row', s.interventions.get e.interventionId = some row ∧ row.responseId = "" ∧
    (e.actionId = "" ∨ Offers lib row e.actionId) ∧
    s'.interventions.get e.interventionId = some row' ∧ row'.responseId = e.responseId ∧
    row'.payload = row.payload ∧ row'.aad = row.aad
  queued : ∃ out, s'.outbox.get e.responseId = some out ∧ out.kind = MobileProtocol.userResponse ∧
    (s.outbox.get e.responseId = some out ∨ s.outbox.get e.responseId = none)

/-- An intervention's row that a call leaves without another response. -/
def SameResponse (r r' : InterventionRow) : Prop :=
  r'.responseId = r.responseId ∧ r'.payload = r.payload ∧ r'.aad = r.aad

/-- Everything a call that is not refused can do. -/
structure Effect (lib : CompanionPlatform) (nowMs : ℤ) (fresh : String → Prop)
    (call : CompanionCall) (s s' : CompanionState) (reply : CompanionReply) : Prop where
  consents : ∀ k grant, s.consents.get k = some grant →
    ∃ grant', s'.consents.get k = some grant' ∧ ConsentMove grant grant'
  outbox : OutboxStep fresh (NewRow lib nowMs call s) s.outbox s'.outbox
  unsent : ∀ k row grant, s'.outbox.get k = some row → row.state ≠ .sent →
    s.consents.get row.consentGrantId = some grant →
    s'.consents.get row.consentGrantId = some grant
  once : reply.recorded.length ≤ 1
  records : ∀ e ∈ reply.recorded, Records lib s s' e
  interventions : ∀ k row', s'.interventions.get k = some row' →
    (∃ e ∈ reply.recorded, e.interventionId = k ∧ e.responseId = row'.responseId) ∨
    (∃ row, s.interventions.get k = some row ∧ SameResponse row row') ∨
    (s.interventions.get k = none ∧ row'.responseId = "")
  stored : ∀ k row, s.interventions.get k = some row → ∃ row', s'.interventions.get k = some row' ∧
    row'.payload = row.payload ∧ row'.aad = row.aad ∧
    (row'.responseId = row.responseId ∨ ∃ e ∈ reply.recorded, e.interventionId = k)

theorem sameResponse_refl (r : InterventionRow) : SameResponse r r := ⟨rfl,rfl,rfl⟩

variable {fresh : String → Prop} {call : CompanionCall} {reply : CompanionReply}

/-- A call that leaves the interventions alone. -/
theorem Effect.ofOutbox (hinterventions : s'.interventions = s.interventions)
    (hreply : reply.recorded = [])
    (hconsents : ∀ k grant, s.consents.get k = some grant →
      ∃ grant', s'.consents.get k = some grant' ∧ ConsentMove grant grant')
    (houtbox : OutboxStep fresh (NewRow lib nowMs call s) s.outbox s'.outbox)
    (hunsent : ∀ k row grant, s'.outbox.get k = some row → row.state ≠ .sent →
      s.consents.get row.consentGrantId = some grant →
      s'.consents.get row.consentGrantId = some grant) :
    Effect lib nowMs fresh call s s' reply where
  consents := hconsents
  outbox := houtbox
  unsent := hunsent
  once := by simp [hreply]
  records e he := by simp [hreply] at he
  interventions k row' hrow' := by
    rw [hinterventions] at hrow'
    exact Or.inr (Or.inl ⟨row',hrow',sameResponse_refl row'⟩)
  stored k row hrow := ⟨row,by rw [hinterventions]; exact hrow,rfl,rfl,Or.inl rfl⟩

theorem consents_same (h : s'.consents = s.consents) (k : String) (grant : ConsentGrantRow)
    (hg : s.consents.get k = some grant) :
    ∃ grant', s'.consents.get k = some grant' ∧ ConsentMove grant grant' :=
  ⟨grant,by rw [h]; exact hg,Or.inl rfl⟩

/-- Queueing a message of the call. -/
theorem queued_step {kind : String} {normalized : Fields} {userInitiated b : Bool}
    {random : Bytes} (hmessage : ⟨kind,normalized,nowMs⟩ ∈ call.message lib nowMs)
    (h : s.queueValidated lib kind normalized nowMs userInitiated random = .ok (b,s')) :
    OutboxStep fresh (NewRow lib nowMs call s) s.outbox s'.outbox := by
  obtain ⟨id,grantId,hid,hgrant,-,-,-,hsame | ⟨row,hinsert,hrowId,hkind,-,htoken,hrowGrant,hpayload⟩⟩ :=
    queueValidated_effect h
  · rw [hsame]
    exact OutboxStep.refl _
  · refine OutboxStep.insert hinsert ⟨htoken,_,hmessage,⟨?_,hkind,⟨random,hpayload⟩,?_⟩,?_⟩
    · rw [hrowId]
      exact hid
    · intro g scopes hopts
      rw [hrowGrant]
      exact (requireLocalConsent_effect hgrant hopts).1
    · intro g scopes hopts
      obtain ⟨-,grant,hget,hactive,hlive,hcovers⟩ := requireLocalConsent_effect hgrant hopts
      exact ⟨grant,hget,hactive,hlive,hcovers⟩

theorem install_effect {grantId : String} {scopes : List String} {expiresMs : ℤ} {b : Bool}
    (h : s.installConsent grantId scopes expiresMs nowMs = .ok (b,s')) :
    Effect lib nowMs fresh call s s' (.flag b) := by
  obtain ⟨houtbox,hinterventions,hconsents⟩ := installConsent_effect h
  have hkept (k : String) (grant : ConsentGrantRow) (hg : s.consents.get k = some grant) :
      s'.consents.get k = some grant := by
    rcases hconsents with hsame | ⟨row,hinsert⟩
    · rw [hsame]
      exact hg
    · rw [Table.get_insert hinsert,if_neg]
      · exact hg
      · rintro rfl
        rw [(Table.insert_eq_some hinsert).1] at hg
        cases hg
  refine Effect.ofOutbox hinterventions rfl ?_ ?_ ?_
  · exact fun k grant hg => ⟨grant,hkept k grant hg,Or.inl rfl⟩
  · rw [houtbox]
    exact OutboxStep.refl _
  · exact fun _ _ grant _ _ hg => hkept _ grant hg

theorem withdraw_effect {grantId : String} {n : ℕ}
    (h : s.withdrawConsent grantId nowMs = .ok (n,s')) :
    Effect lib nowMs fresh call s s' (.deleted n) := by
  obtain ⟨hinterventions,rfl | ⟨id,row,hrow,hactive,hconsents,houtbox⟩⟩ := withdrawConsent_effect h
  · refine Effect.ofOutbox rfl rfl (consents_same rfl) (OutboxStep.refl _) ?_
    exact fun _ _ _ _ _ hg => hg
  · refine Effect.ofOutbox hinterventions rfl ?_ ?_ ?_
    · intro k grant hg
      rw [hconsents]
      by_cases hk : k = id
      · subst hk
        obtain rfl := Option.some.inj (hrow.symm.trans hg)
        exact ⟨_,if_pos rfl,Or.inr ⟨hactive,nowMs,rfl⟩⟩
      · exact ⟨grant,by rw [if_neg hk]; exact hg,Or.inl rfl⟩
    · rw [houtbox]
      exact OutboxStep.delete fun _ hp => hp.2
    · intro k out grant hout hunsent hg
      rw [houtbox,Table.get_delete] at hout
      have hother : out.consentGrantId ≠ id := by
        intro hsame
        have hkeeps := (Option.filter_eq_some_iff.mp hout).2
        simp [unsentFor,hsame,hunsent] at hkeeps
      rw [hconsents,if_neg hother]
      exact hg

theorem claim_effect {owner : String} {limit leaseMs : ℤ} {draw : ℕ → String}
    (hfresh : ∀ n, fresh (draw n)) {claims : List OutboundClaim}
    (h : s.claimOutbound lib owner limit leaseMs nowMs draw = .ok (claims,s')) :
    Effect lib nowMs fresh call s s' (.claims claims) := by
  obtain ⟨hconsents,hinterventions,hmoved,-⟩ := claimOutbound_effect fresh hfresh h
  refine Effect.ofOutbox hinterventions rfl (consents_same hconsents) ⟨?_,hmoved.sent⟩ ?_
  · exact fun k r' hr' => Or.inl (hmoved.source hr')
  · intro _ _ grant _ _ hg
    rw [hconsents]
    exact hg

theorem settle_effect {claimToken : String} {sent : Bool} {retryAfterMs : ℤ} {u : Unit}
    (h : s.settleOutbound claimToken sent nowMs retryAfterMs = .ok (u,s')) :
    Effect lib nowMs fresh call s s' .settled := by
  obtain ⟨hconsents,hinterventions,row,hrow,hleased,-,-,hget⟩ := settleOutbound_effect h
  have hunsent : row.state ≠ .sent := by simp [hleased]
  refine Effect.ofOutbox hinterventions rfl (consents_same hconsents) ?_ ?_
  · refine OutboxStep.rewrite hrow hunsent ?_ hget
    exact ⟨rfl,rfl,rfl,rfl,rfl,fun hsent => absurd hsent hunsent,Or.inl rfl⟩
  · intro _ _ grant _ _ hg
    rw [hconsents]
    exact hg

theorem queue_effect {kind encodedBody senderNodeId destinationNodeId : String}
    {userInitiated b : Bool} {random : Bytes}
    (h : s.queueOutbound lib kind encodedBody senderNodeId destinationNodeId nowMs userInitiated
      random = .ok (b,s')) :
    Effect lib nowMs fresh (.queueOutbound kind encodedBody senderNodeId destinationNodeId
      userInitiated random) s s' (.flag b) := by
  unfold CompanionState.queueOutbound at h
  rw [mobile_bind_ok] at h
  obtain ⟨normalized,houtbound,hqueue⟩ := h
  obtain ⟨_,_,-,-,hconsents,hinterventions,-⟩ := queueValidated_effect hqueue
  refine Effect.ofOutbox hinterventions rfl (consents_same hconsents) (queued_step ?_ hqueue) ?_
  · simp [message,houtbound]
  · intro _ _ grant _ _ hg
    rw [hconsents]
    exact hg

theorem accept_effect {encodedBody senderNodeId localDeviceNodeId localHumanId : String}
    {random : Bytes} {b : Bool}
    (h : s.acceptIntervention lib encodedBody senderNodeId localDeviceNodeId localHumanId nowMs
      random = .ok (b,s')) : Effect lib nowMs fresh call s s' (.flag b) := by
  obtain ⟨hconsents,houtbox,hinterventions⟩ := acceptIntervention_effect h
  have hkept (k : String) (row : InterventionRow) (hr : s.interventions.get k = some row) :
      s'.interventions.get k = some row := by
    rcases hinterventions with hsame | ⟨row,hinsert,-⟩
    · rw [hsame]
      exact hr
    · rw [Table.get_insert hinsert,if_neg]
      · exact hr
      · rintro rfl
        rw [(Table.insert_eq_some hinsert).1] at hr
        cases hr
  refine ⟨consents_same hconsents,?_,?_,Nat.zero_le 1,?_,?_,?_⟩
  · rw [houtbox]
    exact OutboxStep.refl _
  · intro _ _ grant _ _ hg
    rw [hconsents]
    exact hg
  · intro e he
    cases he
  · intro k row' hrow'
    refine Or.inr ?_
    rcases hinterventions with hsame | ⟨row,hinsert,hnone⟩
    · rw [hsame] at hrow'
      exact Or.inl ⟨row',hrow',sameResponse_refl row'⟩
    · rw [Table.get_insert hinsert] at hrow'
      split at hrow'
      · rename_i hk
        obtain rfl := Option.some.inj hrow'
        exact Or.inr ⟨hk ▸ (Table.insert_eq_some hinsert).1,hnone⟩
      · exact Or.inl ⟨row',hrow',sameResponse_refl row'⟩
  · exact fun k row hr => ⟨row,hkept k row hr,rfl,rfl,Or.inl rfl⟩

theorem present_effect {interventionId : String} {b : Bool}
    (h : s.markInterventionPresented interventionId nowMs = .ok (b,s')) :
    Effect lib nowMs fresh call s s' (.flag b) := by
  obtain ⟨hconsents,houtbox,hinterventions⟩ := markInterventionPresented_effect h
  refine ⟨consents_same hconsents,?_,?_,Nat.zero_le 1,?_,?_,?_⟩
  · rw [houtbox]
    exact OutboxStep.refl _
  · intro _ _ grant _ _ hg
    rw [hconsents]
    exact hg
  · intro e he
    cases he
  · intro k row' hrow'
    refine Or.inr (Or.inl ?_)
    rcases hinterventions k with hsame | hshown
    · exact ⟨row',hsame ▸ hrow',sameResponse_refl row'⟩
    · rw [hshown] at hrow'
      obtain ⟨row,hrow,rfl⟩ := Option.map_eq_some_iff.mp hrow'
      exact ⟨row,hrow,rfl,rfl,rfl⟩
  · intro k row hrow
    rcases hinterventions k with hsame | hshown
    · exact ⟨row,hsame.trans hrow,rfl,rfl,Or.inl rfl⟩
    · rw [hrow,Option.map_some] at hshown
      exact ⟨_,hshown,rfl,rfl,Or.inl rfl⟩

theorem record_effect {encodedBody localDeviceNodeId destinationNodeId localHumanId : String}
    {random : Bytes} {r : Bool × UserResponse}
    (h : s.recordUserResponse lib encodedBody localDeviceNodeId destinationNodeId localHumanId
      nowMs random = .ok (r,s')) :
    Effect lib nowMs fresh (.recordUserResponse encodedBody localDeviceNodeId destinationNodeId
      localHumanId random) s s' (.response r.1 r.2) := by
  obtain ⟨b,e⟩ := r
  rcases recordUserResponse_effect h with ⟨rfl,rfl⟩ | ⟨rfl,hnamed,row,normalized,q,queued,hrow,hnone,
    hoffers,houtbound,hid,hqueue,hconsents,houtbox,hget⟩
  · refine Effect.ofOutbox rfl rfl (consents_same rfl) (OutboxStep.refl _) ?_
    exact fun _ _ _ _ _ hg => hg
  obtain ⟨id,_,hid',-,hqconsents,-,⟨out,hout,hkind,-⟩,hinsert⟩ := queueValidated_effect hqueue
  obtain rfl : e.responseId = id := Except.ok.inj (hid.symm.trans hid')
  refine ⟨consents_same (hconsents.trans hqconsents),?_,?_,Nat.le_refl 1,?_,?_,?_⟩
  · rw [houtbox]
    refine queued_step ?_ hqueue
    simp [message,houtbound]
  · intro _ _ grant _ _ hg
    rw [hconsents,hqconsents]
    exact hg
  · intro e' he'
    obtain rfl := List.mem_singleton.mp he'
    refine ⟨hnamed,⟨row,_,hrow,hnone,hoffers,(hget _).trans (if_pos rfl),rfl,rfl,rfl⟩,?_⟩
    rw [houtbox]
    refine ⟨out,hout,hkind,?_⟩
    rcases hinsert with hsame | ⟨new,hinsert,hnew,-⟩
    · rw [hsame] at hout
      exact Or.inl hout
    · rw [← hnew]
      exact Or.inr (Table.insert_eq_some hinsert).1
  · intro k row' hrow'
    rw [hget] at hrow'
    split at hrow'
    · rename_i hk
      obtain rfl := Option.some.inj hrow'
      exact Or.inl ⟨e,List.mem_singleton_self e,hk.symm,rfl⟩
    · exact Or.inr (Or.inl ⟨row',hrow',sameResponse_refl row'⟩)
  · intro k row' hrow'
    rw [hget]
    by_cases hk : k = e.interventionId
    · subst hk
      obtain rfl := Option.some.inj (hrow.symm.trans hrow')
      exact ⟨_,if_pos rfl,rfl,rfl,Or.inr ⟨e,List.mem_singleton_self e,rfl⟩⟩
    · exact ⟨row',by rw [if_neg hk]; exact hrow',rfl,rfl,Or.inl rfl⟩

theorem map_prod_ok {α : Type} {x : MobileResult (α × CompanionState)} {f : α → CompanionReply}
    (h : x.map (Prod.map f id) = .ok (reply,s')) : ∃ a, x = .ok (a,s') ∧ reply = f a := by
  cases x with
  | error e => cases h
  | ok r =>
    obtain ⟨rfl,rfl⟩ := Prod.mk.inj (Except.ok.inj h)
    exact ⟨r.1,rfl,rfl⟩

/-- One case for each operation. -/
theorem body_effect (hfresh : call.Fresh w) (h : call.body lib nowMs s = .ok (reply,s')) :
    Effect lib nowMs (fun x => isHex 32 x ∧ x ∉ w.issued) call s s' reply := by
  cases call with
  | installConsent grantId scopes expiresMs =>
    rw [body] at h
    obtain ⟨b,hcall,rfl⟩ := map_prod_ok h
    exact install_effect hcall
  | withdrawConsent grantId =>
    rw [body] at h
    obtain ⟨n,hcall,rfl⟩ := map_prod_ok h
    exact withdraw_effect hcall
  | queueOutbound kind encodedBody senderNodeId destinationNodeId userInitiated random =>
    rw [body] at h
    obtain ⟨b,hcall,rfl⟩ := map_prod_ok h
    exact queue_effect hcall
  | claimOutbound owner limit leaseMs draw =>
    rw [body] at h
    obtain ⟨claims,hcall,rfl⟩ := map_prod_ok h
    exact claim_effect (fun n => hfresh n) hcall
  | settleOutbound claimToken sent retryAfterMs =>
    rw [body] at h
    obtain ⟨u,hcall,rfl⟩ := map_prod_ok h
    exact settle_effect hcall
  | acceptIntervention encodedBody senderNodeId localDeviceNodeId localHumanId random =>
    rw [body] at h
    obtain ⟨b,hcall,rfl⟩ := map_prod_ok h
    exact accept_effect hcall
  | markInterventionPresented interventionId =>
    rw [body] at h
    obtain ⟨b,hcall,rfl⟩ := map_prod_ok h
    exact present_effect hcall
  | recordUserResponse encodedBody localDeviceNodeId destinationNodeId localHumanId random =>
    rw [body] at h
    obtain ⟨r,hcall,rfl⟩ := map_prod_ok h
    exact record_effect hcall

end CompanionCall

namespace LedgerWorld

open CompanionState CompanionCall

/-- A step is a call that is refused, or one with its effect. -/
theorem step_cases (h : Step lib w w') : w' = w ∨ ∃ nowMs call reply,
    call.run lib nowMs w.state = (.ok reply,w'.state) ∧
    Effect lib nowMs (fun x => isHex 32 x ∧ x ∉ w.issued) call w.state w'.state reply ∧
    w'.queued = w.queued ++ call.message lib nowMs ∧
    w'.responses = w.responses ++ reply.recorded ∧
    w'.issued = w.issued ∪ seenTokens OutboundRow.claimToken w'.state.outbox := by
  obtain ⟨nowMs,call,hfresh,rfl⟩ := h
  rcases atomic_cases (call.body lib nowMs) w.state with ⟨reply,s',hbody,hrun⟩ | ⟨e,-,hrun⟩
  · have hexec : w.exec lib nowMs call = ⟨s',w.queued ++ call.message lib nowMs,
        w.responses ++ reply.recorded,w.issued ∪ seenTokens OutboundRow.claimToken s'.outbox⟩ := by
      simp only [exec,run,hrun]
    rw [hexec]
    exact Or.inr ⟨nowMs,call,reply,hrun,body_effect hfresh hbody,rfl,rfl,rfl⟩
  · refine Or.inl ?_
    simp only [exec,run,hrun]

/-- The claim tokens as a fence over the outbox. -/
def fence (w : LedgerWorld) : Fence String String :=
  tableFence OutboundRow.claimToken w.state.outbox w.issued

theorem fence_step (h : Step lib w w') : w.fence.Step w'.fence := by
  rcases step_cases h with rfl | ⟨_,_,_,-,heffect,-,-,hissued⟩
  · exact Fence.Step.refl _
  unfold fence
  rw [hissued]
  refine tableFence_step (fun x => x) (fun r _ => List.mem_singleton_self _) ?_
  intro k r' hr' hne
  rcases heffect.outbox.origin k r' hr' with ⟨r,hr,hmove⟩ | hnew
  · rcases hmove.token with hnone | hold | hfresh
    · exact absurd hnone hne
    · exact Or.inl ⟨r,hr,hold.symm⟩
    · exact Or.inr hfresh.2
  · exact absurd hnew.1 hne

/-- What every reachable world keeps. -/
structure Kept (lib : CompanionPlatform) (w : LedgerWorld) : Prop where
  fenced : w.fence.Sound
  rows : ∀ k row, w.state.outbox.get k = some row →
    ∃ m ∈ w.queued, QueuedFrom lib m row ∧ (row.state ≠ .sent → Consented m w.state)
  recorded : ∀ e ∈ w.responses, e.responseId ≠ "" ∧
    ∃ row, w.state.interventions.get e.interventionId = some row ∧
      row.responseId = e.responseId ∧ (e.actionId = "" ∨ Offers lib row e.actionId)
  responded : ∀ k row, w.state.interventions.get k = some row → row.responseId ≠ "" →
    ∃ e ∈ w.responses, e.interventionId = k ∧ e.responseId = row.responseId
  once : (w.responses.map UserResponse.interventionId).Nodup

theorem kept_start : start.Kept lib where
  fenced := tableFence_empty_sound
  rows _ _ h := by cases h
  recorded _ h := by cases h
  responded _ _ h := by cases h
  once := List.nodup_nil

theorem offers_congr {row row' : InterventionRow} {actionId : String}
    (hpayload : row'.payload = row.payload) (haad : row'.aad = row.aad)
    (h : Offers lib row actionId) : Offers lib row' actionId := by
  unfold Offers decryptIntervention at h ⊢
  rw [hpayload,haad]
  exact h

theorem kept_step (hw : w.Kept lib) (h : Step lib w w') : w'.Kept lib := by
  have hfence := hw.fenced.step (fence_step h)
  rcases step_cases h with rfl | ⟨nowMs,call,reply,-,heffect,hqueued,hresponses,-⟩
  · exact hw
  -- a recorded response is the first one of its intervention
  have hfirst : ∀ e ∈ reply.recorded, ∀ e' ∈ w.responses, e'.interventionId ≠ e.interventionId := by
    intro e he e' he' hsame
    obtain ⟨row,_,hrow,hnone,-⟩ := (heffect.records e he).row
    obtain ⟨hnamed,row',hrow',hid,-⟩ := hw.recorded e' he'
    rw [hsame] at hrow'
    obtain rfl := Option.some.inj (hrow.symm.trans hrow')
    exact hnamed (hid.symm.trans hnone)
  refine ⟨hfence,?_,?_,?_,?_⟩
  · intro k row' hrow'
    rw [hqueued]
    rcases heffect.outbox.origin k row' hrow' with ⟨row,hrow,hmove⟩ | ⟨-,m,hm,hfrom,hconsented⟩
    · obtain ⟨m,hm,hfrom,hconsented⟩ := hw.rows k row hrow
      refine ⟨m,List.mem_append_left _ hm,⟨?_,?_,?_,?_⟩,?_⟩
      · rw [hmove.semanticId]
        exact hfrom.semanticId
      · exact hmove.kind.trans hfrom.kind
      · rw [hmove.payload,hmove.aad]
        exact hfrom.payload
      · intro g scopes hopts
        exact hmove.consentGrantId.trans (hfrom.grant g scopes hopts)
      · intro hunsent g scopes hopts
        obtain ⟨grant,hget,hrest⟩ := hconsented (hmove.unsent hunsent) g scopes hopts
        have hnamed : row'.consentGrantId = g :=
          hmove.consentGrantId.trans (hfrom.grant g scopes hopts)
        rw [← hnamed] at hget ⊢
        exact ⟨grant,heffect.unsent k row' grant hrow' hunsent hget,hrest⟩
    · refine ⟨m,List.mem_append_right _ hm,hfrom,?_⟩
      intro hunsent g scopes hopts
      obtain ⟨grant,hget,hrest⟩ := hconsented g scopes hopts
      have hnamed := hfrom.grant g scopes hopts
      rw [← hnamed] at hget ⊢
      exact ⟨grant,heffect.unsent k row' grant hrow' hunsent hget,hrest⟩
  · intro e he
    rw [hresponses] at he
    rcases List.mem_append.mp he with hold | hnew
    · obtain ⟨hnamed,row,hrow,hid,hoffers⟩ := hw.recorded e hold
      obtain ⟨row',hrow',hpayload,haad,hsame | ⟨e',he',hsame⟩⟩ := heffect.stored _ row hrow
      · exact ⟨hnamed,row',hrow',hsame.trans hid,hoffers.imp_right (offers_congr hpayload haad)⟩
      · exact absurd hsame.symm (hfirst e' he' e hold)
    · obtain ⟨hnamed,⟨row,row',-,-,hoffers,hrow',hid,hpayload,haad⟩,-⟩ := heffect.records e hnew
      exact ⟨hnamed,row',hrow',hid,hoffers.imp_right (offers_congr hpayload haad)⟩
  · intro k row' hrow' hnamed
    rw [hresponses]
    rcases heffect.interventions k row' hrow' with ⟨e,he,hk⟩ | ⟨row,hrow,hsame,-⟩ | ⟨-,hnone⟩
    · exact ⟨e,List.mem_append_right _ he,hk⟩
    · rw [hsame] at hnamed
      obtain ⟨e,he,hk,hid⟩ := hw.responded k row hrow hnamed
      exact ⟨e,List.mem_append_left _ he,hk,hid.trans hsame.symm⟩
    · exact absurd hnone hnamed
  · rw [hresponses,List.map_append,List.nodup_append]
    refine ⟨hw.once,?_,?_⟩
    · have honce := heffect.once
      cases hrecorded : reply.recorded with
      | nil => exact List.nodup_nil
      | cons e es =>
        rw [hrecorded,List.length_cons] at honce
        have hes : es = [] := List.length_eq_zero_iff.mp (by omega)
        simp [hes]
    · intro a ha b hb
      obtain ⟨e',he',rfl⟩ := List.mem_map.mp ha
      obtain ⟨e,he,rfl⟩ := List.mem_map.mp hb
      exact hfirst e he e' he'

theorem kept_reaches (h : Reaches (Step lib) start w) : w.Kept lib :=
  Reaches.invariant (I := Kept lib) (fun _ _ hw hstep => kept_step hw hstep) kept_start h

/-- A sent row stays as it is. -/
theorem sent_reaches (h : Reaches (Step lib) w w') {k : String} {row : OutboundRow}
    (hrow : w.state.outbox.get k = some row) (hsent : row.state = .sent) :
    w'.state.outbox.get k = some row := by
  induction h with
  | refl => exact hrow
  | tail _ hlast ih =>
    rcases step_cases hlast with rfl | ⟨_,_,_,-,heffect,-⟩
    · exact ih
    · exact heffect.outbox.sent k row ih hsent

theorem withdrawn_reaches (h : Reaches (Step lib) w w') {k : String} {grant : ConsentGrantRow}
    (hgrant : w.state.consents.get k = some grant) (hstate : grant.state = .withdrawn) :
    w'.state.consents.get k = some grant := by
  induction h with
  | refl => exact hgrant
  | tail _ hlast ih =>
    rcases step_cases hlast with rfl | ⟨_,_,_,-,heffect,-⟩
    · exact ih
    · obtain ⟨grant',hget,rfl | ⟨hactive,-⟩⟩ := heffect.consents k grant ih
      · exact hget
      · rw [hstate] at hactive
        cases hactive

theorem responses_reaches (h : Reaches (Step lib) w w') {e : UserResponse} (he : e ∈ w.responses) :
    e ∈ w'.responses := by
  induction h with
  | refl => exact he
  | tail _ hlast ih =>
    rcases step_cases hlast with rfl | ⟨_,_,_,-,-,-,hresponses,-⟩
    · exact ih
    · rw [hresponses]
      exact List.mem_append_left _ ih

/-- Every claim is the text of a queued message that is still under its consent. -/
theorem Kept.claims (hlib : lib.Opens) (hw : w.Kept lib) {owner : String} {limit leaseMs : ℤ}
    {draw : ℕ → String} {claims : List OutboundClaim}
    (h : w.state.claimOutbound lib owner limit leaseMs nowMs draw = .ok (claims,s'))
    {c : OutboundClaim} (hc : c ∈ claims) : ∃ m ∈ w.queued,
      semanticId m.kind m.message = .ok c.semanticId ∧ c.kind = m.kind ∧
      c.body = canonicalJson lib m.message ∧ Consented m w.state := by
  obtain ⟨-,-,-,hclaims⟩ := claimOutbound_effect (fun _ => True) (fun _ => trivial) h
  obtain ⟨row,hrow,hunsent,hkind,plaintext,hplain,hbody⟩ := hclaims c hc
  obtain ⟨m,hm,hfrom,hconsented⟩ := hw.rows _ row hrow
  obtain ⟨random,hpayload⟩ := hfrom.payload
  rw [hpayload,hlib.decrypt_encrypt] at hplain
  obtain rfl := Option.some.inj hplain
  rw [utf8Text_utf8] at hbody
  refine ⟨m,hm,?_,hkind.trans hfrom.kind,(Option.some.inj hbody).symm,hconsented hunsent⟩
  rw [← Table.get_key hrow]
  exact hfrom.semanticId

/-- A token whose row was taken from it settles nothing any more. -/
theorem Kept.stale (hw : w.Kept lib) {u v : LedgerWorld} (hwu : Reaches (Step lib) w u)
    (huv : Reaches (Step lib) u v) {k x : String} (hheld : heldToken OutboundRow.claimToken w.state.outbox k = some x)
    (hlost : heldToken OutboundRow.claimToken u.state.outbox k ≠ some x) {claimToken : String}
    (htoken : trimLower claimToken = x) (sent : Bool) (retryAfterMs : ℤ) :
    ∃ e, v.state.settleOutbound claimToken sent nowMs retryAfterMs = .error e := by
  have hrun (a b : LedgerWorld) (h : Reaches (Step lib) a b) :
      Reaches Fence.Step a.fence b.fence :=
    Reaches.simulate (I := fun _ => True) (fun _ _ _ _ => trivial)
      (fun _ _ _ hstep => .single (fence_step hstep)) trivial h
  have hdead := Fence.stale hw.fenced (hrun w u hwu) (hrun u v huv) hheld hlost
  cases hsettle : v.state.settleOutbound claimToken sent nowMs retryAfterMs with
  | error e => exact ⟨e,rfl⟩
  | ok r =>
    obtain ⟨-,-,row,hrow,-,hnormal,hhex,-⟩ := settleOutbound_effect hsettle
    refine absurd ?_ (hdead row.semanticId)
    exact heldToken_eq_some.mpr ⟨row,hrow,hnormal.symm.trans htoken,
      htoken ▸ hnormal ▸ isHex_ne_empty hhex⟩

/-- What the ledger guarantees of a world it reaches and of every world after it. -/
structure Guarantees (lib : CompanionPlatform) (w : LedgerWorld) : Prop where
  claims : ∀ owner limit leaseMs nowMs draw claims s',
    w.state.claimOutbound lib owner limit leaseMs nowMs draw = .ok (claims,s') → ∀ c ∈ claims,
      ∃ m ∈ w.queued, semanticId m.kind m.message = .ok c.semanticId ∧ c.kind = m.kind ∧
        c.body = canonicalJson lib m.message ∧ Consented m w.state
  settles : ∀ claimToken sent nowMs retryAfterMs s',
    w.state.settleOutbound claimToken sent nowMs retryAfterMs = .ok ((),s') →
      ∃ row, w.state.outbox.get row.semanticId = some row ∧ row.state = .leased ∧
        row.claimToken = trimLower claimToken ∧
        ∀ k, k ≠ row.semanticId → s'.outbox.get k = w.state.outbox.get k
  stale : ∀ u v, Reaches (Step lib) w u → Reaches (Step lib) u v → ∀ k x,
    heldToken OutboundRow.claimToken w.state.outbox k = some x →
    heldToken OutboundRow.claimToken u.state.outbox k ≠ some x →
    ∀ claimToken sent nowMs retryAfterMs, trimLower claimToken = x →
      ∃ e, v.state.settleOutbound claimToken sent nowMs retryAfterMs = .error e
  sent : ∀ u, Reaches (Step lib) w u → ∀ k row, w.state.outbox.get k = some row →
    row.state = .sent → u.state.outbox.get k = some row ∧
      ∀ owner limit leaseMs nowMs draw claims s',
        u.state.claimOutbound lib owner limit leaseMs nowMs draw = .ok (claims,s') →
          ∀ c ∈ claims, c.semanticId ≠ k
  single : (w.responses.map UserResponse.interventionId).Nodup
  offered : ∀ e ∈ w.responses, ∃ row, w.state.interventions.get e.interventionId = some row ∧
    row.responseId = e.responseId ∧ (e.actionId = "" ∨ Offers lib row e.actionId)
  answered : ∀ u, Reaches (Step lib) w u → ∀ k row, w.state.interventions.get k = some row →
    row.responseId ≠ "" → (∃ e ∈ w.responses, e.interventionId = k ∧
      e.responseId = row.responseId) ∧
      ∃ row', u.state.interventions.get k = some row' ∧ row'.responseId = row.responseId
  together : ∀ encodedBody localDeviceNodeId destinationNodeId localHumanId nowMs random b e s',
    w.state.recordUserResponse lib encodedBody localDeviceNodeId destinationNodeId localHumanId
      nowMs random = .ok ((b,e),s') → if b then Records lib w.state s' e else s' = w.state
  withdrawn : ∀ u, Reaches (Step lib) w u → ∀ k grant, w.state.consents.get k = some grant →
    grant.state = .withdrawn → u.state.consents.get k = some grant
  refused : ∀ nowMs call e s', CompanionCall.run lib nowMs call w.state = (.error e,s') →
    s' = w.state

/-- The companion's ledger keeps its guarantees in every run, whatever the clock does. -/
theorem ledger_guarantees (hlib : lib.Opens) (h : Reaches (Step lib) start w) :
    w.Guarantees lib where
  claims _ _ _ _ _ _ _ hclaim _ hc := (kept_reaches h).claims hlib hclaim hc
  settles claimToken sent nowMs retryAfterMs s' hsettle := by
    obtain ⟨-,-,row,hrow,hleased,hnormal,-,hget⟩ := settleOutbound_effect hsettle
    refine ⟨row,hrow,hleased,hnormal.symm,?_⟩
    intro k hk
    rw [hget,if_neg hk]
  stale _ _ hwu huv _ _ hheld hlost _ sent _ retryAfterMs htoken :=
    (kept_reaches h).stale hwu huv hheld hlost htoken sent retryAfterMs
  sent u hu k row hrow hsent := by
    have hkept := sent_reaches hu hrow hsent
    refine ⟨hkept,?_⟩
    intro owner limit leaseMs nowMs draw claims s' hclaim c hc hck
    obtain ⟨-,-,-,hclaims⟩ := claimOutbound_effect (fun _ => True) (fun _ => trivial) hclaim
    obtain ⟨row',hrow',hunsent,-⟩ := hclaims c hc
    rw [hck,hkept] at hrow'
    obtain rfl := Option.some.inj hrow'
    exact hunsent hsent
  single := (kept_reaches h).once
  offered e he := ((kept_reaches h).recorded e he).2
  answered u hu k row hrow hnamed := by
    obtain ⟨e,he,rfl,hid⟩ := (kept_reaches h).responded k row hrow hnamed
    refine ⟨⟨e,he,rfl,hid⟩,?_⟩
    obtain ⟨-,row',hrow',hid',-⟩ :=
      (kept_reaches (h.trans hu)).recorded e (responses_reaches hu he)
    exact ⟨row',hrow',hid'.trans hid⟩
  together encodedBody localDeviceNodeId destinationNodeId localHumanId nowMs random b e s' hrecord := by
    have heffect : Effect lib nowMs (fun _ => True) _ w.state s' _ := record_effect hrecord
    cases b with
    | true => exact heffect.records e (List.mem_singleton_self e)
    | false =>
      rcases recordUserResponse_effect hrecord with ⟨-,hsame⟩ | ⟨hflag,-⟩
      · exact hsame
      · cases hflag
  withdrawn _ hu _ _ hgrant hstate := withdrawn_reaches hu hgrant hstate
  refused nowMs call e s' hrun := by
    rcases atomic_cases (call.body lib nowMs) w.state with ⟨a,_,-,hatomic⟩ | ⟨_,-,hatomic⟩
    · rw [CompanionCall.run,hatomic] at hrun
      cases hrun
    · rw [CompanionCall.run,hatomic] at hrun
      exact (Prod.mk.inj hrun).2.symm

end LedgerWorld

section Lone

open CompanionState

variable {row : OutboundRow} {text : String}

/-- A lone pending message is claimed as soon as it is ready, whatever became of its grant. -/
theorem claimOutbound_lone (owner : String) (limit leaseMs : ℤ) (draw : ℕ → String)
    (hrows : s.outbox.rows = [row]) (hstate : row.state = .pending) (hready : ready nowMs row)
    (hdecrypt : lib.decrypt row.payload row.aad = some (utf8 text))
    (howner : workerName owner = .ok owner) (hlimit : 1 ≤ limit ∧ limit ≤ 100)
    (hlease : 5000 ≤ leaseMs ∧ leaseMs ≤ 86400000) :
    ∃ s', s.claimOutbound lib owner limit leaseMs nowMs draw =
      .ok ([⟨row.semanticId,row.kind,draw 0,text,row.expiresMs,row.attempts + 1⟩],s') := by
  have hrecover : ∃ t, recover nowMs s.outbox = .ok t ∧ t.rows = [row] := by
    have hdelete : (s.outbox.delete fun r => r.expiresMs ≤ nowMs ∧ r.state ≠ .sent).rows = [row] := by
      have hlive : ¬ row.expiresMs ≤ nowMs := by
        have := hready.2.2
        omega
      simp [Table.delete,hrows,hlive]
    have halter : ((s.outbox.delete fun r => r.expiresMs ≤ nowMs ∧ r.state ≠ .sent).rows.map
        fun r => if r.state = .leased ∧ r.leaseUntilMs ≤ nowMs then r.recovered nowMs else r) =
        [row] := by
      simp [hdelete,hstate]
    obtain ⟨t,ht,hrows⟩ := Table.alter_single halter
    exact ⟨t,orThrow_ok.mpr ht,hrows⟩
  obtain ⟨t,hrecover,ht⟩ := hrecover
  have hids : readyOutboxIds nowMs limit.toNat t = [row.semanticId] := by
    obtain ⟨n,hn⟩ : ∃ n, limit.toNat = n + 1 := ⟨limit.toNat - 1,by omega⟩
    simp [readyOutboxIds,Table.select,ht,hready,hn]
  have hget : t.get row.semanticId = some row := Table.mem_rows.mp (by simp [ht])
  let leased := row.lease owner (draw 0) (nowMs + leaseMs) nowMs
  have hassign : ∃ t', t.assign row.semanticId
      (OutboundRow.lease owner (draw 0) (nowMs + leaseMs) nowMs) (fun _ => rfl) = some t' ∧
      t'.rows = [leased] := Table.assign_single (by simp [ht,leased])
  obtain ⟨t',hassign,ht'⟩ := hassign
  have hfirst : t'.first (leasedUnder (draw 0)) = some leased := by
    simp [Table.first,ht',leased,leasedUnder,OutboundRow.lease]
  have hclaim : claimRow lib owner (draw 0) leaseMs nowMs row.semanticId t = .ok
      (some ⟨row.semanticId,row.kind,draw 0,text,row.expiresMs,row.attempts + 1⟩,t') := by
    simp only [claimRow,hget,if_pos hready,hassign,mobile_bind_ok,orThrow_ok]
    exact ⟨t',rfl,leased,hfirst,utf8 text,hdecrypt,text,utf8Text_utf8 text,rfl⟩
  refine ⟨{ s with outbox := t' },?_⟩
  simp only [claimOutbound,mobile_bind_ok,require_ok]
  refine ⟨owner,howner,(),hlimit,(),hlease,t,hrecover,(_,t'),?_,rfl⟩
  rw [hids]
  simp only [claimRows,mobile_bind_ok]
  exact ⟨_,hclaim,([],t'),rfl,rfl⟩

end Lone

section Sample

mutual

/-- JSON text, for values whose texts need no escape. -/
def renderJson : Value → String
  | .nil => "null"
  | .bool b => if b then "true" else "false"
  | .int i => toString i
  | .str s => "\"" ++ s ++ "\""
  | .list items => "[" ++ ",".intercalate (renderItems items) ++ "]"
  | .map entries => "\x7b" ++ ",".intercalate (renderEntries entries) ++ "\x7d"
  | _ => ""

def renderItems : List Value → List String
  | [] => []
  | v :: vs => renderJson v :: renderItems vs

def renderEntries : List (Value × Value) → List String
  | [] => []
  | (k,v) :: es => (renderJson k ++ ":" ++ renderJson v) :: renderEntries es

end

/-- A platform that reads the given messages, with the plaintext behind the bound data. -/
def plainPlatform (messages : List Value) : CompanionPlatform where
  parseToJsonElement text := messages.find? fun v => renderJson v = text
  render := renderJson
  toDouble _ := 0
  sha256 _ := ""
  encrypt random plaintext aad := ⟨aad ++ plaintext,random⟩
  decrypt payload aad :=
    if aad.isPrefixOf payload.ciphertext then some (payload.ciphertext.drop aad.length) else none

theorem plainPlatform_opens (messages : List Value) : (plainPlatform messages).Opens where
  decrypt_encrypt random plaintext aad := by simp [plainPlatform]

def sampleGrant : String := "abababababababababababababababab"
def companionDevice : String := "an1aaaaaaaaaaaaaaaaaaaa"
def sampleRemote : String := "an1bbbbbbbbbbbbbbbbbbbb"

/-- A presence observation under a user-opt-in grant. -/
def sampleObservation : Value := MobileProtocol.object
  [("batch_id",.str "01010101010101010101010101010101"),
    ("consent",MobileProtocol.object [("basis",.str "user-opt-in"),("grant_id",.str sampleGrant),
      ("scope",MobileProtocol.stringsArray ["human.presence"])]),
    ("created_ms",.int 1000000),("data_level",.str "operational"),("expires_ms",.int 2000000),
    ("object_type",.str "observation_batch"),
    ("observations",.list [MobileProtocol.object
      [("observation_id",.str "02020202020202020202020202020202"),("observed_ms",.int 999000),
        ("type",.str "human.presence"),("value",MobileProtocol.object [("state",.str "present")])]]),
    ("protocol",.str "anet.companion"),("source_node_id",.str companionDevice),("version",.int 1),
    ("window_end_ms",.int 999000),("window_start_ms",.int 990000)]

/-- A response that names no action. -/
def sampleResponse : Value := MobileProtocol.object
  [("action_id",.str ""),("created_ms",.int 1000000),("device_node_id",.str companionDevice),
    ("disposition",.str "ignored"),("expires_ms",.int 2000000),
    ("human_id",.str "hu1bbbbbbbbbbbbbbbbbbbb"),
    ("intervention_id",.str "04040404040404040404040404040404"),
    ("object_type",.str "user_response"),("protocol",.str "anet.companion"),
    ("response_id",.str "05050505050505050505050505050505"),("text",.str ""),("version",.int 1)]

def samplePlatform : CompanionPlatform := plainPlatform [sampleObservation,sampleResponse]

namespace LedgerWorld

open CompanionState

/-- A grant for one minute, and a message under it that lives much longer. -/
def consented : LedgerWorld :=
  (start.exec samplePlatform 1000000 (.installConsent sampleGrant ["human.presence"] 1060000)).exec
    samplePlatform 1000000 (.queueOutbound MobileProtocol.observationBatch
      (renderJson sampleObservation) companionDevice sampleRemote false [])

/-- A response put into the outbox by itself. -/
def unbound : LedgerWorld :=
  start.exec samplePlatform 1000000 (.queueOutbound MobileProtocol.userResponse
    (renderJson sampleResponse) companionDevice sampleRemote true [])

theorem consented_reached : Reaches (Step samplePlatform) start consented :=
  .tail (.single ⟨1000000,.installConsent sampleGrant ["human.presence"] 1060000,trivial,rfl⟩)
    ⟨1000000,.queueOutbound MobileProtocol.observationBatch (renderJson sampleObservation)
      companionDevice sampleRemote false [],trivial,rfl⟩

theorem unbound_reached : Reaches (Step samplePlatform) start unbound :=
  .single ⟨1000000,.queueOutbound MobileProtocol.userResponse (renderJson sampleResponse)
    companionDevice sampleRemote true [],trivial,rfl⟩

/-- The grant a message names, and the scopes it needs. -/
def namedGrant (m : QueuedMessage) : Option (String × List String) :=
  match Value.field m.message "consent" with
  | some (.map consent) =>
    match CompanionState.content consent "basis",CompanionState.content consent "grant_id",
      Value.field consent "scope" with
    | .ok basis,.ok g,some (.list items) =>
      if m.kind = MobileProtocol.observationBatch ∧ basis = "user-opt-in" then
        some (g,items.map MobileProtocol.keyText)
      else none
    | _,_,_ => none
  | _ => none

theorem namedGrant_opts {m : QueuedMessage} {g : String} {scopes : List String}
    (h : namedGrant m = some (g,scopes)) : OptsIn m.kind m.message g scopes := by
  unfold namedGrant at h
  split at h
  swap
  · cases h
  rename_i consent hconsent
  split at h
  swap
  · cases h
  rename_i basis g' items hbasis hgrant hscope
  split at h
  · rename_i hopts
    obtain ⟨rfl,rfl⟩ := Prod.mk.inj (Option.some.inj h)
    exact ⟨Or.inl hopts.1,consent,items,hconsent,by rw [hbasis,hopts.2],hgrant,hscope,rfl⟩
  · cases h

theorem consented_state : (match consented.state.outbox.rows,consented.queued with
    | [row],[m] => row.state == .pending && decide (CompanionState.ready 1100000 row) &&
      namedGrant m == some (sampleGrant,["human.presence"]) &&
      ((consented.state.consents.get sampleGrant).any fun grant => grant.expiresMs == 1060000)
    | _,_ => false) = true := by
  decide +kernel

theorem unbound_state : (unbound.state.outbox.rows.any fun row =>
    row.kind == MobileProtocol.userResponse) && unbound.state.interventions.rows.isEmpty := by
  decide +kernel

theorem ledger_guarantees_sample : samplePlatform.Opens ∧
    Reaches (Step samplePlatform) start consented ∧ consented.Guarantees samplePlatform :=
  ⟨plainPlatform_opens _,consented_reached,
    ledger_guarantees (plainPlatform_opens _) consented_reached⟩

/-- A message goes out after its grant has expired, and a response is queued without its
intervention. -/
theorem expired_grant_claimed :
    (∃ w, Reaches (Step samplePlatform) start w ∧ ∃ claims s',
      w.state.claimOutbound samplePlatform "sender" 1 5000 1100000 (fun _ => sampleGrant) =
        .ok (claims,s') ∧ ∃ c ∈ claims, ∃ m ∈ w.queued,
        c.body = canonicalJson samplePlatform m.message ∧
        ∃ g scopes grant, OptsIn m.kind m.message g scopes ∧
          w.state.consents.get g = some grant ∧ grant.expiresMs ≤ 1100000) ∧
    ∃ w, Reaches (Step samplePlatform) start w ∧
      (∃ row ∈ w.state.outbox.rows, row.kind = MobileProtocol.userResponse) ∧
      w.state.interventions.rows = [] := by
  constructor
  · have hstate := consented_state
    split at hstate
    swap
    · cases hstate
    rename_i row m hrows hqueued
    simp only [Bool.and_eq_true,beq_iff_eq,decide_eq_true_eq,Option.any_eq_true] at hstate
    obtain ⟨⟨⟨hpending,hready⟩,hnamed⟩,grant,hgrant,hexpires⟩ := hstate
    have hget := Table.mem_rows.mp (show row ∈ consented.state.outbox.rows by simp [hrows])
    obtain ⟨m',hm,hfrom,-⟩ := (kept_reaches consented_reached).rows _ row hget
    rw [hqueued,List.mem_singleton] at hm
    subst hm
    obtain ⟨random,hpayload⟩ := hfrom.payload
    have hopens : samplePlatform.Opens := plainPlatform_opens _
    have hdecrypt : samplePlatform.decrypt row.payload row.aad =
        some (utf8 (canonicalJson samplePlatform m'.message)) := by
      rw [hpayload,hopens.decrypt_encrypt]
    have howner : workerName "sender" = .ok "sender" := by decide
    obtain ⟨s',hclaim⟩ := claimOutbound_lone "sender" 1 5000 (fun _ => sampleGrant) hrows hpending
      hready hdecrypt howner (by omega) (by omega)
    refine ⟨consented,consented_reached,_,s',hclaim,_,List.mem_singleton_self _,m',?_,rfl,?_⟩
    · simp [hqueued]
    · exact ⟨_,_,grant,namedGrant_opts hnamed,hgrant,by omega⟩
  · have hstate := unbound_state
    simp only [Bool.and_eq_true,List.any_eq_true,beq_iff_eq,List.isEmpty_iff] at hstate
    exact ⟨unbound,unbound_reached,hstate.1,hstate.2⟩

end LedgerWorld
end Sample
end Anet
