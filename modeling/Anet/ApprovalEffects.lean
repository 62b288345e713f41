import Anet.ApprovalStore
import Anet.TokenFence

/-! Runs of the approval operations. Other workers may interleave anywhere
between the reads of an operation and its transaction, so a step is one
transaction, with whatever its reads prepared. -/
namespace Anet

open PacketStore ApprovalEffect CompanionProtocol

/-- The database and every execution token that has stood in it. -/
structure ApprovalWorld where
  store : PacketStore
  issued : Set String

inductive ApprovalOp
  | register (body : Value) (now : ℤ)
  | activate (groupId owner : ConsumerId) (claimToken : Token) (prepared : PreparedActivation)
      (now : ℤ)
  | begin (requestId effectId : Token) (effectKey : String) (owner : ConsumerId)
      (executionToken : Token) (lease : LeaseMs) (now : ℤ)
  | settle (requestId effectId executionToken : Token) (outcome : String) (result : Option Value)
      (error : String) (retry : RetryMs) (now : ℤ)
  | elsewhere (s' : PacketStore)

namespace ApprovalOp

def exec (rt : Runtime) : ApprovalOp → PacketStore → PacketStore
  | .register body now,s => (registerCompanionApprovalRequest rt body now s).2
  | .activate groupId owner claimToken prepared now,s =>
    (transaction (commitActivation rt groupId owner claimToken prepared now) s).2
  | .begin requestId effectId effectKey owner executionToken lease now,s =>
    (transaction (acquireEffect requestId effectId effectKey owner executionToken lease now) s).2
  | .settle requestId effectId executionToken outcome result error retry now,s =>
    (settleCompanionApprovalEffect rt requestId effectId executionToken outcome result error retry
      now s).2
  | .elsewhere s',_ => s'

/-- A begin draws a token that never stood in the table; the operations of other
components leave the authorizations and the effects alone. -/
def Allowed (w : ApprovalWorld) : ApprovalOp → Prop
  | .begin _ _ _ _ executionToken _ _ => executionToken.val ∉ w.issued
  | .elsewhere s' => s'.approvalAuthorizations = w.store.approvalAuthorizations ∧
      s'.approvalEffects = w.store.approvalEffects
  | _ => True

end ApprovalOp

def ApprovalWorld.initial : ApprovalWorld := ⟨PacketStore.empty,∅⟩

def ApprovalWorld.after (rt : Runtime) (w : ApprovalWorld) (op : ApprovalOp) : ApprovalWorld :=
  ⟨op.exec rt w.store,
    w.issued ∪ seenTokens executionToken (op.exec rt w.store).approvalEffects⟩

def ApprovalStep (rt : Runtime) (w w' : ApprovalWorld) : Prop :=
  ∃ op : ApprovalOp, op.Allowed w ∧ w' = w.after rt op

/-- What one step can do to the authorizations and the effects. -/
inductive ApprovalChange (rt : Runtime) (w : ApprovalWorld) (op : ApprovalOp)
    (authorizations : Authorizations) (effects : ApprovalEffects) : Prop
  | idle (ha : authorizations = w.store.approvalAuthorizations)
      (he : effects = w.store.approvalEffects)
  | authorize (p : PreparedActivation) (packetId : String) (now : ℤ)
      (hins : w.store.approvalAuthorizations.insert (decidedRow p packetId now) =
        some authorizations)
      (he : effects = w.store.approvalEffects)
  | takeOver (k : String × String) (e : ApprovalEffect) (owner token : String) (lease now : ℤ)
      (ha : authorizations = w.store.approvalAuthorizations)
      (hold : w.store.approvalEffects.get k = some e)
      (hstate : e.state = .working ∨ e.state = .retry)
      (hassign : w.store.approvalEffects.assign k (takeOver owner token lease now)
        (fun _ => rfl) = some effects)
      (hfresh : token ∉ w.issued)
  | start (a : ApprovalAuthorization) (requestId effectId effectKey owner token : String)
      (lease now : ℤ) (ha : authorizations = w.store.approvalAuthorizations)
      (hauth : authorizations.get requestId = some a) (hactive : a.state = .active)
      (hfree : w.store.approvalEffects.count
        (fun e => e.requestId = requestId ∧ e.reserved) < a.maxUses)
      (hins : w.store.approvalEffects.insert
        (begun requestId effectId effectKey owner token lease now) = some effects)
      (hfresh : token ∉ w.issued)
  | settle (requestId effectId token : Token) (outcome : String) (result : Option Value)
      (error : String) (retry : RetryMs) (now : ℤ) (kind : EffectOutcome)
      (encoded : Option Bytes) (text : String) (e : ApprovalEffect)
      (hop : op = .settle requestId effectId token outcome result error retry now)
      (hargs : effectArguments rt outcome result error = .ok (kind,encoded,text))
      (ha : authorizations = w.store.approvalAuthorizations)
      (hold : w.store.approvalEffects.get (requestId.val,effectId.val) = some e)
      (htoken : e.executionToken = token.val) (hstate : e.state = .working)
      (hget : ∀ k, effects.get k = if k = (requestId.val,effectId.val) then
        some (settledEffect kind encoded text retry.val now e) else w.store.approvalEffects.get k)
      (hcount : ∀ requestId', effects.count (fun e => e.requestId = requestId' ∧ e.reserved) ≤
        w.store.approvalEffects.count (fun e => e.requestId = requestId' ∧ e.reserved))

section Steps

variable {rt : Runtime} {w w' : ApprovalWorld} {op : ApprovalOp}

theorem register_exec (rt : Runtime) (body : Value) (now : ℤ) (s : PacketStore) :
    ∃ requests, (registerCompanionApprovalRequest rt body now s).2 =
      { s with approvalRequests := requests } := by
  unfold registerCompanionApprovalRequest
  rcases transaction_cases _ s with ⟨a,s',hb,ht⟩ | ⟨e,-,ht⟩
  · rw [ht]
    simp only [bind_ok] at hb
    obtain ⟨_,-,_,-,_,-,_,-,_,-,hreg⟩ := hb
    exact registerApprovalRequest_cases hreg
  · rw [ht]
    exact ⟨s.approvalRequests,rfl⟩

theorem exec_change (rt : Runtime) (h : op.Allowed w) :
    ApprovalChange rt w op (op.exec rt w.store).approvalAuthorizations
      (op.exec rt w.store).approvalEffects := by
  cases op with
  | register body now =>
    obtain ⟨requests,hreg⟩ := register_exec rt body now w.store
    rw [ApprovalOp.exec,hreg]
    exact .idle rfl rfl
  | activate groupId owner claimToken prepared now =>
    rw [ApprovalOp.exec]
    rcases transaction_cases (commitActivation rt groupId owner claimToken prepared now) w.store
      with ⟨r,s',hb,ht⟩ | ⟨e,-,ht⟩
    · rw [ht]
      obtain ⟨_,i,_,_,authorizations,-,-,-,rfl,hsame | hins⟩ := commitActivation_cases hb
      · exact .idle hsame rfl
      · exact .authorize prepared i.packetId now hins rfl
    · rw [ht]
      exact .idle rfl rfl
  | begin requestId effectId effectKey owner executionToken lease now =>
    rw [ApprovalOp.exec]
    rcases transaction_cases (acquireEffect requestId effectId effectKey owner executionToken lease
      now) w.store with ⟨o,s',hb,ht⟩ | ⟨e,-,ht⟩
    · rw [ht]
      obtain ⟨a,ha,hactive,-,⟨rfl,-⟩ | ⟨e,effects,he,hstate,hassign,rfl⟩ |
        ⟨effects,-,hused,hins,rfl⟩⟩ := acquireEffect_cases hb
      · exact .idle rfl rfl
      · exact .takeOver _ e _ _ _ _ rfl he hstate hassign h
      · exact .start a _ _ _ _ _ _ _ rfl ha hactive hused hins h
    · rw [ht]
      exact .idle rfl rfl
  | settle requestId effectId executionToken outcome result error retry now =>
    rw [ApprovalOp.exec,settleCompanionApprovalEffect]
    split
    · exact .idle rfl rfl
    · rename_i kind encoded text hargs
      rw [afterCommit]
      rcases transaction_cases (settleEffect requestId effectId executionToken kind encoded text
        retry.val now) w.store with ⟨o,s',hb,ht⟩ | ⟨e,-,ht⟩
      · rw [ht]
        obtain ⟨e,effects,he,htoken,hstate,rfl,hget,hcount⟩ := settleEffect_cases hb
        exact .settle _ _ _ _ _ _ _ _ kind encoded text e rfl hargs rfl he htoken hstate hget
          hcount
      · rw [ht]
        exact .idle rfl rfl
  | elsewhere s' => exact .idle h.1 h.2

/-- Authorizations are only ever added. -/
theorem exec_authorizations (rt : Runtime) (h : op.Allowed w) {k : String} {a : ApprovalAuthorization}
    (ha : w.store.approvalAuthorizations.get k = some a) :
    (op.exec rt w.store).approvalAuthorizations.get k = some a := by
  cases exec_change rt h with
  | idle hauth => rw [hauth,ha]
  | authorize p packetId now hins =>
    rw [Table.get_insert hins,if_neg,ha]
    rintro rfl
    rw [(Table.insert_eq_some hins).1] at ha
    cases ha
  | takeOver k' e owner token lease now hauth => rw [hauth,ha]
  | start a' requestId effectId effectKey owner token lease now hauth => rw [hauth,ha]
  | settle requestId effectId token outcome result error retry now kind encoded text e hop hargs
      hauth => rw [hauth,ha]

/-- An executed effect is final. -/
theorem exec_executed (h : op.Allowed w) {k : String × String} {e : ApprovalEffect}
    (he : w.store.approvalEffects.get k = some e) (hstate : e.state = .executed) :
    (op.exec rt w.store).approvalEffects.get k = some e := by
  cases exec_change rt h with
  | idle hauth heff => rw [heff,he]
  | authorize p packetId now hins heff => rw [heff,he]
  | takeOver k' e' owner token lease now hauth hold hopen hassign =>
    rw [Table.get_assign hassign,if_neg,he]
    rintro rfl
    obtain rfl := Option.some.inj (he.symm.trans hold)
    rcases hopen with hs | hs <;> rw [hstate] at hs <;> cases hs
  | start a requestId effectId effectKey owner token lease now hauth ha hactive hfree hins =>
    rw [Table.get_insert hins,if_neg,he]
    rintro rfl
    rw [(Table.insert_eq_some hins).1] at he
    cases he
  | settle requestId effectId token outcome result error retry now kind encoded text e' hop hargs
      hauth hold htoken hwork hget =>
    rw [hget,if_neg,he]
    rintro rfl
    obtain rfl := Option.some.inj (he.symm.trans hold)
    rw [hstate] at hwork
    cases hwork

/-- An effect becomes executed by a settlement under its current token, with the
result of that settlement. -/
theorem exec_new_executed (h : op.Allowed w) {k : String × String} {e' : ApprovalEffect}
    (he' : (op.exec rt w.store).approvalEffects.get k = some e') (hstate : e'.state = .executed)
    (hnew : w.store.approvalEffects.get k ≠ some e') :
    ∃ requestId effectId token outcome result error retry now encoded text e,
      op = .settle requestId effectId token outcome result error retry now ∧
      k = (requestId.val,effectId.val) ∧
      effectArguments rt outcome result error = .ok (.executed,encoded,text) ∧
      w.store.approvalEffects.get k = some e ∧ e.state = .working ∧
      e.executionToken = token.val ∧ e'.result = encoded := by
  cases exec_change rt h with
  | idle hauth heff =>
    rw [heff] at he'
    exact absurd he' hnew
  | authorize p packetId now hins heff =>
    rw [heff] at he'
    exact absurd he' hnew
  | takeOver k' e owner token lease now hauth hold hopen hassign =>
    rw [Table.get_assign hassign] at he'
    split at he'
    · rw [hold] at he'
      obtain rfl := Option.some.inj he'
      cases hstate
    · exact absurd he' hnew
  | start a requestId effectId effectKey owner token lease now hauth ha hactive hfree hins =>
    rw [Table.get_insert hins] at he'
    split at he'
    · obtain rfl := Option.some.inj he'
      cases hstate
    · exact absurd he' hnew
  | settle requestId effectId token outcome result error retry now kind encoded text e hop hargs
      hauth hold htoken hwork hget =>
    rw [hget] at he'
    split at he'
    · rename_i hk
      obtain rfl := Option.some.inj he'
      cases kind with
      | executed =>
        exact ⟨requestId,effectId,token,outcome,result,error,retry,now,encoded,text,e,hop,hk,
          hargs,hk ▸ hold,hwork,htoken,rfl⟩
      | retry => cases hstate
      | rejected => cases hstate
    · exact absurd he' hnew

theorem effect_mark (e : ApprovalEffect) (h : e.executionToken ≠ "") :
    Sum.inr e.executionToken ∈ e.marks := by
  simp [marks,textMark,h]

/-- The fence of the execution tokens: which effect each one may settle. -/
def ApprovalWorld.fence (w : ApprovalWorld) : Fence (String × String) String :=
  tableFence executionToken w.store.approvalEffects w.issued

theorem step_fence (h : ApprovalStep rt w w') : w.fence.Step w'.fence := by
  obtain ⟨op,hop,rfl⟩ := h
  apply tableFence_step _ effect_mark
  intro k e' he' htok
  change (op.exec rt w.store).approvalEffects.get k = some e' at he'
  cases exec_change rt hop with
  | idle hauth heff => exact Or.inl ⟨e',by rwa [heff] at he',rfl⟩
  | authorize p packetId now hins heff => exact Or.inl ⟨e',by rwa [heff] at he',rfl⟩
  | takeOver k' e owner token lease now hauth hold hopen hassign hfresh =>
    rw [Table.get_assign hassign] at he'
    split at he'
    · rw [hold] at he'
      obtain rfl := Option.some.inj he'
      exact Or.inr hfresh
    · exact Or.inl ⟨e',he',rfl⟩
  | start a requestId effectId effectKey owner token lease now hauth ha hactive hfree hins
      hfresh =>
    rw [Table.get_insert hins] at he'
    split at he'
    · obtain rfl := Option.some.inj he'
      exact Or.inr hfresh
    · exact Or.inl ⟨e',he',rfl⟩
  | settle requestId effectId token outcome result error retry now kind encoded text e hop hargs
      hauth hold htoken hwork hget =>
    rw [hget] at he'
    split at he'
    · obtain rfl := Option.some.inj he'
      cases kind <;> exact absurd rfl htok
    · exact Or.inl ⟨e',he',rfl⟩

/-- Every effect is backed by an active authorization whose uses cover the
effects that are working, waiting or executed. -/
structure ApprovalInvariant (s : PacketStore) : Prop where
  decided : ∀ k a, s.approvalAuthorizations.get k = some a → a.state = .active →
    a.decision = "approved"
  spent : ∀ k a, s.approvalAuthorizations.get k = some a → a.state = .active →
    s.approvalEffects.count (fun e => e.requestId = k ∧ e.reserved) ≤ a.maxUses
  backed : ∀ k e, s.approvalEffects.get k = some e →
    ∃ a, s.approvalAuthorizations.get k.1 = some a ∧ a.state = .active

/-- A request without authorization has no effects to count. -/
theorem ApprovalInvariant.unspent {s : PacketStore} (hs : ApprovalInvariant s) {k : String}
    (hk : s.approvalAuthorizations.get k = none) :
    s.approvalEffects.count (fun e => e.requestId = k ∧ e.reserved) = 0 := by
  rw [Table.count_eq_zero]
  rintro e he ⟨rfl,-⟩
  obtain ⟨a,ha,-⟩ := hs.backed _ e (Table.mem_rows.mp he)
  rw [show (ApprovalEffect.key e).1 = e.requestId from rfl,hk] at ha
  cases ha

theorem decidedRow_active {p : PreparedActivation} {packetId : String} {now : ℤ}
    (h : (decidedRow p packetId now).state = .active) : p.decision.decision = "approved" := by
  by_contra hne
  simp [decidedRow,decidedState,hne] at h

theorem exec_invariant (hs : ApprovalInvariant w.store) (h : op.Allowed w) :
    ApprovalInvariant (op.exec rt w.store) := by
  have hgrow {k : String} {a : ApprovalAuthorization} :=
    exec_authorizations rt (k := k) (a := a) h
  cases exec_change rt h with
  | idle hauth heff =>
    refine ⟨?_,?_,?_⟩ <;> rw [hauth]
    · exact hs.decided
    · rw [heff]
      exact hs.spent
    · rw [heff]
      exact hs.backed
  | authorize p packetId now hins heff =>
    have hnone := (Table.insert_eq_some hins).1
    constructor
    · intro k a ha hactive
      rw [Table.get_insert hins] at ha
      split at ha
      · obtain rfl := Option.some.inj ha
        exact decidedRow_active hactive
      · exact hs.decided k a ha hactive
    · intro k a ha hactive
      rw [Table.get_insert hins] at ha
      rw [heff]
      split at ha
      · rename_i hk
        rw [hk,hs.unspent hnone]
        exact Nat.zero_le _
      · exact hs.spent k a ha hactive
    · intro k e he
      rw [heff] at he
      obtain ⟨a,ha,hactive⟩ := hs.backed k e he
      exact ⟨a,hgrow ha,hactive⟩
  | takeOver k' e owner token lease now hauth hold hopen hassign =>
    have hcount (r : String) := Table.count_assign_le (p := fun e => e.requestId = r ∧ e.reserved)
      hassign fun x hx hr => by
        obtain rfl := Option.some.inj (hold.symm.trans hx)
        exact ⟨hr.1,hopen.elim Or.inl fun h => Or.inr (Or.inl h)⟩
    constructor
    · rw [hauth]
      exact hs.decided
    · intro k a ha hactive
      rw [hauth] at ha
      exact (hcount k).trans (hs.spent k a ha hactive)
    · intro k x hx
      rw [hauth]
      rw [Table.get_assign hassign] at hx
      split at hx
      · rename_i hk
        exact hs.backed k e (hk ▸ hold)
      · exact hs.backed k x hx
  | start a requestId effectId effectKey owner token lease now hauth ha hactive hfree hins =>
    constructor
    · rw [hauth]
      exact hs.decided
    · intro k b hb hbactive
      rw [Table.count_insert hins]
      by_cases hk : k = requestId
      · subst hk
        obtain rfl := Option.some.inj (ha.symm.trans hb)
        split <;> omega
      · rw [if_neg (fun hr => hk hr.1.symm),Nat.add_zero]
        rw [hauth] at hb
        exact hs.spent k b hb hbactive
    · intro k x hx
      rw [Table.get_insert hins] at hx
      split at hx
      · rename_i hk
        subst hk
        exact ⟨a,ha,hactive⟩
      · rw [hauth]
        exact hs.backed k x hx
  | settle requestId effectId token outcome result error retry now kind encoded text e hop hargs
      hauth hold htoken hwork hget hcount =>
    constructor
    · rw [hauth]
      exact hs.decided
    · intro k a ha hactive
      rw [hauth] at ha
      exact (hcount k).trans (hs.spent k a ha hactive)
    · intro k x hx
      rw [hauth]
      rw [hget] at hx
      split at hx
      · rename_i hk
        exact hs.backed k e (hk ▸ hold)
      · exact hs.backed k x hx

end Steps

theorem initial_approvalInvariant : ApprovalInvariant ApprovalWorld.initial.store where
  decided _ _ h := by cases h
  spent _ _ h := by cases h
  backed _ _ h := by cases h

theorem reachable_approvalInvariant {rt : Runtime} {w : ApprovalWorld}
    (h : Reaches (ApprovalStep rt) ApprovalWorld.initial w) : ApprovalInvariant w.store :=
  Reaches.invariant (I := fun w => ApprovalInvariant w.store)
    (fun _ _ hw ⟨_,hop,hw'⟩ => hw' ▸ exec_invariant hw hop) initial_approvalInvariant h

theorem run_fence {rt : Runtime} {w w' : ApprovalWorld} (h : Reaches (ApprovalStep rt) w w') :
    Reaches Fence.Step w.fence w'.fence :=
  Reaches.simulate (I := fun _ => True) (fun _ _ _ _ => trivial)
    (fun _ _ _ hstep => .single (step_fence hstep)) trivial h

theorem reachable_fence_sound {rt : Runtime} {w : ApprovalWorld}
    (h : Reaches (ApprovalStep rt) ApprovalWorld.initial w) : w.fence.Sound :=
  tableFence_empty_sound.run (run_fence h)

theorem run_authorizations {rt : Runtime} {w w' : ApprovalWorld}
    (h : Reaches (ApprovalStep rt) w w') {k : String} {a : ApprovalAuthorization}
    (ha : w.store.approvalAuthorizations.get k = some a) :
    w'.store.approvalAuthorizations.get k = some a :=
  Reaches.invariant (I := fun w => w.store.approvalAuthorizations.get k = some a)
    (fun _ _ hw ⟨_,hop,hw'⟩ => hw' ▸ exec_authorizations _ hop hw) ha h

theorem run_executed {rt : Runtime} {w w' : ApprovalWorld} (h : Reaches (ApprovalStep rt) w w')
    {k : String × String} {e : ApprovalEffect} (he : w.store.approvalEffects.get k = some e)
    (hstate : e.state = .executed) : w'.store.approvalEffects.get k = some e :=
  Reaches.invariant (I := fun w => w.store.approvalEffects.get k = some e)
    (fun _ _ hw ⟨_,hop,hw'⟩ => hw' ▸ exec_executed hop hw hstate) he h

/-- A settlement under a token that no longer holds the effect raises and changes nothing. -/
theorem settle_without_token (rt : Runtime) (requestId effectId token : Token) (outcome : String)
    (result : Option Value) (error : String) (retry : RetryMs) (now : ℤ) {s : PacketStore}
    (h : heldToken executionToken s.approvalEffects (requestId.val,effectId.val) ≠
      some token.val) :
    ∃ e, settleCompanionApprovalEffect rt requestId effectId token outcome result error retry now
      s = (.error e,s) := by
  unfold settleCompanionApprovalEffect
  split
  · exact ⟨_,rfl⟩
  · rename_i kind encoded text hargs
    rw [afterCommit]
    rcases transaction_cases (settleEffect requestId effectId token kind encoded text retry.val
      now) s with ⟨o,s',hb,ht⟩ | ⟨e,-,ht⟩
    · obtain ⟨e,_,he,htoken,-⟩ := settleEffect_cases hb
      exact absurd (heldToken_eq_some.mpr ⟨e,he,htoken,token.ne_empty⟩) h
    · exact ⟨e,by rw [ht]; rfl⟩

/-- In every run a request keeps its one authorization, a nonce and a decision
authorize one request, the uses of an authorization are bounded, an effect is
executed once under its current token, and nothing is acquired after expiry. -/
theorem companion_approvals_hold (rt : Runtime) {w : ApprovalWorld}
    (h : Reaches (ApprovalStep rt) ApprovalWorld.initial w) :
    ((∀ w', Reaches (ApprovalStep rt) w w' → ∀ requestId a,
        w.store.approvalAuthorizations.get requestId = some a →
          w'.store.approvalAuthorizations.get requestId = some a) ∧
      ∀ requestId requestId' a a', w.store.approvalAuthorizations.get requestId = some a →
        w.store.approvalAuthorizations.get requestId' = some a' →
        (a.humanId,a.deviceNodeId,a.nonce) = (a'.humanId,a'.deviceNodeId,a'.nonce) ∨
          a.decisionId = a'.decisionId → requestId = requestId') ∧
    ((∀ requestId a, w.store.approvalAuthorizations.get requestId = some a → a.state = .active →
        w.store.approvalEffects.count (fun e => e.requestId = requestId ∧
          (e.state = .working ∨ e.state = .retry ∨ e.state = .executed)) ≤ a.maxUses) ∧
      ∀ requestId effectId a, w.store.approvalAuthorizations.get requestId = some a →
        a.decision = "rejected" → w.store.approvalEffects.get (requestId,effectId) = none) ∧
    ((∀ w', Reaches (ApprovalStep rt) w w' → ∀ k e, w.store.approvalEffects.get k = some e →
        e.state = .executed → w'.store.approvalEffects.get k = some e) ∧
      (∀ op : ApprovalOp, op.Allowed w → ∀ k e',
        (op.exec rt w.store).approvalEffects.get k = some e' → e'.state = .executed →
        w.store.approvalEffects.get k ≠ some e' →
        ∃ requestId effectId token outcome result error retry now encoded text e,
          op = .settle requestId effectId token outcome result error retry now ∧
          k = (requestId.val,effectId.val) ∧
          effectArguments rt outcome result error = .ok (.executed,encoded,text) ∧
          w.store.approvalEffects.get k = some e ∧ e.state = .working ∧
          e.executionToken = token.val ∧ e'.result = encoded) ∧
      ∀ w' w'', Reaches (ApprovalStep rt) w w' → Reaches (ApprovalStep rt) w' w'' →
        ∀ k e (token : Token), w.store.approvalEffects.get k = some e →
          e.executionToken = token.val →
          (∀ e', w'.store.approvalEffects.get k = some e' → e'.executionToken ≠ token.val) →
          ∀ requestId effectId outcome result error retry now, ∃ err,
            settleCompanionApprovalEffect rt requestId effectId token outcome result error retry
              now w''.store = (.error err,w''.store)) ∧
    ∀ requestId effectId effectKey owner executionToken lease now o s',
      acquireEffect requestId effectId effectKey owner executionToken lease now w.store =
        .ok (o,s') → o.acquired →
      ∃ a, w.store.approvalAuthorizations.get requestId.val = some a ∧ a.state = .active ∧
        now < a.grantExpiresMs := by
  have hinv := reachable_approvalInvariant h
  refine ⟨⟨fun w' hw' _ _ => run_authorizations hw',?_⟩,⟨hinv.spent,?_⟩,
    ⟨fun w' hw' _ _ => run_executed hw',?_,?_⟩,?_⟩
  · intro requestId requestId' a a' ha ha' hsame
    have hrow : a = a' := by
      rcases hsame with hnonce | hdecision
      · exact Table.mark_unique (m := .inr (a.humanId,a.deviceNodeId,a.nonce)) ha ha'
          (by simp [ApprovalAuthorization.marks])
          (by rw [hnonce]; simp [ApprovalAuthorization.marks])
      · exact Table.mark_unique (m := .inl a.decisionId) ha ha'
          (by simp [ApprovalAuthorization.marks])
          (by rw [hdecision]; simp [ApprovalAuthorization.marks])
    rw [← Table.get_key ha,← Table.get_key ha',hrow]
  · intro requestId effectId a ha hrejected
    cases he : w.store.approvalEffects.get (requestId,effectId) with
    | none => rfl
    | some e =>
      obtain ⟨b,hb,hactive⟩ := hinv.backed _ e he
      obtain rfl := Option.some.inj (ha.symm.trans hb)
      have happroved := hinv.decided _ _ ha hactive
      rw [hrejected] at happroved
      exact absurd happroved (by decide)
  · intro op hop k e' he' hstate hnew
    exact exec_new_executed hop he' hstate hnew
  · intro w' w'' hw' hw'' k e token he htoken hlost requestId effectId outcome result error retry
      now
    apply settle_without_token
    apply Fence.stale (reachable_fence_sound h) (run_fence hw') (run_fence hw'') (k := k)
    · exact heldToken_eq_some.mpr ⟨e,he,htoken,token.ne_empty⟩
    · intro hheld
      obtain ⟨e',he',htok,-⟩ := heldToken_eq_some.mp hheld
      exact hlost e' he' htok
  · intro requestId effectId effectKey owner executionToken lease now o s' hbegin hacquired
    obtain ⟨a,ha,hactive,hexp,-⟩ := acquireEffect_cases hbegin
    exact ⟨a,ha,hactive,hexp⟩

section Sample

def sampleHuman : String := "hu1aaaaaaaaaaaaaaaaa"
def sampleDevice : String := "an1aaaaaaaaaaaaaaaaa"
def sampleWorker : ConsumerId := ⟨"worker",consumerId_worker⟩
def sampleRequest : Token := .digit 'b' hexDigit_b
def sampleEffect : Token := .digit '1' (by decide)
def sampleNonce : String := "cccccccccccccccccccccccccccccccc"
def sampleDigest : String :=
  "dddddddddddddddddddddddddddddddddddddddddddddddddddddddddddddddd"

/-- An approval for one use, as its device sends it. -/
def sampleDecision : Value :=
  .map [(.str "protocol",.str "anet.companion"),(.str "version",.int 1),
    (.str "object_type",.str "approval_decision"),
    (.str "decision_id",.str "aaaaaaaaaaaaaaaaaaaaaaaaaaaaaaaa"),(.str "created_ms",.int 1000),
    (.str "expires_ms",.int 2000),(.str "request_id",.str sampleRequest.val),
    (.str "human_id",.str sampleHuman),(.str "device_node_id",.str sampleDevice),
    (.str "decision",.str "approved"),(.str "reason",.str ""),(.str "nonce",.str sampleNonce),
    (.str "action",.map [(.str "capability",.str "door.open"),(.str "resource",.str "front"),
      (.str "parameters_digest",.str sampleDigest),(.str "summary",.str "open")]),
    (.str "scope",.map [(.str "mode",.str "once"),(.str "max_uses",.int 1),
      (.str "grant_expires_ms",.int 5000)])]

def sampleRuntime : Runtime :=
  { Runtime.plain fun _ => .ok sampleDecision with sha256 := fun _ => "hash" }

def samplePrepared : PreparedActivation :=
  ⟨⟨"aaaaaaaaaaaaaaaaaaaaaaaaaaaaaaaa",sampleRequest.val,sampleHuman,sampleDevice,"approved","",
    sampleNonce,⟨"door.open","front",sampleDigest,"open"⟩,⟨"once",1,5000⟩,1000,2000,[]⟩,
    sampleDevice,"hash","hash"⟩

/-- The decision is claimed by the worker and its request is registered. -/
def sampleClaimed : PacketStore :=
  { PacketStore.empty with
    inbox := (Table.empty.insert ⟨1,"p",sampleDevice,approvalDecisionKind,1000,1000,"msgpack",[],
      [],"",true,false,"normal",true⟩).getD .empty
    consumerDeliveries := (Table.empty.insert (ConsumerDelivery.fresh "worker" "p" "worker"
      (Token.digit 'e' (by decide)).val 9000)).getD .empty
    approvalRequests := (Table.empty.insert ⟨sampleRequest.val,sampleHuman,sampleDevice,
      sampleNonce,"hash",[],1000,2000,1000⟩).getD .empty }

def sampleActivate : ApprovalOp :=
  .activate sampleWorker sampleWorker (.digit 'e' (by decide)) samplePrepared 1500

def sampleBegin : ApprovalOp :=
  .begin sampleRequest sampleEffect "key" sampleWorker (.digit 'f' (by decide))
    ⟨5000,lease_low,lease_high⟩ 1600

def sampleSettle : ApprovalOp :=
  .settle sampleRequest sampleEffect (.digit 'f' (by decide)) "executed" none ""
    ⟨0,retry_low,retry_high⟩ 1700

def sampleActivated : ApprovalWorld :=
  (ApprovalWorld.initial.after sampleRuntime (.elsewhere sampleClaimed)).after sampleRuntime
    sampleActivate

/-- An approval activated, its one effect begun and executed. -/
def sampleWorld : ApprovalWorld :=
  (sampleActivated.after sampleRuntime sampleBegin).after sampleRuntime sampleSettle

/-- The activation writes no effect, and the one that is begun is executed. -/
theorem sampleWorld_effects : sampleActivated.store.approvalEffects.rows = [] ∧
    sampleWorld.store.approvalEffects.get (sampleRequest.val,sampleEffect.val) =
      some ⟨sampleRequest.val,sampleEffect.val,"key",.executed,"","",0,0,1,1600,1700,1700,none,""⟩ := by
  decide +kernel

theorem sampleWorld_reachable :
    Reaches (ApprovalStep sampleRuntime) ApprovalWorld.initial sampleWorld := by
  have hbegin : sampleBegin.Allowed sampleActivated := by
    have hclaimed : sampleClaimed.approvalEffects = Table.empty := rfl
    have hrows := sampleWorld_effects.1
    have hactivated : sampleActivated.store.approvalEffects = Table.empty := by
      generalize sampleActivated.store.approvalEffects = t at hrows
      cases t
      cases hrows
      rfl
    rintro ((hempty | ⟨k,hk⟩) | ⟨k,hk⟩)
    · cases hempty
    · change heldToken executionToken sampleClaimed.approvalEffects k = _ at hk
      rw [hclaimed] at hk
      cases hk
    · change heldToken executionToken sampleActivated.store.approvalEffects k = _ at hk
      rw [hactivated] at hk
      cases hk
  refine .tail (.tail (.tail (.single ⟨_,?_,rfl⟩) ⟨sampleActivate,trivial,rfl⟩)
    ⟨_,hbegin,rfl⟩) ⟨sampleSettle,trivial,rfl⟩
  exact ⟨rfl,rfl⟩

set_option maxRecDepth 20000 in
theorem companion_approvals_hold_sample :
    ∃ e, sampleWorld.store.approvalEffects.get (sampleRequest.val,sampleEffect.val) = some e ∧
      e.state = .executed ∧ ∀ w', Reaches (ApprovalStep sampleRuntime) sampleWorld w' →
        w'.store.approvalEffects.get (sampleRequest.val,sampleEffect.val) = some e := by
  have hget := sampleWorld_effects.2
  refine ⟨_,hget,rfl,fun w' hw' => ?_⟩
  exact (companion_approvals_hold sampleRuntime sampleWorld_reachable).2.2.1.1 w' hw' _ _ hget rfl

end Sample

end Anet
