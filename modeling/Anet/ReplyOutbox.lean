import Anet.SocialLedger

/-! Replies: a reply is reserved by the digest of its content, sent, and settled. Whatever is sent for
an event has one content, and nothing is sent for it once a reply was settled. -/
namespace Anet.Amesh

/-- A signal that was queued, with the rules at that time. -/
structure Routed where
  signal : Signal
  permissions : PermissionStore

/-- A reply that was sent, with the ledger and the rules at that time, or that was settled. -/
inductive ReplyLog
  | sent (eventKey content : String) (ledger : Ledger) (permissions : PermissionStore)
  | settled (eventKey : String)

/-- How far a reply comes: it ends before or after the reservation, after the reply was sent, after
the first write of the settlement, or with it. -/
inductive ReplyFate | stops | reserved | sent | marked | completes
  deriving DecidableEq

namespace Ledger

variable (lib : SocialLibrary)

/-- A reply that passed the gates of its adapter. -/
def sendReply (s : Ledger) (permissions : PermissionStore) (log : List ReplyLog) (event : EventRow)
    (content replyId : String) (now : ℤ) (fate : ReplyFate) : Ledger × List ReplyLog :=
  if fate = .stops then (s,log)
  else
    match s.reserveReply lib event.eventKey content now with
    | .error _ => (s,log)
    | .ok (new,reserved) =>
      if ¬ new ∧ event.replyMessageId ≠ "" then (s,log)
      else if fate = .reserved then (reserved,log)
      else
        let sent := log ++ [.sent event.eventKey content s permissions]
        if fate = .sent then (reserved,sent)
        else
          let marked := reserved.markSent event.eventKey now
          if fate = .marked then (marked,sent)
          else (marked.setReply event.eventKey replyId,sent ++ [.settled event.eventKey])

end Ledger

/-- Two entries of the log in their order: nothing follows a settlement but settlements, and two
replies that were sent are the same. -/
def ReplyLog.Consistent : ReplyLog → ReplyLog → Prop
  | .sent k c _ _,.sent k' c' _ _ => k = k' → c = c'
  | .settled k,.sent k' _ _ _ => k ≠ k'
  | _,_ => True

/-- The log agrees with the ledger: what was sent has the digest that is reserved, and what was settled
is marked at the event. -/
structure ReplyKept (lib : SocialLibrary) (s : Ledger) (log : List ReplyLog) : Prop where
  consistent : log.Pairwise ReplyLog.Consistent
  reserved : ∀ k c l p, ReplyLog.sent k c l p ∈ log →
    (s.outbound.get k).map OutboundRow.contentHash = some (lib.contentDigest c)
  settled : ∀ k, ReplyLog.settled k ∈ log → (s.outbound.get k).isSome ∧
    ∃ e, s.event k = some e ∧ e.replyMessageId ≠ ""

namespace ReplyKept

variable {lib : SocialLibrary} {s s' : Ledger} {log : List ReplyLog}

/-- A step that leaves the reservations and the replies of the events as they are keeps the log. -/
theorem frame (h : ReplyKept lib s log) (hout : s'.outbound = s.outbound)
    (hevents : ∀ k e, s.event k = some e → ∃ e', s'.event k = some e' ∧
      e'.replyMessageId = e.replyMessageId) : ReplyKept lib s' log := by
  refine ⟨h.consistent,fun k c l p hmem => ?_,fun k hmem => ?_⟩
  · rw [hout]
    exact h.reserved k c l p hmem
  · obtain ⟨hsome,e,he,hreply⟩ := h.settled k hmem
    obtain ⟨e',he',hsame⟩ := hevents k e he
    rw [hout]
    exact ⟨hsome,e',he',hsame ▸ hreply⟩

/-- A reservation. -/
theorem reserve (h : ReplyKept lib s log) {k content : String} {now : ℤ} {new : Bool}
    (hres : s.reserveReply lib k content now = .ok (new,s')) :
    ReplyKept lib s' log ∧ s'.events = s.events ∧
      (s'.outbound.get k).map OutboundRow.contentHash = some (lib.contentDigest content) ∧
      (new = true → s.outbound.get k = none) := by
  unfold Ledger.reserveReply at hres
  cases hins : s.outbound.insert ⟨k,lib.contentDigest content,false,now⟩ with
  | some outbound =>
    rw [hins] at hres
    obtain ⟨rfl,rfl⟩ := Prod.mk.inj (Except.ok.inj hres)
    have hnone := (Table.insert_eq_some hins).1
    have hget (k' : String) : outbound.get k' = if k' = k then
        some ⟨k,lib.contentDigest content,false,now⟩ else s.outbound.get k' := Table.get_insert hins k'
    refine ⟨⟨h.consistent,fun k' c l p hmem => ?_,fun k' hmem => ?_⟩,rfl,?_,fun _ => hnone⟩
    · have hold := h.reserved k' c l p hmem
      change (outbound.get k').map _ = _
      rw [hget]
      split
      · rename_i hk
        rw [hk] at hold
        change (s.outbound.get k).map _ = _ at hold
        have hfree : s.outbound.get k = none := hnone
        rw [hfree] at hold
        cases hold
      · exact hold
    · obtain ⟨hsome,he⟩ := h.settled k' hmem
      refine ⟨?_,he⟩
      change (outbound.get k').isSome
      rw [hget]
      split
      · rfl
      · exact hsome
    · change (outbound.get k).map _ = _
      rw [hget,if_pos rfl]
      rfl
  | none =>
    rw [hins] at hres
    simp only at hres
    split at hres
    · rename_i hsame
      obtain ⟨rfl,rfl⟩ := Prod.mk.inj (Except.ok.inj hres)
      exact ⟨h,rfl,hsame,fun h => absurd h Bool.false_ne_true⟩
    · cases hres

/-- A reply that is sent, after its reservation. -/
theorem send (h : ReplyKept lib s log) (hinj : Function.Injective lib.contentDigest)
    {k content : String} (hdigest : (s.outbound.get k).map OutboundRow.contentHash =
      some (lib.contentDigest content)) (hopen : ReplyLog.settled k ∉ log) (l : Ledger)
    (p : PermissionStore) : ReplyKept lib s (log ++ [.sent k content l p]) := by
  refine ⟨?_,fun k' c l' p' hmem => ?_,fun k' hmem => ?_⟩
  · rw [List.pairwise_append]
    refine ⟨h.consistent,List.pairwise_singleton _ _,fun x hx y hy => ?_⟩
    obtain rfl := List.mem_singleton.mp hy
    cases x with
    | sent k' c l' p' =>
      intro hk
      have hold := h.reserved k' c l' p' hx
      rw [hk,hdigest] at hold
      exact (hinj (Option.some.inj hold)).symm
    | settled k' =>
      rintro rfl
      exact hopen hx
  · rcases List.mem_append.mp hmem with hmem | hmem
    · exact h.reserved k' c l' p' hmem
    · obtain ⟨rfl,rfl,-,-⟩ := ReplyLog.sent.inj (List.mem_singleton.mp hmem)
      exact hdigest
  · rcases List.mem_append.mp hmem with hmem | hmem
    · exact h.settled k' hmem
    · cases List.mem_singleton.mp hmem

/-- The first write of a settlement. -/
theorem mark (h : ReplyKept lib s log) (k : String) (now : ℤ) :
    ReplyKept lib (s.markSent k now) log ∧
      ∀ k', ((s.markSent k now).outbound.get k').map OutboundRow.contentHash =
        (s.outbound.get k').map OutboundRow.contentHash := by
  have hget (k' : String) : ((s.markSent k now).outbound.get k').map OutboundRow.contentHash =
      (s.outbound.get k').map OutboundRow.contentHash := by
    unfold Ledger.markSent
    rw [Table.get_update_key]
    split
    · rename_i hk
      rw [hk,Option.map_map]
      rfl
    · rfl
  refine ⟨⟨h.consistent,fun k' c l p hmem => (hget k').trans (h.reserved k' c l p hmem),
    fun k' hmem => ?_⟩,hget⟩
  obtain ⟨hsome,he⟩ := h.settled k' hmem
  refine ⟨?_,he⟩
  rw [← Option.isSome_map (f := OutboundRow.contentHash),hget,Option.isSome_map]
  exact hsome

/-- The second write of a settlement. -/
theorem settle (h : ReplyKept lib s log) {k replyId : String} (hreply : replyId ≠ "")
    (hsome : (s.outbound.get k).isSome) (hevent : (s.event k).isSome) :
    ReplyKept lib (s.setReply k replyId) (log ++ [.settled k]) := by
  have hget (k' : String) : (s.setReply k replyId).event k' =
      if k' = k then (s.event k).map fun e => { e with replyMessageId := replyId } else s.event k' :=
    Table.get_update_key s.events k (fun e => { e with replyMessageId := replyId }) (fun _ => rfl)
      (fun _ => List.Subset.refl _) k'
  refine ⟨?_,fun k' c l p hmem => ?_,fun k' hmem => ?_⟩
  · rw [List.pairwise_append]
    refine ⟨h.consistent,List.pairwise_singleton _ _,fun x hx y hy => ?_⟩
    obtain rfl := List.mem_singleton.mp hy
    cases x <;> trivial
  · rcases List.mem_append.mp hmem with hmem | hmem
    · exact h.reserved k' c l p hmem
    · cases List.mem_singleton.mp hmem
  · obtain ⟨e,he⟩ := Option.isSome_iff_exists.mp hevent
    by_cases hk : k' = k
    · subst hk
      refine ⟨hsome,{ e with replyMessageId := replyId },?_,hreply⟩
      rw [hget,if_pos rfl,he]
      rfl
    · rcases List.mem_append.mp hmem with hmem | hmem
      · obtain ⟨hout,e',he',hid⟩ := h.settled k' hmem
        refine ⟨hout,e',?_,hid⟩
        rw [hget,if_neg hk]
        exact he'
      · obtain rfl := ReplyLog.settled.inj (List.mem_singleton.mp hmem)
        exact absurd rfl hk

/-- A reply that passed its gates: the log still agrees with the ledger, and what is new in it is the
reply, with the ledger and the rules it was sent under, and its settlement. -/
theorem sendReply (h : ReplyKept lib s log) (hinj : Function.Injective lib.contentDigest)
    {event : EventRow} (hevent : s.event event.eventKey = some event) {replyId : String}
    (permissions : PermissionStore) (content : String) (now : ℤ) {fate : ReplyFate}
    (hreply : fate = .completes → replyId ≠ "") :
    ReplyKept lib (s.sendReply lib permissions log event content replyId now fate).1
        (s.sendReply lib permissions log event content replyId now fate).2 ∧
      ∀ k c l p, ReplyLog.sent k c l p ∈
          (s.sendReply lib permissions log event content replyId now fate).2 →
        ReplyLog.sent k c l p ∈ log ∨ (k = event.eventKey ∧ l = s ∧ p = permissions) := by
  have hold : ∀ k c l p, ReplyLog.sent k c l p ∈ log →
      ReplyLog.sent k c l p ∈ log ∨ (k = event.eventKey ∧ l = s ∧ p = permissions) :=
    fun k c l p hmem => Or.inl hmem
  unfold Ledger.sendReply
  by_cases hstops : fate = .stops
  · rw [if_pos hstops]
    exact ⟨h,hold⟩
  rw [if_neg hstops]
  cases hres : s.reserveReply lib event.eventKey content now with
  | error e => exact ⟨h,hold⟩
  | ok r =>
    obtain ⟨new,reserved⟩ := r
    obtain ⟨hkept,hevents,hdigest,hnew⟩ := h.reserve hres
    simp only
    by_cases hdone : ¬ new ∧ event.replyMessageId ≠ ""
    · rw [if_pos hdone]
      exact ⟨h,hold⟩
    rw [if_neg hdone]
    by_cases hreserved : fate = .reserved
    · rw [if_pos hreserved]
      exact ⟨hkept,hold⟩
    rw [if_neg hreserved]
    -- the event of a reply that was settled is marked, and its reservation is not new
    have hopen : ReplyLog.settled event.eventKey ∉ log := by
      intro hmem
      obtain ⟨hsome,e,he,hid⟩ := h.settled _ hmem
      obtain rfl := Option.some.inj (hevent.symm.trans he)
      refine hdone ⟨fun htrue => ?_,hid⟩
      rw [hnew htrue] at hsome
      cases hsome
    have hsent := hkept.send hinj hdigest hopen s permissions
    have hlog : ∀ k c l p, ReplyLog.sent k c l p ∈
        log ++ [.sent event.eventKey content s permissions] →
        ReplyLog.sent k c l p ∈ log ∨ (k = event.eventKey ∧ l = s ∧ p = permissions) := by
      intro k c l p hmem
      rcases List.mem_append.mp hmem with hmem | hmem
      · exact Or.inl hmem
      · obtain ⟨rfl,-,rfl,rfl⟩ := ReplyLog.sent.inj (List.mem_singleton.mp hmem)
        exact Or.inr ⟨rfl,rfl,rfl⟩
    by_cases hfate : fate = .sent
    · rw [if_pos hfate]
      exact ⟨hsent,hlog⟩
    rw [if_neg hfate]
    obtain ⟨hmarked,hhash⟩ := hsent.mark event.eventKey now
    by_cases hmark : fate = .marked
    · rw [if_pos hmark]
      exact ⟨hmarked,hlog⟩
    rw [if_neg hmark]
    have hcompletes : fate = .completes := by
      cases fate <;> first | rfl | contradiction
    have hsome : ((reserved.markSent event.eventKey now).outbound.get event.eventKey).isSome := by
      rw [← Option.isSome_map (f := OutboundRow.contentHash),hhash,hdigest]
      rfl
    have hstill : ((reserved.markSent event.eventKey now).event event.eventKey).isSome := by
      change (reserved.events.get event.eventKey).isSome
      rw [hevents]
      exact Option.isSome_of_mem hevent
    refine ⟨hmarked.settle (hreply hcompletes) hsome hstill,fun k c l p hmem => ?_⟩
    rcases List.mem_append.mp hmem with hmem | hmem
    · exact hlog k c l p hmem
    · cases List.mem_singleton.mp hmem

end ReplyKept

end Anet.Amesh
