import Anet.ReplyOutbox

/-! What the ingestion of messages has to see to: the counters of an actor agree with its stored
events, each event has a message it comes from, and the signal of each event that asks for one was
queued. Replies, routes and labels of the operator leave all of it as it is. -/
namespace Anet.Amesh

/-- An event without what replies and routes write to it. -/
def EventRow.core (e : EventRow) : EventRow := { e with replyMessageId := "", routedId := "" }

theorem EventRow.core_fields {e e' : EventRow} (h : e.core = e'.core) :
    e.eventKey = e'.eventKey ∧ e.messageId = e'.messageId ∧ e.actorKey = e'.actorKey ∧
      e.bodyHash = e'.bodyHash ∧ e.evaluation = e'.evaluation := by
  simp only [core,EventRow.mk.injEq] at h
  tauto

namespace Ledger

def cores (s : Ledger) : List EventRow := s.events.rows.map EventRow.core

/-- How many stored events of an actor have a label. -/
def labelled (s : Ledger) (actorKey label : String) : ℕ :=
  s.events.rows.countP fun e => e.actorKey = actorKey ∧ label ∈ e.labels

/-- The event of a message is stored. -/
def Holds (s : Ledger) (eventKey bodyHash : String) : Prop :=
  ∃ e, s.event eventKey = some e ∧ e.bodyHash = bodyHash

/-- The counters of an actor are the numbers of its events, up to the cap. -/
structure Counted (s : Ledger) : Prop where
  mentions : ∀ k, (s.actors.get k).elim 0 ActorRow.mentionCount =
    min 10000 (s.labelled k "interaction:mention" : ℤ)
  replies : ∀ k, (s.actors.get k).elim 0 ActorRow.replyCount =
    min 10000 (s.labelled k "interaction:reply" : ℤ)

/-- The actors and the events are the same, but for the replies and the routes of the events. -/
structure SameEvents (s s' : Ledger) : Prop where
  cores : s'.cores = s.cores
  actors : s'.actors = s.actors

variable {s s' s'' : Ledger}

theorem labelled_eq_cores (s : Ledger) (actorKey label : String) :
    s.labelled actorKey label =
      s.cores.countP fun e => e.actorKey = actorKey ∧ label ∈ e.labels := by
  rw [cores,List.countP_map]
  rfl

theorem event_core (s : Ledger) (k : String) :
    (s.event k).map EventRow.core = s.cores.find? fun e => e.eventKey = k := by
  rw [cores,List.find?_map]
  rfl

/-- An inserted event is counted with its actor. -/
theorem labelled_insertEvent {e : EventRow} {actorKey : String} {mentions replies now : ℤ}
    (hins : (s.countActor actorKey mentions replies now).insertEvent e = some s') (k label : String) :
    s'.labelled k label =
      s.labelled k label + if e.actorKey = k ∧ label ∈ e.labels then 1 else 0 := by
  have hrows : s'.events.rows = s.events.rows ++ [e] := (insertEvent_some hins).2.1
  simp [labelled,hrows,List.countP_append,List.countP_singleton]

theorem counter_min {b : Prop} [Decidable b] {n : ℤ} {count : ℕ} (h : n = min 10000 (count : ℤ)) :
    min 10000 (n + if b then 1 else 0) = min 10000 ((count + if b then 1 else 0 : ℕ) : ℤ) := by
  split <;> push_cast <;> omega

theorem counter_start {b : Prop} [Decidable b] {count : ℕ} (h : 0 = min 10000 (count : ℤ)) :
    (if b then 1 else 0 : ℤ) = min 10000 ((count + if b then 1 else 0 : ℕ) : ℤ) := by
  split <;> push_cast <;> omega

theorem Counted.insertEvent (h : s.Counted) {e : EventRow} {mentions replies now : ℤ}
    (hmentions : mentions = if "interaction:mention" ∈ e.labels then 1 else 0)
    (hreplies : replies = if "interaction:reply" ∈ e.labels then 1 else 0)
    (hins : (s.countActor e.actorKey mentions replies now).insertEvent e = some s') : s'.Counted := by
  have hactors : s'.actors = (s.countActor e.actorKey mentions replies now).actors :=
    (insertEvent_some hins).2.2.1
  constructor
  · intro k
    have hold := h.mentions k
    rw [hactors,actor_countActor,labelled_insertEvent hins]
    by_cases hk : k = e.actorKey
    · subst hk
      simp only [true_and,↓reduceIte,Option.elim_some]
      cases hget : s.actors.get e.actorKey with
      | none =>
        rw [hget] at hold
        rw [Option.elim_none,hmentions]
        exact counter_start hold
      | some r =>
        rw [hget] at hold
        rw [Option.elim_some,hmentions]
        exact counter_min hold
    · rw [if_neg hk,if_neg fun hboth => hk hboth.1.symm,Nat.add_zero]
      exact hold
  · intro k
    have hold := h.replies k
    rw [hactors,actor_countActor,labelled_insertEvent hins]
    by_cases hk : k = e.actorKey
    · subst hk
      simp only [true_and,↓reduceIte,Option.elim_some]
      cases hget : s.actors.get e.actorKey with
      | none =>
        rw [hget] at hold
        rw [Option.elim_none,hreplies]
        exact counter_start hold
      | some r =>
        rw [hget] at hold
        rw [Option.elim_some,hreplies]
        exact counter_min hold
    · rw [if_neg hk,if_neg fun hboth => hk hboth.1.symm,Nat.add_zero]
      exact hold

/-- An actor that nothing is counted for. -/
theorem Counted.countActor_zero (h : s.Counted) (actorKey : String) (now : ℤ) :
    (s.countActor actorKey 0 0 now).Counted := by
  constructor
  · intro k
    have hold := h.mentions k
    change _ = min 10000 (s.labelled k "interaction:mention" : ℤ)
    rw [← hold,actor_countActor]
    by_cases hk : k = actorKey
    · subst hk
      rw [if_pos rfl,Option.elim_some]
      cases hget : s.actors.get k with
      | none => rfl
      | some r =>
        rw [hget,Option.elim_some] at hold
        simp only [Option.elim_some,countedActor]
        omega
    · rw [if_neg hk]
  · intro k
    have hold := h.replies k
    change _ = min 10000 (s.labelled k "interaction:reply" : ℤ)
    rw [← hold,actor_countActor]
    by_cases hk : k = actorKey
    · subst hk
      rw [if_pos rfl,Option.elim_some]
      cases hget : s.actors.get k with
      | none => rfl
      | some r =>
        rw [hget,Option.elim_some] at hold
        simp only [Option.elim_some,countedActor]
        omega
    · rw [if_neg hk]

namespace SameEvents

theorem refl (s : Ledger) : s.SameEvents s := ⟨rfl,rfl⟩

theorem trans (h : s.SameEvents s') (h' : s'.SameEvents s'') : s.SameEvents s'' :=
  ⟨h'.cores.trans h.cores,h'.actors.trans h.actors⟩

theorem labelled (h : s.SameEvents s') (k label : String) :
    s'.labelled k label = s.labelled k label := by
  rw [labelled_eq_cores,labelled_eq_cores,h.cores]

theorem counted (h : s.SameEvents s') (hs : s.Counted) : s'.Counted :=
  ⟨fun k => by rw [h.actors,h.labelled]; exact hs.mentions k,
    fun k => by rw [h.actors,h.labelled]; exact hs.replies k⟩

theorem event (h : s.SameEvents s') (k : String) :
    (s'.event k).map EventRow.core = (s.event k).map EventRow.core := by
  rw [event_core,event_core,h.cores]

theorem holds (h : s.SameEvents s') {k b : String} (hs : s.Holds k b) : s'.Holds k b := by
  obtain ⟨e,he,hb⟩ := hs
  have hcore := h.event k
  rw [he,Option.map_some] at hcore
  obtain ⟨e',he',hsame⟩ := Option.map_eq_some_iff.mp hcore
  exact ⟨e',he',(EventRow.core_fields hsame).2.2.2.1.trans hb⟩

/-- Each event was there before. -/
theorem mem (h : s.SameEvents s') {e' : EventRow} (he' : e' ∈ s'.events.rows) :
    ∃ e ∈ s.events.rows, e.core = e'.core := by
  have hcore : e'.core ∈ s'.cores := List.mem_map_of_mem he'
  rw [h.cores] at hcore
  exact List.mem_map.mp hcore

/-- Events of which an update writes no more than the reply and the route. -/
theorem of_update {p : EventRow → Prop} [DecidablePred p] {f : EventRow → EventRow}
    {hkey : ∀ e, EventRow.eventKey (f e) = e.eventKey} {hmarks : ∀ e, (f e).marks ⊆ e.marks}
    (hf : ∀ e, (f e).core = e.core) :
    s.SameEvents { s with events := s.events.update p f hkey hmarks } := by
  refine ⟨?_,rfl⟩
  change (s.events.rows.map fun e => if p e then f e else e).map EventRow.core = s.cores
  rw [Ledger.cores,List.map_map]
  refine List.map_congr_left fun e _ => ?_
  change (if p e then f e else e).core = e.core
  split
  · exact hf e
  · rfl

theorem markRouted (s : Ledger) (k packetId : String) : s.SameEvents (s.markRouted k packetId) :=
  of_update fun _ => rfl

theorem setReply (s : Ledger) (k replyId : String) : s.SameEvents (s.setReply k replyId) :=
  of_update fun _ => rfl

theorem updateLabels {actorKey source : String} {add remove : List String} {now : ℤ}
    (h : s.updateLabels actorKey source add remove now = .ok s') : s.SameEvents s' := by
  simp only [Ledger.updateLabels,bind_ok] at h
  obtain ⟨_,-,_,-,_,-,_,-,hs'⟩ := h
  obtain rfl := Except.ok.inj hs'
  exact ⟨rfl,rfl⟩

theorem reserveReply {lib : SocialLibrary} {k content : String} {now : ℤ} {new : Bool}
    (h : s.reserveReply lib k content now = .ok (new,s')) : s.SameEvents s' := by
  unfold Ledger.reserveReply at h
  split at h
  · obtain ⟨-,rfl⟩ := Prod.mk.inj (Except.ok.inj h)
    exact ⟨rfl,rfl⟩
  · split at h
    · obtain ⟨-,rfl⟩ := Prod.mk.inj (Except.ok.inj h)
      exact refl s
    · cases h

theorem sendReply (lib : SocialLibrary) (s : Ledger) (permissions : PermissionStore)
    (log : List ReplyLog) (event : EventRow) (content replyId : String) (now : ℤ) (fate : ReplyFate) :
    s.SameEvents (s.sendReply lib permissions log event content replyId now fate).1 := by
  unfold Ledger.sendReply
  by_cases hstops : fate = .stops
  · rw [if_pos hstops]
    exact refl s
  rw [if_neg hstops]
  cases hres : s.reserveReply lib event.eventKey content now with
  | error e => exact refl s
  | ok r =>
    obtain ⟨new,reserved⟩ := r
    have hreserved := reserveReply hres
    have hmarked : s.SameEvents (reserved.markSent event.eventKey now) :=
      ⟨hreserved.cores,hreserved.actors⟩
    simp only
    split
    · exact refl s
    split
    · exact hreserved
    split
    · exact hreserved
    split
    · exact hmarked
    · exact hmarked.trans (setReply _ _ _)

end SameEvents

end Ledger

/-- The signal of an event is due: it has a destination, its evaluation allows it, and no rule denies
it. -/
def EventRow.Due (adapter destination : String) (permissions : PermissionStore) (e : EventRow) :
    Prop :=
  destination ≠ "" ∧ "surface" ∈ e.evaluation.allowedActions ∧
    permissions.denies adapter e.actorKey "surface" = false

/-- What the ingestion sees to; `bodies` are the keys and the bodies that the messages have. -/
structure Ingested (bodies : String → String → Prop) (adapter destination : String)
    (permissions : PermissionStore) (s : Ledger) (routed : List Routed) : Prop where
  counted : s.Counted
  sources : ∀ e ∈ s.events.rows, bodies e.eventKey e.bodyHash
  queued : ∀ e ∈ s.events.rows, e.Due adapter destination permissions →
    ∃ r ∈ routed, r.signal.sourceEventId = e.eventKey

namespace Ingested

variable {bodies : String → String → Prop} {adapter destination : String}
  {permissions : PermissionStore} {s s' : Ledger} {routed routed' : List Routed}

theorem start : Ingested bodies adapter destination permissions .empty [] :=
  ⟨⟨fun _ => rfl,fun _ => rfl⟩,fun _ he => absurd he List.not_mem_nil,
    fun _ he => absurd he List.not_mem_nil⟩

theorem frame (h : Ingested bodies adapter destination permissions s routed) (hs : s.SameEvents s') :
    Ingested bodies adapter destination permissions s' routed := by
  refine ⟨hs.counted h.counted,fun e' he' => ?_,fun e' he' hdue => ?_⟩
  · obtain ⟨e,he,hcore⟩ := hs.mem he'
    obtain ⟨hkey,-,-,hbody,-⟩ := EventRow.core_fields hcore
    rw [← hkey,← hbody]
    exact h.sources e he
  · obtain ⟨e,he,hcore⟩ := hs.mem he'
    obtain ⟨hkey,-,hactor,-,heval⟩ := EventRow.core_fields hcore
    unfold EventRow.Due at hdue
    rw [← hactor,← heval] at hdue
    rw [← hkey]
    exact h.queued e he hdue

theorem countActor_zero (h : Ingested bodies adapter destination permissions s routed)
    (actorKey : String) (now : ℤ) :
    Ingested bodies adapter destination permissions (s.countActor actorKey 0 0 now) routed :=
  ⟨h.counted.countActor_zero actorKey now,h.sources,h.queued⟩

/-- A decision that is recorded is no rule. -/
theorem refuse (h : Ingested bodies adapter destination permissions s routed)
    (actorKey action eventKey : String) (now : ℤ) :
    Ingested bodies adapter destination
      (permissions.recordDecision adapter actorKey action .deny eventKey now) s routed :=
  ⟨h.counted,h.sources,h.queued⟩

/-- A new event. -/
theorem insert (h : Ingested bodies adapter destination permissions s routed) {e : EventRow}
    {mentions replies now : ℤ}
    (hmentions : mentions = if "interaction:mention" ∈ e.labels then 1 else 0)
    (hreplies : replies = if "interaction:reply" ∈ e.labels then 1 else 0)
    (hins : (s.countActor e.actorKey mentions replies now).insertEvent e = some s')
    (hsource : bodies e.eventKey e.bodyHash) (hsub : routed ⊆ routed')
    (hqueued : e.Due adapter destination permissions →
      ∃ r ∈ routed', r.signal.sourceEventId = e.eventKey) :
    Ingested bodies adapter destination permissions s' routed' := by
  have hrows : s'.events.rows = s.events.rows ++ [e] := (Ledger.insertEvent_some hins).2.1
  refine ⟨h.counted.insertEvent hmentions hreplies hins,fun x hx => ?_,fun x hx hdue => ?_⟩
  · rw [hrows] at hx
    rcases List.mem_append.mp hx with hx | hx
    · exact h.sources x hx
    · obtain rfl := List.mem_singleton.mp hx
      exact hsource
  · rw [hrows] at hx
    rcases List.mem_append.mp hx with hx | hx
    · obtain ⟨r,hr,hkey⟩ := h.queued x hx hdue
      exact ⟨r,hsub hr,hkey⟩
    · obtain rfl := List.mem_singleton.mp hx
      exact hqueued hdue

/-- Where messages with one key have one body, the event that is stored is that of the message. -/
theorem same_body (h : Ingested bodies adapter destination permissions s routed)
    (hbodies : ∀ k b b', bodies k b → bodies k b' → b = b') {k b : String} (hb : bodies k b)
    {e : EventRow} (he : s.event k = some e) : e.bodyHash = b := by
  obtain ⟨hmem,hkey⟩ := Table.get_eq_some.mp he
  have hsource := h.sources e hmem
  rw [hkey] at hsource
  exact hbodies k _ _ hsource hb

end Ingested

end Anet.Amesh
