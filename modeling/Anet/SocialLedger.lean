import Anet.SocialSignal

/-! The ledger of an adapter: the counters of its actors, the labels that the operator gave them, the
events, and the reservations of replies. -/
namespace Anet.Amesh

/-- `loopback_actors` and `discord_actors`. -/
structure ActorRow where
  actorKey : String
  firstSeenMs : ℤ
  lastSeenMs : ℤ
  mentionCount : ℤ
  replyCount : ℤ
  reactionCount : ℤ
  pinnedCount : ℤ
  deriving DecidableEq

/-- `loopback_labels` and `discord_labels`. -/
structure LabelRow where
  actorKey : String
  label : String
  source : String
  createdMs : ℤ
  deriving DecidableEq

/-- `loopback_events` and `discord_events`; an event of the loopback ledger has no message, guild and
route. -/
structure EventRow where
  eventKey : String
  messageId : String
  guildId : String
  channel : String
  author : String
  actorKey : String
  createdMs : ℤ
  contentLevel : ContentLevel
  text : String
  labels : List String
  bodyHash : String
  evaluation : Evaluation
  replyMessageId : String
  routedId : String
  deriving DecidableEq

/-- `UNIQUE` of the message id of Discord. -/
def EventRow.marks (e : EventRow) : List String := if e.messageId = "" then [] else [e.messageId]

/-- `loopback_outbound` and `discord_outbound`. -/
structure OutboundRow where
  eventKey : String
  contentHash : String
  sent : Bool
  updatedMs : ℤ
  deriving DecidableEq

structure Ledger where
  actors : Table ActorRow.actorKey noMarks
  labels : Table (fun r : LabelRow => (r.actorKey,r.label)) noMarks
  events : Table EventRow.eventKey EventRow.marks
  outbound : Table OutboundRow.eventKey noMarks

/-- `normalize_social_label(value, manual=True)`. -/
def normalizeManualLabel (value : String) : Result String :=
  let label := lower (strip value)
  let mark := String.ofList (label.toList.takeWhile (· ≠ ':'))
  let rest := String.ofList ((label.toList.dropWhile (· ≠ ':')).drop 1)
  let inside := fun c => ('a' ≤ c && c ≤ 'z') || isDigit c || c ∈ ['_','.','-']
  if matchesWord (fun c => 'a' ≤ c && c ≤ 'z') inside 31 mark ∧
      matchesWord (fun c => ('a' ≤ c && c ≤ 'z') || isDigit c) inside 63 rest then
    if mark ∈ ["community","interest","language","relationship","risk","status"] then .ok label
    else .error (.value "manual social label uses a reserved prefix")
  else .error (.value "invalid social label")

namespace Ledger

def empty : Ledger := ⟨.empty,.empty,.empty,.empty⟩

/-- `labels`. -/
def actorLabels (s : Ledger) (actorKey : String) : List String :=
  sortedStrings ((s.labels.select fun r => r.actorKey = actorKey).map LabelRow.label)

/-- The counters of `actor_stats`. -/
def actorStats (s : Ledger) (actorKey : String) : Option ActorStats :=
  (s.actors.get actorKey).map fun r =>
    ⟨0,r.mentionCount,r.replyCount,r.reactionCount,r.pinnedCount⟩

/-- An actor that a new event counts for. -/
def countedActor (r : ActorRow) (mentions replies : ℤ) (now : ℤ) : ActorRow :=
  { r with
    lastSeenMs := max r.lastSeenMs now
    mentionCount := min 10000 (r.mentionCount + mentions)
    replyCount := min 10000 (r.replyCount + replies) }

/-- `INSERT INTO ..._actors ... ON CONFLICT DO UPDATE`. -/
def countActor (s : Ledger) (actorKey : String) (mentions replies : ℤ) (now : ℤ) : Ledger :=
  { s with actors := (s.actors.upsert ⟨actorKey,now,now,mentions,replies,0,0⟩
      (fun r => countedActor r mentions replies now) fun _ => rfl).getD s.actors }

/-- `update_labels`. -/
def updateLabels (s : Ledger) (actorKey source : String) (add remove : List String) (now : ℤ) :
    Result Ledger := do
  let additions ← add.mapM normalizeManualLabel
  let removals ← remove.mapM normalizeManualLabel
  raiseIf (∃ l ∈ additions, l ∈ removals) (.value "cannot add and remove the same social label")
  raiseIf ((s.actorStats actorKey).isNone) (.value "unknown actor")
  let kept := s.labels.delete fun r => r.actorKey = actorKey ∧ r.label ∈ removals
  return { s with labels := (sortedStrings additions.dedup).foldl (fun t label =>
    (t.upsert ⟨actorKey,label,source,now⟩ (fun r => { r with source := source, createdMs := now })
      fun _ => rfl).getD t) kept }

/-- `event`. -/
def event (s : Ledger) (eventKey : String) : Option EventRow := s.events.get eventKey

/-- The evaluation of an actor and an event by the evidence that the ledger has now. -/
def evaluation (s : Ledger) (p : SocialPolicy) (e : EventRow) : Option Evaluation :=
  (s.actorStats e.actorKey).map fun stats => p.evaluate stats (s.actorLabels e.actorKey) e.labels

/-- The event is inserted; `none` is an integrity error. -/
def insertEvent (s : Ledger) (e : EventRow) : Option Ledger :=
  (s.events.insert e).map fun events => { s with events := events }

/-- `reserve_reply`: whether the reservation is new. -/
def reserveReply (lib : SocialLibrary) (s : Ledger) (eventKey content : String) (now : ℤ) :
    Result (Bool × Ledger) :=
  match s.outbound.insert ⟨eventKey,lib.contentDigest content,false,now⟩ with
  | some outbound => .ok (true,{ s with outbound := outbound })
  | none =>
    if (s.outbound.get eventKey).map OutboundRow.contentHash = some (lib.contentDigest content) then
      .ok (false,s)
    else .error (.value "event already has a different outbound reply")

/-- `UPDATE ..._outbound SET state = 'sent'`. -/
def markSent (s : Ledger) (eventKey : String) (now : ℤ) : Ledger :=
  { s with
    outbound := s.outbound.update (fun r => r.eventKey = eventKey)
      (fun r => { r with sent := true, updatedMs := now }) (fun _ => rfl) (noMarks_subset _) }

/-- `UPDATE ..._events SET reply_message_id=?`. -/
def setReply (s : Ledger) (eventKey replyId : String) : Ledger :=
  { s with
    events := s.events.update (fun e => e.eventKey = eventKey)
      (fun e => { e with replyMessageId := replyId }) (fun _ => rfl) fun _ => List.Subset.refl _ }

/-- `mark_routed`. -/
def markRouted (s : Ledger) (eventKey packetId : String) : Ledger :=
  { s with
    events := s.events.update (fun e => e.eventKey = eventKey)
      (fun e => { e with routedId := cut 128 packetId }) (fun _ => rfl)
        fun _ => List.Subset.refl _ }

section Facts

variable {s s' : Ledger}

theorem insertEvent_some {e : EventRow} (h : s.insertEvent e = some s') :
    s.event e.eventKey = none ∧ s'.events.rows = s.events.rows ++ [e] ∧ s'.actors = s.actors ∧
      s'.labels = s.labels ∧ s'.outbound = s.outbound := by
  obtain ⟨events,hins,rfl⟩ := Option.map_eq_some_iff.mp h
  obtain ⟨hnone,-,hrows⟩ := Table.insert_eq_some hins
  exact ⟨hnone,hrows,rfl,rfl,rfl⟩

/-- An event is inserted where its key and its message are new. -/
theorem insertEvent_free {e : EventRow} (hkey : s.event e.eventKey = none)
    (hmarks : ∀ r ∈ s.events.rows, ∀ m ∈ r.marks, m ∉ e.marks) : ∃ s', s.insertEvent e = some s' := by
  have hfree : (∀ r ∈ s.events.rows, r.eventKey ≠ e.eventKey) ∧
      ∀ r ∈ s.events.rows, ∀ m ∈ r.marks, m ∉ e.marks := ⟨Table.get_eq_none.mp hkey,hmarks⟩
  unfold insertEvent Table.insert
  rw [dif_pos hfree]
  exact ⟨_,rfl⟩

theorem event_insertEvent {e : EventRow} (h : s.insertEvent e = some s') (k : String) :
    s'.event k = if k = e.eventKey then some e else s.event k := by
  obtain ⟨events,hins,rfl⟩ := Option.map_eq_some_iff.mp h
  exact Table.get_insert hins k

/-- The events that are there stay when one is inserted. -/
theorem event_stays {e e' : EventRow} (h : s.insertEvent e = some s') {k : String}
    (hk : s.event k = some e') : s'.event k = some e' := by
  rw [event_insertEvent h]
  split
  · rename_i hsame
    rw [hsame,(insertEvent_some h).1] at hk
    cases hk
  · exact hk

/-- The row of an actor that a new event counts for. -/
theorem actor_countActor (s : Ledger) (actorKey : String) (mentions replies now : ℤ) (k : String) :
    (s.countActor actorKey mentions replies now).actors.get k = if k = actorKey then
      some ((s.actors.get actorKey).elim ⟨actorKey,now,now,mentions,replies,0,0⟩
        fun r => countedActor r mentions replies now) else s.actors.get k := by
  obtain ⟨actors,hup⟩ := Table.upsert_noMarks s.actors ⟨actorKey,now,now,mentions,replies,0,0⟩
    (fun r => countedActor r mentions replies now) fun _ => rfl
  rw [countActor,hup]
  exact Table.get_upsert hup k

end Facts

end Ledger

end Anet.Amesh
