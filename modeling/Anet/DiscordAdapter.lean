import Anet.Keyed
import Anet.ReplyOutbox
import Anet.Transition
import Mathlib.Data.List.Infix

/-! The Discord adapter of Amesh: a poll takes the messages behind the cursor of each channel. It
counts an actor, stores the event and moves the cursor one after the other, and then routes the
signal; a reply is not held against the evidence. -/
namespace Anet.Amesh

/-- A message of Discord, with the fields that `ingest_message` reads. -/
structure DiscordMessage where
  id : String
  authorId : String
  authorName : String
  authorBot : Bool
  content : String
  mentionEveryone : Bool
  referenced : Bool
  deriving DecidableEq

inductive ContentMode | metadata | mentions
  deriving DecidableEq

structure DiscordConfig where
  guildId : String
  channelIds : List String
  destinationId : String
  contentMode : ContentMode
  signalTtlSeconds : ℤ
  policy : SocialPolicy
  enabled : Bool

/-- `_SNOWFLAKE_RE`. -/
def isSnowflake (s : String) : Bool := matchesWord isDigit isDigit 19 s

namespace DiscordMessage

variable (lib : SocialLibrary) (m : DiscordMessage)

def messageId : String := strip m.id

def text : String := cut 2000 m.content

def mentioned : Bool :=
  m.mentionEveryone || "@amesh".toList <:+: m.text.toList || "<@".toList <:+: m.text.toList

/-- The labels of an event, sorted. -/
def eventLabels : List String :=
  sortedStrings (["platform:discord"] ++ (if m.mentioned then ["interaction:mention"] else []) ++
    (if m.referenced then ["interaction:reply"] else []) ++ if m.authorBot then ["actor:bot"] else [])

def contentLevel : ContentLevel := if m.mentioned then .mention else .metadata

def actorKey : String := lib.pseudonym "actor" (strip m.authorId)

def eventKey : String := cut 32 (lib.pseudonym "event" ("discord:" ++ m.messageId))

def bodyHash (channelId : String) : String :=
  lib.bodyDigest [m.messageId,channelId,m.text,m.actorKey lib]

/-- The event that a message becomes. -/
def toEvent (guildId channelId : String) (evaluation : Evaluation) (now : ℤ) : EventRow :=
  ⟨m.eventKey lib,m.messageId,guildId,channelId,cut 128 m.authorName,m.actorKey lib,now,
    m.contentLevel,if m.contentLevel = .mention then m.text else "",m.eventLabels,
    m.bodyHash lib channelId,evaluation,"",""⟩

/-- The ledger in which the actor of a new message is counted. -/
def counted (s : Ledger) (now : ℤ) : Ledger :=
  s.countActor (m.actorKey lib) (if m.mentioned then 1 else 0) 0 now

/-- The evaluation that a new message gets. -/
def evaluation (policy : SocialPolicy) (s : Ledger) (now : ℤ) : Option Evaluation :=
  ((m.counted lib s now).actorStats (m.actorKey lib)).map fun stats =>
    policy.evaluate stats ((m.counted lib s now).actorLabels (m.actorKey lib)) m.eventLabels

/-- The checks of `ingest_message` on the ids. -/
def valid : Bool := isSnowflake m.messageId && isSnowflake (strip m.authorId)

end DiscordMessage

/-- What happens to a poll at a message: it ends before its first write, or after the actor was
counted, after the event was stored, after the cursor was moved, or after the signal was queued. -/
inductive DiscordFate | stops | counted | stored | moved | queued | completes (packetId : String)
  deriving DecidableEq

structure DiscordWorld where
  permissions : PermissionStore
  ledger : Ledger
  cursors : Keyed String String
  routed : List Routed
  replies : List ReplyLog

namespace DiscordWorld

variable (lib : SocialLibrary) (blockedId : String → String) (cfg : DiscordConfig)

/-- A decision of the operator's rules against an action. -/
def refuse (w : DiscordWorld) (actorKey action eventKey : String) (now : ℤ) : DiscordWorld :=
  { w with
    permissions := w.permissions.recordDecision "discord" actorKey action .deny eventKey now }

/-- `update_cursor`. -/
def moveCursor (w : DiscordWorld) (channelId messageId : String) : DiscordWorld :=
  { w with cursors := w.cursors.put channelId messageId }

/-- `mark_routed`. -/
def markRouted (w : DiscordWorld) (eventKey packetId : String) : DiscordWorld :=
  { w with ledger := w.ledger.markRouted eventKey packetId }

/-- The signal of an event. -/
def signal (event : EventRow) : Result Signal :=
  buildSignal lib "discord" "discord-rest-v1" event.eventKey event.actorKey event.createdMs
    (event.createdMs + cfg.signalTtlSeconds * 1000) event.contentLevel event.text event.labels
    event.evaluation
    [("guild_key",lib.pseudonym "guild" cfg.guildId),
      ("channel_key",lib.pseudonym "channel" event.channel),("message_revision",event.messageId)]

/-- A new event behind the cursor: its signal goes through the gate of the adapter, and its route is
marked; the flag says whether the poll goes on. -/
def surface (w : DiscordWorld) (event : EventRow) (now : ℤ) (fate : DiscordFate) :
    DiscordWorld × Bool :=
  if cfg.destinationId = "" ∨ "surface" ∉ event.evaluation.allowedActions then
    (w,fate ≠ .queued)
  else
    match signal lib cfg event with
    | .error _ => (w,false)
    | .ok signal =>
      if w.permissions.denies "discord" event.actorKey "surface" then
        let refused := w.refuse event.actorKey "surface" event.eventKey now
        if fate = .queued then (refused,false)
        else (refused.markRouted event.eventKey (blockedId event.eventKey),true)
      else
        let queued : DiscordWorld := { w with routed := w.routed ++ [⟨signal,w.permissions⟩] }
        match fate with
        | .completes packetId => (queued.markRouted event.eventKey packetId,true)
        | _ => (queued,false)

/-- The ledger is written. -/
def write (w : DiscordWorld) (ledger : Ledger) : DiscordWorld := { w with ledger := ledger }

/-- A message whose event is new: the actor is counted, the event is stored, the cursor is moved, and
the event is surfaced, each on its own. -/
def ingestNew (w : DiscordWorld) (channelId : String) (m : DiscordMessage) (now : ℤ)
    (fate : DiscordFate) : DiscordWorld × Bool :=
  let counted := w.write (m.counted lib w.ledger now)
  if fate = .counted then (counted,false)
  else
    match m.evaluation lib cfg.policy w.ledger now with
    | none => (counted,false)
    | some evaluation =>
      let event := m.toEvent lib cfg.guildId channelId evaluation now
      match counted.ledger.insertEvent event with
      | none => (counted,false)
      | some ledger =>
        if fate = .stored then (w.write ledger,false)
        else if fate = .moved then ((w.write ledger).moveCursor channelId m.id,false)
        else ((w.write ledger).moveCursor channelId m.id).surface lib blockedId cfg event now fate

/-- A message of `poll_once`. -/
def pollMessage (w : DiscordWorld) (channelId : String) (m : DiscordMessage) (now : ℤ)
    (fate : DiscordFate) : DiscordWorld × Bool :=
  if fate = .stops ∨ ¬ m.valid then (w,false)
  else
    match w.ledger.event (m.eventKey lib) with
    | some existing =>
      if existing.bodyHash ≠ m.bodyHash lib channelId ∨ fate = .counted ∨ fate = .stored then (w,false)
      else (w.moveCursor channelId m.id,fate ≠ .moved ∧ fate ≠ .queued)
    | none => w.ingestNew lib blockedId cfg channelId m now fate

/-- The messages of a page, until one of them ends the poll. -/
def pollMessages (channelId : String) (now : ℤ) (fate : String → DiscordFate) :
    DiscordWorld → List DiscordMessage → DiscordWorld × Bool
  | w,[] => (w,true)
  | w,m :: ms =>
    let r := w.pollMessage lib blockedId cfg channelId m now (fate m.id)
    if r.2 then pollMessages channelId now fate r.1 ms else (r.1,false)

/-- The channels of a poll; `page` is what Discord serves behind a cursor. -/
def pollChannels (page : String → Option String → Option (List DiscordMessage)) (now : ℤ)
    (fate : String → DiscordFate) : DiscordWorld → List String → DiscordWorld × Bool
  | w,[] => (w,true)
  | w,c :: cs =>
    match page c (w.cursors.get c) with
    | none => (w,false)
    | some messages =>
      let r := w.pollMessages lib blockedId cfg c now fate messages
      if r.2 then pollChannels page now fate r.1 cs else (r.1,false)

/-- `poll_once`. -/
def pollOnce (w : DiscordWorld)
    (page : String → Option String → Option (List DiscordMessage)) (now : ℤ)
    (fate : String → DiscordFate) : DiscordWorld × Bool :=
  if cfg.enabled then w.pollChannels lib blockedId cfg page now fate cfg.channelIds else (w,true)

/-- `DiscordAdapter.reply` and `DiscordBridge.reply`, and how far they come; a reply whose answer has
no id is not settled. -/
def reply (w : DiscordWorld) (eventKey content replyId : String) (now : ℤ) (fate : ReplyFate) :
    DiscordWorld :=
  let key := lower (strip eventKey)
  if ¬ isHex 32 key then w
  else
    match w.ledger.event key with
    | none => w
    | some event =>
      if w.permissions.denies "discord" event.actorKey "reply" then
        w.refuse event.actorKey "reply" key now
      else if content = "" ∨ 2000 < content.toList.length then w
      else
        let fate := if isSnowflake (strip replyId) ∨ fate = .stops ∨ fate = .reserved then fate
          else .sent
        let r := w.ledger.sendReply lib w.permissions w.replies event content (strip replyId) now fate
        { w with ledger := r.1, replies := r.2 }

/-- A new event of a message, and the ledger that holds it. -/
structure NewEvent (w : DiscordWorld) (channelId : String) (m : DiscordMessage) (now : ℤ)
    (event : EventRow) (ledger : Ledger) : Prop where
  valid : m.valid
  fresh : w.ledger.event (m.eventKey lib) = none
  built : ∃ evaluation, m.evaluation lib cfg.policy w.ledger now = some evaluation ∧
    event = m.toEvent lib cfg.guildId channelId evaluation now
  inserted : (m.counted lib w.ledger now).insertEvent event = some ledger

/-- What a message of a poll can do. -/
inductive MessageStep (w : DiscordWorld) (channelId : String) (m : DiscordMessage) (now : ℤ)
    (fate : DiscordFate) : DiscordWorld × Bool → Prop
  | stopped (h : fate = .stops ∨ ¬ m.valid ∨ ∃ existing,
      w.ledger.event (m.eventKey lib) = some existing ∧
        (existing.bodyHash ≠ m.bodyHash lib channelId ∨ fate = .counted ∨ fate = .stored)) :
      MessageStep w channelId m now fate (w,false)
  | again (existing go) (hexisting : w.ledger.event (m.eventKey lib) = some existing)
      (hhash : existing.bodyHash = m.bodyHash lib channelId)
      (hgo : (∃ packetId, fate = .completes packetId) → go = true) :
      MessageStep w channelId m now fate (w.moveCursor channelId m.id,go)
  | counted (hvalid : m.valid) (hfresh : w.ledger.event (m.eventKey lib) = none)
      (hfate : fate = .counted ∨ m.evaluation lib cfg.policy w.ledger now = none ∨
        ∃ evaluation, m.evaluation lib cfg.policy w.ledger now = some evaluation ∧
          (m.counted lib w.ledger now).insertEvent
            (m.toEvent lib cfg.guildId channelId evaluation now) = none) :
      MessageStep w channelId m now fate (w.write (m.counted lib w.ledger now),false)
  | stored (event ledger) (hnew : NewEvent lib cfg w channelId m now event ledger)
      (hfate : fate = .stored) : MessageStep w channelId m now fate (w.write ledger,false)
  | quiet (event ledger go) (hnew : NewEvent lib cfg w channelId m now event ledger)
      (hquiet : cfg.destinationId = "" ∨ "surface" ∉ event.evaluation.allowedActions)
      (hgo : (∃ packetId, fate = .completes packetId) → go = true) :
      MessageStep w channelId m now fate ((w.write ledger).moveCursor channelId m.id,go)
  | moved (event ledger) (hnew : NewEvent lib cfg w channelId m now event ledger)
      (hfate : fate = .moved ∨ (cfg.destinationId ≠ "" ∧
        "surface" ∈ event.evaluation.allowedActions ∧ ∃ e, signal lib cfg event = .error e)) :
      MessageStep w channelId m now fate ((w.write ledger).moveCursor channelId m.id,false)
  | refused (event ledger) (marks : DiscordWorld → DiscordWorld) (go)
      (hnew : NewEvent lib cfg w channelId m now event ledger)
      (hdenied : w.permissions.denies "discord" event.actorKey "surface" = true)
      (hmarks : marks = id ∨ ∃ id, marks = fun w => w.markRouted event.eventKey id)
      (hgo : (∃ packetId, fate = .completes packetId) → go = true) :
      MessageStep w channelId m now fate
        (marks (((w.write ledger).moveCursor channelId m.id).refuse event.actorKey "surface"
          event.eventKey now),go)
  | routed (event ledger signal') (marks : DiscordWorld → DiscordWorld) (go)
      (hnew : NewEvent lib cfg w channelId m now event ledger)
      (hsurface : "surface" ∈ event.evaluation.allowedActions)
      (hopen : w.permissions.denies "discord" event.actorKey "surface" = false)
      (hsignal : signal lib cfg event = .ok signal')
      (hmarks : marks = id ∨ ∃ id, marks = fun w => w.markRouted event.eventKey id)
      (hgo : (∃ packetId, fate = .completes packetId) → go = true) :
      MessageStep w channelId m now fate
        (marks { (w.write ledger).moveCursor channelId m.id with
          routed := w.routed ++ [⟨signal',w.permissions⟩] },go)

variable {lib blockedId cfg} {w : DiscordWorld} {channelId : String} {m : DiscordMessage} {now : ℤ}
  {fate : DiscordFate}

theorem surface_step {event : EventRow} {ledger : Ledger}
    (hnew : NewEvent lib cfg w channelId m now event ledger) (hfate : fate ≠ .moved) :
    MessageStep lib cfg w channelId m now fate
      (((w.write ledger).moveCursor channelId m.id).surface lib blockedId cfg event now fate) := by
  unfold surface
  by_cases hquiet : cfg.destinationId = "" ∨ "surface" ∉ event.evaluation.allowedActions
  · rw [if_pos hquiet]
    refine .quiet event ledger _ hnew hquiet ?_
    rintro ⟨packetId,rfl⟩
    rfl
  rw [if_neg hquiet]
  rw [not_or,not_not] at hquiet
  cases hsignal : signal lib cfg event with
  | error e =>
    exact .moved event ledger hnew (Or.inr ⟨hquiet.1,hquiet.2,e,hsignal⟩)
  | ok signal' =>
    simp only
    by_cases hdenied : w.permissions.denies "discord" event.actorKey "surface" = true
    · rw [if_pos (show ((w.write ledger).moveCursor channelId m.id).permissions.denies "discord"
        event.actorKey "surface" = true from hdenied)]
      by_cases hqueued : fate = .queued
      · rw [if_pos hqueued]
        refine .refused event ledger id false hnew hdenied (Or.inl rfl) ?_
        rintro ⟨packetId,hdone⟩
        rw [hqueued] at hdone
        cases hdone
      · rw [if_neg hqueued]
        exact .refused event ledger _ true hnew hdenied (Or.inr ⟨_,rfl⟩) fun _ => rfl
    · rw [if_neg (show ¬ ((w.write ledger).moveCursor channelId m.id).permissions.denies "discord"
        event.actorKey "surface" = true from hdenied)]
      have hopen : w.permissions.denies "discord" event.actorKey "surface" = false := by
        simpa using hdenied
      cases fate with
      | completes packetId =>
        exact .routed event ledger signal' _ true hnew hquiet.2 hopen hsignal (Or.inr ⟨_,rfl⟩)
          fun _ => rfl
      | _ =>
        exact .routed event ledger signal' id false hnew hquiet.2 hopen hsignal (Or.inl rfl)
          fun ⟨_,hdone⟩ => by cases hdone

theorem ingestNew_step (hvalid : m.valid) (hfresh : w.ledger.event (m.eventKey lib) = none) :
    MessageStep lib cfg w channelId m now fate
      (w.ingestNew lib blockedId cfg channelId m now fate) := by
  unfold ingestNew
  by_cases hcounted : fate = .counted
  · simp only [if_pos hcounted]
    exact .counted hvalid hfresh (Or.inl hcounted)
  simp only [if_neg hcounted]
  cases heval : m.evaluation lib cfg.policy w.ledger now with
  | none => exact .counted hvalid hfresh (Or.inr (Or.inl heval))
  | some evaluation =>
    simp only
    cases hins : (m.counted lib w.ledger now).insertEvent
        (m.toEvent lib cfg.guildId channelId evaluation now) with
    | none =>
      simp only [write,hins]
      exact .counted hvalid hfresh (Or.inr (Or.inr ⟨evaluation,heval,hins⟩))
    | some ledger =>
      have hnew : NewEvent lib cfg w channelId m now
          (m.toEvent lib cfg.guildId channelId evaluation now) ledger :=
        ⟨hvalid,hfresh,⟨evaluation,heval,rfl⟩,hins⟩
      have hwrite : (w.write (m.counted lib w.ledger now)).ledger.insertEvent
          (m.toEvent lib cfg.guildId channelId evaluation now) = some ledger := hins
      rw [hwrite]
      simp only
      by_cases hstored : fate = .stored
      · rw [if_pos hstored]
        exact .stored _ _ hnew hstored
      rw [if_neg hstored]
      by_cases hmoved : fate = .moved
      · rw [if_pos hmoved]
        exact .moved _ _ hnew (Or.inl hmoved)
      rw [if_neg hmoved]
      exact surface_step hnew hmoved

theorem pollMessage_step (w : DiscordWorld) (channelId : String) (m : DiscordMessage) (now : ℤ)
    (fate : DiscordFate) : MessageStep lib cfg w channelId m now fate
      (w.pollMessage lib blockedId cfg channelId m now fate) := by
  unfold pollMessage
  by_cases hstops : fate = .stops ∨ ¬ m.valid
  · rw [if_pos hstops]
    exact .stopped (hstops.imp_right Or.inl)
  rw [if_neg hstops]
  rw [not_or,not_not] at hstops
  cases hexisting : w.ledger.event (m.eventKey lib) with
  | none => exact ingestNew_step hstops.2 hexisting
  | some existing =>
    simp only
    by_cases hfate : existing.bodyHash ≠ m.bodyHash lib channelId ∨ fate = .counted ∨ fate = .stored
    · rw [if_pos hfate]
      exact .stopped (Or.inr (Or.inr ⟨existing,hexisting,hfate⟩))
    · rw [if_neg hfate]
      rw [not_or,not_not] at hfate
      refine .again existing _ hexisting hfate.1 ?_
      rintro ⟨packetId,rfl⟩
      rfl

section Runs

variable (lib : SocialLibrary) (blockedId : String → String) (cfg : DiscordConfig)

def initial : DiscordWorld := ⟨.empty,.empty,.empty,[],[]⟩

inductive Call
  | message (channelId : String) (m : DiscordMessage) (now : ℤ) (fate : DiscordFate)
  | updateLabels (actorKey source : String) (add remove : List String) (now : ℤ)
  | addRule (rule : RuleRow)
  | removeRule (ruleId : String)
  | reply (eventKey content replyId : String) (now : ℤ) (fate : ReplyFate)

/-- A call; one that raises leaves the world as it was. -/
def exec (w : DiscordWorld) : Call → DiscordWorld
  | .message channelId m now fate =>
    if cfg.enabled then (w.pollMessage lib blockedId cfg channelId m now fate).1 else w
  | .updateLabels actorKey source add remove now =>
    w.write ((w.ledger.updateLabels actorKey source add remove now).toOption.getD w.ledger)
  | .addRule rule => { w with permissions := w.permissions.addRule rule }
  | .removeRule ruleId => { w with permissions := w.permissions.removeRule ruleId }
  | .reply eventKey content replyId now fate => w.reply lib eventKey content replyId now fate

def Step (w w' : DiscordWorld) : Prop := ∃ c, w' = w.exec lib blockedId cfg c

/-- A page of a channel is a run of its messages. -/
theorem pollMessages_runs (hen : cfg.enabled) (channelId : String) (now : ℤ)
    (fate : String → DiscordFate) (messages : List DiscordMessage) (w : DiscordWorld) :
    Reaches (Step lib blockedId cfg) w
      (w.pollMessages lib blockedId cfg channelId now fate messages).1 := by
  induction messages generalizing w with
  | nil => exact .refl
  | cons m ms ih =>
    have hmessage : Step lib blockedId cfg w
        (w.pollMessage lib blockedId cfg channelId m now (fate m.id)).1 :=
      ⟨.message channelId m now (fate m.id),(if_pos hen).symm⟩
    unfold pollMessages
    by_cases hgo : (w.pollMessage lib blockedId cfg channelId m now (fate m.id)).2
    · simp only [if_pos hgo]
      exact .head hmessage (ih _)
    · simp only [if_neg hgo]
      exact .single hmessage

/-- A poll is a run of the messages of its pages. -/
theorem pollOnce_runs (page : String → Option String → Option (List DiscordMessage)) (now : ℤ)
    (fate : String → DiscordFate) (w : DiscordWorld) :
    Reaches (Step lib blockedId cfg) w (w.pollOnce lib blockedId cfg page now fate).1 := by
  unfold pollOnce
  by_cases hen : cfg.enabled
  · rw [if_pos hen]
    generalize cfg.channelIds = channels
    induction channels generalizing w with
    | nil => exact .refl
    | cons c cs ih =>
      unfold pollChannels
      cases hpage : page c (w.cursors.get c) with
      | none => exact .refl
      | some messages =>
        have hmessages := pollMessages_runs lib blockedId cfg hen c now fate messages w
        simp only
        split
        · exact hmessages.trans (ih _)
        · exact hmessages
  · rw [if_neg hen]

end Runs

end DiscordWorld

section Sample

def discordSample : DiscordConfig := ⟨"90",["91"],"person-1",.mentions,3600,openPolicy,true⟩

def discordGreeting : DiscordMessage := ⟨"101","7","ada",false,"<@5> hello",false,false⟩

def runDiscord (calls : List DiscordWorld.Call) : DiscordWorld :=
  calls.foldl (DiscordWorld.exec plainSocial id discordSample) .initial

end Sample

end Anet.Amesh
