import Anet.Keyed
import Anet.Python
import Mathlib.Algebra.Ring.Int.Defs
import Mathlib.Data.List.Dedup

/-! The Discord bridge: a poll reads a page of messages behind the cursor of each channel, stores an
event for each message, queues the signals of those that surface, and moves the cursor on. -/
namespace Anet.Social

/-- The fields of a message that the bridge reads; its id and its author never change. -/
structure DiscordMessage where
  id : ℕ
  channelId : ℕ
  authorId : ℕ
  authorBot : Bool
  webhook : Bool
  editedTimestamp : String
  mentions : List ℕ
  replyTo : Option ℕ
  content : String
  mentionEveryone : Bool
  pinned : Bool
  attachments : ℕ
  reactions : List ℤ
  deriving DecidableEq

/-- What the digest of a stored message is made from. -/
structure EventBody where
  messageId : ℕ
  channelId : ℕ
  actorKey : String
  revision : String
  contentLevel : String
  content : String
  labels : List String
  reactionCount : ℕ
  deriving DecidableEq

structure Evaluation where
  action : String
  allowedActions : List String
  reasons : List String
  policyVersion : ℤ
  score : ℤ
  rawScore : ℤ
  confidence : ℤ
  deriving DecidableEq

/-- The counters of an actor. -/
inductive Counter
  | mention | reply | reaction | pinned
  deriving DecidableEq

/-- Where a counter stops. -/
def Counter.maximum : Counter → ℕ
  | mention => 10000 | reply => 10000 | reaction => 1000000 | pinned => 10000

structure ActorRow where
  firstSeenMs : ℤ
  lastSeenMs : ℤ
  accountCreatedMs : ℤ
  counts : Counter → ℕ

structure SocialEvent where
  body : EventBody
  createdMs : ℤ
  evaluation : Evaluation
  routedPacketId : String

structure DiscordSignal where
  signalId : String
  sourceEventId : String
  actorKey : String
  createdMs : ℤ
  expiresMs : ℤ
  contentLevel : String
  content : String
  labels : List String
  evaluation : Evaluation
  messageRevision : String

/-- Keys, the policy and the digest of a signal. Event keys are a keyed digest of the channel, the
message and its revision, which does not collide. -/
structure SocialLibrary where
  actorKey : ℕ → String
  eventKey : ℕ → ℕ → String → String
  eventKey_inj : ∀ c m r c' m' r', eventKey c m r = eventKey c' m' r' → c = c' ∧ m = m' ∧ r = r'
  evaluate : ActorRow → ℤ → List String → List String → Evaluation
  signalId : String → String → Evaluation → String → String

structure SocialConfig where
  channelIds : List ℕ
  distinct : channelIds.Nodup
  destinationNodeId : String
  mentionContent : Bool
  signalTtlSeconds : ℤ
  enabled : Bool
  botUserId : ℕ

structure SocialStore where
  actors : Keyed String ActorRow
  labels : String → List String
  events : Keyed String SocialEvent
  cursors : Keyed ℕ ℕ

/-- The store, and the signals that were queued. -/
structure Bridge where
  store : SocialStore
  queued : List DiscordSignal

/-- `snowflake_created_ms`. -/
def snowflakeCreatedMs (id : ℕ) : ℤ := (id >>> 22 : ℕ) + 1420070400000

namespace DiscordMessage

variable (m : DiscordMessage)

def revision : String := if m.editedTimestamp = "" then "create" else m.editedTimestamp

def mentionsBot (botUserId : ℕ) : Bool := botUserId ∈ m.mentions

def repliesToBot (botUserId : ℕ) : Bool := m.replyTo = some botUserId

def contentLevel (mentionContent : Bool) (botUserId : ℕ) : String :=
  if mentionContent && m.mentionsBot botUserId then "mention" else "metadata"

def keptContent (mentionContent : Bool) (botUserId : ℕ) : String :=
  if mentionContent && m.mentionsBot botUserId then m.content else ""

/-- `event_labels`, sorted. -/
def eventLabels (botUserId : ℕ) : List String :=
  sortedStrings (["platform:discord"] ++
    (if m.mentionsBot botUserId then ["interaction:mention"] else []) ++
    (if m.repliesToBot botUserId then ["interaction:reply"] else []) ++
    (if m.authorBot then ["actor:bot"] else []) ++
    (if m.webhook then ["actor:webhook"] else []) ++
    (if m.mentionEveryone then ["event:mass-mention"] else []) ++
    (if m.pinned then ["event:pinned"] else []) ++
    (if 0 < m.attachments then ["content:attachment"] else []))

def reactionCount : ℕ := min m.reactions.sum.toNat 1000000

/-- The checks of `ingest_message` on the fields of a message. -/
def check (cfg : SocialConfig) : Result Unit := do
  raiseIf (64 < m.revision.length) (.value "Discord message revision is invalid")
  raiseIf (100 < m.mentions.length) (.value "Discord message mentions are invalid")
  raiseIf (2000 < (m.keptContent cfg.mentionContent cfg.botUserId).length)
    (.value "Discord message content is too long")
  raiseIf (100 < m.attachments) (.value "Discord message attachments are invalid")
  raiseIf (100 < m.reactions.length) (.value "Discord message reactions are invalid")
  raiseIf (∃ n ∈ m.reactions, n < 0 ∨ 1000000 < n) (.value "Discord reaction count is outside limits")

/-- `digest_body`. -/
def body (lib : SocialLibrary) (cfg : SocialConfig) (channelId : ℕ) : EventBody :=
  ⟨m.id,channelId,lib.actorKey m.authorId,m.revision,m.contentLevel cfg.mentionContent cfg.botUserId,
    m.keptContent cfg.mentionContent cfg.botUserId,m.eventLabels cfg.botUserId,m.reactionCount⟩

/-- What a message adds to a counter. -/
def amount (botUserId : ℕ) : Counter → ℕ
  | .mention => if m.mentionsBot botUserId then 1 else 0
  | .reply => if m.repliesToBot botUserId then 1 else 0
  | .reaction => m.reactionCount
  | .pinned => if m.pinned then 1 else 0

end DiscordMessage

namespace SocialStore

/-- `cursor`. -/
def cursor (s : SocialStore) (channelId : ℕ) : Option ℕ := s.cursors.get channelId

/-- A cursor moves forward only. -/
def laterCursor (last : Option ℕ) (messageId : ℕ) : ℕ :=
  match last with
  | none => messageId
  | some last => if last < messageId then messageId else last

/-- `update_cursor`. -/
def updateCursor (s : SocialStore) (channelId messageId : ℕ) : SocialStore :=
  { s with cursors :=
      s.cursors.put channelId (laterCursor (s.cursors.get channelId) messageId) }

/-- The row of an actor after a new message of it. -/
def countedRow (s : SocialStore) (m : DiscordMessage) (actorKey : String) (botUserId : ℕ) : ActorRow :=
  match s.actors.get actorKey with
  | none => ⟨snowflakeCreatedMs m.id,snowflakeCreatedMs m.id,snowflakeCreatedMs m.authorId,
      m.amount botUserId⟩
  | some row => { row with
      lastSeenMs := max row.lastSeenMs (snowflakeCreatedMs m.id)
      counts := fun c => min c.maximum (row.counts c + m.amount botUserId c) }

/-- The transaction of `ingest_message`: the counters and the event. -/
def insertEvent (lib : SocialLibrary) (cfg : SocialConfig) (s : SocialStore) (m : DiscordMessage)
    (channelId : ℕ) (now : ℤ) : SocialEvent × SocialStore :=
  let actorKey := lib.actorKey m.authorId
  let row := s.countedRow m actorKey cfg.botUserId
  let event : SocialEvent := ⟨m.body lib cfg channelId,snowflakeCreatedMs m.id,
    lib.evaluate row now (s.labels actorKey) (m.eventLabels cfg.botUserId),""⟩
  (event,{ s with
    actors := s.actors.put actorKey row
    events := s.events.put (lib.eventKey channelId m.id m.revision) event })

/-- `ingest_message`; nothing for a message of the bot itself. -/
def ingestMessage (lib : SocialLibrary) (cfg : SocialConfig) (s : SocialStore) (m : DiscordMessage)
    (channelId : ℕ) (now : ℤ) : Result (Option SocialEvent × SocialStore) := do
  raiseIf (m.channelId ≠ channelId) (.value "Discord message channel does not match poll scope")
  if m.authorId = cfg.botUserId then return (none,s)
  else
    m.check cfg
    match s.events.get (lib.eventKey channelId m.id m.revision) with
    | some existing =>
      raiseIf (existing.body ≠ m.body lib cfg channelId) (.value "Discord social event key conflicts")
      return (some existing,s)
    | none =>
      let inserted := s.insertEvent lib cfg m channelId now
      return (some inserted.1,inserted.2)

/-- `mark_routed` for an event that has no route. -/
def markRouted (s : SocialStore) (eventKey packetId : String) : Result SocialStore := do
  raiseIf (¬ isHex 32 (lower (strip packetId))) (.value "invalid routed packet ID")
  match s.events.get eventKey with
  | none => .error (.value "Discord social route is already settled")
  | some event =>
    if event.routedPacketId = "" then
      let routed : SocialEvent := { event with routedPacketId := lower (strip packetId) }
      return { s with events := s.events.put eventKey routed }
    else
      raiseIf (event.routedPacketId ≠ lower (strip packetId))
        (.value "Discord social route is already settled")
      return s

end SocialStore

/-- `build_discord_signal` with the labels of the event and of its actor. -/
def buildSignal (lib : SocialLibrary) (cfg : SocialConfig) (eventKey : String) (e : SocialEvent)
    (actorLabels : List String) (now : ℤ) : Result DiscordSignal := do
  let labels := sortedStrings (e.body.labels ++ actorLabels).dedup
  raiseIf (32 < labels.length) (.value "labels must be a bounded list")
  return ⟨lib.signalId eventKey e.body.actorKey e.evaluation e.body.revision,eventKey,
    e.body.actorKey,now,now + cfg.signalTtlSeconds * 1000,e.body.contentLevel,e.body.content,labels,
    e.evaluation,e.body.revision⟩

/-- An event that needs no signal, or has one already. -/
def settled (cfg : SocialConfig) (e : SocialEvent) : Bool :=
  cfg.destinationNodeId = "" || "surface" ∉ e.evaluation.allowedActions || e.routedPacketId ≠ ""

/-- What becomes of a message in a poll: a crash or a failure between two writes, or the packet that
its signal was queued in. -/
inductive Fate
  | crashBefore | crashIngested | queueFails | crashQueued | crashRouted (packetId : String)
  | completes (packetId : String)
  deriving DecidableEq

namespace Bridge

variable (lib : SocialLibrary) (cfg : SocialConfig)

/-- The last write for a message. -/
def advance (b : Bridge) (channelId messageId : ℕ) : Bridge :=
  { b with store := b.store.updateCursor channelId messageId }

/-- The route of a queued signal and the cursor; the flag says whether the poll goes on. -/
def route (b : Bridge) (channelId messageId : ℕ) (eventKey packetId : String) (crashes : Bool) :
    Bridge × Bool :=
  match b.store.markRouted eventKey packetId with
  | .error _ => (b,false)
  | .ok store =>
    let routed : Bridge := { b with store := store }
    if crashes then (routed,false) else (routed.advance channelId messageId,true)

/-- What follows when the signal of an event was built. -/
def deliver (b : Bridge) (channelId messageId : ℕ) (eventKey : String) (signal : DiscordSignal) :
    Fate → Bridge × Bool
  | .crashBefore | .crashIngested | .queueFails => (b,false)
  | .crashQueued => ({ b with queued := b.queued ++ [signal] },false)
  | .crashRouted packetId =>
    route { b with queued := b.queued ++ [signal] } channelId messageId eventKey packetId true
  | .completes packetId =>
    route { b with queued := b.queued ++ [signal] } channelId messageId eventKey packetId false

/-- What follows when the event of a message is stored. -/
def handle (b : Bridge) (channelId : ℕ) (m : DiscordMessage) (event : Option SocialEvent) (now : ℤ)
    (fate : Fate) : Bridge × Bool :=
  match event with
  | none => (b.advance channelId m.id,true)
  | some e =>
    if settled cfg e then (b.advance channelId m.id,true)
    else
      match buildSignal lib cfg (lib.eventKey channelId m.id m.revision) e
          (b.store.labels e.body.actorKey) now with
      | .error _ => (b,false)
      | .ok signal => b.deliver channelId m.id (lib.eventKey channelId m.id m.revision) signal fate

/-- One message of a poll. -/
def pollMessage (b : Bridge) (channelId : ℕ) (m : DiscordMessage) (now : ℤ) (fate : Fate) :
    Bridge × Bool :=
  if fate = .crashBefore then (b,false)
  else
    match b.store.ingestMessage lib cfg m channelId now with
    | .error _ => (b,false)
    | .ok (event,store) =>
      let ingested : Bridge := { b with store := store }
      if fate = .crashIngested then (ingested,false)
      else ingested.handle lib cfg channelId m event now fate

/-- The messages of a page in the order of their ids, until one of them stops the poll. -/
def pollMessages (channelId : ℕ) (now : ℤ) (fate : ℕ → Fate) : Bridge → List DiscordMessage →
    Bridge × Bool
  | b,[] => (b,true)
  | b,m :: ms =>
    let r := b.pollMessage lib cfg channelId m now (fate m.id)
    if r.2 then pollMessages channelId now fate r.1 ms else (r.1,false)

end Bridge

/-- What a poll meets outside: the pages that Discord serves (none when the API fails), the clock,
and the fates of the messages. -/
structure PollWeather where
  page : ℕ → Option ℕ → Option (List DiscordMessage)
  now : ℤ
  fate : ℕ → ℕ → Fate

namespace Bridge

variable (lib : SocialLibrary) (cfg : SocialConfig)

/-- One channel of a poll. -/
def pollChannel (w : PollWeather) (b : Bridge) (channelId : ℕ) : Bridge × Bool :=
  match w.page channelId (b.store.cursor channelId) with
  | none => (b,false)
  | some page => b.pollMessages lib cfg channelId w.now (w.fate channelId)
      (page.insertionSort fun m m' => m.id ≤ m'.id)

/-- The channels of a poll, until one of them stops it. -/
def pollChannels (w : PollWeather) : Bridge → List ℕ → Bridge × Bool
  | b,[] => (b,true)
  | b,c :: cs =>
    let r := b.pollChannel lib cfg w c
    if r.2 then pollChannels w r.1 cs else (r.1,false)

/-- `poll_once`; the flag says whether it returned. -/
def pollOnce (b : Bridge) (w : PollWeather) : Bridge × Bool :=
  if cfg.enabled then b.pollChannels lib cfg w cfg.channelIds else (b,true)

end Bridge
end Anet.Social
