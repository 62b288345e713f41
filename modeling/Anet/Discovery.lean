import Anet.FilteredPages
import Anet.Keyed
import Anet.Python
import Anet.Table
import Anet.Transition
import Mathlib.Algebra.Ring.Int.Defs

/-! The discovery store of Amesh: profiles and subscriptions of an observer, the signals it takes
in, the subscriptions they match, and the feed of a subscription. -/
namespace Anet.Discovery

def discoveryProtocol : String := "amesh.social.discovery"

inductive DiscoveryIntent | know | need | offer | capability
  deriving DecidableEq

inductive DiscoveryVisibility | publicly | tenant
  deriving DecidableEq

inductive Verdict | useful | notRelevant | spam
  deriving DecidableEq

def DiscoveryIntent.text : DiscoveryIntent → String
  | know => "know" | need => "need" | offer => "offer" | capability => "capability"

def intentOf (s : String) : Option DiscoveryIntent :=
  [DiscoveryIntent.know,.need,.offer,.capability].find? fun i => i.text = s

def visibilityOf (s : String) : Option DiscoveryVisibility :=
  if s = "public" then some .publicly else if s = "tenant" then some .tenant else none

def verdictOf (s : String) : Option Verdict :=
  if s = "useful" then some .useful else if s = "not_relevant" then some .notRelevant
  else if s = "spam" then some .spam else none

/-- The fields of a signal that its digest covers, provenance in the order of its keys. -/
structure SignalBody where
  publishedMs : ℤ
  expiresMs : ℤ
  intent : DiscoveryIntent
  summary : String
  topics : List String
  capabilities : List String
  languages : List String
  visibility : DiscoveryVisibility
  tenant : String
  provenance : List (String × String)
  deriving DecidableEq

structure DiscoverySignal where
  signalId : String
  body : SignalBody
  deriving DecidableEq

/-- `str`, `str.lower` and the digest of the JSON of a body. -/
structure Library where
  str : Value → String
  lower : String → String
  digest : SignalBody → String

/-- `_text`. -/
def text (label : String) (limit : ℕ) : Value → Result String
  | .str s =>
    if limit < s.toList.length then .error (.value s!"{label} must be bounded text") else .ok s
  | _ => .error (.value s!"{label} must be bounded text")

/-- `_positive_int`. -/
def positiveInt (label : String) : Value → Result ℤ
  | .int i => if i ≤ 0 then .error (.value s!"{label} must be a positive integer") else .ok i
  | _ => .error (.value s!"{label} must be a positive integer")

def isLower (c : Char) : Bool := 'a' ≤ c && c ≤ 'z'

/-- `_TOKEN_RE`. -/
def isToken (s : String) : Bool :=
  matchesWord isLower (fun c => isLower c || isDigit c || c ∈ ['_','.',':','/','-']) 63 s

/-- `_ID_RE`. -/
def isLocalId (s : String) : Bool :=
  matchesWord isLower (fun c => isLower c || isDigit c || c ∈ ['_','.','-']) 63 s

/-- `_SOURCE_RE`. -/
def isSource (s : String) : Bool :=
  matchesWord (fun c => isAlpha c || isDigit c)
    (fun c => isAlpha c || isDigit c || c ∈ ['_','.',':','@','/','-']) 127 s

def isProvenanceKey (s : String) : Bool :=
  matchesWord isLower (fun c => isLower c || isDigit c || c ∈ ['_','.','-']) 31 s

/-- One item of `_list`. -/
def listItem (lib : Library) (label : String) (token : Bool) (item : Value) : Result String := do
  let raw ← text label 64 item
  let word := lib.lower (strip raw)
  raiseIf (word = "" ∨ (token ∧ ¬ isToken word)) (.value s!"invalid {label} item")
  return word

/-- `_list`. -/
def boundedList (lib : Library) (label : String) (maximum : ℕ) (token : Bool) :
    Value → Result (List String)
  | .list items => do
    raiseIf (maximum < items.length) (.value s!"{label} must be a bounded list")
    let result ← items.mapM (listItem lib label token)
    raiseIf (result ≠ sortedStrings result.dedup) (.value s!"{label} must be unique and sorted")
    return result
  | _ => .error (.value s!"{label} must be a bounded list")

/-- One field of `_provenance`. -/
def provenanceField (lib : Library) (field : Value × Value) : Result (String × String) := do
  let key := lib.str field.1
  raiseIf (¬ isProvenanceKey key) (.value "invalid discovery provenance field")
  let item ← text s!"provenance {key}" 128 field.2
  return (key,item)

/-- `_provenance`. -/
def provenance (lib : Library) (value : Value) : Result (List (String × String)) := do
  let fields ← fetched (value.asMap.filter fun es => 1 ≤ es.length ∧ es.length ≤ 8)
    (.value "discovery provenance must have 1 to 8 fields")
  let pairs ← fields.mapM (provenanceField lib)
  let result := pairs.foldl (fun d e => d.put e.1 e.2) (Keyed.empty : Keyed String String)
  raiseIf ((result.get "source").isNone ∨ (result.get "adapter").isNone)
    (.value "discovery provenance requires source and adapter")
  return result.entries.insertionSort fun a b => a.1 ≤ b.1

def signalFields : List String :=
  ["protocol","version","signal_id","published_ms","expires_ms","intent","summary","topics",
    "capabilities","languages","visibility","tenant","provenance"]

/-- `set(value) == _FIELDS`. -/
def hasSignalFields (fields : List (Value × Value)) : Bool :=
  signalFields.all (fun name => (Value.field fields name).isSome) &&
    fields.all fun e => signalFields.any fun name => e.1.isStr name

/-- `value == 1`. -/
def isVersionOne : Value → Bool
  | .bool b => b
  | .int i => i = 1
  | .float bits => bits = 0x3ff0000000000000
  | _ => false

/-- The fields of a signal after the identifier: the rest of `validate_discovery_signal`. -/
def validateBody (lib : Library) (value : String → Value) : Result SignalBody := do
  let publishedMs ← positiveInt "published_ms" (value "published_ms")
  let expiresMs ← positiveInt "expires_ms" (value "expires_ms")
  raiseIf (¬ (publishedMs < expiresMs ∧ expiresMs ≤ publishedMs + 7 * 86400000))
    (.value "invalid discovery signal lifetime")
  let intent ← text "intent" 32 (value "intent")
  let intent ← fetched (intentOf (lib.lower (strip intent))) (.value "unsupported discovery intent")
  let summary ← text "summary" 1000 (value "summary")
  raiseIf (strip summary = "") (.value "discovery summary cannot be empty")
  let topics ← boundedList lib "topics" 32 true (value "topics")
  let capabilities ← boundedList lib "capabilities" 32 true (value "capabilities")
  let languages ← boundedList lib "languages" 8 false (value "languages")
  let visibility ← text "visibility" 16 (value "visibility")
  let visibility ← fetched (visibilityOf (lib.lower (strip visibility)))
    (.value "unsupported discovery visibility")
  let tenant ← text "tenant" 64 (value "tenant")
  let tenant := strip tenant
  raiseIf (visibility = .tenant ∧ tenant = "") (.value "tenant visibility requires a tenant")
  raiseIf (visibility = .publicly ∧ tenant ≠ "") (.value "public discovery signal cannot carry a tenant")
  let provenance ← provenance lib (value "provenance")
  return ⟨publishedMs,expiresMs,intent,strip summary,topics,capabilities,languages,visibility,tenant,
    provenance⟩

/-- `validate_discovery_signal`. -/
def validateDiscoverySignal (lib : Library) (value : Value) : Result DiscoverySignal := do
  let fields ← fetched (value.asMap.filter fun es => hasSignalFields es)
    (.value "discovery signal has invalid fields")
  let value := fun name => Value.fieldOr fields name .nil
  raiseIf (¬ (value "protocol").isStr discoveryProtocol ∨ ¬ isVersionOne (value "version"))
    (.value "unsupported Amesh discovery protocol")
  let signalId ← text "signal_id" 32 (value "signal_id")
  let signalId := lib.lower (strip signalId)
  raiseIf (¬ isHex 32 signalId) (.value "invalid discovery signal ID")
  let body ← validateBody lib value
  raiseIf (lib.digest body ≠ signalId) (.value "discovery signal digest does not match its body")
  return ⟨signalId,body⟩

/-- `_local_id`. -/
def localId (lib : Library) (label value : String) : Result String := do
  let raw ← text label 64 (.str value)
  raiseIf (¬ isLocalId (lib.lower (strip raw))) (.value s!"invalid {label}")
  return lib.lower (strip raw)

/-- `_source_id`. -/
def sourceId (value : String) : Result String := do
  let raw ← text "source ID" 128 (.str value)
  raiseIf (¬ isSource (strip raw)) (.value "invalid source ID")
  return strip raw

/-- `sorted({str(item).strip().lower() for item in items})`. -/
def normalSet (lib : Library) (items : List String) : List String :=
  sortedStrings (items.map fun item => lib.lower (strip item)).dedup

structure ProfileRow where
  profileId : String
  topics : List String
  capabilities : List String
  languages : List String
  tenant : String
  enabled : Bool
  updatedMs : ℤ

/-- The least score of a subscription, from 0 to 100. -/
abbrev MinScore := {score : ℤ // 0 ≤ score ∧ score ≤ 100}

def minScoreOf (score : ℤ) : Result MinScore :=
  if h : 0 ≤ score ∧ score ≤ 100 then .ok ⟨score,h⟩
  else .error (.value "subscription min_score must be 0 to 100")

structure SubscriptionRow where
  subscriptionId : String
  profileId : String
  intents : List DiscoveryIntent
  topics : List String
  capabilities : List String
  languages : List String
  minScore : MinScore
  maxAgeMs : ℤ
  enabled : Bool
  createdMs : ℤ

structure SignalRow where
  signal : DiscoverySignal
  sourceId : String
  receivedMs : ℤ

def SignalRow.signalId (r : SignalRow) : String := r.signal.signalId

structure MatchRow where
  matchId : ℕ
  subscriptionId : String
  signalId : String
  score : ℤ
  reasons : List String
  matchedMs : ℤ

structure FeedbackRow where
  subscriptionId : String
  signalId : String
  verdict : Verdict
  note : String
  createdMs : ℤ

def MatchRow.pair (r : MatchRow) : List (String × String) := [(r.subscriptionId,r.signalId)]

def FeedbackRow.key (r : FeedbackRow) : String × String := (r.subscriptionId,r.signalId)

/-- The tables; match ids are drawn from a sequence that is never reset. -/
structure DiscoveryStore where
  profiles : Table ProfileRow.profileId noMarks
  subscriptions : Table SubscriptionRow.subscriptionId noMarks
  signals : Table SignalRow.signalId noMarks
  matchRows : Table MatchRow.matchId MatchRow.pair
  matchSequence : ℕ
  feedback : Table FeedbackRow.key noMarks

def DiscoveryStore.empty : DiscoveryStore := ⟨.empty,.empty,.empty,.empty,0,.empty⟩

/-- The names, weights and overlaps of `_match_signal`. -/
def overlaps (signal : SignalBody) (profile : ProfileRow) (subscription : SubscriptionRow) :
    List (String × ℤ × List String) :=
  let overlap (declared own profile : List String) : List String :=
    sortedStrings ((declared.filter fun x => x ∈ if own = [] then profile else own).dedup)
  [("topics",45,overlap signal.topics subscription.topics profile.topics),
    ("capabilities",30,overlap signal.capabilities subscription.capabilities profile.capabilities),
    ("languages",10,overlap signal.languages subscription.languages profile.languages)]

/-- `_match_signal`. -/
def matchSignal (signal : SignalBody) (profile : ProfileRow) (subscription : SubscriptionRow)
    (receivedMs : ℤ) : ℤ × List String :=
  if signal.visibility = .tenant ∧ signal.tenant ≠ profile.tenant then (-1,["tenant mismatch"])
  else if subscription.intents ≠ [] ∧ signal.intent ∉ subscription.intents then
    (-1,["intent mismatch"])
  else
    let found := (overlaps signal profile subscription).filter fun o => o.2.2 ≠ []
    let intent := if subscription.intents ≠ [] then [((10 : ℤ),"intent:" ++ signal.intent.text)] else []
    let fresh := if receivedMs - signal.publishedMs ≤ subscription.maxAgeMs then
      [((5 : ℤ),"freshness:within-subscription-window")] else []
    let parts := found.map (fun o => (o.2.1,o.1 ++ ":" ++ ",".intercalate o.2.2)) ++ intent ++ fresh
    let reasons := parts.map Prod.snd
    (min 100 (parts.map Prod.fst).sum,
      if reasons = [] then ["no declared profile overlap"] else reasons)

/-- A match that is due for a signal. -/
structure DueMatch where
  subscriptionId : String
  score : ℤ
  reasons : List String

/-- `value or now_ms()`. -/
def orClock (value : Option ℤ) (now : ℤ) : ℤ := (value.filter fun v => v ≠ 0).getD now

namespace DiscoveryStore

/-- The match of a subscription, if it is enabled, so is its profile, and the score suffices. -/
def dueFor (s : DiscoveryStore) (signal : SignalBody) (receivedMs : ℤ) (r : SubscriptionRow) :
    Option DueMatch := do
  let profile ← s.profiles.get r.profileId
  let found := matchSignal signal profile r receivedMs
  if ¬ profile.enabled ∨ ¬ r.enabled ∨ found.1 < 0 ∨ found.1 < r.minScore.val then none
  else some ⟨r.subscriptionId,found.1,found.2⟩

/-- The matches of the loop of `ingest`, over `subscriptions()`. -/
def due (s : DiscoveryStore) (signal : SignalBody) (receivedMs : ℤ) : List DueMatch :=
  (s.subscriptions.rows.insertionSort fun a b => a.subscriptionId ≤ b.subscriptionId).filterMap
    (s.dueFor signal receivedMs)

/-- `INSERT INTO discovery_signals`. -/
def insertSignal (r : SignalRow) (s : DiscoveryStore) : DiscoveryStore :=
  { s with signals := s.signals.insertOrIgnore r }

/-- `INSERT OR IGNORE INTO discovery_matches`; an ignored row takes no number. -/
def insertMatch (signalId : String) (receivedMs : ℤ) (d : DueMatch) (s : DiscoveryStore) :
    DiscoveryStore :=
  match s.matchRows.insert
      ⟨s.matchSequence + 1,d.subscriptionId,signalId,d.score,d.reasons,receivedMs⟩ with
  | some matchRows => { s with matchRows := matchRows, matchSequence := s.matchSequence + 1 }
  | none => s

end DiscoveryStore

/-- What `ingest` returns. -/
inductive IngestReport
  | duplicate (signalId : String)
  | expired (signalId : String)
  | stored (signalId : String) (count : ℕ)

namespace DiscoveryStore

/-- `set_profile`. -/
def setProfile (lib : Library) (profileId : String) (topics capabilities languages : List String)
    (tenant : String) (enabled : Bool) (now : ℤ) (s : DiscoveryStore) : Result DiscoveryStore := do
  let profileId ← localId lib "profile ID" profileId
  let topics := normalSet lib topics
  let capabilities := normalSet lib capabilities
  let languages := normalSet lib languages
  let _ ← boundedList lib "profile topics" 64 true (.list (topics.map .str))
  let _ ← boundedList lib "profile capabilities" 64 true (.list (capabilities.map .str))
  let _ ← boundedList lib "profile languages" 8 false (.list (languages.map .str))
  let tenant ← text "profile tenant" 64 (.str tenant)
  let row : ProfileRow := ⟨profileId,topics,capabilities,languages,strip tenant,enabled,now⟩
  let profiles := (s.profiles.upsert row (fun r => { row with profileId := r.profileId })
    (fun _ => rfl)).getD s.profiles
  return { s with profiles := profiles }

/-- `add_subscription`. -/
def addSubscription (lib : Library) (subscriptionId profileId : String)
    (intents topics capabilities languages : List String) (minScore maxAgeSeconds : ℤ)
    (enabled : Bool) (now : ℤ) (s : DiscoveryStore) : Result DiscoveryStore := do
  let subscriptionId ← localId lib "subscription ID" subscriptionId
  let profileId ← localId lib "profile ID" profileId
  raiseIf (s.profiles.get profileId).isNone (.value "subscription profile does not exist")
  let topics := normalSet lib topics
  let capabilities := normalSet lib capabilities
  let languages := normalSet lib languages
  let intents ← fetched ((normalSet lib intents).mapM intentOf)
    (.value "subscription has unsupported intent")
  let _ ← boundedList lib "subscription topics" 64 true (.list (topics.map .str))
  let _ ← boundedList lib "subscription capabilities" 64 true (.list (capabilities.map .str))
  let _ ← boundedList lib "subscription languages" 8 false (.list (languages.map .str))
  let minScore ← minScoreOf minScore
  raiseIf (¬ (60 ≤ maxAgeSeconds ∧ maxAgeSeconds ≤ 7 * 86400))
    (.value "subscription max age is outside limits")
  let row : SubscriptionRow := ⟨subscriptionId,profileId,intents,topics,capabilities,languages,
    minScore,maxAgeSeconds * 1000,enabled,now⟩
  let subscriptions := (s.subscriptions.upsert row
    (fun r => { row with subscriptionId := r.subscriptionId, createdMs := r.createdMs })
    (fun _ => rfl)).getD s.subscriptions
  return { s with subscriptions := subscriptions }

/-- `ingest`: its report, and its writes in their order. -/
def ingest (lib : Library) (signal : Value) (source : String) (receivedMs : Option ℤ) (now : ℤ)
    (s : DiscoveryStore) : Result (IngestReport × List (DiscoveryStore → DiscoveryStore)) := do
  let signal ← validateDiscoverySignal lib signal
  let source ← sourceId source
  let receivedMs := orClock receivedMs now
  match s.signals.get signal.signalId with
  | some existing =>
    raiseIf (existing.signal ≠ signal ∨ existing.sourceId ≠ source)
      (.value "discovery signal ID conflicts with stored source/body")
    return (.duplicate signal.signalId,[])
  | none =>
    if signal.body.expiresMs ≤ receivedMs then return (.expired signal.signalId,[])
    else
      let due := s.due signal.body receivedMs
      return (.stored signal.signalId due.length,
        insertSignal ⟨signal,source,receivedMs⟩ :: due.map (insertMatch signal.signalId receivedMs))

/-- `add_feedback`. -/
def addFeedback (lib : Library) (subscriptionId signalId verdict note : String) (now : ℤ)
    (s : DiscoveryStore) : Result DiscoveryStore := do
  let subscriptionId ← localId lib "subscription ID" subscriptionId
  let signalId ← text "signal ID" 32 (.str signalId)
  let signalId := lib.lower (strip signalId)
  let verdict ← text "feedback verdict" 32 (.str verdict)
  let note ← text "feedback note" 256 (.str note)
  raiseIf (¬ isHex 32 signalId) (.value "invalid discovery feedback")
  let verdict ← fetched (verdictOf (lib.lower (strip verdict))) (.value "invalid discovery feedback")
  raiseIf ((s.subscriptions.get subscriptionId).isNone ∨ (s.signals.get signalId).isNone)
    (.value "unknown discovery subscription or signal")
  match s.feedback.get (subscriptionId,signalId) with
  | some existing =>
    raiseIf (existing.verdict ≠ verdict ∨ existing.note ≠ note)
      (.value "feedback is immutable for a subscription/signal")
    return s
  | none =>
    return { s with
      feedback := s.feedback.insertOrIgnore ⟨subscriptionId,signalId,verdict,note,now⟩ }

end DiscoveryStore

/-- A row of the feed. -/
structure FeedItem where
  cursor : ℕ
  subscriptionId : String
  signalId : String
  sourceId : String
  score : ℤ
  reasons : List String
  matchedMs : ℤ
  signal : DiscoverySignal
  feedback : Option (Verdict × String)

/-- What `feed` returns. -/
structure FeedPage where
  subscriptionId : String
  items : List FeedItem
  nextCursor : ℕ
  limited : Bool

/-- The signal of a row has not expired. -/
def FeedItem.live (current : ℤ) (item : FeedItem) : Prop := current < item.signal.body.expiresMs

instance (current : ℤ) : DecidablePred (FeedItem.live current) :=
  fun _ => inferInstanceAs (Decidable (_ < _))

namespace DiscoveryStore

/-- The join of a match with its signal and its feedback. -/
def feedItem (s : DiscoveryStore) (m : MatchRow) : Option FeedItem :=
  (s.signals.get m.signalId).map fun r => ⟨m.matchId,m.subscriptionId,m.signalId,r.sourceId,m.score,
    m.reasons,m.matchedMs,r.signal,
    (s.feedback.get (m.subscriptionId,m.signalId)).map fun f => (f.verdict,f.note)⟩

/-- The query of `feed` without its limit. -/
def feedRows (s : DiscoveryStore) (subscriptionId : String) (after : ℕ) : List FeedItem :=
  ((s.matchRows.select fun m => m.subscriptionId = subscriptionId ∧ after < m.matchId).insertionSort
    fun a b => a.matchId ≤ b.matchId).filterMap s.feedItem

/-- A page of the feed. -/
def feedPage (s : DiscoveryStore) (subscriptionId : String) (after limit : ℕ) (current : ℤ) :
    FeedPage :=
  let rows := (s.feedRows subscriptionId after).take (limit * 4)
  let items := (rows.filter fun item => item.live current).take limit
  ⟨subscriptionId,items,items.getLast?.elim after FeedItem.cursor,items.length = limit⟩

/-- `feed`. -/
def feed (lib : Library) (subscriptionId : String) (after limit : ℤ) (nowValue : Option ℤ) (now : ℤ)
    (s : DiscoveryStore) : Result FeedPage := do
  let subscriptionId ← localId lib "subscription ID" subscriptionId
  raiseIf (after < 0 ∨ ¬ (1 ≤ limit ∧ limit ≤ 200)) (.value "invalid discovery feed cursor or limit")
  return s.feedPage subscriptionId after.toNat limit.toNat (orClock nowValue now)

end DiscoveryStore

/-- The calls of a run; a call of `ingest` may stop after some of its writes. -/
inductive DiscoveryOp
  | setProfile (profileId : String) (topics capabilities languages : List String) (tenant : String)
      (enabled : Bool) (now : ℤ)
  | addSubscription (subscriptionId profileId : String)
      (intents topics capabilities languages : List String) (minScore maxAgeSeconds : ℤ)
      (enabled : Bool) (now : ℤ)
  | ingest (signal : Value) (source : String) (receivedMs : Option ℤ) (now : ℤ) (writes : ℕ)
  | addFeedback (subscriptionId signalId verdict note : String) (now : ℤ)

namespace DiscoveryOp

/-- The result of a call that raises leaves the store. -/
def kept (s : DiscoveryStore) (r : Result DiscoveryStore) : DiscoveryStore := r.toOption.getD s

def exec (lib : Library) : DiscoveryOp → DiscoveryStore → DiscoveryStore
  | .setProfile profileId topics capabilities languages tenant enabled now,s =>
    kept s (s.setProfile lib profileId topics capabilities languages tenant enabled now)
  | .addSubscription subscriptionId profileId intents topics capabilities languages minScore
      maxAgeSeconds enabled now,s =>
    kept s (s.addSubscription lib subscriptionId profileId intents topics capabilities languages
      minScore maxAgeSeconds enabled now)
  | .ingest signal source receivedMs now writes,s =>
    match s.ingest lib signal source receivedMs now with
    | .error _ => s
    | .ok r => (r.2.take writes).foldl (fun s write => write s) s
  | .addFeedback subscriptionId signalId verdict note now,s =>
    kept s (s.addFeedback lib subscriptionId signalId verdict note now)

end DiscoveryOp

end Anet.Discovery
