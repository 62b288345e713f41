import Anet.SocialEvaluation
import Mathlib.Algebra.Ring.Int.Defs

/-! The signal of the Discord bridge, and the checks of whoever builds or receives one. -/
namespace Anet.DiscordSignals

open Amesh (Reputation)
open Reputations (normalizeSocialLabel isSocialLabel)

structure DiscordSignal where
  protocol : String
  version : ℤ
  signalId : String
  sourceEventId : String
  createdMs : ℤ
  expiresMs : ℤ
  actorKey : String
  contentLevel : String
  content : String
  labels : List String
  reputation : Reputation
  action : String
  allowedActions : List String
  reasons : List String
  policyVersion : ℤ
  platform : String
  adapter : String
  guildKey : String
  channelKey : String
  messageRevision : String
  deriving DecidableEq

def socialActions : List String := ["observe","surface","reply","amplify","connect_candidate"]

/-- `_hex`. -/
def normalHex (label : String) (length : ℕ) (value : String) : Result String := do
  raiseIf (¬ isHex length (lower (strip value)))
    (.value s!"{label} must be {length} lowercase hexadecimal characters")
  return lower (strip value)

/-- `_positive_int`. -/
def positive (label : String) (value : ℤ) : Result Unit :=
  raiseIf (value ≤ 0) (.value s!"{label} must be positive")

/-- `_percentage`. -/
def percentage (label : String) (value : ℤ) : Result Unit :=
  raiseIf (¬ (0 ≤ value ∧ value ≤ 100)) (.value s!"{label} must be between 0 and 100")

/-- `_string_list`. -/
def stringList (label : String) (maximum limit : ℕ) (values : List String) : Result Unit := do
  raiseIf (maximum < values.length) (.value s!"{label} must be a bounded list")
  raiseIf (∃ v ∈ values, v = "" ∨ limit < v.toList.length) (.value s!"{label} contains invalid text")

/-- The labels of a signal as they are compared, which have to be apart. -/
def signalLabels (labels : List String) : Result (List String) := do
  stringList "labels" 32 128 labels
  let normalized ← labels.mapM normalizeSocialLabel
  let sorted := sortedStrings normalized.dedup
  raiseIf (sorted.length ≠ labels.length) (.value "Discord social labels must be unique and sorted")
  return sorted

/-- `validate_discord_signal`, of a value whose fields have their types. -/
def validateDiscordSignal (x : DiscordSignal) : Result DiscordSignal := do
  raiseIf (x.protocol ≠ "anet.social.discord") (.value "invalid Discord social protocol")
  raiseIf (x.version ≠ 1) (.value "unsupported Discord social version")
  let signalId ← normalHex "signal_id" 32 x.signalId
  let sourceEventId ← normalHex "source_event_id" 32 x.sourceEventId
  let actorKey ← normalHex "actor_key" 64 x.actorKey
  positive "created_ms" x.createdMs
  positive "expires_ms" x.expiresMs
  raiseIf (¬ (x.createdMs < x.expiresMs ∧ x.expiresMs ≤ x.createdMs + 7 * 86400000))
    (.value "invalid Discord social signal lifetime")
  raiseIf (x.contentLevel ∉ ["metadata","mention"]) (.value "invalid Discord social content level")
  raiseIf (2000 < x.content.toList.length) (.value "Discord social content is too long")
  raiseIf (x.contentLevel = "metadata" ∧ x.content ≠ "")
    (.value "metadata-only Discord signal contains content")
  let labels ← signalLabels x.labels
  percentage "reputation score" x.reputation.score
  percentage "reputation raw_score" x.reputation.rawScore
  percentage "reputation confidence" x.reputation.confidence
  raiseIf (x.reputation.algorithm ≠ "anet-social-evidence-v1")
    (.value "unsupported social reputation algorithm")
  raiseIf (x.action ∉ socialActions) (.value "invalid social decision action")
  stringList "allowed_actions" socialActions.length 128 x.allowedActions
  raiseIf (x.allowedActions.head? ≠ some "observe" ∨ x.allowedActions.getLast? ≠ some x.action ∨
      (∃ a ∈ x.allowedActions, a ∉ socialActions) ∨ ¬ x.allowedActions.Nodup)
    (.value "invalid social allowed action sequence")
  stringList "decision reasons" 32 256 x.reasons
  raiseIf (x.policyVersion ≠ 1) (.value "unsupported social policy version")
  raiseIf (x.platform ≠ "discord") (.value "invalid social platform")
  raiseIf (x.adapter ≠ "discord-rest-v10") (.value "unsupported Discord social adapter")
  let guildKey ← normalHex "guild_key" 64 x.guildKey
  let channelKey ← normalHex "channel_key" 64 x.channelKey
  raiseIf (¬ (1 ≤ x.messageRevision.toList.length ∧ x.messageRevision.toList.length ≤ 64))
    (.value "invalid Discord message revision")
  return { x with
    signalId := signalId
    sourceEventId := sourceEventId
    actorKey := actorKey
    labels := labels
    guildKey := guildKey
    channelKey := channelKey }

end Anet.DiscordSignals
