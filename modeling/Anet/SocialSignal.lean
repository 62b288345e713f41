import Anet.MsgPack
import Anet.SocialPolicy

/-! The signal that an adapter emits: what its id is computed from, its fields, and the checks it has
to pass. -/
namespace Anet.Amesh

inductive ContentLevel | metadata | mention
  deriving DecidableEq

/-- What the id of a signal is computed from. -/
structure SignalSeed where
  sourceEventId : String
  actorKey : String
  reputation : Reputation
  action : String
  allowedActions : List String
  reasons : List String
  policyVersion : ℤ
  provenance : List (String × String)
  deriving DecidableEq

structure Signal extends SignalSeed where
  signalId : String
  platform : String
  createdMs : ℤ
  expiresMs : ℤ
  contentLevel : ContentLevel
  content : String
  labels : List String
  deriving DecidableEq

/-- What the adapters take from Python: `hmac` with the key of the ledger, the digest of a body, of a
reply and of the seed of a signal. -/
structure SocialLibrary where
  pseudonym : String → String → String
  bodyDigest : List String → String
  contentDigest : String → String
  seedDigest : SignalSeed → String

/-- The end of a text in hexadecimal, filled up with zeros. -/
def spell (digits : ℕ) (s : String) : String :=
  String.ofList ((s.toList.reverse.flatMap
    (fun c => [hexDigit (c.toNat / 16 % 16),hexDigit (c.toNat % 16)]) ++
      List.replicate digits '0').take digits)

/-- A library to run the model with. -/
def plainSocial : SocialLibrary where
  pseudonym kind value := spell (if kind = "actor" then 64 else 32) value
  bodyDigest values := "\x00".intercalate values
  contentDigest content := content
  seedDigest seed := spell 32 (seed.actorKey ++ seed.sourceEventId)

def signalActions : List String := ["surface","reply","amplify","connect_candidate"]

/-- `_string_list`. -/
def validTexts (values : List String) (maximum limit : ℕ) : Prop :=
  values.length ≤ maximum ∧ ∀ v ∈ values, v ≠ "" ∧ v.toList.length ≤ limit

instance (values : List String) (maximum limit : ℕ) : Decidable (validTexts values maximum limit) :=
  inferInstanceAs (Decidable (_ ∧ _))

/-- A provenance field of `_exact_provenance`. -/
def isProvenanceField (s : String) : Bool :=
  matchesWord (fun c => 'a' ≤ c && c ≤ 'z')
    (fun c => ('a' ≤ c && c ≤ 'z') || isDigit c || c ∈ ['_','.','-']) 31 s

def isPercentage (n : ℤ) : Prop := 0 ≤ n ∧ n ≤ 100

instance (n : ℤ) : Decidable (isPercentage n) := inferInstanceAs (Decidable (_ ∧ _))

/-- `validate_signal`, of a value whose fields have their types. -/
def validateSignal (x : Signal) : Result Signal := do
  raiseIf (¬ isHex 32 x.signalId) (.value "signal_id must be 32 lowercase hexadecimal characters")
  raiseIf (¬ isHex 32 x.sourceEventId)
    (.value "source_event_id must be 32 lowercase hexadecimal characters")
  raiseIf (¬ isHex 64 x.actorKey) (.value "actor_key must be 64 lowercase hexadecimal characters")
  raiseIf (x.createdMs ≤ 0) (.value "created_ms must be positive")
  raiseIf (x.expiresMs ≤ 0) (.value "expires_ms must be positive")
  raiseIf (¬ (x.createdMs < x.expiresMs ∧ x.expiresMs ≤ x.createdMs + 7 * 86400000))
    (.value "invalid Amesh social signal lifetime")
  raiseIf (2000 < x.content.toList.length) (.value "Amesh social content is too long")
  raiseIf (x.contentLevel = .metadata ∧ x.content ≠ "")
    (.value "metadata-only signal contains content")
  raiseIf (¬ validTexts x.labels 32 128) (.value "labels must be a bounded list")
  raiseIf (¬ x.labels.Nodup) (.value "Amesh social labels must be unique")
  raiseIf (¬ (isPercentage x.reputation.score ∧ isPercentage x.reputation.rawScore ∧
    isPercentage x.reputation.confidence)) (.value "reputation must be between 0 and 100")
  raiseIf (x.action ∉ signalActions ∧ x.action ≠ "observe")
    (.value "invalid Amesh social decision action")
  raiseIf (¬ validTexts x.allowedActions 5 128) (.value "allowed_actions must be a bounded list")
  raiseIf (x.allowedActions.head? ≠ some "observe" ∨ x.allowedActions.getLast? ≠ some x.action ∨
      (∃ a ∈ x.allowedActions, a ∉ signalActions ∧ a ≠ "observe") ∨ ¬ x.allowedActions.Nodup)
    (.value "invalid Amesh social allowed action sequence")
  raiseIf (¬ validTexts x.reasons 32 256) (.value "decision reasons must be a bounded list")
  raiseIf (8 < x.provenance.length) (.value "Amesh social provenance has too many fields")
  raiseIf (∃ e ∈ x.provenance, ¬ isProvenanceField e.1)
    (.value "invalid Amesh social provenance field")
  raiseIf (∃ e ∈ x.provenance, 64 < e.2.toList.length)
    (.value "Amesh social provenance field is too long")
  return x

/-- `build_signal`. -/
def buildSignal (lib : SocialLibrary) (platform adapter sourceEventId actorKey : String)
    (createdMs expiresMs : ℤ) (contentLevel : ContentLevel) (content : String)
    (labels : List String) (evaluation : Evaluation) (provenance : List (String × String)) :
    Result Signal :=
  let seed : SignalSeed := ⟨sourceEventId,actorKey,evaluation.reputation,evaluation.action,
    evaluation.allowedActions,evaluation.reasons,evaluation.policyVersion,
    provenance ++ [("platform",platform),("adapter",adapter)]⟩
  validateSignal { seed with
    signalId := lib.seedDigest seed
    platform := platform
    createdMs := createdMs
    expiresMs := expiresMs
    contentLevel := contentLevel
    content := content
    labels := sortedStrings labels.dedup }

theorem validateSignal_ok {x y : Signal} (h : validateSignal x = .ok y) : y = x := by
  simp only [validateSignal,bind_ok] at h
  obtain ⟨_,-,_,-,_,-,_,-,_,-,_,-,_,-,_,-,_,-,_,-,_,-,_,-,_,-,_,-,_,-,_,-,_,-,_,-,h⟩ := h
  exact (Except.ok.inj h).symm

/-- A signal that is built has the fields it was built from. -/
theorem buildSignal_ok {lib : SocialLibrary} {platform adapter sourceEventId actorKey content : String}
    {createdMs expiresMs : ℤ} {contentLevel : ContentLevel} {labels : List String}
    {evaluation : Evaluation} {provenance : List (String × String)} {x : Signal}
    (h : buildSignal lib platform adapter sourceEventId actorKey createdMs expiresMs contentLevel
      content labels evaluation provenance = .ok x) :
    x.sourceEventId = sourceEventId ∧ x.actorKey = actorKey ∧
      x.allowedActions = evaluation.allowedActions := by
  obtain rfl := validateSignal_ok h
  exact ⟨rfl,rfl,rfl⟩

end Anet.Amesh
