import Anet.HalfEven
import Anet.SocialLedger
import Mathlib.Data.List.Dedup
import Mathlib.Data.Rat.Floor

/-! The evaluation of labels as they are given, of both adapters: how the counters and the labels of
the operator move the score, the confidence and the actions that are allowed. -/
namespace Anet.Reputations

open Anet.Amesh

/-- `_LABEL_RE`. -/
def isSocialLabel (label : String) : Bool :=
  let mark := String.ofList (label.toList.takeWhile (· ≠ ':'))
  let rest := String.ofList ((label.toList.dropWhile (· ≠ ':')).drop 1)
  let inside := fun c => ('a' ≤ c && c ≤ 'z') || isDigit c || c ∈ ['_','.','-']
  matchesWord (fun c => 'a' ≤ c && c ≤ 'z') inside 31 mark &&
    matchesWord (fun c => ('a' ≤ c && c ≤ 'z') || isDigit c) inside 63 rest

/-- `normalize_social_label`. -/
def normalizeSocialLabel (value : String) : Result String := do
  raiseIf (¬ isSocialLabel (lower (strip value))) (.value "invalid social label")
  return lower (strip value)

/-- `_bounded_stat`. -/
def boundedStat (name : String) (maximum value : ℤ) : Result ℤ := do
  raiseIf (¬ (0 ≤ value ∧ value ≤ maximum)) (.value s!"{name} is outside the allowed range")
  return value

/-- The counters of `score_social_actor`; below their maxima no counter is cut. -/
def counterWeights : List CounterWeight :=
  [⟨ActorStats.accountAgeDays,fun n => n / 365,5,5,5,"discord account age"⟩,
    ⟨ActorStats.mentionCount,fun n => n * 2,10,3,15,"bounded mentions"⟩,
    ⟨ActorStats.replyCount,fun n => n * 4,12,5,20,"bounded replies"⟩,
    ⟨ActorStats.reactionCount,fun n => n,8,1,10,"bounded reactions"⟩,
    ⟨ActorStats.pinnedCount,fun n => n * 8,16,10,20,"bounded pinned messages"⟩]

/-- The reputation that the evidence amounts to. -/
def reputationOf (algorithm : String) (e : Evidence) : Reputation :=
  let rawScore := max 0 (min 100 (50 + e.points))
  let confidence := max 0 (min 100 e.confidence)
  ⟨roundHundredths (5000 + (rawScore - 50) * confidence),rawScore,confidence,algorithm⟩

/-- What the counters and the labels add up to. -/
def tally (weights : List CounterWeight) (stats : ActorStats) (labels : List String) : Evidence :=
  (sortedStrings labels.dedup).foldl Evidence.addLabel
    (weights.foldl (Evidence.addCounter stats) ⟨0,0,[]⟩)

/-- `score_social_actor`, with the reasons. -/
def scoreSocialActor (stats : ActorStats) (labels : List String) :
    Result (Reputation × List String) := do
  let _ ← boundedStat "mention_count" 10000 stats.mentionCount
  let _ ← boundedStat "reply_count" 10000 stats.replyCount
  let _ ← boundedStat "reaction_count" 1000000 stats.reactionCount
  let _ ← boundedStat "pinned_count" 10000 stats.pinnedCount
  let _ ← boundedStat "account_age_days" 100000 stats.accountAgeDays
  let e := tally counterWeights stats labels
  return (reputationOf "anet-social-evidence-v1" e,
    if e.reasons = [] then ["no reputation evidence"] else e.reasons)

/-- `evaluate` of Anet. -/
def evaluate (p : SocialPolicy) (stats : ActorStats) (labels eventLabels : List String) :
    Result Evaluation := do
  let labels ← labels.mapM normalizeSocialLabel
  let eventLabels ← eventLabels.mapM normalizeSocialLabel
  let combined := labels ++ eventLabels
  let scored ← scoreSocialActor stats labels
  let blocked := sortedStrings (combined.filter fun l => l ∈ blockingLabels).dedup
  let allowed := if blocked = [] then p.openActions scored.1 combined else ["observe"]
  let action := allowed.getLastD "observe"
  let reasons := scored.2 ++
    (if blocked = [] then [] else ["blocked by labels: " ++ ",".intercalate blocked]) ++
    if action = "connect_candidate" then
      ["candidate only; Discord evidence cannot create Anet trust"] else []
  return ⟨action,allowed,reasons.take 32,p.version,scored.1⟩

/-- `evaluate` of Amesh, with the labels as they are given. -/
def ameshEvaluate (p : SocialPolicy) (stats : ActorStats) (labels eventLabels : List String) :
    Result Evaluation := do
  let labels ← labels.mapM normalizeSocialLabel
  let eventLabels ← eventLabels.mapM normalizeSocialLabel
  return p.evaluate stats labels eventLabels

theorem normalizeSocialLabel_ok {value label : String} (h : normalizeSocialLabel value = .ok label) :
    label = lower (strip value) ∧ isSocialLabel label := by
  simp only [normalizeSocialLabel,bind_ok,raiseIf_ok,not_not] at h
  obtain ⟨-,hlabel,h⟩ := h
  have heq : lower (strip value) = label := Except.ok.inj h
  exact ⟨heq.symm,heq ▸ hlabel⟩

theorem normalized_ok {values labels : List String}
    (h : values.mapM normalizeSocialLabel = .ok labels) :
    labels = values.map fun v => lower (strip v) := by
  induction values generalizing labels with
  | nil => exact (Except.ok.inj h).symm
  | cons v rest ih =>
    simp only [List.mapM_cons,bind_ok] at h
    obtain ⟨label,hlabel,others,hothers,h⟩ := h
    cases h
    rw [List.map_cons,← ih hothers,(normalizeSocialLabel_ok hlabel).1]

section Rounding

theorem roundHundredths_eq (n : ℤ) : roundHundredths n = halfEven ((n : ℚ) / 100) := by
  have hfloor : ⌊(n : ℚ) / 100⌋ = n / 100 := by
    have hcast := Rat.floor_intCast_div_natCast n 100
    exact_mod_cast hcast
  have hmod : (n : ℚ) = 100 * ((n / 100 : ℤ) : ℚ) + ((n % 100 : ℤ) : ℚ) := by
    exact_mod_cast (Int.mul_ediv_add_emod n 100).symm
  have hfract : Int.fract ((n : ℚ) / 100) = ((n % 100 : ℤ) : ℚ) / 100 := by
    have hsplit := Int.floor_add_fract ((n : ℚ) / 100)
    rw [hfloor] at hsplit
    linarith
  have hless : Int.fract ((n : ℚ) / 100) < 1 / 2 ↔ n % 100 < 50 := by
    rw [hfract,div_lt_iff₀ (by norm_num)]
    norm_num
    exact_mod_cast Iff.rfl
  have hhalf : Int.fract ((n : ℚ) / 100) = 1 / 2 ↔ n % 100 = 50 := by
    rw [hfract,div_eq_iff (by norm_num)]
    norm_num
    exact_mod_cast Iff.rfl
  unfold roundHundredths halfEven
  simp only [hless,hhalf,hfloor,Int.even_iff]

theorem roundHundredths_mono {m n : ℤ} (h : m ≤ n) : roundHundredths m ≤ roundHundredths n := by
  rw [roundHundredths_eq,roundHundredths_eq]
  apply halfEven_mono
  have hcast : (m : ℚ) ≤ n := by exact_mod_cast h
  linarith

theorem roundHundredths_whole (n : ℤ) : roundHundredths (100 * n) = n := by
  have hwhole : (((100 * n : ℤ) : ℚ) / 100) = (n : ℚ) := by
    push_cast
    ring
  rw [roundHundredths_eq,hwhole,halfEven_intCast]

end Rounding

section Sums

/-- A counter as it is cut. -/
def CounterWeight.value (w : CounterWeight) (stats : ActorStats) : ℤ :=
  max 0 (min (w.read stats) 1000000)

/-- What a counter adds to the points and to the confidence. -/
def CounterWeight.points (w : CounterWeight) (n : ℤ) : ℤ := min (w.scaled n) w.cap

def CounterWeight.trust (w : CounterWeight) (n : ℤ) : ℤ :=
  if CounterWeight.points w n = 0 then 0 else min (n * w.confidence) w.confidenceCap

/-- What a label adds to the points and to the confidence. -/
def labelPoints (label : String) : ℤ := (labelWeights.lookup label).elim 0 fun w => w.1

def labelTrust (label : String) : ℤ := (labelWeights.lookup label).elim 0 fun w => w.2

theorem addCounter_sums (stats : ActorStats) (e : Evidence) (w : CounterWeight) :
    (Evidence.addCounter stats e w).points =
        e.points + CounterWeight.points w (CounterWeight.value w stats) ∧
      (Evidence.addCounter stats e w).confidence =
        e.confidence + CounterWeight.trust w (CounterWeight.value w stats) := by
  unfold Evidence.addCounter CounterWeight.trust CounterWeight.points CounterWeight.value
  dsimp only
  split_ifs with hzero
  · rw [hzero]
    simp
  · exact ⟨rfl,rfl⟩

theorem addLabel_sums (e : Evidence) (label : String) :
    (e.addLabel label).points = e.points + labelPoints label ∧
      (e.addLabel label).confidence = e.confidence + labelTrust label := by
  unfold Evidence.addLabel labelPoints labelTrust
  cases labelWeights.lookup label with
  | none => simp
  | some w => exact ⟨rfl,rfl⟩

theorem foldl_sums {α : Type} {f : Evidence → α → Evidence} {points trust : α → ℤ}
    (h : ∀ e a, (f e a).points = e.points + points a ∧ (f e a).confidence = e.confidence + trust a)
    (l : List α) (e : Evidence) : (l.foldl f e).points = e.points + (l.map points).sum ∧
      (l.foldl f e).confidence = e.confidence + (l.map trust).sum := by
  induction l generalizing e with
  | nil => simp
  | cons a rest ih =>
    obtain ⟨hpoints,htrust⟩ := ih (f e a)
    rw [List.foldl_cons,hpoints,htrust,(h e a).1,(h e a).2]
    simp only [List.map_cons,List.sum_cons]
    omega

theorem tally_sums (weights : List CounterWeight) (stats : ActorStats) (labels : List String) :
    (tally weights stats labels).points =
        (weights.map fun w => CounterWeight.points w (CounterWeight.value w stats)).sum +
          (labels.dedup.map labelPoints).sum ∧
      (tally weights stats labels).confidence =
        (weights.map fun w => CounterWeight.trust w (CounterWeight.value w stats)).sum +
          (labels.dedup.map labelTrust).sum := by
  have hperm := sortedStrings_perm labels.dedup
  obtain ⟨hpoints,htrust⟩ := foldl_sums addLabel_sums (sortedStrings labels.dedup)
    (weights.foldl (Evidence.addCounter stats) ⟨0,0,[]⟩)
  obtain ⟨hcounted,hsure⟩ := foldl_sums (addCounter_sums stats) weights ⟨0,0,[]⟩
  unfold tally
  rw [hpoints,htrust,hcounted,hsure,(hperm.map labelPoints).sum_eq,(hperm.map labelTrust).sum_eq]
  simp

/-- What the evidence of a counter may be: it grows with the counter, its points are at most its
confidence, and `excess` bounds how far twice its points are above it. -/
structure Bounded (w : CounterWeight) (excess : ℤ) : Prop where
  points : ∀ n, 0 ≤ n → 0 ≤ CounterWeight.points w n
  le : ∀ n, 0 ≤ n → CounterWeight.points w n ≤ CounterWeight.trust w n
  twice : ∀ n, 0 ≤ n → 2 * CounterWeight.points w n - CounterWeight.trust w n ≤ excess
  grows : ∀ m n, 0 ≤ m → m ≤ n → CounterWeight.points w m ≤ CounterWeight.points w n ∧
    CounterWeight.trust w m ≤ CounterWeight.trust w n

theorem value_nonneg (w : CounterWeight) (s : ActorStats) : 0 ≤ CounterWeight.value w s :=
  le_max_left _ _

theorem value_mono {w : CounterWeight} {s s' : ActorStats} (h : w.read s ≤ w.read s') :
    CounterWeight.value w s ≤ CounterWeight.value w s' := by
  unfold CounterWeight.value
  omega

theorem counterWeights_bounded : List.Forall₂ Bounded counterWeights [5,5,9,8,12] ∧
    List.Forall₂ Bounded Amesh.counterWeights [5,5,9,8,12] := by
  constructor
  all_goals
    refine .cons ?_ (.cons ?_ (.cons ?_ (.cons ?_ (.cons ?_ .nil))))
    all_goals
      refine ⟨fun n hn => ?_,fun n hn => ?_,fun n hn => ?_,fun m n hm hmn => ?_⟩
      · simp only [CounterWeight.points]
        omega
      all_goals
        simp only [CounterWeight.points,CounterWeight.trust]
        split_ifs <;> omega

/-- Every counter of an actor is at most what it is for the other. -/
structure Grown (s s' : ActorStats) : Prop where
  age : s.accountAgeDays ≤ s'.accountAgeDays
  mentions : s.mentionCount ≤ s'.mentionCount
  replies : s.replyCount ≤ s'.replyCount
  reactions : s.reactionCount ≤ s'.reactionCount
  pinned : s.pinnedCount ≤ s'.pinnedCount

/-- The counters that both adapters read. -/
structure Weighted (weights : List CounterWeight) : Prop where
  bounded : List.Forall₂ Bounded weights [5,5,9,8,12]
  reads : ∀ s s', Grown s s' → ∀ w ∈ weights, w.read s ≤ w.read s'

theorem counterWeights_weighted : Weighted counterWeights ∧ Weighted Amesh.counterWeights := by
  have hreads : ∀ s s' : ActorStats, Grown s s' →
      ∀ f ∈ [ActorStats.accountAgeDays,ActorStats.mentionCount,ActorStats.replyCount,
        ActorStats.reactionCount,ActorStats.pinnedCount], f s ≤ f s' := by
    intro s s' h
    simp only [List.forall_mem_cons,List.not_mem_nil,false_implies,implies_true,and_true]
    exact ⟨h.age,h.mentions,h.replies,h.reactions,h.pinned⟩
  refine ⟨⟨counterWeights_bounded.1,fun s s' h w hw => hreads s s' h _ ?_⟩,
    ⟨counterWeights_bounded.2,fun s s' h w hw => hreads s s' h _ ?_⟩⟩
  · exact List.mem_map_of_mem (f := CounterWeight.read) hw
  · exact List.mem_map_of_mem (f := CounterWeight.read) hw

theorem counters_bounded {weights : List CounterWeight} {excesses : List ℤ}
    (h : List.Forall₂ Bounded weights excesses) (s : ActorStats) :
    0 ≤ (weights.map fun w => CounterWeight.points w (CounterWeight.value w s)).sum ∧
      (weights.map fun w => CounterWeight.points w (CounterWeight.value w s)).sum ≤
        (weights.map fun w => CounterWeight.trust w (CounterWeight.value w s)).sum ∧
      2 * (weights.map fun w => CounterWeight.points w (CounterWeight.value w s)).sum -
        (weights.map fun w => CounterWeight.trust w (CounterWeight.value w s)).sum ≤ excesses.sum := by
  induction h with
  | nil => simp
  | @cons w _ _ _ hw _ ih =>
    simp only [List.map_cons,List.sum_cons]
    have hpoints := hw.points _ (value_nonneg w s)
    have hle := hw.le _ (value_nonneg w s)
    have htwice := hw.twice _ (value_nonneg w s)
    omega

theorem counters_grow {weights : List CounterWeight} {excesses : List ℤ}
    (h : List.Forall₂ Bounded weights excesses) {s s' : ActorStats}
    (hreads : ∀ w ∈ weights, w.read s ≤ w.read s') :
    (weights.map fun w => CounterWeight.points w (CounterWeight.value w s)).sum ≤
        (weights.map fun w => CounterWeight.points w (CounterWeight.value w s')).sum ∧
      (weights.map fun w => CounterWeight.trust w (CounterWeight.value w s)).sum ≤
        (weights.map fun w => CounterWeight.trust w (CounterWeight.value w s')).sum := by
  induction h with
  | nil => simp
  | @cons w _ _ _ hw _ ih =>
    rw [List.forall_mem_cons] at hreads
    obtain ⟨hpoints,htrust⟩ := hw.grows _ _ (value_nonneg w s) (value_mono hreads.1)
    obtain ⟨hrest,hsure⟩ := ih hreads.2
    simp only [List.map_cons,List.sum_cons]
    omega

/-- The weights of the labels that count. -/
theorem labelWeights_cases (label : String) :
    (labelPoints label = 0 ∧ labelTrust label = 0) ∨
      (label,labelPoints label,labelTrust label) ∈ labelWeights := by
  unfold labelPoints labelTrust
  cases hlookup : labelWeights.lookup label with
  | none => exact .inl ⟨rfl,rfl⟩
  | some w =>
    obtain ⟨before,after,hsplit,-⟩ := List.lookup_eq_some_iff.mp hlookup
    right
    rw [hsplit]
    simp

theorem label_bounded (label : String) : 0 ≤ labelTrust label ∧ labelPoints label ≤ labelTrust label ∧
    2 * labelPoints label - labelTrust label ≤ if label = "relationship:vouched" then 10 else 0 := by
  rcases labelWeights_cases label with ⟨hpoints,htrust⟩ | hmem
  · rw [hpoints,htrust]
    split_ifs <;> omega
  · have hall : ∀ w ∈ labelWeights, 0 ≤ w.2.2 ∧ w.2.1 ≤ w.2.2 ∧
        2 * w.2.1 - w.2.2 ≤ if w.1 = "relationship:vouched" then 10 else 0 := by
      decide
    exact hall _ hmem

theorem labels_bounded {labels : List String} (h : labels.Nodup) :
    0 ≤ (labels.map labelTrust).sum ∧
      (labels.map labelPoints).sum ≤ (labels.map labelTrust).sum ∧
      2 * (labels.map labelPoints).sum - (labels.map labelTrust).sum ≤
        if "relationship:vouched" ∈ labels then 10 else 0 := by
  induction labels with
  | nil => simp
  | cons l rest ih =>
    obtain ⟨hnot,hrest⟩ := List.nodup_cons.mp h
    obtain ⟨htrust,hle,htwice⟩ := ih hrest
    obtain ⟨hfirst,hless,hdouble⟩ := label_bounded l
    simp only [List.map_cons,List.sum_cons,List.mem_cons]
    by_cases hl : l = "relationship:vouched"
    · rw [if_pos hl] at hdouble
      rw [if_neg (hl ▸ hnot)] at htwice
      rw [if_pos (.inl hl.symm)]
      omega
    · rw [if_neg hl] at hdouble
      have hiff : ("relationship:vouched" = l ∨ "relationship:vouched" ∈ rest) ↔
          "relationship:vouched" ∈ rest := by
        simp [Ne.symm hl]
      simp only [hiff]
      omega

/-- The bounds of what is added up. -/
theorem tally_bounded {weights : List CounterWeight} (h : Weighted weights) (s : ActorStats)
    (labels : List String) : 0 ≤ (tally weights s labels).confidence ∧
      (tally weights s labels).points ≤ (tally weights s labels).confidence ∧
      2 * (tally weights s labels).points - (tally weights s labels).confidence ≤ 49 := by
  obtain ⟨hpoints,htrust⟩ := tally_sums weights s labels
  obtain ⟨hcounted,hle,htwice⟩ := counters_bounded h.bounded s
  obtain ⟨hsure,hless,hdouble⟩ := labels_bounded (List.nodup_dedup labels)
  have hexcess : ([5,5,9,8,12] : List ℤ).sum = 39 := by decide
  rw [hpoints,htrust]
  split_ifs at hdouble <;> omega

end Sums

section Scores

/-- The score of a raw score under a confidence. -/
def shrunk (rawScore confidence : ℤ) : ℤ := roundHundredths (5000 + (rawScore - 50) * confidence)

theorem shrunk_above {rawScore confidence : ℤ} (hraw : 50 ≤ rawScore) (hnonneg : 0 ≤ confidence)
    (hmost : confidence ≤ 100) : 50 ≤ shrunk rawScore confidence ∧
      shrunk rawScore confidence ≤ rawScore := by
  have hlow : 0 ≤ (rawScore - 50) * confidence := mul_nonneg (by omega) hnonneg
  have hhigh : (rawScore - 50) * confidence ≤ (rawScore - 50) * 100 :=
    mul_le_mul_of_nonneg_left hmost (by omega)
  constructor
  · rw [← roundHundredths_whole 50]
    exact roundHundredths_mono (by omega)
  · have hscore := roundHundredths_mono
      (show 5000 + (rawScore - 50) * confidence ≤ 100 * rawScore by omega)
    rwa [roundHundredths_whole] at hscore

theorem shrunk_below {rawScore confidence : ℤ} (hraw : rawScore ≤ 50) (hnonneg : 0 ≤ confidence)
    (hmost : confidence ≤ 100) : rawScore ≤ shrunk rawScore confidence ∧
      shrunk rawScore confidence ≤ 50 := by
  have hlow : 0 ≤ (50 - rawScore) * confidence := mul_nonneg (by omega) hnonneg
  have hhigh : (50 - rawScore) * confidence ≤ (50 - rawScore) * 100 :=
    mul_le_mul_of_nonneg_left hmost (by omega)
  have hneg : (rawScore - 50) * confidence = -((50 - rawScore) * confidence) := by ring
  constructor
  · have hscore := roundHundredths_mono
      (show 100 * rawScore ≤ 5000 + (rawScore - 50) * confidence by omega)
    rwa [roundHundredths_whole] at hscore
  · rw [← roundHundredths_whole 50]
    exact roundHundredths_mono (by omega)

/-- Above 50 a score grows with both. -/
theorem shrunk_grows {rawScore rawScore' confidence confidence' : ℤ} (hraw : 50 ≤ rawScore)
    (hgrows : rawScore ≤ rawScore') (hnonneg : 0 ≤ confidence) (hsure : confidence ≤ confidence') :
    shrunk rawScore confidence ≤ shrunk rawScore' confidence' := by
  have hmul : (rawScore - 50) * confidence ≤ (rawScore' - 50) * confidence' :=
    mul_le_mul (by omega) hsure hnonneg (by omega)
  exact roundHundredths_mono (by omega)

variable {algorithm : String} {e e' : Evidence}

theorem reputationOf_bounds (algorithm : String) (e : Evidence) :
    0 ≤ (reputationOf algorithm e).rawScore ∧ (reputationOf algorithm e).rawScore ≤ 100 ∧
      0 ≤ (reputationOf algorithm e).confidence ∧ (reputationOf algorithm e).confidence ≤ 100 := by
  simp only [reputationOf]
  omega

/-- Where more evidence speaks for an actor above 50, its score and confidence do not fall. -/
theorem reputationOf_grows (hpoints : e.points ≤ e'.points) (htrust : e.confidence ≤ e'.confidence)
    (hraw : 50 ≤ (reputationOf algorithm e).rawScore) :
    (reputationOf algorithm e).score ≤ (reputationOf algorithm e').score ∧
      (reputationOf algorithm e).confidence ≤ (reputationOf algorithm e').confidence := by
  have hbounds := reputationOf_bounds algorithm e
  have hsure : (reputationOf algorithm e).confidence ≤ (reputationOf algorithm e').confidence := by
    simp only [reputationOf]
    omega
  have hgrows : (reputationOf algorithm e).rawScore ≤ (reputationOf algorithm e').rawScore := by
    simp only [reputationOf]
    omega
  exact ⟨shrunk_grows hraw hgrows hbounds.2.2.1 hsure,hsure⟩

/-- The concern of an operator never raises a score: it costs more points than the confidence it
brings can win back. -/
theorem concern_product {points confidence : ℤ} (hnonneg : 0 ≤ confidence)
    (hle : points ≤ confidence) (htwice : 2 * points - confidence ≤ 49) :
    (max 0 (min 100 (50 + (points - 30))) - 50) * max 0 (min 100 (confidence + 30)) ≤
      (max 0 (min 100 (50 + points)) - 50) * max 0 (min 100 confidence) := by
  have hsure : max 0 (min 100 confidence) ≤ max 0 (min 100 (confidence + 30)) := by omega
  have hsure0 : 0 ≤ max 0 (min 100 confidence) := by omega
  by_cases hneg : points ≤ 0
  · have hraw : max 0 (min 100 (50 + points)) - 50 ≤ 0 := by omega
    have hfalls : max 0 (min 100 (50 + (points - 30))) - 50 ≤ max 0 (min 100 (50 + points)) - 50 := by
      omega
    nlinarith
  · by_cases hsmall : points ≤ 30
    · have hbelow : max 0 (min 100 (50 + (points - 30))) - 50 ≤ 0 := by omega
      have habove : 0 ≤ max 0 (min 100 (50 + points)) - 50 := by omega
      nlinarith
    · by_cases hfull : 100 ≤ confidence
      · have hboth : max 0 (min 100 confidence) = 100 ∧ max 0 (min 100 (confidence + 30)) = 100 := by
          omega
        rw [hboth.1,hboth.2]
        omega
      · have hconfidence : max 0 (min 100 confidence) = confidence := by omega
        have hcut : max 0 (min 100 (confidence + 30)) ≤ confidence + 30 := by omega
        have hhundred : max 0 (min 100 (confidence + 30)) ≤ 100 := by omega
        have hless : max 0 (min 100 (50 + (points - 30))) - 50 = points - 30 := by omega
        rw [hconfidence,hless]
        by_cases hcap : points ≤ 50
        · have hraw : max 0 (min 100 (50 + points)) - 50 = points := by omega
          rw [hraw]
          nlinarith
        · have hraw : max 0 (min 100 (50 + points)) - 50 = 50 := by omega
          rw [hraw]
          nlinarith

end Scores

section Actions

variable {p : SocialPolicy} {r r' : Reputation} {labels labels' : List String}

def thresholds (p : SocialPolicy) : List (String × SocialThreshold) :=
  [("surface",p.surface),("reply",p.reply),("amplify",p.amplify),
    ("connect_candidate",p.connectCandidate)]

/-- Some label makes the event one that is only observed. -/
def Blocked (labels : List String) : Prop := ∃ l ∈ labels, l ∈ blockingLabels

instance (labels : List String) : Decidable (Blocked labels) := by
  unfold Blocked
  infer_instance

/-- The actor is labelled as a program. -/
def Automated (labels : List String) : Prop := "actor:bot" ∈ labels ∨ "actor:webhook" ∈ labels

instance (labels : List String) : Decidable (Automated labels) := by
  unfold Automated
  infer_instance

/-- The actions of a reputation under the labels. -/
def allowedFor (p : SocialPolicy) (r : Reputation) (labels : List String) : List String :=
  if Blocked labels then ["observe"] else p.openActions r labels

/-- When an action is open. -/
def Open (p : SocialPolicy) (r : Reputation) (labels : List String) (action : String) : Prop :=
  action = "observe" ∨ ∃ t, (action,t) ∈ thresholds p ∧ SocialPolicy.passes t r labels ∧
    (action ≠ "surface" → ¬ Automated labels) ∧ (action = "reply" → "interaction:mention" ∈ labels)

theorem mem_openActions {action : String} :
    action ∈ p.openActions r labels ↔ Open p r labels action := by
  have hsingle : ∀ (c : Prop) [Decidable c] (x : String),
      (action ∈ (if c then [x] else [])) ↔ c ∧ action = x := by
    intro c _ x
    split_ifs with hc <;> simp [hc]
  unfold SocialPolicy.openActions Open Automated thresholds
  simp only [List.mem_append,hsingle,List.mem_cons,List.not_mem_nil,or_false,Prod.mk.injEq]
  constructor
  · rintro ((((rfl | ⟨h,rfl⟩) | ⟨⟨hmention,hauto,h⟩,rfl⟩) | ⟨⟨hauto,h⟩,rfl⟩) | ⟨⟨hauto,h⟩,rfl⟩)
    · exact .inl rfl
    · exact .inr ⟨_,.inl ⟨rfl,rfl⟩,h,by simp,by simp⟩
    · exact .inr ⟨_,.inr (.inl ⟨rfl,rfl⟩),h,fun _ => hauto,fun _ => hmention⟩
    · exact .inr ⟨_,.inr (.inr (.inl ⟨rfl,rfl⟩)),h,fun _ => hauto,by simp⟩
    · exact .inr ⟨_,.inr (.inr (.inr ⟨rfl,rfl⟩)),h,fun _ => hauto,by simp⟩
  · rintro (rfl | ⟨t,⟨rfl,rfl⟩ | ⟨rfl,rfl⟩ | ⟨rfl,rfl⟩ | ⟨rfl,rfl⟩,h,hauto,hmention⟩)
    · exact .inl (.inl (.inl (.inl rfl)))
    · exact .inl (.inl (.inl (.inr ⟨h,rfl⟩)))
    · exact .inl (.inl (.inr ⟨⟨hmention rfl,hauto (by decide),h⟩,rfl⟩))
    · exact .inl (.inr ⟨⟨hauto (by decide),h⟩,rfl⟩)
    · exact .inr ⟨⟨hauto (by decide),h⟩,rfl⟩

theorem passes_iff {t : SocialThreshold} : SocialPolicy.passes t r labels ↔
    t.minScore ≤ r.score ∧ t.minConfidence ≤ r.confidence ∧ ∀ l ∈ t.requiredLabels, l ∈ labels := by
  simp [SocialPolicy.passes,and_assoc]

theorem mem_allowedFor {action : String} : action ∈ allowedFor p r labels ↔
    action = "observe" ∨ (¬ Blocked labels ∧ Open p r labels action) := by
  unfold allowedFor
  split_ifs with hblocked
  · simp [hblocked]
  · rw [mem_openActions]
    simp only [hblocked,not_false_eq_true,true_and]
    refine ⟨.inr,fun h => h.elim .inl id⟩

/-- An action stays open where the score, the confidence and the labels that matter do. -/
theorem Open.mono {action : String} (h : Open p r labels action)
    (hpasses : ∀ t, (action,t) ∈ thresholds p → SocialPolicy.passes t r labels →
      SocialPolicy.passes t r' labels')
    (hauto : Automated labels' → Automated labels)
    (hmention : "interaction:mention" ∈ labels → "interaction:mention" ∈ labels') :
    Open p r' labels' action := by
  rcases h with hobserve | ⟨t,ht,hpass,hperson,hasked⟩
  · exact .inl hobserve
  · exact .inr ⟨t,ht,hpasses t ht hpass,fun hne ha => hperson hne (hauto ha),
      fun heq => hmention (hasked heq)⟩

end Actions

section Evaluations

variable {p : SocialPolicy} {stats stats' : ActorStats} {labels labels' events events' : List String}
variable {weights : List CounterWeight} {algorithm : String} {v v' : Evaluation}

/-- A label as it is compared. -/
def normal (label : String) : String := lower (strip label)

/-- What an evaluation rests on. -/
structure Assessed (weights : List CounterWeight) (algorithm : String) (p : SocialPolicy)
    (stats : ActorStats) (labels events : List String) (v : Evaluation) : Prop where
  reputation : v.reputation = reputationOf algorithm (tally weights stats (labels.map normal))
  allowed : v.allowedActions = allowedFor p v.reputation ((labels ++ events).map normal)

/-- No label blocks exactly if none is listed. -/
theorem unblocked_iff (labels : List String) :
    sortedStrings (labels.filter fun l => l ∈ blockingLabels).dedup = [] ↔ ¬ Blocked labels := by
  rw [List.eq_nil_iff_forall_not_mem]
  unfold Blocked
  push Not
  refine forall_congr' fun l => ?_
  have hmem : l ∈ sortedStrings (labels.filter fun l => l ∈ blockingLabels).dedup ↔
      l ∈ labels ∧ l ∈ blockingLabels := by
    rw [mem_sortedStrings,List.mem_dedup]
    simp
  rw [hmem]
  tauto

theorem allowedFor_eq (p : SocialPolicy) (r : Reputation) (labels : List String) :
    (if sortedStrings (labels.filter fun l => l ∈ blockingLabels).dedup = [] then
      p.openActions r labels else ["observe"]) = allowedFor p r labels := by
  unfold allowedFor
  by_cases hblocked : Blocked labels
  · rw [if_neg (fun h => (unblocked_iff labels).mp h hblocked),if_pos hblocked]
  · rw [if_pos ((unblocked_iff labels).mpr hblocked),if_neg hblocked]

theorem evaluate_assessed (h : evaluate p stats labels events = .ok v) :
    Assessed counterWeights "anet-social-evidence-v1" p stats labels events v := by
  simp only [evaluate,bind_ok] at h
  obtain ⟨actorLabels,hactor,eventLabels,hevents,scored,hscored,h⟩ := h
  simp only [scoreSocialActor,bind_ok] at hscored
  obtain ⟨-,-,-,-,-,-,-,-,-,-,hscored⟩ := hscored
  obtain rfl := normalized_ok hactor
  obtain rfl := normalized_ok hevents
  cases hscored
  cases h
  refine ⟨rfl,?_⟩
  rw [List.map_append]
  exact allowedFor_eq _ _ _

theorem ameshEvaluate_assessed (h : ameshEvaluate p stats labels events = .ok v) :
    Assessed Amesh.counterWeights "amesh-social-evidence-v1" p stats labels events v := by
  simp only [ameshEvaluate,bind_ok] at h
  obtain ⟨actorLabels,hactor,eventLabels,hevents,h⟩ := h
  obtain rfl := normalized_ok hactor
  obtain rfl := normalized_ok hevents
  cases h
  refine ⟨rfl,?_⟩
  rw [List.map_append]
  exact allowedFor_eq _ _ _

theorem Assessed.mem (h : Assessed weights algorithm p stats labels events v) {action : String} :
    action ∈ v.allowedActions ↔ action = "observe" ∨
      (¬ Blocked ((labels ++ events).map normal) ∧
        Open p v.reputation ((labels ++ events).map normal) action) := by
  rw [h.allowed,mem_allowedFor]

theorem Assessed.grows (hweights : Weighted weights)
    (h : Assessed weights algorithm p stats labels events v)
    (h' : Assessed weights algorithm p stats' labels events v') (hgrown : Grown stats stats')
    (hraw : 50 ≤ v.reputation.rawScore) {action : String} (haction : action ∈ v.allowedActions) :
    action ∈ v'.allowedActions := by
  obtain ⟨hpoints,htrust⟩ := tally_sums weights stats (labels.map normal)
  obtain ⟨hpoints',htrust'⟩ := tally_sums weights stats' (labels.map normal)
  obtain ⟨hmore,hsurer⟩ := counters_grow hweights.bounded (hweights.reads _ _ hgrown)
  rw [h.reputation] at hraw
  obtain ⟨hscore,hconfidence⟩ := @reputationOf_grows algorithm _
    (tally weights stats' (labels.map normal)) (by omega) (by omega) hraw
  rw [h.mem] at haction
  rw [h'.mem]
  refine haction.imp id fun ⟨hfree,hopen⟩ => ⟨hfree,hopen.mono (fun t _ hpasses => ?_) id id⟩
  rw [passes_iff] at hpasses ⊢
  rw [h.reputation] at hpasses
  rw [h'.reputation]
  exact ⟨hpasses.1.trans hscore,hpasses.2.1.trans hconfidence,hpasses.2.2⟩

/-- The risk labels that count and do not block. -/
theorem risk_weight {label : String} (hrisk : startsWith label "risk:")
    (hfree : label ∉ blockingLabels) : (labelPoints label = 0 ∧ labelTrust label = 0) ∨
      (label = "risk:concern" ∧ labelPoints label = -30 ∧ labelTrust label = 30) := by
  refine (labelWeights_cases label).imp id fun hmem => ?_
  have hall : ∀ w ∈ labelWeights, startsWith w.1 "risk:" → w.1 ∉ blockingLabels →
      w.1 = "risk:concern" ∧ w.2.1 = -30 ∧ w.2.2 = 30 := by
    decide
  exact hall _ hmem hrisk hfree

/-- What a new label adds. -/
theorem tally_cons (weights : List CounterWeight) (stats : ActorStats) (label : String)
    (labels : List String) :
    ((tally weights stats (label :: labels)).points = (tally weights stats labels).points ∧
        (tally weights stats (label :: labels)).confidence =
          (tally weights stats labels).confidence) ∨
      ((tally weights stats (label :: labels)).points =
          (tally weights stats labels).points + labelPoints label ∧
        (tally weights stats (label :: labels)).confidence =
          (tally weights stats labels).confidence + labelTrust label) := by
  obtain ⟨hpoints,htrust⟩ := tally_sums weights stats labels
  obtain ⟨hpoints',htrust'⟩ := tally_sums weights stats (label :: labels)
  by_cases hmem : label ∈ labels
  · rw [List.dedup_cons_of_mem hmem] at hpoints' htrust'
    left
    omega
  · rw [List.dedup_cons_of_notMem hmem] at hpoints' htrust'
    simp only [List.map_cons,List.sum_cons] at hpoints' htrust'
    right
    omega

/-- A risk label that does not block does not raise the score, and changes neither score nor
confidence unless it is the concern of the operator. -/
theorem reputationOf_risk (hweights : Weighted weights) {label : String}
    (hrisk : startsWith label "risk:") (hfree : label ∉ blockingLabels) (labels : List String) :
    (reputationOf algorithm (tally weights stats (label :: labels))).score ≤
        (reputationOf algorithm (tally weights stats labels)).score ∧
      (label ≠ "risk:concern" →
        (reputationOf algorithm (tally weights stats (label :: labels))).confidence =
          (reputationOf algorithm (tally weights stats labels)).confidence) := by
  obtain ⟨hnonneg,hle,htwice⟩ := tally_bounded hweights stats labels
  have hsame : (tally weights stats (label :: labels)).points = (tally weights stats labels).points ∧
      (tally weights stats (label :: labels)).confidence =
        (tally weights stats labels).confidence ∨
      label = "risk:concern" ∧
        (tally weights stats (label :: labels)).points = (tally weights stats labels).points - 30 ∧
        (tally weights stats (label :: labels)).confidence =
          (tally weights stats labels).confidence + 30 := by
    rcases tally_cons weights stats label labels with hold | ⟨hpoints,htrust⟩
    · exact .inl hold
    · rcases risk_weight hrisk hfree with hnone | ⟨hconcern,hless,hmore⟩
      · left
        omega
      · right
        refine ⟨hconcern,?_,?_⟩ <;> omega
  rcases hsame with ⟨hpoints,htrust⟩ | ⟨hconcern,hpoints,htrust⟩
  · simp [reputationOf,hpoints,htrust]
  · refine ⟨?_,fun hne => absurd hconcern hne⟩
    simp only [reputationOf,hpoints,htrust]
    apply roundHundredths_mono
    have hproduct := concern_product hnonneg hle htwice
    omega

/-- What an action that a risk label opens owes it to. -/
theorem Assessed.opened (h : Assessed weights algorithm p stats labels events v)
    (h' : Assessed weights algorithm p stats labels' events' v') {label : String}
    (hmem : ∀ x, x ∈ (labels' ++ events').map normal ↔
      x = label ∨ x ∈ (labels ++ events).map normal)
    (hrisk : startsWith label "risk:")
    (hrequired : ∀ t ∈ thresholds p, ∀ x ∈ t.2.requiredLabels, ¬ startsWith x "risk:")
    {action : String} (haction : action ∈ v'.allowedActions) (hnew : action ∉ v.allowedActions) :
    ¬ Blocked ((labels' ++ events').map normal) ∧ ∃ t, (action,t) ∈ thresholds p ∧
      t.minScore ≤ v'.reputation.score ∧ t.minConfidence ≤ v'.reputation.confidence ∧
      ¬ (t.minScore ≤ v.reputation.score ∧ t.minConfidence ≤ v.reputation.confidence) := by
  rw [h.mem,not_or,not_and] at hnew
  rcases h'.mem.mp haction with hobserve | ⟨hfree',hopen⟩
  · exact absurd hobserve hnew.1
  · have hfree : ¬ Blocked ((labels ++ events).map normal) := by
      rintro ⟨l,hl,hblocks⟩
      exact hfree' ⟨l,(hmem l).mpr (.inr hl),hblocks⟩
    refine ⟨hfree',?_⟩
    rcases hopen with hobserve | ⟨t,ht,hpasses,hperson,hasked⟩
    · exact absurd hobserve hnew.1
    · obtain ⟨hscore,hconfidence,hlabels⟩ := passes_iff.mp hpasses
      refine ⟨t,ht,hscore,hconfidence,fun hold => hnew.2 hfree (.inr ⟨t,ht,?_,?_,?_⟩)⟩
      · refine passes_iff.mpr ⟨hold.1,hold.2,fun x hx => ?_⟩
        rcases (hmem x).mp (hlabels x hx) with rfl | hx'
        · exact absurd hrisk (hrequired _ ht x hx)
        · exact hx'
      · intro hne hauto
        exact hperson hne (hauto.imp (fun h => (hmem _).mpr (.inr h)) fun h => (hmem _).mpr (.inr h))
      · intro heq
        rcases (hmem _).mp (hasked heq) with hsame | hx
        · rw [← hsame] at hrisk
          exact absurd hrisk (by decide)
        · exact hx

end Evaluations

/-- What an evaluation promises of the actions that it allows. -/
structure Promises (evaluate : SocialPolicy → ActorStats → List String → List String →
    Result Evaluation) : Prop where
  blocked : ∀ p stats labels events v, evaluate p stats labels events = .ok v →
    (∃ l ∈ labels ++ events, normal l ∈ blockingLabels) → v.allowedActions = ["observe"]
  automated : ∀ p stats labels events v, evaluate p stats labels events = .ok v →
    (∃ l ∈ labels ++ events, normal l ∈ ["actor:bot","actor:webhook"]) →
    ∀ action ∈ ["reply","amplify","connect_candidate"], action ∉ v.allowedActions
  score : ∀ p stats labels events v, evaluate p stats labels events = .ok v →
    0 ≤ v.reputation.score ∧ v.reputation.score ≤ 100 ∧
      ((50 ≤ v.reputation.score ∧ v.reputation.score ≤ v.reputation.rawScore) ∨
        (v.reputation.rawScore ≤ v.reputation.score ∧ v.reputation.score ≤ 50))
  /-- More evidence takes no action from an actor whose evidence speaks for it. -/
  counters : ∀ p stats stats' labels events v v', evaluate p stats labels events = .ok v →
    evaluate p stats' labels events = .ok v' → Grown stats stats' → 50 ≤ v.reputation.rawScore →
    ∀ action ∈ v.allowedActions, action ∈ v'.allowedActions
  /-- A risk label on the actor opens no action, but that the confidence of the operator's concern
  may reach a threshold. -/
  risk : ∀ p stats label labels events v v',
    (∀ t ∈ thresholds p, ∀ x ∈ t.2.requiredLabels, ¬ startsWith x "risk:") →
    startsWith (normal label) "risk:" → evaluate p stats labels events = .ok v →
    evaluate p stats (label :: labels) events = .ok v' →
    ∀ action ∈ v'.allowedActions, action ∈ v.allowedActions ∨ (normal label = "risk:concern" ∧
      ∃ t, (action,t) ∈ thresholds p ∧ v.reputation.confidence < t.minConfidence)
  riskEvent : ∀ p stats label labels events v v',
    (∀ t ∈ thresholds p, ∀ x ∈ t.2.requiredLabels, ¬ startsWith x "risk:") →
    startsWith (normal label) "risk:" → evaluate p stats labels events = .ok v →
    evaluate p stats labels (label :: events) = .ok v' →
    ∀ action ∈ v'.allowedActions, action ∈ v.allowedActions

theorem promises {weights : List CounterWeight} (hweights : Weighted weights) {algorithm : String}
    {evaluate : SocialPolicy → ActorStats → List String → List String → Result Evaluation}
    (h : ∀ p stats labels events v, evaluate p stats labels events = .ok v →
      Assessed weights algorithm p stats labels events v) : Promises evaluate := by
  constructor
  case blocked =>
    rintro p stats labels events v hv ⟨l,hl,hblocks⟩
    rw [(h p stats labels events v hv).allowed,allowedFor,
      if_pos ⟨_,List.mem_map_of_mem hl,hblocks⟩]
  case automated =>
    rintro p stats labels events v hv ⟨l,hl,hprogram⟩ action haction hallowed
    have hauto : Automated ((labels ++ events).map normal) := by
      have hmem := List.mem_map_of_mem (f := normal) hl
      simp only [List.mem_cons,List.not_mem_nil,or_false] at hprogram
      rcases hprogram with heq | heq
      · exact .inl (heq ▸ hmem)
      · exact .inr (heq ▸ hmem)
    simp only [List.mem_cons,List.not_mem_nil,or_false] at haction
    rcases (h p stats labels events v hv).mem.mp hallowed with rfl | ⟨-,rfl | ⟨t,ht,-,hperson,-⟩⟩
    · revert haction
      decide
    · revert haction
      decide
    · refine hperson ?_ hauto
      rintro rfl
      revert haction
      decide
  case score =>
    intro p stats labels events v hv
    rw [(h p stats labels events v hv).reputation]
    obtain ⟨hraw,hraw',hconfidence,hconfidence'⟩ :=
      reputationOf_bounds algorithm (tally weights stats (labels.map normal))
    change 0 ≤ shrunk _ _ ∧ shrunk _ _ ≤ 100 ∧ (50 ≤ shrunk _ _ ∧ shrunk _ _ ≤ _ ∨
      _ ≤ shrunk _ _ ∧ shrunk _ _ ≤ 50)
    rcases le_total 50
      (reputationOf algorithm (tally weights stats (labels.map normal))).rawScore with habove | hbelow
    · obtain ⟨hlow,hhigh⟩ := shrunk_above habove hconfidence hconfidence'
      exact ⟨le_trans (by decide) hlow,hhigh.trans hraw',.inl ⟨hlow,hhigh⟩⟩
    · obtain ⟨hlow,hhigh⟩ := shrunk_below hbelow hconfidence hconfidence'
      exact ⟨hraw.trans hlow,hhigh.trans (by decide),.inr ⟨hlow,hhigh⟩⟩
  case counters =>
    intro p stats stats' labels events v v' hv hv' hgrown hraw action haction
    exact (h p stats labels events v hv).grows hweights (h p stats' labels events v' hv') hgrown hraw
      haction
  case risk =>
    intro p stats label labels events v v' hrequired hrisk hv hv' action haction
    by_contra hnot
    rw [not_or] at hnot
    have hassessed := h p stats labels events v hv
    have hassessed' := h p stats (label :: labels) events v' hv'
    obtain ⟨hfree,t,ht,hscore,hconfidence,hold⟩ := hassessed.opened hassessed'
      (by simp) hrisk hrequired haction hnot.1
    have hlabel : normal label ∉ blockingLabels := fun hblocks => hfree ⟨_,by simp,hblocks⟩
    obtain ⟨hfalls,hsame⟩ := @reputationOf_risk stats weights algorithm hweights _
      hrisk hlabel (labels.map normal)
    rw [hassessed'.reputation,List.map_cons] at hscore hconfidence
    rw [hassessed.reputation] at hold
    by_cases hconcern : normal label = "risk:concern"
    · refine hnot.2 ⟨hconcern,t,ht,?_⟩
      rw [hassessed.reputation]
      by_contra hreached
      exact hold ⟨hscore.trans hfalls,not_lt.mp hreached⟩
    · exact hold ⟨hscore.trans hfalls,hconfidence.trans_eq (hsame hconcern)⟩
  case riskEvent =>
    intro p stats label labels events v v' hrequired hrisk hv hv' action haction
    by_contra hnot
    have hassessed := h p stats labels events v hv
    have hassessed' := h p stats labels (label :: events) v' hv'
    obtain ⟨-,t,ht,hscore,hconfidence,hold⟩ := hassessed.opened hassessed'
      (by simp [or_left_comm]) hrisk hrequired haction hnot
    rw [hassessed'.reputation] at hscore hconfidence
    rw [hassessed.reputation] at hold
    exact hold ⟨hscore,hconfidence⟩

section Rules

/-- What a rule decides, without its id, reason and time. -/
def decided (r : RuleRow) : String × String × String × GrantEffect :=
  (r.adapter,r.actorKey,r.action,r.effect)

/-- The parts of the rank that come before the time. -/
def precedence (r : RuleRow) : ℤ × ℤ × ℤ :=
  (if r.actorKey ≠ "*" then 0 else 1,if r.action ≠ "*" then 0 else 1,
    if r.effect ≠ .deny then 1 else 0)

theorem precedence_decided {r r' : RuleRow} (h : decided r = decided r') :
    precedence r = precedence r' := by
  simp only [decided,Prod.mk.injEq] at h
  unfold precedence
  rw [h.2.1,h.2.2.1,h.2.2.2]

theorem rank_lt {r r' : RuleRow} : PermissionStore.rank r < PermissionStore.rank r' ↔
    (precedence r).1 < (precedence r').1 ∨ ((precedence r).1 = (precedence r').1 ∧
      ((precedence r).2.1 < (precedence r').2.1 ∨ ((precedence r).2.1 = (precedence r').2.1 ∧
        ((precedence r).2.2 < (precedence r').2.2 ∨ ((precedence r).2.2 = (precedence r').2.2 ∧
          -r.createdMs < -r'.createdMs))))) := by
  simp [PermissionStore.rank,precedence,List.cons_lt_cons_iff]

/-- The rule that a run through the rows keeps has no rule before it. -/
theorem best_least (rows : List RuleRow) (best : Option RuleRow) {m : RuleRow}
    (h : rows.foldl (fun best r => some (best.elim r fun b =>
      if PermissionStore.rank r < PermissionStore.rank b then r else b)) best = some m) :
    (m ∈ rows ∨ best = some m) ∧
      ∀ r, (r ∈ rows ∨ best = some r) → ¬ PermissionStore.rank r < PermissionStore.rank m := by
  induction rows generalizing best with
  | nil =>
    obtain rfl : best = some m := h
    refine ⟨.inr rfl,fun r hr => ?_⟩
    obtain rfl : m = r := by simpa using hr
    rw [rank_lt]
    omega
  | cons x rest ih =>
    obtain ⟨hmem,hleast⟩ := ih _ h
    cases best with
    | none =>
      simp only [Option.elim_none,Option.some.injEq,reduceCtorEq,or_false,List.mem_cons] at hmem hleast ⊢
      exact ⟨hmem.symm.imp (fun h => h.symm) id,fun r hr => hleast r (hr.symm.imp id fun h => h.symm)⟩
    | some b =>
      simp only [Option.elim_some,Option.some.injEq,List.mem_cons] at hmem hleast ⊢
      split_ifs at hmem hleast with hlt
      · have hx := hleast x (.inr rfl)
        refine ⟨.inl (hmem.symm.imp (fun h => h.symm) id),fun r hr => ?_⟩
        rcases hr with (rfl | hr) | rfl
        · exact hx
        · exact hleast r (.inl hr)
        · rw [rank_lt] at hlt hx ⊢
          omega
      · have hb := hleast b (.inr rfl)
        refine ⟨hmem.imp .inr id,fun r hr => ?_⟩
        rcases hr with (rfl | hr) | rfl
        · rw [rank_lt] at hlt hb ⊢
          omega
        · exact hleast r (.inl hr)
        · exact hb

/-- The rules that an actor and an action meet. -/
def Meets (adapter actorKey action : String) (r : RuleRow) : Prop :=
  r.adapter = adapter ∧ (r.actorKey = actorKey ∨ r.actorKey = "*") ∧
    (r.action = action ∨ r.action = "*")

variable {s s' : PermissionStore} {adapter actorKey action : String}

theorem mem_met {r : RuleRow} : r ∈ (s.rules.select fun r => r.adapter = adapter ∧
      (r.actorKey = actorKey ∨ r.actorKey = "*") ∧ (r.action = action ∨ r.action = "*")) ↔
    r ∈ s.rules.rows ∧ Meets adapter actorKey action r := by
  simp [Table.select,Meets]

theorem effective_least {m : RuleRow} (h : s.effective adapter actorKey action = some m) :
    m ∈ s.rules.rows ∧ Meets adapter actorKey action m ∧ ∀ r ∈ s.rules.rows,
      Meets adapter actorKey action r → ¬ PermissionStore.rank r < PermissionStore.rank m := by
  obtain ⟨hmem,hleast⟩ := best_least _ none h
  simp only [reduceCtorEq,or_false] at hmem hleast
  obtain ⟨hrow,hmeets⟩ := mem_met.mp hmem
  exact ⟨hrow,hmeets,fun r hr hr' => hleast r (mem_met.mpr ⟨hr,hr'⟩)⟩

/-- A run through rows keeps one. -/
theorem best_some (rows : List RuleRow) (b : RuleRow) : ∃ m, rows.foldl (fun best r =>
    some (best.elim r fun b => if PermissionStore.rank r < PermissionStore.rank b then r else b))
      (some b) = some m := by
  induction rows generalizing b with
  | nil => exact ⟨b,rfl⟩
  | cons r rest ih => exact ih _

theorem effective_some {r : RuleRow} (hr : r ∈ s.rules.rows) (hmeets : Meets adapter actorKey action r) :
    ∃ m, s.effective adapter actorKey action = some m := by
  have hmem := mem_met.mpr ⟨hr,hmeets⟩
  unfold PermissionStore.effective
  obtain ⟨x,rest,hrows⟩ := List.exists_cons_of_ne_nil (List.ne_nil_of_mem hmem)
  rw [hrows]
  exact best_some rest x

/-- The rules that two stores have, whatever their ids, reasons and times. -/
def SameRules (s s' : PermissionStore) : Prop :=
  ∀ q, (∃ r ∈ s.rules.rows, decided r = q) ↔ ∃ r ∈ s'.rules.rows, decided r = q

theorem meets_decided {r r' : RuleRow} (h : decided r = decided r')
    (hmeets : Meets adapter actorKey action r) : Meets adapter actorKey action r' := by
  simp only [decided,Prod.mk.injEq] at h
  unfold Meets at hmeets ⊢
  rwa [← h.1,← h.2.1,← h.2.2.1]

/-- The winning rule of one store comes no later than the one of the other. -/
theorem effective_precedence (h : SameRules s s') {m m' : RuleRow}
    (hm : s.effective adapter actorKey action = some m)
    (hm' : s'.effective adapter actorKey action = some m') : precedence m = precedence m' := by
  obtain ⟨hrow,hmeets,hleast⟩ := effective_least hm
  obtain ⟨hrow',hmeets',hleast'⟩ := effective_least hm'
  obtain ⟨r',hr',hdecided'⟩ := (h (decided m)).mp ⟨m,hrow,rfl⟩
  obtain ⟨r,hr,hdecided⟩ := (h (decided m')).mpr ⟨m',hrow',rfl⟩
  have hfirst := hleast r hr (meets_decided hdecided.symm hmeets')
  have hsecond := hleast' r' hr' (meets_decided hdecided'.symm hmeets)
  rw [rank_lt,precedence_decided hdecided] at hfirst
  rw [rank_lt,precedence_decided hdecided'] at hsecond
  ext <;> omega

theorem precedence_deny {r r' : RuleRow} (h : precedence r = precedence r') :
    r.effect = .deny ↔ r'.effect = .deny := by
  have hthird := congrArg (fun x => x.2.2) h
  simp only [precedence] at hthird
  split_ifs at hthird with hr hr' hr' <;> simp_all

theorem denies_congr (h : SameRules s s') :
    s.denies adapter actorKey action = s'.denies adapter actorKey action := by
  unfold PermissionStore.denies
  cases hm : s.effective adapter actorKey action with
  | none =>
    cases hm' : s'.effective adapter actorKey action with
    | none => rfl
    | some m' =>
      obtain ⟨hrow',hmeets',-⟩ := effective_least hm'
      obtain ⟨r,hr,hdecided⟩ := (h (decided m')).mpr ⟨m',hrow',rfl⟩
      obtain ⟨m,hsome⟩ := effective_some hr (meets_decided hdecided.symm hmeets')
      rw [hm] at hsome
      cases hsome
  | some m =>
    obtain ⟨hrow,hmeets,-⟩ := effective_least hm
    obtain ⟨r',hr',hdecided'⟩ := (h (decided m)).mp ⟨m,hrow,rfl⟩
    obtain ⟨m',hm'⟩ := effective_some hr' (meets_decided hdecided'.symm hmeets)
    rw [hm']
    have hdeny := precedence_deny (effective_precedence h hm hm')
    simp [hdeny]

/-- Rules with new ids are added at the end. -/
theorem addRules_rows (s : PermissionStore) (rules : List RuleRow)
    (h : (s.rules.rows.map RuleRow.ruleId ++ rules.map RuleRow.ruleId).Nodup) :
    (rules.foldl PermissionStore.addRule s).rules.rows = s.rules.rows ++ rules := by
  induction rules generalizing s with
  | nil => simp
  | cons r rest ih =>
    have hnew : (∀ x ∈ s.rules.rows, x.ruleId ≠ r.ruleId) ∧
        ∀ x ∈ s.rules.rows, ∀ m ∈ noMarks x, m ∉ noMarks r := by
      refine ⟨fun x hx heq => ?_,fun _ _ m _ => m.elim⟩
      rw [List.map_cons,List.nodup_append] at h
      exact h.2.2 _ (List.mem_map_of_mem hx) _ (by simp) heq
    have hrows : (s.addRule r).rules.rows = s.rules.rows ++ [r] := by
      unfold PermissionStore.addRule Table.insertOrIgnore Table.insert
      rw [dif_pos hnew]
      rfl
    rw [List.foldl_cons,ih]
    · rw [hrows]
      simp
    · rw [hrows]
      simpa using h

end Rules

/-- What the evaluations of both adapters allow follows the labels and the evidence, and what the
rules of the operator leave of it does not depend on when they were added. -/
theorem social_policy_bounds : Promises evaluate ∧ Promises ameshEvaluate ∧
    (∀ (s : PermissionStore) (adapter actorKey : String) (allowed : List String),
      (s.applyAllowed adapter actorKey allowed).Sublist allowed ∧
        (s.applyAllowed adapter actorKey allowed).filter (· = "observe") =
          allowed.filter (· = "observe")) ∧
    ∀ rules rules' : List RuleRow, (rules.map RuleRow.ruleId).Nodup →
      (rules'.map RuleRow.ruleId).Nodup → (rules.map decided).Perm (rules'.map decided) →
      ∀ (adapter actorKey : String) (allowed : List String),
        (rules.foldl PermissionStore.addRule .empty).applyAllowed adapter actorKey allowed =
          (rules'.foldl PermissionStore.addRule .empty).applyAllowed adapter actorKey allowed := by
  refine ⟨promises counterWeights_weighted.1 fun _ _ _ _ _ h => evaluate_assessed h,
    promises counterWeights_weighted.2 fun _ _ _ _ _ h => ameshEvaluate_assessed h,
    fun s adapter actorKey allowed => ⟨List.filter_sublist,?_⟩,
    fun rules rules' hids hids' hperm adapter actorKey allowed => ?_⟩
  · unfold PermissionStore.applyAllowed
    rw [List.filter_filter]
    apply List.filter_congr
    intro action _
    simp +contextual
  · have hrows := addRules_rows .empty rules (by simpa [PermissionStore.empty,Table.empty] using hids)
    have hrows' := addRules_rows .empty rules'
      (by simpa [PermissionStore.empty,Table.empty] using hids')
    have hsame : SameRules (rules.foldl PermissionStore.addRule .empty)
        (rules'.foldl PermissionStore.addRule .empty) := by
      intro q
      rw [hrows,hrows']
      simpa [PermissionStore.empty,Table.empty] using hperm.mem_iff (a := q)
    unfold PermissionStore.applyAllowed
    apply List.filter_congr
    intro action _
    rw [denies_congr hsame]

section Sample

private def watchfulPolicy : SocialPolicy :=
  { SocialPolicy.default with surface := ⟨41,0,[]⟩, reply := ⟨41,25,[]⟩ }

private def newActor : ActorStats := ⟨0,0,0,0,0⟩

private def agedActor : ActorStats := ⟨365,0,0,0,0⟩

/-- The allowed actions of both adapters. -/
private def bothAllow (stats : ActorStats) (labels events : List String) :
    Result (List String) × Result (List String) :=
  ((evaluate watchfulPolicy stats labels events).map Evaluation.allowedActions,
    (ameshEvaluate watchfulPolicy stats labels events).map Evaluation.allowedActions)

/-- The age of an account makes the concern of the operator surer and closes an action, and the
concern opens one, for it brings the confidence that the action asks for. -/
theorem social_policy_confidence :
    Grown newActor agedActor ∧
      bothAllow newActor ["risk:concern"] [] =
        (.ok ["observe","surface"],.ok ["observe","surface"]) ∧
      bothAllow agedActor ["risk:concern"] [] = (.ok ["observe"],.ok ["observe"]) ∧
      (∀ t ∈ thresholds watchfulPolicy, ∀ x ∈ t.2.requiredLabels, ¬ startsWith x "risk:") ∧
      bothAllow newActor [] ["interaction:mention"] =
        (.ok ["observe","surface"],.ok ["observe","surface"]) ∧
      bothAllow newActor ["risk:concern"] ["interaction:mention"] =
        (.ok ["observe","surface","reply"],.ok ["observe","surface","reply"]) := by
  refine ⟨⟨?_,?_,?_,?_,?_⟩,?_⟩
  all_goals decide +kernel

end Sample

end Anet.Reputations
