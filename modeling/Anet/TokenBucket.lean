import Mathlib.Algebra.Order.Field.Basic
import Mathlib.Tactic.Linarith
import Mathlib.Tactic.Positivity

/-! A token bucket with lazy refill: its level at a time, the tokens that requests take
from it, and how many of them a window can serve. -/
namespace Anet

structure TokenBucket (K : Type*) where
  tokens : K
  updated : K
  deriving DecidableEq, Repr

namespace TokenBucket

variable {K : Type*} [Field K] [LinearOrder K]
variable {capacity rate : K} {b : TokenBucket K}

/-- The tokens a bucket holds once it is brought up to a time. -/
def level (capacity rate : K) (b : TokenBucket K) (now : K) : K :=
  min capacity (b.tokens + max 0 (now - b.updated) * rate)

/-- Whether a bucket that holds `tokens` serves a request. -/
def Serves (tokens : K) : Prop := ¬ tokens < 1

instance (tokens : K) : Decidable (Serves tokens) := inferInstanceAs (Decidable (¬ tokens < 1))

/-- What a request at a time leaves of a bucket that holds `tokens`. -/
def spend (tokens now : K) : TokenBucket K :=
  if Serves tokens then ⟨tokens - 1,now⟩ else ⟨tokens,now⟩

@[simp] theorem spend_updated (tokens now : K) : (spend tokens now).updated = now := by
  unfold spend
  split_ifs <;> rfl

/-- What a request at a time finds: a full bucket where there was none. -/
def found (capacity rate : K) (now : K) : Option (TokenBucket K) → K
  | none => capacity
  | some b => b.level capacity rate now

/-- Levels between nothing and the capacity. -/
structure Sound (capacity : K) (b : TokenBucket K) : Prop where
  nonneg : 0 ≤ b.tokens
  le_capacity : b.tokens ≤ capacity

theorem level_le (capacity rate : K) (b : TokenBucket K) (now : K) :
    b.level capacity rate now ≤ capacity := min_le_left _ _

/-- How many of the requests at the given times, one after the other, are served between
two times. -/
def servedIn (capacity rate start stop : K) : Option (TokenBucket K) → List K → ℕ
  | _,[] => 0
  | o,now :: times =>
    let tokens := found capacity rate now o
    (if start ≤ now ∧ now ≤ stop ∧ Serves tokens then 1 else 0) +
      servedIn capacity rate start stop (some (spend tokens now)) times

theorem servedIn_past {start stop : K} (o : Option (TokenBucket K)) (times : List K)
    (h : ∀ now ∈ times, stop < now) : servedIn capacity rate start stop o times = 0 := by
  induction times generalizing o with
  | nil => rfl
  | cons now times ih =>
    have hnow : ¬ now ≤ stop := not_le.mpr (h now (by simp))
    simp [servedIn,hnow,ih _ fun t ht => h t (by simp [ht])]

variable [IsStrictOrderedRing K]

theorem level_nonneg (hcapacity : 0 ≤ capacity) (hrate : 0 ≤ rate) (h : b.Sound capacity) (now : K) :
    0 ≤ b.level capacity rate now := by
  have hgain : 0 ≤ max 0 (now - b.updated) * rate := mul_nonneg (le_max_left _ _) hrate
  exact le_min hcapacity (add_nonneg h.nonneg hgain)

theorem found_sound (hcapacity : 0 ≤ capacity) (hrate : 0 ≤ rate) {o : Option (TokenBucket K)}
    (h : ∀ b, o = some b → b.Sound capacity) (now : K) :
    0 ≤ found capacity rate now o ∧ found capacity rate now o ≤ capacity := by
  cases o with
  | none => exact ⟨hcapacity,le_refl _⟩
  | some b => exact ⟨level_nonneg hcapacity hrate (h b rfl) now,level_le _ _ _ _⟩

theorem spend_sound {tokens : K} (hnonneg : 0 ≤ tokens) (hle : tokens ≤ capacity) (now : K) :
    (spend tokens now).Sound capacity := by
  unfold spend
  split_ifs with hserves
  · have hone : 1 ≤ tokens := not_lt.mp hserves
    exact ⟨by simpa using hone,(sub_le_self _ zero_le_one).trans hle⟩
  · exact ⟨hnonneg,hle⟩

/-- A bucket left alone for as long as it takes to fill holds what a new one does. -/
theorem level_idle (hrate : 0 < rate) (h : b.Sound capacity) {now : K}
    (hidle : capacity / rate ≤ now - b.updated) : b.level capacity rate now = capacity := by
  have hnonneg := h.nonneg
  have hgain : capacity ≤ (now - b.updated) * rate := (div_le_iff₀ hrate).mp hidle
  have hmax : (now - b.updated) * rate ≤ max 0 (now - b.updated) * rate :=
    mul_le_mul_of_nonneg_right (le_max_right _ _) hrate.le
  exact min_eq_left (by linarith)

/-- What a request takes and the rest of the requests are served come out of its level. -/
theorem spend_bound {tokens : K} {n : ℕ} (start : K) {stop now : K} (hn : (n : K) ≤
    (spend tokens now).tokens + rate * (stop - now)) :
    (((if start ≤ now ∧ now ≤ stop ∧ Serves tokens then 1 else 0) + n : ℕ) : K) ≤
      tokens + rate * (stop - now) := by
  by_cases hserves : Serves tokens
  · have htokens : (spend tokens now).tokens = tokens - 1 := by simp [spend,hserves]
    rw [htokens] at hn
    split_ifs <;> push_cast <;> linarith
  · have htokens : (spend tokens now).tokens = tokens := by simp [spend,hserves]
    rw [htokens] at hn
    simpa [hserves] using hn

/-- From a bucket on, no more is served than it holds and gains. -/
theorem servedIn_le_tokens (hcapacity : 0 ≤ capacity) (hrate : 0 ≤ rate) (start : K) {stop : K}
    (h : b.Sound capacity) (hstop : b.updated ≤ stop) (times : List K)
    (hsorted : times.Pairwise (· ≤ ·)) (hfrom : ∀ now ∈ times, b.updated ≤ now) :
    (servedIn capacity rate start stop (some b) times : K) ≤
      b.tokens + rate * (stop - b.updated) := by
  induction times generalizing b with
  | nil =>
    have hgain : 0 ≤ rate * (stop - b.updated) := mul_nonneg hrate (sub_nonneg.mpr hstop)
    simpa [servedIn] using add_nonneg h.nonneg hgain
  | cons now times ih =>
    obtain ⟨hnext,hrest⟩ := List.pairwise_cons.mp hsorted
    have hnow : b.updated ≤ now := hfrom now (by simp)
    by_cases hlate : stop < now
    · have hpast : ∀ t ∈ now :: times, stop < t := by
        intro t ht
        rcases List.mem_cons.mp ht with rfl | ht
        · exact hlate
        · exact hlate.trans_le (hnext t ht)
      have hgain : 0 ≤ rate * (stop - b.updated) := mul_nonneg hrate (sub_nonneg.mpr hstop)
      rw [servedIn_past _ _ hpast,Nat.cast_zero]
      exact add_nonneg h.nonneg hgain
    · have hlevel : b.level capacity rate now ≤ b.tokens + rate * (now - b.updated) := by
        have hmax : max 0 (now - b.updated) = now - b.updated := max_eq_right (by linarith)
        rw [level,hmax,mul_comm rate]
        exact min_le_right _ _
      have hsound := spend_sound (level_nonneg hcapacity hrate h now)
        (level_le capacity rate b now) now
      have hih := ih hsound (by simpa using not_lt.mp hlate) hrest (by simpa using hnext)
      rw [spend_updated] at hih
      have hbound := spend_bound start hih
      exact hbound.trans (by linarith)

/-- A window serves at most the capacity and what a bucket gains in it. -/
theorem servedIn_le (hcapacity : 0 ≤ capacity) (hrate : 0 ≤ rate) {start stop : K}
    (hwindow : start ≤ stop) {o : Option (TokenBucket K)} (h : ∀ b, o = some b → b.Sound capacity)
    (times : List K) (hsorted : times.Pairwise (· ≤ ·)) :
    (servedIn capacity rate start stop o times : K) ≤ capacity + rate * (stop - start) := by
  have hgain : 0 ≤ rate * (stop - start) := mul_nonneg hrate (sub_nonneg.mpr hwindow)
  induction times generalizing o with
  | nil => simpa [servedIn] using add_nonneg hcapacity hgain
  | cons now times ih =>
    obtain ⟨hnext,hrest⟩ := List.pairwise_cons.mp hsorted
    obtain ⟨hnonneg,hle⟩ := found_sound hcapacity hrate h now
    have hsound := spend_sound hnonneg hle now
    by_cases hin : start ≤ now ∧ now ≤ stop
    · have hlater := servedIn_le_tokens hcapacity hrate start hsound
        (by simpa using hin.2) times hrest (by simpa using hnext)
      rw [spend_updated] at hlater
      have hbound := spend_bound start hlater
      have hshort : rate * (stop - now) ≤ rate * (stop - start) :=
        mul_le_mul_of_nonneg_left (sub_le_sub_left hin.1 stop) hrate
      exact hbound.trans (add_le_add hle hshort)
    · have hout : ¬ (start ≤ now ∧ now ≤ stop ∧ Serves (found capacity rate now o)) :=
        fun hall => hin ⟨hall.1,hall.2.1⟩
      have hih := ih (o := some (spend (found capacity rate now o) now))
        (fun b hb => Option.some.inj hb ▸ hsound) hrest
      simpa [servedIn,hout] using hih

end TokenBucket
end Anet
