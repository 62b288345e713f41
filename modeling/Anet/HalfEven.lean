import Mathlib.Algebra.Order.Floor.Ring
import Mathlib.Algebra.Ring.Int.Parity
import Mathlib.Tactic.Linarith

/-! Rounding to the nearest integer, a half to the even one. -/
namespace Anet

variable {K : Type*} [Field K] [LinearOrder K] [FloorRing K]

def halfEven (x : K) : ℤ :=
  if Int.fract x < 1 / 2 ∨ (Int.fract x = 1 / 2 ∧ Even ⌊x⌋) then ⌊x⌋ else ⌊x⌋ + 1

theorem floor_le_halfEven (x : K) : ⌊x⌋ ≤ halfEven x := by
  unfold halfEven
  split_ifs <;> omega

theorem halfEven_le_floor (x : K) : halfEven x ≤ ⌊x⌋ + 1 := by
  unfold halfEven
  split_ifs <;> omega

variable [IsStrictOrderedRing K]

@[simp] theorem halfEven_intCast (n : ℤ) : halfEven (n : K) = n := by
  simp [halfEven]

theorem halfEven_mono {x y : K} (h : x ≤ y) : halfEven x ≤ halfEven y := by
  rcases lt_or_eq_of_le (Int.floor_mono h) with hlt | heq
  · exact (halfEven_le_floor x).trans (le_trans (by omega) (floor_le_halfEven y))
  · have hfract : Int.fract x ≤ Int.fract y := by
      have hx := Int.floor_add_fract x
      have hy := Int.floor_add_fract y
      rw [heq] at hx
      linarith
    unfold halfEven
    rw [heq]
    split_ifs with hdown hdown' hdown'
    · exact le_refl _
    · omega
    · -- the larger fraction is rounded down, so the smaller one is too
      exfalso
      apply hdown
      rcases hdown' with hless | ⟨hhalf,heven⟩
      · exact .inl (hfract.trans_lt hless)
      · rcases lt_or_eq_of_le (hfract.trans hhalf.le) with hless | hsame
        · exact .inl hless
        · exact .inr ⟨hsame,heven⟩
    · exact le_refl _

/-- A whole bound of a number bounds what it is rounded to. -/
theorem le_halfEven {n : ℤ} {x : K} (h : (n : K) ≤ x) : n ≤ halfEven x := by
  simpa using halfEven_mono h

theorem halfEven_le {n : ℤ} {x : K} (h : x ≤ (n : K)) : halfEven x ≤ n := by
  simpa using halfEven_mono h

end Anet
