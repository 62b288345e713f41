import Mathlib.Data.List.Perm.Basic
import Mathlib.Order.Lattice

/-! Calls that join. When each call joins its own effect to what is observed of a state, the
observation only grows, and after any calls it is the join of all effects, in whatever order the
calls were made. -/
namespace Anet

variable {σ α L : Type*} [SemilatticeSup L]

/-- From the states of `I`, which the calls keep, a call joins its effect to the observation. -/
structure JoinCalls (exec : σ → α → σ) (I : σ → Prop) (observe : σ → L) (effect : α → L) : Prop where
  keeps : ∀ s a, I s → I (exec s a)
  observes : ∀ s a, I s → observe (exec s a) = observe s ⊔ effect a

namespace JoinCalls

variable {exec : σ → α → σ} {I : σ → Prop} {observe : σ → L} {effect : α → L}

theorem run (h : JoinCalls exec I observe effect) (calls : List α) {s : σ} (hs : I s) :
    observe (calls.foldl exec s) = calls.foldl (fun x a => x ⊔ effect a) (observe s) := by
  induction calls generalizing s with
  | nil => rfl
  | cons a rest ih =>
    rw [List.foldl_cons,List.foldl_cons,ih (h.keeps s a hs),h.observes s a hs]

/-- The order of the calls does not matter. -/
theorem perm (h : JoinCalls exec I observe effect) {calls calls' : List α} (hcalls : calls.Perm calls')
    {s : σ} (hs : I s) : observe (calls.foldl exec s) = observe (calls'.foldl exec s) := by
  rw [h.run calls hs,h.run calls' hs]
  exact hcalls.foldl_eq' (fun a _ b _ x => sup_right_comm x (effect a) (effect b)) (observe s)

/-- What was observed stays below what is observed later. -/
theorem le_run (h : JoinCalls exec I observe effect) (calls : List α) {s : σ} (hs : I s) :
    observe s ≤ observe (calls.foldl exec s) := by
  induction calls generalizing s with
  | nil => exact le_rfl
  | cons a rest ih =>
    have hstep : observe s ≤ observe (exec s a) := by
      rw [h.observes s a hs]
      exact le_sup_left
    exact hstep.trans (ih (h.keeps s a hs))

theorem effect_le_run (h : JoinCalls exec I observe effect) {calls : List α} {a : α} (ha : a ∈ calls)
    {s : σ} (hs : I s) : effect a ≤ observe (calls.foldl exec s) := by
  induction calls generalizing s with
  | nil => cases ha
  | cons b rest ih =>
    rcases List.mem_cons.mp ha with rfl | ha
    · have hstep : effect a ≤ observe (exec s a) := by
        rw [h.observes s a hs]
        exact le_sup_right
      exact hstep.trans (h.le_run rest (h.keeps s a hs))
    · exact ih ha (h.keeps s b hs)

end JoinCalls
end Anet
