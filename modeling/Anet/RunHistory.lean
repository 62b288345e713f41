import Mathlib.Data.Int.Basic
import Mathlib.Data.List.Basic

/-! Runs with the states they passed, what held at one of these states, and walks over links that
were there at some time. -/
namespace Anet

section Runs

variable {σ : Type*} {start : σ → Prop} {step : σ → σ → Prop} {P : σ → Prop} {past : List σ}
  {s t : σ}

/-- A run to a state through the states before it, the latest first. -/
inductive Run (start : σ → Prop) (step : σ → σ → Prop) : List σ → σ → Prop
  | start {s : σ} (hs : start s) : Run start step [] s
  | step {past : List σ} {s t : σ} (h : Run start step past s) (hstep : step s t) :
      Run start step (s :: past) t

/-- It holds now or held before. -/
def Once (P : σ → Prop) (past : List σ) (s : σ) : Prop := ∃ r ∈ s :: past, P r

theorem Once.now (h : P s) : Once P past s := ⟨s,List.mem_cons_self,h⟩

theorem Once.later (h : Once P past s) : Once P (s :: past) t := by
  obtain ⟨r,hr,hP⟩ := h
  exact ⟨r,List.mem_cons_of_mem _ hr,hP⟩

/-- What holds at the start and is handed on by every step holds at the end of every run. -/
theorem Run.invariant {I : List σ → σ → Prop} (hstart : ∀ s, start s → I [] s)
    (hstep : ∀ past s t, I past s → step s t → I (s :: past) t) (h : Run start step past s) :
    I past s := by
  induction h with
  | start hs => exact hstart _ hs
  | step _ hlast ih => exact hstep _ _ _ ih hlast

end Runs

section Walks

variable {ν : Type*} {base base' : ν → ℤ → Prop} {link link' : ν → ν → Prop} {n : ν} {d : ℤ}

/-- A walk to a node: its length is the one it began with and one more for each link. -/
inductive Walk (base : ν → ℤ → Prop) (link : ν → ν → Prop) : ν → ℤ → Prop
  | base {n : ν} {d : ℤ} (h : base n d) : Walk base link n d
  | link {m n : ν} {d : ℤ} (h : Walk base link m d) (hlink : link m n) : Walk base link n (d + 1)

theorem Walk.mono (hbase : ∀ n d, base n d → base' n d) (hlink : ∀ m n, link m n → link' m n)
    (h : Walk base link n d) : Walk base' link' n d := by
  induction h with
  | base h => exact .base (hbase _ _ h)
  | link _ hl ih => exact .link ih (hlink _ _ hl)

end Walks
end Anet
