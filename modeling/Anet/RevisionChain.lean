import Mathlib.Data.List.GetD
import Mathlib.Data.List.Basic
import Mathlib.Data.Int.Basic

/-! Chains of revisions. A revision carries its number and the digest of the one before
it, so a keeper of the last revision can tell the next one from every other. -/
namespace Anet

variable {δ : Type*}

structure Revision (δ : Type*) where
  sequence : ℤ
  previous : δ
  digest : δ

/-- The revisions are numbered from `n` on and each names the one before it. -/
def Chained (previous : δ) (n : ℤ) : List (Revision δ) → Prop
  | [] => True
  | r :: rs => r.sequence = n ∧ r.previous = previous ∧ Chained r.digest (n + 1) rs

/-- What a keeper of a chain holds of a revision. -/
def Revision.mark (r : Revision δ) : ℤ × δ := (r.sequence,r.digest)

/-- The revision comes right behind the last one, or is the first. -/
def Follows (genesis : δ) (last : Option (ℤ × δ)) (r : Revision δ) : Prop :=
  match last with
  | none => r.sequence = 1 ∧ r.previous = genesis
  | some l => r.sequence = l.1 + 1 ∧ r.previous = l.2

namespace Chained

variable {previous genesis : δ} {n : ℤ} {l : List (Revision δ)} {r : Revision δ}

theorem append {l' : List (Revision δ)} : Chained previous n (l ++ l') ↔ Chained previous n l ∧
    Chained ((l.getLast?.map Revision.digest).getD previous) (n + l.length) l' := by
  induction l generalizing previous n with
  | nil => simp [Chained]
  | cons x xs ih =>
    have hplace : n + 1 + xs.length = n + (x :: xs).length := by
      rw [List.length_cons]
      omega
    have hlast : (xs.getLast?.map Revision.digest).getD x.digest =
        ((x :: xs).getLast?.map Revision.digest).getD previous := by
      cases xs with
      | nil => rfl
      | cons y ys => simp [List.getLast?_cons]
    simp only [List.cons_append,Chained,ih,hplace,hlast]
    tauto

theorem sequence_at (h : Chained previous n l) {i : ℕ} (hi : l[i]? = some r) :
    r.sequence = n + i := by
  induction l generalizing previous n i with
  | nil => simp at hi
  | cons x xs ih =>
    obtain ⟨hx,-,hxs⟩ := h
    cases i with
    | zero =>
      cases hi
      simpa using hx
    | succ i =>
      have hr := ih hxs (by simpa using hi)
      omega

theorem last_sequence (h : Chained genesis 1 l) (hr : l.getLast? = some r) :
    r.sequence = l.length := by
  rw [List.getLast?_eq_getElem?] at hr
  have hlength : l.length - 1 < l.length := (List.getElem?_eq_some_iff.mp hr).1
  have := h.sequence_at hr
  omega

/-- A chain grows by the revision that follows its last one. -/
theorem snoc (h : Chained genesis 1 l) (hr : Follows genesis (l.getLast?.map Revision.mark) r) :
    Chained genesis 1 (l ++ [r]) := by
  rw [append]
  refine ⟨h,?_,?_,trivial⟩
  · cases hlast : l.getLast? with
    | none =>
      rw [hlast] at hr
      rw [List.getLast?_eq_none_iff.mp hlast]
      exact hr.1
    | some last =>
      rw [hlast] at hr
      have hnumber := h.last_sequence hlast
      have hnext : r.sequence = last.sequence + 1 := hr.1
      omega
  · cases hlast : l.getLast? with
    | none =>
      rw [hlast] at hr
      exact hr.2
    | some last =>
      rw [hlast] at hr
      exact hr.2

/-- The number of a revision is its place. -/
theorem place_unique (h : Chained previous n l) {r' : Revision δ} (hr : r ∈ l) (hr' : r' ∈ l)
    (hs : r.sequence = r'.sequence) : r = r' := by
  obtain ⟨i,hi⟩ := List.mem_iff_getElem?.mp hr
  obtain ⟨j,hj⟩ := List.mem_iff_getElem?.mp hr'
  have hplace : (i : ℤ) = j := by
    have := h.sequence_at hi
    have := h.sequence_at hj
    omega
  rw [Int.natCast_inj.mp hplace,hj] at hi
  exact (Option.some.inj hi).symm

end Chained
end Anet
