import Mathlib.Data.Finset.Lattice.Lemmas
import Mathlib.Data.List.Chain

/-! A fold that passes over every item whose key it has met before, and a fold that moves
along a relation: what each of them comes to. -/
namespace Anet

variable {α κ σ : Type*} [DecidableEq κ]

/-- The items under a new key. -/
def freshItems (key : α → κ) : Finset κ → List α → List α
  | _,[] => []
  | known,x :: xs =>
    if key x ∈ known then freshItems key known xs else x :: freshItems key (insert (key x) known) xs

/-- The fold that skips the keys it knows. -/
def foldNew (key : α → κ) (next : σ → α → Option σ) : Finset κ → σ → List α → Option σ
  | _,state,[] => some state
  | known,state,x :: xs =>
    if key x ∈ known then foldNew key next known state xs
    else (next state x).bind fun state => foldNew key next (insert (key x) known) state xs

theorem foldNew_eq (key : α → κ) (next : σ → α → Option σ) (known : Finset κ) (state : σ)
    (xs : List α) : foldNew key next known state xs = (freshItems key known xs).foldlM next state := by
  induction xs generalizing known state with
  | nil => rfl
  | cons x xs ih =>
    by_cases hx : key x ∈ known
    · simp [foldNew,freshItems,hx,ih]
    · simp only [foldNew,freshItems,hx,if_false,List.foldlM_cons]
      cases next state x with
      | none => rfl
      | some state' => exact ih (insert (key x) known) state'

theorem fresh_append (key : α → κ) (known : Finset κ) (xs ys : List α) :
    freshItems key known (xs ++ ys) =
      freshItems key known xs ++ freshItems key (known ∪ (xs.map key).toFinset) ys := by
  induction xs generalizing known with
  | nil => simp only [freshItems,List.nil_append,List.map_nil,List.toFinset_nil,Finset.union_empty]
  | cons x xs ih =>
    by_cases hx : key x ∈ known
    · have hkeys : known ∪ ((x :: xs).map key).toFinset = known ∪ (xs.map key).toFinset := by
        ext k
        simp only [List.map_cons,List.toFinset_cons,Finset.mem_union,Finset.mem_insert]
        constructor
        · rintro (hk | rfl | hk)
          · exact Or.inl hk
          · exact Or.inl hx
          · exact Or.inr hk
        · rintro (hk | hk)
          · exact Or.inl hk
          · exact Or.inr (Or.inr hk)
      rw [hkeys]
      simp [freshItems,hx,ih]
    · have hkeys : known ∪ ((x :: xs).map key).toFinset =
          insert (key x) known ∪ (xs.map key).toFinset := by
        ext k
        simp only [List.map_cons,List.toFinset_cons,Finset.mem_union,Finset.mem_insert]
        tauto
      rw [hkeys]
      simp [freshItems,hx,ih]

theorem foldNew_append (key : α → κ) (next : σ → α → Option σ) (known : Finset κ) (state : σ)
    (xs ys : List α) : foldNew key next known state (xs ++ ys) =
      (foldNew key next known state xs).bind fun state =>
        foldNew key next (known ∪ (xs.map key).toFinset) state ys := by
  simp only [foldNew_eq,fresh_append,List.foldlM_append]
  rfl

theorem mem_of_mem_fresh {key : α → κ} {known : Finset κ} {xs : List α} {x : α}
    (h : x ∈ freshItems key known xs) : x ∈ xs := by
  induction xs generalizing known with
  | nil => simp [freshItems] at h
  | cons y ys ih =>
    by_cases hy : key y ∈ known
    · simp only [freshItems,hy,if_true] at h
      exact List.mem_cons_of_mem _ (ih h)
    · simp only [freshItems,hy,if_false,List.mem_cons] at h
      rcases h with rfl | h
      · simp
      · exact List.mem_cons_of_mem _ (ih h)

/-- A move to `x` that the relation allows. -/
def moveTo (R : σ → σ → Bool) (state x : σ) : Option σ := if R state x then some x else none

/-- Moves go through exactly along chains, and end at their last point. -/
theorem foldlM_moveTo (R : σ → σ → Bool) (state last : σ) (xs : List σ) :
    xs.foldlM (moveTo R) state = some last ↔
      (state :: xs).IsChain (fun a b => R a b) ∧ xs.getLastD state = last := by
  induction xs generalizing state with
  | nil => simp
  | cons x xs ih =>
    rw [List.foldlM_cons,List.isChain_cons_cons,List.getLastD_cons,moveTo]
    by_cases hx : R state x
    · have hrest := ih x
      simpa [hx] using hrest
    · simp [hx]

end Anet
