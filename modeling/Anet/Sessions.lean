import Mathlib.Data.List.Basic

/-! Sessions kept in a list and addressed by their position. The list only gets longer
and each entry changes along a relation, so what was said about a position stays true. -/
namespace Anet

variable {α : Type*} {R : α → α → Prop} {l l' l'' : List α}

/-- Every entry is still at its position, changed along `R` at most. -/
def Grows (R : α → α → Prop) (l l' : List α) : Prop :=
  ∀ (i : ℕ) (a : α), l[i]? = some a → ∃ b, l'[i]? = some b ∧ R a b

namespace Grows

theorem refl (hrefl : ∀ a, R a a) (l : List α) : Grows R l l := fun _ a h => ⟨a,h,hrefl a⟩

theorem append (hrefl : ∀ a, R a a) (l : List α) (x : α) : Grows R l (l ++ [x]) := by
  intro i a h
  have hi : i < l.length := (List.getElem?_eq_some_iff.mp h).1
  exact ⟨a,by rw [List.getElem?_append_left hi,h],hrefl a⟩

theorem modify (hrefl : ∀ a, R a a) {k : ℕ} {f : α → α} (hf : ∀ a, l[k]? = some a → R a (f a)) :
    Grows R l (l.modify k f) := by
  intro i a h
  by_cases hi : k = i
  · subst hi
    exact ⟨f a,by simp [h],hf a h⟩
  · exact ⟨a,by simp [h,hi],hrefl a⟩

end Grows

theorem getElem?_snoc {x a : α} {i : ℕ} (h : (l ++ [x])[i]? = some a) :
    l[i]? = some a ∨ (i = l.length ∧ a = x) := by
  by_cases hi : i < l.length
  · exact Or.inl (by rwa [List.getElem?_append_left hi] at h)
  · right
    have hlt := (List.getElem?_eq_some_iff.mp h).1
    have heq : i = l.length := by
      rw [List.length_append,List.length_singleton] at hlt
      omega
    subst heq
    rw [List.getElem?_append_right (Nat.le_refl _)] at h
    exact ⟨rfl,by simpa using h.symm⟩

theorem getElem?_modified {f : α → α} {a : α} {k i : ℕ} (h : (l.modify k f)[i]? = some a) :
    (l[i]? = some a ∧ k ≠ i) ∨ ∃ b, l[i]? = some b ∧ k = i ∧ a = f b := by
  rw [List.getElem?_modify] at h
  by_cases hi : k = i
  · right
    obtain ⟨b,hb,rfl⟩ := Option.map_eq_some_iff.mp h
    exact ⟨b,hb,hi,if_pos hi⟩
  · left
    simpa [hi] using h

theorem mem_modified {f : α → α} {a : α} {k : ℕ} (h : a ∈ l.modify k f) :
    a ∈ l ∨ ∃ b, l[k]? = some b ∧ a = f b := by
  obtain ⟨i,hi⟩ := List.mem_iff_getElem?.mp h
  rcases getElem?_modified hi with ⟨hold,-⟩ | ⟨b,hb,rfl,rfl⟩
  · exact Or.inl (List.mem_of_getElem? hold)
  · exact Or.inr ⟨b,hb,rfl⟩

/-- Changing one entry changes a count by that entry. -/
theorem countP_modified (p : α → Bool) {k : ℕ} {a : α} (f : α → α) (h : l[k]? = some a) :
    (l.modify k f).countP p + (if p a then 1 else 0) =
      l.countP p + (if p (f a) then 1 else 0) := by
  induction l generalizing k with
  | nil => simp at h
  | cons x l ih =>
    cases k with
    | zero =>
      obtain rfl : x = a := by simpa using h
      simp only [List.modify_zero_cons,List.countP_cons]
      omega
    | succ k =>
      have hrest := ih (by simpa using h)
      simp only [List.modify_succ_cons,List.countP_cons]
      omega

end Anet
