import Anet.Transition
import Mathlib.Data.Set.Basic

/-! Fencing tokens. Each resource is held under at most one token; a token is
drawn once and given to one resource. What a step may do is grant tokens that
were never drawn before and take tokens away. A token that lost its resource is
then dead: no later step revives it. -/
namespace Anet

structure Fence (κ τ : Type*) where
  holder : κ → Option τ
  issued : Set τ

namespace Fence

variable {κ τ : Type*}

/-- Only drawn tokens are held, and no token holds two resources. -/
structure Sound (f : Fence κ τ) : Prop where
  drawn : ∀ k t, f.holder k = some t → t ∈ f.issued
  single : ∀ k k' t, f.holder k = some t → f.holder k' = some t → k = k'

/-- Every token held afterwards was held for the same resource before, or is
new and held for this resource only. -/
structure Step (f g : Fence κ τ) : Prop where
  grows : f.issued ⊆ g.issued
  held : ∀ k t, g.holder k = some t → f.holder k = some t ∨
    (t ∉ f.issued ∧ t ∈ g.issued ∧ ∀ k', g.holder k' = some t → k' = k)

theorem Step.refl (f : Fence κ τ) : Step f f := ⟨subset_rfl,fun _ _ h => Or.inl h⟩

theorem Sound.step {f g : Fence κ τ} (hf : f.Sound) (h : f.Step g) : g.Sound where
  drawn k t hk := by
    rcases h.held k t hk with hold | ⟨-,hnew,-⟩
    · exact h.grows (hf.drawn k t hold)
    · exact hnew
  single k k' t hk hk' := by
    rcases h.held k t hk with hold | ⟨-,-,honly⟩
    · rcases h.held k' t hk' with hold' | ⟨-,-,honly⟩
      · exact hf.single k k' t hold hold'
      · exact honly k hk
    · exact (honly k' hk').symm

theorem Sound.run {f g : Fence κ τ} (hf : f.Sound) (h : Reaches Step f g) : g.Sound :=
  Reaches.invariant (fun _ _ hs hstep => hs.step hstep) hf h

theorem issued_subset {f g : Fence κ τ} (h : Reaches Step f g) : f.issued ⊆ g.issued :=
  Reaches.preorder (I := fun _ => True) (R := fun f g => f.issued ⊆ g.issued)
    (fun _ => subset_rfl) (fun _ _ _ h₁ h₂ => h₁.trans h₂) (fun _ _ _ _ => trivial)
    (fun _ _ _ hstep => hstep.grows) trivial h

/-- A drawn token is never granted again. -/
theorem held_before {f g : Fence κ τ} (h : Reaches Step f g) {k : κ} {t : τ}
    (ht : t ∈ f.issued) (hg : g.holder k = some t) : f.holder k = some t := by
  induction h with
  | refl => exact hg
  | tail hrun hlast ih =>
    rcases hlast.held k t hg with hold | ⟨hnew,-,-⟩
    · exact ih hold
    · exact absurd (issued_subset hrun ht) hnew

/-- A token that held a resource and lost it holds nothing from then on. -/
theorem stale {f g h : Fence κ τ} (hf : f.Sound) (hfg : Reaches Step f g)
    (hgh : Reaches Step g h) {k : κ} {t : τ} (hk : f.holder k = some t)
    (hlost : g.holder k ≠ some t) (k' : κ) : h.holder k' ≠ some t := by
  intro hk'
  have ht := hf.drawn k t hk
  have hg := held_before hgh (issued_subset hfg ht) hk'
  have he := hf.single k' k t (held_before hfg ht hg) hk
  subst he
  exact hlost hg

end Fence
end Anet
