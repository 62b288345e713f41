import Anet.Table

/-! One-shot resources. A resource is free until it is lent to one holder or spent
at once; a lent one can only be spent, and what it was spent on stays. A table of
such resources keeps its rows and lets them move along these phases only. -/
namespace Anet

inductive Phase (τ ω : Type*)
  | free
  | lent (holder : τ)
  | spent (purpose : ω)

namespace Phase

variable {τ ω : Type*} {p q r : Phase τ ω} {t : τ} {x : ω}

/-- The phases a resource can be in later. -/
inductive Leads : Phase τ ω → Phase τ ω → Prop
  | refl (p : Phase τ ω) : Leads p p
  | lend (t : τ) : Leads .free (.lent t)
  | spend (t : τ) (x : ω) : Leads (.lent t) (.spent x)
  | consume (x : ω) : Leads .free (.spent x)

theorem Leads.trans (h : Leads p q) (h' : Leads q r) : Leads p r := by
  cases h with
  | refl => exact h'
  | lend t =>
    cases h' with
    | refl => exact .lend t
    | spend _ x => exact .consume x
  | spend t x =>
    cases h'
    exact .spend t x
  | consume x =>
    cases h'
    exact .consume x

/-- A resource that left the free phase does not return to it. -/
theorem Leads.to_free (h : Leads p .free) : p = .free := by
  cases h
  rfl

/-- A resource never passes from one holder to another. -/
theorem Leads.to_lent (h : Leads p (.lent t)) : p = .free ∨ p = .lent t := by
  cases h with
  | refl => exact Or.inr rfl
  | lend => exact Or.inl rfl

theorem Leads.of_spent (h : Leads (.spent x) p) : p = .spent x := by
  cases h
  rfl

end Phase

namespace Table

variable {κ ρ ι : Type*} {key : ρ → κ} {marks : ρ → List ι} [DecidableEq κ]
  {R : ρ → ρ → Prop} {t t' t'' : Table key marks}

/-- Every row of `t` is still in `t'` and has moved along `R`. -/
def Moves (R : ρ → ρ → Prop) (t t' : Table key marks) : Prop :=
  ∀ k r, t.get k = some r → ∃ r', t'.get k = some r' ∧ R r r'

theorem Moves.refl (hrefl : ∀ r, R r r) (t : Table key marks) : Moves R t t :=
  fun _ r hr => ⟨r,hr,hrefl r⟩

theorem Moves.trans (htrans : ∀ r r' r'', R r r' → R r' r'' → R r r'') (h : Moves R t t')
    (h' : Moves R t' t'') : Moves R t t'' := by
  intro k r hr
  obtain ⟨r',hr',hmove⟩ := h k r hr
  obtain ⟨r'',hr'',hmove'⟩ := h' k r' hr'
  exact ⟨r'',hr'',htrans _ _ _ hmove hmove'⟩

theorem Moves.update {p : ρ → Prop} [DecidablePred p] {f : ρ → ρ}
    (hkey : ∀ r, key (f r) = key r) (hmarks : ∀ r, marks (f r) ⊆ marks r)
    (hrefl : ∀ r, R r r) (h : ∀ r, p r → R r (f r)) :
    Moves R t (t.update p f hkey hmarks) := by
  intro k r hr
  refine ⟨if p r then f r else r,by rw [get_update,hr]; rfl,?_⟩
  split
  · exact h r ‹_›
  · exact hrefl r

theorem Moves.insert [DecidableEq ι] {r : ρ} (hrefl : ∀ r, R r r) (h : t.insert r = some t') :
    Moves R t t' := by
  intro k r' hr'
  refine ⟨r',?_,hrefl r'⟩
  rw [get_insert h,if_neg,hr']
  rintro rfl
  rw [(insert_eq_some h).1] at hr'
  cases hr'

end Table
end Anet
