import Mathlib.Logic.Relation

/-! Runs of a step relation, and the rules that carry a fact along them: an
invariant, a preorder that every step respects, and a simulation. -/
namespace Anet

variable {σ τ : Type*} {step : σ → σ → Prop}

/-- Zero or more steps. -/
abbrev Reaches (step : σ → σ → Prop) : σ → σ → Prop := Relation.ReflTransGen step

namespace Reaches

theorem invariant {I : σ → Prop} (hstep : ∀ s t, I s → step s t → I t) {s t : σ}
    (hs : I s) (h : Reaches step s t) : I t := by
  induction h with
  | refl => exact hs
  | tail _ hlast ih => exact hstep _ _ ih hlast

/-- A preorder that holds across one step from every state with `I` holds across a run. -/
theorem preorder {I : σ → Prop} {R : σ → σ → Prop} (hrefl : ∀ s, R s s)
    (htrans : ∀ s t u, R s t → R t u → R s u) (hinv : ∀ s t, I s → step s t → I t)
    (hstep : ∀ s t, I s → step s t → R s t) {s t : σ} (hs : I s) (h : Reaches step s t) :
    R s t := by
  induction h with
  | refl => exact hrefl s
  | tail hrun hlast ih => exact htrans _ _ _ ih (hstep _ _ (invariant hinv hs hrun) hlast)

/-- A run maps to a run of any system that answers each step by zero or more steps. -/
theorem simulate {step' : τ → τ → Prop} {f : σ → τ} {I : σ → Prop}
    (hinv : ∀ s t, I s → step s t → I t)
    (hstep : ∀ s t, I s → step s t → Reaches step' (f s) (f t)) {s t : σ} (hs : I s)
    (h : Reaches step s t) : Reaches step' (f s) (f t) :=
  preorder (R := fun s t => Reaches step' (f s) (f t)) (fun _ => .refl)
    (fun _ _ _ hst htu => hst.trans htu) hinv hstep hs h

/-- What every step keeps of something that is there, a run keeps. -/
theorem keeps {α β : Type*} {g : σ → Option α} {f : α → β}
    (hstep : ∀ s t a, step s t → g s = some a → ∃ b, g t = some b ∧ f b = f a) {s t : σ} {a : α}
    (ha : g s = some a) (h : Reaches step s t) : ∃ b, g t = some b ∧ f b = f a := by
  induction h with
  | refl => exact ⟨a,ha,rfl⟩
  | tail _ hlast ih =>
    obtain ⟨b,hb,hfb⟩ := ih
    obtain ⟨c,hc,hfc⟩ := hstep _ _ b hlast hb
    exact ⟨c,hc,hfc.trans hfb⟩

/-- Every call of the list is good in the state it is made in. -/
def Good {α : Type*} (good : σ → α → Prop) (exec : σ → α → σ) : List α → σ → Prop
  | [],_ => True
  | a :: rest,s => good s a ∧ Good good exec rest (exec s a)

/-- Calls that are good one after the other make a run. -/
theorem of_calls {α : Type*} {good : σ → α → Prop} {exec : σ → α → σ}
    (hstep : ∀ s a, good s a → step s (exec s a)) (calls : List α) (s : σ)
    (h : Good good exec calls s) : Reaches step s (calls.foldl exec s) := by
  induction calls generalizing s with
  | nil => exact .refl
  | cons a rest ih => exact .head (hstep s a h.1) (ih _ h.2)

theorem of_steps {α : Type*} {exec : σ → α → σ} (hstep : ∀ s a, step s (exec s a))
    (calls : List α) (s : σ) : Reaches step s (calls.foldl exec s) := by
  induction calls generalizing s with
  | nil => exact .refl
  | cons a rest ih => exact .head (hstep s a) (ih _)

end Reaches

/-- A transaction: a body that raises leaves the state as it was. -/
def atomic {ε α σ : Type*} (body : σ → Except ε (α × σ)) (s : σ) : Except ε α × σ :=
  match body s with
  | .ok (a,s') => (.ok a,s')
  | .error e => (.error e,s)

theorem atomic_cases {ε α σ : Type*} (body : σ → Except ε (α × σ)) (s : σ) :
    (∃ a s', body s = .ok (a,s') ∧ atomic body s = (.ok a,s')) ∨
      ∃ e, body s = .error e ∧ atomic body s = (.error e,s) := by
  cases h : body s with
  | ok r => exact .inl ⟨r.1,r.2,rfl,by simp [atomic,h]⟩
  | error e => exact .inr ⟨e,rfl,by simp [atomic,h]⟩

/-- What the calls of a list answer, made one after the other. -/
def replies {ε α β σ : Type*} (accept : β → σ → Except ε (α × σ)) :
    List β → σ → List (Except ε α) × σ
  | [],s => ([],s)
  | b :: bs,s =>
    let r := atomic (accept b) s
    let rest := replies accept bs r.2
    (r.1 :: rest.1,rest.2)

/-- Two systems whose related states answer every call alike answer every list alike. -/
theorem replies_agree {ε α β σ τ : Type*} {R : σ → τ → Prop}
    {accept : β → σ → Except ε (α × σ)} {accept' : β → τ → Except ε (α × τ)}
    (hstep : ∀ b s t, R s t → (atomic (accept b) s).1 = (atomic (accept' b) t).1 ∧
      R (atomic (accept b) s).2 (atomic (accept' b) t).2) (calls : List β) {s : σ} {t : τ}
    (h : R s t) : (replies accept calls s).1 = (replies accept' calls t).1 ∧
      R (replies accept calls s).2 (replies accept' calls t).2 := by
  induction calls generalizing s t with
  | nil => exact ⟨rfl,h⟩
  | cons b bs ih =>
    obtain ⟨hreply,hrelated⟩ := hstep b s t h
    obtain ⟨hreplies,hend⟩ := ih hrelated
    exact ⟨congrArg₂ List.cons hreply hreplies,hend⟩

end Anet
