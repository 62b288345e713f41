import Anet.Fence
import Anet.Table

/-! Fences kept in a table: the rows are the resources, a text column holds the
token and a unique index over that column allows one row for each token. A token
counts as issued once it has stood in the table. -/
namespace Anet

variable {κ ρ ι : Type*} [DecidableEq κ] {key : ρ → κ} {marks : ρ → List ι}

/-- The token under which a row is held; an empty column is no token. -/
def heldToken (token : ρ → String) (t : Table key marks) (k : κ) : Option String :=
  ((t.get k).map token).filter fun x => x ≠ ""

def seenTokens (token : ρ → String) (t : Table key marks) : Set String :=
  {x | ∃ k, heldToken token t k = some x}

/-- The fence of a table after the tokens `issued` have been in it. -/
def tableFence (token : ρ → String) (t : Table key marks) (issued : Set String) :
    Fence κ String :=
  ⟨heldToken token t,issued⟩

theorem heldToken_eq_some {token : ρ → String} {t : Table key marks} {k : κ} {x : String} :
    heldToken token t k = some x ↔ ∃ r, t.get k = some r ∧ token r = x ∧ x ≠ "" := by
  simp only [heldToken,Option.filter_eq_some_iff,Option.map_eq_some_iff,decide_eq_true_eq]
  constructor
  · rintro ⟨⟨r,hr,rfl⟩,hx⟩
    exact ⟨r,hr,rfl,hx⟩
  · rintro ⟨r,hr,rfl,hx⟩
    exact ⟨⟨r,hr,rfl⟩,hx⟩

theorem mem_seenTokens {token : ρ → String} {t : Table key marks} {x : String} :
    x ∈ seenTokens token t ↔ x ≠ "" ∧ ∃ r ∈ t.rows, token r = x := by
  constructor
  · rintro ⟨k,hk⟩
    obtain ⟨r,hr,htok,hx⟩ := heldToken_eq_some.mp hk
    exact ⟨hx,r,(Table.get_eq_some.mp hr).1,htok⟩
  · rintro ⟨hx,r,hr,htok⟩
    exact ⟨key r,heldToken_eq_some.mpr ⟨r,Table.mem_rows.mp hr,htok,hx⟩⟩

variable {token : ρ → String} {t t' : Table key marks} {issued : Set String}

/-- A change of the table is a fence step when every token in it afterwards stood
in the same row before or was never issued. -/
theorem tableFence_step (mark : String → ι) (hmark : ∀ r, token r ≠ "" → mark (token r) ∈ marks r)
    (h : ∀ k r', t'.get k = some r' → token r' ≠ "" →
      (∃ r, t.get k = some r ∧ token r = token r') ∨ token r' ∉ issued) :
    (tableFence token t issued).Step (tableFence token t' (issued ∪ seenTokens token t')) where
  grows := Set.subset_union_left
  held k x hk := by
    obtain ⟨r',hr',rfl,hx⟩ := heldToken_eq_some.mp hk
    rcases h k r' hr' hx with ⟨r,hr,htok⟩ | hnew
    · exact Or.inl (heldToken_eq_some.mpr ⟨r,hr,htok,hx⟩)
    · refine Or.inr ⟨hnew,Or.inr ⟨k,hk⟩,?_⟩
      intro k' hk'
      obtain ⟨r,hr,htok,-⟩ := heldToken_eq_some.mp hk'
      have hrr : r = r' := Table.mark_unique hr hr' (hmark r (by rwa [htok]))
        (by rw [htok]; exact hmark r' hx)
      rw [← Table.get_key hr,← Table.get_key hr',hrr]

theorem tableFence_empty_sound : (tableFence token (Table.empty : Table key marks) ∅).Sound where
  drawn k x hk := by simp [tableFence,heldToken] at hk
  single k k' x hk := by simp [tableFence,heldToken] at hk

end Anet
