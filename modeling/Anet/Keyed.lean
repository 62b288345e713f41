import Mathlib.Algebra.GroupWithZero.Nat
import Mathlib.Data.List.Nodup

/-! Dictionaries, as entries with keys of their own. -/
namespace Anet

structure Keyed (κ α : Type*) where
  entries : List (κ × α)
  nodup : (entries.map Prod.fst).Nodup

namespace Keyed

variable {κ α : Type*} [DecidableEq κ] {d : Keyed κ α}

def empty : Keyed κ α := ⟨[],List.nodup_nil⟩

def get (d : Keyed κ α) (k : κ) : Option α := (d.entries.find? fun e => e.1 = k).map Prod.snd

/-- `d[k] = a`. -/
def put (d : Keyed κ α) (k : κ) (a : α) : Keyed κ α where
  entries := (k,a) :: d.entries.filter fun e => e.1 ≠ k
  nodup := by
    rw [List.map_cons,List.nodup_cons]
    refine ⟨?_,d.nodup.sublist (List.filter_sublist.map _)⟩
    simp

@[simp] theorem get_empty (k : κ) : (empty : Keyed κ α).get k = none := rfl

@[simp] theorem get_put (d : Keyed κ α) (k : κ) (a : α) (k' : κ) :
    (d.put k a).get k' = if k' = k then some a else d.get k' := by
  unfold get put
  by_cases hk : k' = k
  · simp [hk]
  · have hne : ¬ k = k' := fun h => hk h.symm
    rw [List.find?_cons_of_neg (by simpa using hne),List.find?_filter,if_neg hk]
    congr 2
    funext e
    by_cases he : e.1 = k'
    · simp [he,hk]
    · simp [he]

theorem get_eq_some {k : κ} {a : α} : d.get k = some a ↔ (k,a) ∈ d.entries := by
  constructor
  · intro h
    obtain ⟨e,he,rfl⟩ := Option.map_eq_some_iff.mp h
    have hkey : e.1 = k := by simpa using List.find?_some he
    rw [← hkey]
    exact List.mem_of_find?_eq_some he
  · intro h
    cases hfind : d.entries.find? fun e => e.1 = k with
    | none =>
      have hnone := List.find?_eq_none.mp hfind (k,a) h
      simp at hnone
    | some e =>
      have hkey : e.1 = k := by simpa using List.find?_some hfind
      have hsame := List.inj_on_of_nodup_map d.nodup (List.mem_of_find?_eq_some hfind) h hkey
      rw [get,hfind,hsame]
      rfl

/-- The sum of a number over the values. -/
def total (d : Keyed κ α) (f : α → ℕ) : ℕ := (d.entries.map fun e => f e.2).sum

theorem sum_filter_key (f : α → ℕ) (k : κ) (l : List (κ × α)) (h : (l.map Prod.fst).Nodup) :
    ((l.filter fun e => e.1 ≠ k).map fun e => f e.2).sum +
      (((l.find? fun e => e.1 = k).map Prod.snd).map f).getD 0 = (l.map fun e => f e.2).sum := by
  induction l with
  | nil => rfl
  | cons e l ih =>
    rw [List.map_cons,List.nodup_cons] at h
    by_cases hk : e.1 = k
    · have hrest : l.filter (fun x => x.1 ≠ k) = l := by
        rw [List.filter_eq_self]
        intro x hx
        have hne : x.1 ≠ k := by
          intro heq
          exact h.1 (hk ▸ heq ▸ List.mem_map_of_mem hx)
        simpa using hne
      rw [List.filter_cons_of_neg (by simpa using hk),hrest,List.find?_cons_of_pos (by simpa using hk)]
      simp [Nat.add_comm]
    · rw [List.filter_cons_of_pos (by simpa using hk),List.find?_cons_of_neg (by simpa using hk)]
      simp only [List.map_cons,List.sum_cons]
      rw [← ih h.2]
      omega

/-- A value that is put in counts instead of the one it replaces. -/
theorem total_put (d : Keyed κ α) (k : κ) (a : α) (f : α → ℕ) :
    (d.put k a).total f + ((d.get k).map f).getD 0 = d.total f + f a := by
  have h := sum_filter_key f k d.entries d.nodup
  unfold total get put
  simp only [List.map_cons,List.sum_cons]
  omega

end Keyed
end Anet
