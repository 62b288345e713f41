import Anet.Transition
import Mathlib.Data.List.Infix

/-! Reading a log in pages while it grows. A reader asks for what follows the entries it
holds; whatever the sizes of its pages, it holds a prefix of the log and is caught up
exactly when it holds all of it. -/
namespace Anet

variable {α : Type*}

/-- The next `limit` entries after the first `n`. -/
def logPage (entries : List α) (n limit : ℕ) : List α := (entries.drop n).take limit

theorem append_logPage {xs entries : List α} (h : xs <+: entries) (limit : ℕ) :
    xs ++ logPage entries xs.length limit = entries.take (xs.length + limit) := by
  obtain ⟨ys,rfl⟩ := h
  simp [logPage,List.take_append]

/-- The reader still holds a prefix after a page of a log that grew. -/
theorem prefix_page {xs entries entries' : List α} (h : xs <+: entries)
    (hgrow : entries <+: entries') (limit : ℕ) :
    xs ++ logPage entries' xs.length limit <+: entries' := by
  rw [append_logPage (h.trans hgrow)]
  exact List.take_prefix _ _

theorem length_append_logPage {xs entries : List α} (h : xs <+: entries) (limit : ℕ) :
    (xs ++ logPage entries xs.length limit).length = min (xs.length + limit) entries.length := by
  rw [append_logPage h,List.length_take]

/-- Caught up is the same as holding the whole log. -/
theorem caughtUp_iff {xs entries : List α} (h : xs <+: entries) :
    entries.length ≤ xs.length ↔ xs = entries := by
  constructor
  · intro hlen
    exact h.eq_of_length_le hlen
  · rintro rfl
    exact le_rfl

end Anet
