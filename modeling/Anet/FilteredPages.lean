import Mathlib.Algebra.Order.Group.Nat
import Mathlib.Data.List.Basic

/-! Pages of a filtered log. A page is taken from a window of the rows after a cursor: the rows that
are not live are dropped after the window is cut, and the cursor moves to the last row kept. Such a
reader sees every live row exactly where no page falls short with live rows beyond its window. -/
namespace Anet

variable {α : Type*} (key : α → ℕ) (live : α → Prop) [DecidablePred live]

/-- The rows after a cursor. -/
def rowsAfter (cursor : ℕ) (rows : List α) : List α := rows.filter fun r => cursor < key r

/-- At most `limit` live rows of a window. -/
def filteredPage (limit window : ℕ) (rows : List α) : List α :=
  ((rows.take window).filter fun r => live r).take limit

/-- The last row of a page, or the cursor it was read from. -/
def nextCursor (cursor : ℕ) (page : List α) : ℕ := page.getLast?.elim cursor key

/-- The cursor after some pages. -/
def pageCursor (limit window : ℕ) (rows : List α) : ℕ → ℕ
  | 0 => 0
  | n + 1 => nextCursor key (pageCursor limit window rows n)
      (filteredPage live limit window (rowsAfter key (pageCursor limit window rows n) rows))

/-- The `n`-th page of a reader that starts at cursor 0. -/
def readPage (limit window : ℕ) (rows : List α) (n : ℕ) : List α :=
  filteredPage live limit window (rowsAfter key (pageCursor key live limit window rows n) rows)

/-- The rows after the first `n` live ones. -/
def afterLive : ℕ → List α → List α
  | 0,rows => rows
  | _ + 1,[] => []
  | n + 1,r :: rows => if live r then afterLive n rows else afterLive (n + 1) rows

/-- The window of the rows holds a full page, or no live row is beyond it. -/
def HoldsPage (limit window : ℕ) (rest : List α) : Prop :=
  limit ≤ ((rest.take window).filter fun r => live r).length ∨
    (rest.drop window).filter (fun r => live r) = []

/-- So it is after any number of full pages. -/
def Dense (limit window : ℕ) (rows : List α) : Prop :=
  ∀ k, HoldsPage live limit window (afterLive live (k * limit) rows)

/-- The pages together hold the live rows in their order, and a page that is not full leaves no
live row. -/
def ReadsAll (limit window : ℕ) (rows : List α) : Prop :=
  (∃ N, ∀ n, N ≤ n → (List.range n).flatMap (readPage key live limit window rows) =
      rows.filter fun r => live r) ∧
    ∀ n, (readPage key live limit window rows n).length < limit →
      ∀ r ∈ rows, live r → key r ≤ pageCursor key live limit window rows (n + 1)

section Pages

variable {key live} {limit window cursor : ℕ} {rows rest : List α}

theorem filter_afterLive (n : ℕ) (rows : List α) :
    (afterLive live n rows).filter (fun r => live r) = (rows.filter fun r => live r).drop n := by
  induction n, rows using afterLive.induct live with
  | case1 rows => simp [afterLive]
  | case2 n => simp [afterLive]
  | case3 n r rows h ih => simpa [afterLive,h] using ih
  | case4 n r rows h ih => simpa [afterLive,h] using ih

theorem afterLive_add (m n : ℕ) (rows : List α) :
    afterLive live (m + n) rows = afterLive live n (afterLive live m rows) := by
  induction m, rows using afterLive.induct live with
  | case1 rows => simp [afterLive]
  | case2 m => cases n <;> simp [afterLive]
  | case3 m r rows h ih => simpa [afterLive,h,Nat.succ_add] using ih
  | case4 m r rows h ih => simpa [afterLive,h,Nat.succ_add] using ih

theorem mem_rowsAfter {r : α} : r ∈ rowsAfter key cursor rows ↔ r ∈ rows ∧ cursor < key r := by
  simp [rowsAfter]

/-- Reading on from a later cursor. -/
theorem rowsAfter_rowsAfter {c c' : ℕ} (h : c ≤ c') (rows : List α) :
    rowsAfter key c' (rowsAfter key c rows) = rowsAfter key c' rows := by
  rw [rowsAfter,rowsAfter,List.filter_filter]
  refine List.filter_congr fun r _ => ?_
  simp only [Bool.and_eq_decide,decide_eq_true_eq,decide_eq_decide]
  omega

/-- The rows after the last of the first live ones. -/
theorem rowsAfter_last (hrows : rows.Pairwise fun r r' => key r < key r') (n : ℕ) {x : α}
    (hx : ((rows.filter fun r => live r).take n).getLast? = some x) :
    rowsAfter key (key x) rows =
      afterLive live ((rows.filter fun r => live r).take n).length rows := by
  induction rows generalizing n with
  | nil => simp at hx
  | cons r rows ih =>
    obtain ⟨hfirst,hrows⟩ := List.pairwise_cons.mp hrows
    have hpast (hmem : x ∈ rows) : rowsAfter key (key x) (r :: rows) = rowsAfter key (key x) rows := by
      have hlt := hfirst x hmem
      rw [rowsAfter,List.filter_cons_of_neg (by simpa using hlt.le),rowsAfter]
    by_cases hr : live r
    · rw [List.filter_cons_of_pos (by simpa using hr)] at hx ⊢
      cases n with
      | zero => simp at hx
      | succ n =>
        rw [List.take_succ_cons] at hx ⊢
        rw [List.length_cons,afterLive,if_pos hr]
        by_cases hnil : (rows.filter fun r => live r).take n = []
        · rw [hnil] at hx ⊢
          obtain rfl := Option.some.inj hx
          have hall : rowsAfter key (key r) (r :: rows) = rows := by
            simpa [rowsAfter] using hfirst
          simpa [afterLive] using hall
        · rw [List.getLast?_cons_of_ne_nil hnil] at hx
          have hmem := List.mem_of_mem_filter (List.mem_of_mem_take (List.mem_of_getLast? hx))
          rw [hpast hmem]
          exact ih hrows n hx
    · rw [List.filter_cons_of_neg (by simpa using hr)] at hx ⊢
      have hmem := List.mem_of_mem_filter (List.mem_of_mem_take (List.mem_of_getLast? hx))
      rw [hpast hmem,ih hrows n hx]
      have hpos := List.length_pos_of_mem (List.mem_of_getLast? hx)
      obtain ⟨m,hm⟩ := Nat.exists_eq_succ_of_ne_zero hpos.ne'
      rw [hm,Nat.succ_eq_add_one,afterLive,if_neg hr]

theorem mem_readPage {n : ℕ} {r : α} (h : r ∈ readPage key live limit window rows n) :
    r ∈ (rowsAfter key (pageCursor key live limit window rows n) rows).take window ∧ live r := by
  simpa using List.mem_filter.mp (List.mem_of_mem_take h)

theorem pageCursor_le (n : ℕ) : pageCursor key live limit window rows n ≤
    pageCursor key live limit window rows (n + 1) := by
  change _ ≤ nextCursor key _ (readPage key live limit window rows n)
  unfold nextCursor
  cases h : (readPage key live limit window rows n).getLast? with
  | none => exact le_rfl
  | some x =>
    have hmem := List.mem_of_mem_take (mem_readPage (List.mem_of_getLast? h)).1
    exact (mem_rowsAfter.mp hmem).2.le

/-- What lies beyond the window stays after the next cursor. -/
theorem beyond_window (hrows : rows.Pairwise fun r r' => key r < key r') {n : ℕ} {r : α}
    (hr : r ∈ (rowsAfter key (pageCursor key live limit window rows n) rows).drop window) :
    pageCursor key live limit window rows (n + 1) < key r := by
  have hsorted : (rowsAfter key (pageCursor key live limit window rows n) rows).Pairwise
      fun r r' => key r < key r' := hrows.filter _
  rw [← List.take_append_drop window (rowsAfter key _ rows),List.pairwise_append] at hsorted
  change nextCursor key _ (readPage key live limit window rows n) < key r
  unfold nextCursor
  cases h : (readPage key live limit window rows n).getLast? with
  | none => exact (mem_rowsAfter.mp (List.mem_of_mem_drop hr)).2
  | some x => exact hsorted.2.2 x (mem_readPage (List.mem_of_getLast? h)).1 r hr

/-- Where the window holds a full page or every live row, the page is the next live rows. -/
theorem filteredPage_eq (h : HoldsPage live limit window rest) :
    filteredPage live limit window rest = (rest.filter fun r => live r).take limit := by
  have hsplit : rest.filter (fun r => live r) = (rest.take window).filter (fun r => live r) ++
      (rest.drop window).filter (fun r => live r) := by
    rw [← List.filter_append,List.take_append_drop]
  rw [hsplit,filteredPage]
  rcases h with h | h
  · exact (List.take_append_of_le_length h).symm
  · rw [h,List.append_nil]

/-- Where a reader stands after `n` pages: it has read the first live rows, and stands after the
last of them or has read all. -/
structure Standing (key : α → ℕ) (live : α → Prop) [DecidablePred live] (limit window : ℕ)
    (rows : List α) (n : ℕ) : Prop where
  read : (List.range n).flatMap (readPage key live limit window rows) =
    (rows.filter fun r => live r).take (n * limit)
  rest : rowsAfter key (pageCursor key live limit window rows n) rows =
      afterLive live (n * limit) rows ∨
    (rowsAfter key (pageCursor key live limit window rows n) rows).filter (fun r => live r) = []
  left : (rowsAfter key (pageCursor key live limit window rows n) rows).filter (fun r => live r) =
    (rows.filter fun r => live r).drop (n * limit)

theorem standing_zero (hpos : ∀ r ∈ rows, 0 < key r) : Standing key live limit window rows 0 := by
  have hall : rowsAfter key 0 rows = rows := by simpa [rowsAfter] using hpos
  refine ⟨by simp,Or.inl ?_,?_⟩
  · simpa [pageCursor,afterLive] using hall
  · simp [pageCursor,hall]

/-- The next page of a reader that is not short of rows is the next live ones. -/
theorem Standing.page {n : ℕ} (h : Standing key live limit window rows n)
    (hdense : HoldsPage live limit window (afterLive live (n * limit) rows)) :
    readPage key live limit window rows n =
      ((rows.filter fun r => live r).drop (n * limit)).take limit := by
  rw [← h.left]
  refine filteredPage_eq ?_
  rcases h.rest with hrest | hrest
  · rw [hrest]
    exact hdense
  · exact Or.inr (List.filter_eq_nil_iff.mpr fun r hr =>
      List.filter_eq_nil_iff.mp hrest r (List.mem_of_mem_drop hr))

theorem standing_succ (hrows : rows.Pairwise fun r r' => key r < key r') {n : ℕ}
    (h : Standing key live limit window rows n)
    (hdense : HoldsPage live limit window (afterLive live (n * limit) rows)) :
    Standing key live limit window rows (n + 1) := by
  have hpage := h.page hdense
  have hleft := h.left
  have hsucc : (n + 1) * limit = n * limit + limit := Nat.succ_mul n limit
  have hread : (List.range (n + 1)).flatMap (readPage key live limit window rows) =
      (rows.filter fun r => live r).take ((n + 1) * limit) := by
    rw [List.range_succ,List.flatMap_append,h.read,hsucc,List.take_add]
    simp [hpage]
  have hnext : rowsAfter key (pageCursor key live limit window rows (n + 1)) rows =
      rowsAfter key (pageCursor key live limit window rows (n + 1))
        (rowsAfter key (pageCursor key live limit window rows n) rows) :=
    (rowsAfter_rowsAfter (pageCursor_le n) rows).symm
  have hcursor : pageCursor key live limit window rows (n + 1) =
      nextCursor key (pageCursor key live limit window rows n)
        (readPage key live limit window rows n) := rfl
  cases hlast : (readPage key live limit window rows n).getLast? with
  | none =>
    -- an empty page leaves the cursor: there was nothing to read, or pages are empty
    have hsame : pageCursor key live limit window rows (n + 1) =
        pageCursor key live limit window rows n := by
      rw [hcursor,nextCursor,hlast]
      rfl
    rw [List.getLast?_eq_none_iff,hpage,List.take_eq_nil_iff] at hlast
    rcases hlast with hzero | hnil
    · refine ⟨hread,?_,?_⟩
      · rw [hsame,hsucc,hzero]
        simpa [hzero] using h.rest
      · rw [hsame,hsucc,hzero]
        simpa [hzero] using h.left
    · refine ⟨hread,Or.inr ?_,?_⟩
      · rw [hsame,hleft,hnil]
      · rw [hsame,hleft,hsucc,← List.drop_drop,hnil]
        exact List.drop_nil.symm
  | some x =>
    have hx : (((rowsAfter key (pageCursor key live limit window rows n) rows).filter
        fun r => live r).take limit).getLast? = some x := by
      rw [hleft,← hpage]
      exact hlast
    have hrest : rowsAfter key (pageCursor key live limit window rows (n + 1)) rows =
        afterLive live (((rows.filter fun r => live r).drop (n * limit)).take limit).length
          (rowsAfter key (pageCursor key live limit window rows n) rows) := by
      rw [hnext,hcursor,nextCursor,hlast,← hleft]
      exact rowsAfter_last (hrows.filter _) limit hx
    have hdrop : (rowsAfter key (pageCursor key live limit window rows (n + 1)) rows).filter
        (fun r => live r) = (rows.filter fun r => live r).drop ((n + 1) * limit) := by
      rw [hrest,filter_afterLive,hleft,hsucc,← List.drop_drop,List.length_take]
      rcases Nat.le_total limit ((rows.filter fun r => live r).drop (n * limit)).length with hle | hle
      · rw [Nat.min_eq_left hle]
      · rw [Nat.min_eq_right hle,List.drop_length,List.drop_eq_nil_of_le hle]
    refine ⟨hread,?_,hdrop⟩
    rcases h.rest with hbefore | hbefore
    · rcases Nat.lt_or_ge ((rows.filter fun r => live r).drop (n * limit)).length limit with hlt | hge
      · right
        rw [hdrop,hsucc,← List.drop_drop]
        exact List.drop_eq_nil_of_le hlt.le
      · left
        rw [hrest,hbefore,List.length_take,Nat.min_eq_left hge,hsucc,afterLive_add]
    · rw [hbefore] at hx
      simp at hx

/-- Pages read all exactly where no page falls short with live rows beyond its window. -/
theorem readsAll_iff (hrows : rows.Pairwise fun r r' => key r < key r')
    (hpos : ∀ r ∈ rows, 0 < key r) (hlimit : 0 < limit) :
    ReadsAll key live limit window rows ↔ Dense live limit window rows := by
  constructor
  · intro h k
    induction k using Nat.strong_induction_on with
    | _ k ih =>
      have hupto : ∀ m ≤ k, Standing key live limit window rows m := by
        intro m
        induction m with
        | zero => exact fun _ => standing_zero hpos
        | succ m ihm => exact fun hm => standing_succ hrows (ihm (by omega)) (ih m (by omega))
      have hstand := hupto k le_rfl
      by_contra hshort
      unfold HoldsPage at hshort
      push Not at hshort
      obtain ⟨hfew,hbeyond⟩ := hshort
      obtain ⟨x,hx⟩ := List.exists_mem_of_ne_nil _ hbeyond
      obtain ⟨hxmem,hxlive⟩ := List.mem_filter.mp hx
      have hrest : rowsAfter key (pageCursor key live limit window rows k) rows =
          afterLive live (k * limit) rows := by
        refine hstand.rest.resolve_right fun hnone => ?_
        have hnil := hstand.left.symm.trans hnone
        rw [← filter_afterLive] at hnil
        exact List.filter_eq_nil_iff.mp hnil x (List.mem_of_mem_drop hxmem) hxlive
      rw [← hrest] at hxmem hfew
      have hpage : (readPage key live limit window rows k).length < limit :=
        Nat.lt_of_le_of_lt (List.length_take_le' _ _) hfew
      have hin := (mem_rowsAfter.mp (List.mem_of_mem_drop hxmem)).1
      have hpast := h.2 k hpage x hin (by simpa using hxlive)
      have hafter := beyond_window hrows hxmem
      omega
  · intro hdense
    have hstand (n) : Standing key live limit window rows n := by
      induction n with
      | zero => exact standing_zero hpos
      | succ n ih => exact standing_succ hrows ih (hdense n)
    refine ⟨⟨(rows.filter fun r => live r).length,fun n hn => ?_⟩,fun n hshort r hr hlive => ?_⟩
    · rw [(hstand n).read]
      exact List.take_of_length_le (hn.trans (Nat.le_mul_of_pos_right n hlimit))
    · by_contra hlater
      have hpage := (hstand n).page (hdense n)
      have hlast : (rows.filter fun r => live r).drop ((n + 1) * limit) = [] := by
        rw [hpage,List.length_take] at hshort
        rw [Nat.succ_mul,← List.drop_drop]
        exact List.drop_eq_nil_of_le (by omega)
      rw [← (hstand (n + 1)).left] at hlast
      exact List.filter_eq_nil_iff.mp hlast r (mem_rowsAfter.mpr ⟨hr,by omega⟩) (by simpa using hlive)

end Pages
end Anet
