import Mathlib.Data.List.Induction
import Termkit.Listing.Sort
import Termkit.Proofs.Listing.Stability

/-!
# Sorting a listing again and again

Each sort of a listing is a stable one by its own ranking, so that a sequence of sorts is one sort
by all their rankings, the last first (`sortedFrom_sortAll`). There are two kinds, and a ranking
that stands further back a second time does not count: what is left is the ranking of the last sort,
and of the other kind if it was used at all (`thenBy_rankingAfter`, `sortAll_last_of_each`).
-/

namespace Termkit.Listing

inductive Criterion where
  | name
  | index
  deriving DecidableEq, Repr

namespace Criterion

def other : Criterion → Criterion
  | name => index
  | index => name

theorem other_other (k : Criterion) : k.other.other = k := by cases k <;> rfl

theorem other_ne (k : Criterion) : k.other ≠ k := by cases k <;> decide

theorem eq_or_eq_other (j k : Criterion) : j = k ∨ j = k.other := by
  cases j <;> cases k <;> decide

end Criterion

variable {α : Type}

/-! ## Rankings of the two kinds -/

theorem keyLe_iff {a b : Nat × Nat} : keyLe a b = true ↔ a.1 < b.1 ∨ a.1 = b.1 ∧ a.2 ≤ b.2 := by
  simp [keyLe]

def Ranking.byName [Named α] : Ranking α where
  le a b := keyLe (nameKey (Named.name a)) (nameKey (Named.name b))
  trans a b c hab hbc := by
    rw [keyLe_iff] at hab hbc ⊢
    omega
  total a b := by
    rw [Bool.or_eq_true, keyLe_iff, keyLe_iff]
    omega

def Ranking.byIndex [Indexed α] : Ranking α where
  le a b := Indexed.index b ≤ Indexed.index a
  trans a b c hab hbc := by
    rw [decide_eq_true_eq] at hab hbc ⊢
    omega
  total a b := by
    rw [Bool.or_eq_true, decide_eq_true_eq, decide_eq_true_eq]
    omega

variable [Named α] [Indexed α]

def Criterion.ranking : Criterion → Ranking α
  | name => .byName
  | index => .byIndex

def Criterion.sort : Criterion → List α → List α
  | name => sortByName
  | index => sortByIndex

theorem Criterion.sort_eq (k : Criterion) (items : List α) :
    k.sort items = items.mergeSort k.ranking.le := by
  cases k <;> rfl

/-! ## Sequences of sorts -/

def sortAll (ks : List Criterion) (items : List α) : List α :=
  ks.foldl (fun items k => k.sort items) items

/-- The ranking by all criteria of a sequence, the last first. -/
def rankingAfter (ks : List Criterion) : Ranking α :=
  ks.foldl (fun o k => k.ranking.thenBy o) .indifferent

theorem rankingAfter_concat (init : List Criterion) (last : Criterion) :
    (rankingAfter (init ++ [last]) : Ranking α) = last.ranking.thenBy (rankingAfter init) := by
  simp [rankingAfter]

theorem SortedFrom.foldl_sort {o : Ranking α} {items sorted : List α}
    (h : SortedFrom o items sorted) (ks : List Criterion) :
    SortedFrom (ks.foldl (fun o k => k.ranking.thenBy o) o) items (sortAll ks sorted) := by
  induction ks generalizing o sorted with
  | nil => exact h
  | cons k ks ih =>
    have hk := h.mergeSort k.ranking
    rw [← k.sort_eq] at hk
    exact ih hk

/-- A sequence of sorts is one stable sort. -/
theorem sortedFrom_sortAll (ks : List Criterion) (items : List α) :
    SortedFrom (rankingAfter ks) items (sortAll ks items) :=
  (sortedFrom_self items).foldl_sort ks

/-- Behind a criterion only the other one still counts, wherever it was used. -/
theorem thenBy_rankingAfter (init : List Criterion) (k : Criterion) :
    (k.ranking.thenBy (rankingAfter init) : Ranking α) =
      if k.other ∈ init then k.ranking.thenBy k.other.ranking else k.ranking := by
  induction init using List.reverseRecOn generalizing k with
  | nil =>
    rw [if_neg List.not_mem_nil]
    exact k.ranking.thenBy_indifferent
  | append_singleton init j ih =>
    rw [rankingAfter_concat, ih]
    rcases j.eq_or_eq_other k with rfl | rfl
    · have hmem : j.other ∈ init ++ [j] ↔ j.other ∈ init := by simp [j.other_ne]
      rw [if_congr hmem rfl rfl]
      split
      · exact Ranking.self_thenBy_thenBy ..
      · exact Ranking.thenBy_self _
    · rw [if_pos (List.mem_append_right _ List.mem_cons_self), k.other_other]
      split
      · exact Ranking.thenBy_thenBy_self ..
      · rfl

theorem sortedFrom_concat (init : List Criterion) (last : Criterion) (items : List α) :
    SortedFrom
      (if last.other ∈ init then last.ranking.thenBy last.other.ranking else last.ranking)
      items (sortAll (init ++ [last]) items) := by
  rw [← thenBy_rankingAfter, ← rankingAfter_concat]
  exact sortedFrom_sortAll _ items

/-- What was done before the last sort counts only by whether the other criterion was used. -/
theorem sortAll_concat_congr (init init' : List Criterion) {last : Criterion}
    (h : last.other ∈ init ↔ last.other ∈ init') (items : List α) :
    sortAll (init ++ [last]) items = sortAll (init' ++ [last]) items := by
  have hs := sortedFrom_concat init last items
  rw [if_congr h rfl rfl] at hs
  exact hs.unique (sortedFrom_concat init' last items)

/-- Of a sequence of sorts only the last counts, and of those before it the other kind, if it was
used: the sequence comes to at most two sorts, and makes the one list that is ranked by the last
criterion, what that ties by the other one if it was used, and what is still tied as it stood. -/
theorem sortAll_last_of_each (init : List Criterion) (last : Criterion) (items : List α) :
    sortAll (init ++ [last]) items =
        sortAll (if last.other ∈ init then [last.other, last] else [last]) items ∧
      ∀ sorted, SortedFrom
        (if last.other ∈ init then last.ranking.thenBy last.other.ranking else last.ranking)
        items sorted ↔ sorted = sortAll (init ++ [last]) items := by
  have hsorted := sortedFrom_concat init last items
  refine ⟨?_, fun sorted => ⟨fun h => h.unique hsorted, fun h => h ▸ hsorted⟩⟩
  split
  · next h => exact sortAll_concat_congr init [last.other] (by simp [h]) items
  · next h => exact sortAll_concat_congr init [] (by simp [h]) items

end Termkit.Listing
