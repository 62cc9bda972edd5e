import Mathlib.Data.List.Pairwise

/-!
# Stable sorting

A ranking says which things come first and which are tied. `SortedFrom o items sorted` says that
`sorted` is `items` by the ranking `o`, with what is tied in the order that it had; there is just
one such list (`SortedFrom.unique`), and merge sort makes it (`sortedFrom_mergeSort`). Sorting what
was sorted before by another ranking is sorting by both of them, the later one first
(`SortedFrom.mergeSort`), where ranking a second time by the same does nothing
(`Ranking.thenBy_thenBy_self`).
-/

namespace Termkit.Listing

variable {α : Type}

/-- Which things may stand before which: of any two one before the other or each before the other,
and what may stand before a thing may stand before all that it may stand before. -/
@[ext]
structure Ranking (α : Type) where
  le : α → α → Bool
  trans : ∀ a b c, le a b = true → le b c = true → le a c = true
  total : ∀ a b, (le a b || le b a) = true

namespace Ranking

variable (o o' : Ranking α)

theorem le_refl (a : α) : o.le a a = true := by simpa using o.total a a

/-- Each may stand before the other. -/
def tied (a b : α) : Bool := o.le a b && o.le b a

theorem tied_iff {a b : α} : o.tied a b = true ↔ o.le a b = true ∧ o.le b a = true := by
  simp [tied]

theorem tied_self (a : α) : o.tied a a = true := o.tied_iff.2 ⟨o.le_refl a, o.le_refl a⟩

def indifferent : Ranking α where
  le _ _ := true
  trans _ _ _ _ _ := rfl
  total _ _ := rfl

/-- By the first ranking, and what it ties by the second. -/
def thenBy : Ranking α where
  le a b := o.le a b && (!o.le b a || o'.le a b)
  trans a b c hab hbc := by
    simp only [Bool.and_eq_true, Bool.or_eq_true, Bool.not_eq_true'] at hab hbc ⊢
    obtain ⟨hab, hab'⟩ := hab
    obtain ⟨hbc, hbc'⟩ := hbc
    refine ⟨o.trans a b c hab hbc, ?_⟩
    cases hca : o.le c a with
    | false => exact .inl rfl
    | true =>
      have hba := o.trans b c a hbc hca
      have hcb := o.trans c a b hca hab
      exact .inr (o'.trans a b c (hab'.resolve_left (by simp [hba]))
        (hbc'.resolve_left (by simp [hcb])))
  total a b := by
    have h := o.total a b
    have h' := o'.total a b
    cases hab : o.le a b <;> cases hba : o.le b a <;> simp_all

theorem thenBy_le {a b : α} :
    (o.thenBy o').le a b = true ↔ o.le a b = true ∧ (o.le b a = true → o'.le a b = true) := by
  simp only [thenBy]
  cases o.le b a <;> simp

theorem thenBy_indifferent : o.thenBy indifferent = o := by
  ext a b
  simp [thenBy, indifferent]

theorem thenBy_self : o.thenBy o = o := by
  ext a b
  simp only [thenBy]
  cases o.le a b <;> simp

theorem self_thenBy_thenBy : o.thenBy (o.thenBy o') = o.thenBy o' := by
  ext a b
  simp only [thenBy]
  cases o.le a b <;> cases o.le b a <;> simp

/-- What was ranked by before does not count again. -/
theorem thenBy_thenBy_self : o.thenBy (o'.thenBy o) = o.thenBy o' := by
  ext a b
  simp only [thenBy]
  cases o.le a b <;> cases o.le b a <;> simp

theorem tied_thenBy (a b : α) : (o.thenBy o').tied a b = (o.tied a b && o'.tied a b) := by
  simp only [tied, thenBy]
  cases o.le a b <;> cases o.le b a <;> simp

end Ranking

/-- The second list is the first one by the ranking, and what is tied stands in the order that it
had. -/
structure SortedFrom (o : Ranking α) (items sorted : List α) : Prop where
  perm : sorted.Perm items
  ordered : sorted.Pairwise (o.le · · = true)
  ties : ∀ a, sorted.filter (o.tied a) = items.filter (o.tied a)

variable {o o' : Ranking α} {items sorted xs ys : List α}

/-! ## There is one sorted list -/

theorem le_head_of_mem {x y : α} (h : (x :: xs).Pairwise (o.le · · = true)) (hy : y ∈ x :: xs) :
    o.le x y = true := by
  rcases List.mem_cons.1 hy with rfl | hy
  · exact o.le_refl _
  · exact List.rel_of_pairwise_cons h hy

theorem mem_of_ties (ht : ∀ a, xs.filter (o.tied a) = ys.filter (o.tied a)) {x : α} (hx : x ∈ xs) :
    x ∈ ys := by
  have hmem : x ∈ xs.filter (o.tied x) := List.mem_filter.2 ⟨hx, o.tied_self x⟩
  rw [ht] at hmem
  exact (List.mem_filter.1 hmem).1

/-- Ordered lists with the same ties in the same order are the same. -/
theorem eq_of_ordered_of_ties (hx : xs.Pairwise (o.le · · = true))
    (hy : ys.Pairwise (o.le · · = true))
    (ht : ∀ a, xs.filter (o.tied a) = ys.filter (o.tied a)) : xs = ys := by
  induction xs generalizing ys with
  | nil =>
    cases ys with
    | nil => rfl
    | cons y ys => cases mem_of_ties (fun a => (ht a).symm) List.mem_cons_self
  | cons x xs ih =>
    cases ys with
    | nil => cases mem_of_ties ht List.mem_cons_self
    | cons y ys =>
      have hxy : o.le x y = true :=
        le_head_of_mem hx (mem_of_ties (fun a => (ht a).symm) List.mem_cons_self)
      have hyx : o.le y x = true := le_head_of_mem hy (mem_of_ties ht List.mem_cons_self)
      -- the two heads are tied, and so each is the first among its ties
      have hheads := ht x
      rw [List.filter_cons_of_pos (o.tied_self x),
        List.filter_cons_of_pos (o.tied_iff.2 ⟨hxy, hyx⟩)] at hheads
      obtain ⟨rfl, -⟩ := List.cons.inj hheads
      refine congrArg _ (ih hx.of_cons hy.of_cons fun a => ?_)
      have hrest := ht a
      cases ha : o.tied a x with
      | true =>
        rw [List.filter_cons_of_pos ha, List.filter_cons_of_pos ha] at hrest
        exact (List.cons.inj hrest).2
      | false =>
        have ha' : ¬ o.tied a x = true := by simp [ha]
        rwa [List.filter_cons_of_neg ha', List.filter_cons_of_neg ha'] at hrest

theorem SortedFrom.unique (h : SortedFrom o items xs) (h' : SortedFrom o items ys) : xs = ys :=
  eq_of_ordered_of_ties h.ordered h'.ordered fun a => (h.ties a).trans (h'.ties a).symm

/-! ## Merge sort makes it -/

theorem ordered_ties (o : Ranking α) (items : List α) (a : α) :
    (items.filter (o.tied a)).Pairwise (o.le · · = true) := by
  refine List.pairwise_of_forall_mem_list fun x hx y hy => ?_
  have hxa := (o.tied_iff.1 (List.mem_filter.1 hx).2).2
  have hay := (o.tied_iff.1 (List.mem_filter.1 hy).2).1
  exact o.trans x a y hxa hay

theorem sortedFrom_mergeSort (o : Ranking α) (items : List α) :
    SortedFrom o items (items.mergeSort o.le) where
  perm := List.mergeSort_perm items o.le
  ordered := List.pairwise_mergeSort o.trans o.total items
  ties a := by
    have hsub : (items.filter (o.tied a)).Sublist (items.mergeSort o.le) :=
      List.sublist_mergeSort o.trans o.total (ordered_ties o items a) List.filter_sublist
    have hties := hsub.filter (o.tied a)
    rw [List.filter_filter, funext fun _ => Bool.and_self _] at hties
    exact (hties.eq_of_length ((List.mergeSort_perm items o.le).filter _).length_eq.symm).symm

/-! ## One sort after another -/

theorem sortedFrom_self (items : List α) : SortedFrom .indifferent items items where
  perm := .refl _
  ordered := List.pairwise_of_forall_mem_list fun _ _ _ _ => rfl
  ties _ := rfl

/-- A list that is ordered by one ranking, and whose ties are by another, is ordered by both. -/
theorem ordered_thenBy (h : xs.Pairwise (o.le · · = true))
    (ht : ∀ a, (xs.filter (o.tied a)).Pairwise (o'.le · · = true)) :
    xs.Pairwise ((o.thenBy o').le · · = true) := by
  induction xs with
  | nil => exact .nil
  | cons x xs ih =>
    obtain ⟨hx, h⟩ := List.pairwise_cons.1 h
    refine List.pairwise_cons.2 ⟨fun y hy => (o.thenBy_le o').2 ⟨hx y hy, fun hyx => ?_⟩,
      ih h fun a => ?_⟩
    · have hties := ht x
      rw [List.filter_cons_of_pos (o.tied_self x)] at hties
      have hy' : y ∈ xs.filter (o.tied x) := List.mem_filter.2 ⟨hy, o.tied_iff.2 ⟨hx y hy, hyx⟩⟩
      exact List.rel_of_pairwise_cons hties hy'
    · exact (ht a).sublist ((List.sublist_cons_self x xs).filter _)

theorem filter_thenBy_tied (o o' : Ranking α) (xs : List α) (a : α) :
    xs.filter ((o.thenBy o').tied a) = (xs.filter (o'.tied a)).filter (o.tied a) := by
  rw [List.filter_filter]
  exact List.filter_congr fun b _ => o.tied_thenBy o' a b

theorem filter_tied_thenBy (o o' : Ranking α) (xs : List α) (a : α) :
    xs.filter ((o.thenBy o').tied a) = (xs.filter (o.tied a)).filter (o'.tied a) := by
  rw [List.filter_filter]
  exact List.filter_congr fun b _ => (o.tied_thenBy o' a b).trans (Bool.and_comm ..)

/-- Sorting again by another ranking ranks by that one first, and what it ties by the old one. -/
theorem SortedFrom.mergeSort (h : SortedFrom o' items sorted) (o : Ranking α) :
    SortedFrom (o.thenBy o') items (sorted.mergeSort o.le) := by
  have hs := sortedFrom_mergeSort o sorted
  refine ⟨hs.perm.trans h.perm, ordered_thenBy hs.ordered fun a => ?_, fun a => ?_⟩
  · rw [hs.ties]
    exact h.ordered.sublist List.filter_sublist
  · calc
      (sorted.mergeSort o.le).filter ((o.thenBy o').tied a)
        = ((sorted.mergeSort o.le).filter (o.tied a)).filter (o'.tied a) := filter_tied_thenBy ..
      _ = (sorted.filter (o.tied a)).filter (o'.tied a) := by rw [hs.ties]
      _ = sorted.filter ((o.thenBy o').tied a) := (filter_tied_thenBy ..).symm
      _ = (sorted.filter (o'.tied a)).filter (o.tied a) := filter_thenBy_tied ..
      _ = (items.filter (o'.tied a)).filter (o.tied a) := by rw [h.ties]
      _ = items.filter ((o.thenBy o').tied a) := (filter_thenBy_tied ..).symm

end Termkit.Listing
