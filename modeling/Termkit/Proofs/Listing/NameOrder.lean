import Mathlib.Data.List.Basic
import Termkit.Proofs.Listing.RepeatedSorting

/-!
# Listings by name

What a reader sees of a listing that was sorted by name, `ListedByName`: the empty names come first,
the names come by the first character of their lowercase, those that begin with a dot stand together
and go by what follows the dot, and names that are alike so far stand as they stood before. Just one
list is like that for each input, and it is the sorted one (`listedByName_iff`). No character but
the dot has a lowercase that begins with a dot (`exists_lowercase`), so that a dot in the key of a
name is a dot in the name.
-/

namespace Termkit.Listing

open Text (lowercase)

/-! ## The first character of the lowercase -/

theorem caseRuns_bounds :
    ∀ r ∈ Text.caseRuns, '.'.toNat < r.first ∧ '.'.toNat < r.first + r.shift := by decide +kernel

theorem ofNat_ne_dot {n : Nat} (h : '.'.toNat < n) : Char.ofNat n ≠ '.' := by
  by_cases hv : n.isValidChar
  · have hn : Char.ofNat n = Char.ofNatAux n hv := dif_pos hv
    intro e
    exact absurd (congrArg Char.toNat (hn.symm.trans e)) (Nat.ne_of_gt h)
  · have hn : Char.ofNat n = '\u0000' := dif_neg hv
    rw [hn]
    decide

theorem exists_lowercase (c : Char) : ∃ d rest, lowercase c = d :: rest ∧ (d = '.' ↔ c = '.') := by
  unfold lowercase
  split
  · next h =>
    subst h
    exact ⟨_, _, rfl, by decide⟩
  · split
    · next r hr =>
      have hcovers := List.find?_some hr
      have := caseRuns_bounds r (List.mem_of_find?_eq_some hr)
      simp only [Text.CaseRun.covers, Bool.and_eq_true, decide_eq_true_eq] at hcovers
      have hc : c ≠ '.' := by
        rintro rfl
        omega
      have hd : Char.ofNat (c.toNat + r.shift).toNat ≠ '.' := ofNat_ne_dot (by omega)
      exact ⟨_, _, rfl, iff_of_false hd hc⟩
    · exact ⟨_, _, rfl, .rfl⟩

theorem lowercase_dot : lowercase '.' = ['.'] := by decide +kernel

/-- The first character of the lowercase of a text. -/
def initial? (t : Text) : Option Char := (t.flatMap lowercase).head?

def IsDotted (name : Text) : Prop := name.head? = some '.'

instance (name : Text) : Decidable (IsDotted name) := inferInstanceAs (Decidable (_ = _))

variable {s t : Text}

theorem initial?_cons (c : Char) (t : Text) : initial? (c :: t) = (lowercase c).head? := by
  obtain ⟨d, rest, h, -⟩ := exists_lowercase c
  simp [initial?, h]

theorem initial?_eq_none_iff : initial? t = none ↔ t = [] := by
  cases t with
  | nil => exact iff_of_true rfl rfl
  | cons c t =>
    obtain ⟨d, rest, h, -⟩ := exists_lowercase c
    simp [initial?_cons, h]

theorem initial?_eq_dot_iff : initial? t = some '.' ↔ IsDotted t := by
  cases t with
  | nil => exact iff_of_false nofun nofun
  | cons c t =>
    obtain ⟨d, rest, h, hd⟩ := exists_lowercase c
    simp [initial?_cons, IsDotted, h, hd]

theorem IsDotted.eq_cons (h : IsDotted t) : t = '.' :: t.tail := List.eq_cons_of_mem_head? h

/-! ## Keys -/

theorem rank_le_iff {a b : Option Char} :
    rank a ≤ rank b ↔ (b = none → a = none) ∧ ∀ c ∈ a, ∀ d ∈ b, c.toNat ≤ d.toNat := by
  cases a <;> cases b <;> simp [rank]

theorem rank_inj {a b : Option Char} : rank a = rank b ↔ a = b := by
  cases a <;> cases b <;> simp [rank, Char.toNat_inj]

theorem nameKey_eq (t : Text) :
    nameKey t = (rank (initial? t), if IsDotted t then rank (initial? t.tail) else 0) := by
  cases t with
  | nil => rfl
  | cons c t =>
    by_cases hc : c = '.'
    · subst hc
      have hlow : ('.' :: t).flatMap lowercase = '.' :: t.flatMap lowercase := by
        rw [List.flatMap_cons, lowercase_dot]
        rfl
      simp only [nameKey, hlow, initial?, IsDotted, List.head?_cons, List.tail_cons, if_true]
    · obtain ⟨d, rest, h, hd⟩ := exists_lowercase c
      have hlow : (c :: t).flatMap lowercase = d :: (rest ++ t.flatMap lowercase) := by
        rw [List.flatMap_cons, h]
        rfl
      have hdot : ¬ IsDotted (c :: t) := fun e => hc (Option.some.inj e)
      rw [if_neg hdot, initial?, hlow]
      simp only [nameKey, hlow]
      split
      · next e => exact (hc (hd.1 (List.cons.inj e).1)).elim
      · rfl

theorem rank_initial?_eq_dot_iff : rank (initial? t) = rank (some '.') ↔ IsDotted t :=
  rank_inj.trans initial?_eq_dot_iff

theorem keyLe_nameKey_iff :
    keyLe (nameKey s) (nameKey t) = true ↔
      rank (initial? s) ≤ rank (initial? t) ∧
        (IsDotted s → IsDotted t → rank (initial? s.tail) ≤ rank (initial? t.tail)) := by
  have hs := rank_initial?_eq_dot_iff (t := s)
  have ht := rank_initial?_eq_dot_iff (t := t)
  rw [keyLe_iff, nameKey_eq, nameKey_eq]
  by_cases ds : IsDotted s <;> by_cases dt : IsDotted t <;>
    simp only [ds, dt, iff_true, iff_false, if_true, if_false, true_implies, false_implies,
      implies_true, and_true, Nat.le_refl] at hs ht ⊢ <;> omega

/-- Names that go to one place of a listing: their lowercase begins with the same character, and if
that is a dot, it goes on with the same character or ends there. -/
def Alike (s t : Text) : Prop :=
  initial? s = initial? t ∧ (IsDotted s → initial? s.tail = initial? t.tail)

instance (s t : Text) : Decidable (Alike s t) := inferInstanceAs (Decidable (_ ∧ (_ → _)))

/-- What follows does not count, nor the case of a letter. -/
theorem alike_cons {c d : Char} (h : lowercase c = lowercase d) (hc : c ≠ '.') (s t : Text) :
    Alike (c :: s) (d :: t) := by
  refine ⟨?_, fun hdot => (hc (Option.some.inj hdot)).elim⟩
  rw [initial?_cons, initial?_cons, h]

theorem alike_dot_cons {c d : Char} (h : lowercase c = lowercase d) (s t : Text) :
    Alike ('.' :: c :: s) ('.' :: d :: t) := by
  refine ⟨?_, fun _ => ?_⟩
  · rw [initial?_cons, initial?_cons]
  · rw [List.tail_cons, List.tail_cons, initial?_cons, initial?_cons, h]

theorem nameKey_eq_iff : nameKey s = nameKey t ↔ Alike s t := by
  rw [nameKey_eq, nameKey_eq, Prod.mk.injEq, rank_inj, Alike]
  refine and_congr_right fun h => ?_
  have hdot : IsDotted s ↔ IsDotted t := by rw [← initial?_eq_dot_iff, h, initial?_eq_dot_iff]
  by_cases ds : IsDotted s
  · simp only [ds, hdot.1 ds, if_true, rank_inj, true_implies]
  · simp only [ds, mt hdot.2 ds, if_false, false_implies]

/-- One of two names that begin with a dot may stand before the other: the lone dot comes first, and
the others go by the first character of the lowercase behind the dot. -/
def DotLe (s t : Text) : Prop :=
  (t = ['.'] → s = ['.']) ∧ ∀ c ∈ initial? s.tail, ∀ d ∈ initial? t.tail, c.toNat ≤ d.toNat

theorem IsDotted.tail_eq_nil_iff (h : IsDotted t) : t.tail = [] ↔ t = ['.'] := by
  obtain ⟨r, rfl⟩ : ∃ r, t = '.' :: r := ⟨_, h.eq_cons⟩
  simp

theorem rank_tail_le_iff (hs : IsDotted s) (ht : IsDotted t) :
    rank (initial? s.tail) ≤ rank (initial? t.tail) ↔ DotLe s t := by
  rw [rank_le_iff, initial?_eq_none_iff, initial?_eq_none_iff, hs.tail_eq_nil_iff,
    ht.tail_eq_nil_iff, DotLe]

/-! ## Blocks of a list -/

section

variable {α : Type} {xs front block rest : List α}

/-- A property that goes from each thing to those before it holds of the things in front. -/
theorem exists_split {p : α → Prop} (h : xs.Pairwise fun a b => p b → p a) :
    ∃ front rest, xs = front ++ rest ∧ (∀ a ∈ front, p a) ∧ ∀ a ∈ rest, ¬ p a := by
  induction xs with
  | nil => exact ⟨[], [], rfl, List.forall_mem_nil _, List.forall_mem_nil _⟩
  | cons x xs ih =>
    obtain ⟨hx, h⟩ := List.pairwise_cons.1 h
    by_cases hp : p x
    · obtain ⟨front, rest, rfl, hf, hr⟩ := ih h
      exact ⟨x :: front, rest, rfl, List.forall_mem_cons.2 ⟨hp, hf⟩, hr⟩
    · have hr : ∀ y ∈ xs, ¬ p y := fun y hy hpy => hp (hx y hy hpy)
      exact ⟨[], x :: xs, rfl, List.forall_mem_nil _, List.forall_mem_cons.2 ⟨hp, hr⟩⟩

/-- Where a number goes up along a list, the things with one value of it stand together. -/
theorem exists_block {f : α → Nat} (h : xs.Pairwise fun a b => f a ≤ f b) (n : Nat) :
    ∃ front block rest, xs = front ++ block ++ rest ∧
      (∀ a ∈ front ++ rest, f a ≠ n) ∧ ∀ a ∈ block, f a = n := by
  obtain ⟨front, back, rfl, hfront, hback⟩ :=
    exists_split (p := fun a => f a < n) (h.imp fun hab hb => Nat.lt_of_le_of_lt hab hb)
  obtain ⟨block, rest, rfl, hblock, hrest⟩ :=
    exists_split (p := fun a => f a ≤ n)
      ((List.pairwise_append.1 h).2.1.imp fun hab hb => Nat.le_trans hab hb)
  obtain ⟨hlow, -⟩ := List.forall_mem_append.1 hback
  refine ⟨front, block, rest, (List.append_assoc ..).symm, ?_, fun a ha => ?_⟩
  · refine List.forall_mem_append.2 ⟨fun a ha => ?_, fun a ha => ?_⟩
    · exact Nat.ne_of_lt (hfront a ha)
    · exact Nat.ne_of_gt (Nat.lt_of_not_le (hrest a ha))
  · exact Nat.le_antisymm (hblock a ha) (Nat.le_of_not_lt (hlow a ha))

/-- What relates the things with a property in a list relates them in the block where they stand. -/
theorem pairwise_block_iff {q : α → Prop} [DecidablePred q] {R : α → α → Prop}
    (ho : ∀ a ∈ front ++ rest, ¬ q a) (hb : ∀ a ∈ block, q a) :
    (front ++ block ++ rest).Pairwise (fun a b => q a → q b → R a b) ↔ block.Pairwise R := by
  obtain ⟨hf, hr⟩ := List.forall_mem_append.1 ho
  have hfilter : (front ++ block ++ rest).filter (q ·) = block := by
    have hfront : front.filter (q ·) = [] := List.filter_eq_nil_iff.2 (by simpa using hf)
    have hblock : block.filter (q ·) = block := List.filter_eq_self.2 (by simpa using hb)
    have hrest : rest.filter (q ·) = [] := List.filter_eq_nil_iff.2 (by simpa using hr)
    rw [List.filter_append, List.filter_append, hfront, hblock, hrest]
    simp
  have h : ((front ++ block ++ rest).filter (q ·)).Pairwise R ↔ block.Pairwise R := by rw [hfilter]
  simpa only [List.pairwise_filter, decide_eq_true_eq] using h

end

/-! ## Sorted listings -/

section

open Named (name)

variable {α : Type} [Named α] {a b : α} {items sorted : List α}

theorem tied_byName (a b : α) : Ranking.byName.tied a b = decide (Alike (name a) (name b)) := by
  rw [Bool.eq_iff_iff, Ranking.tied_iff, decide_eq_true_iff, ← nameKey_eq_iff, Prod.ext_iff]
  simp only [Ranking.byName, keyLe_iff]
  omega

theorem le_byName_iff :
    Ranking.byName.le a b = true ↔
      ((name b = [] → name a = []) ∧
        ∀ c ∈ initial? (name a), ∀ d ∈ initial? (name b), c.toNat ≤ d.toNat) ∧
      (IsDotted (name a) → IsDotted (name b) → DotLe (name a) (name b)) := by
  refine keyLe_nameKey_iff.trans (and_congr ?_ ?_)
  · rw [rank_le_iff, initial?_eq_none_iff, initial?_eq_none_iff]
  · exact forall₂_congr fun ha hb => rank_tail_le_iff ha hb

/-- The second list is the first one as a listing by name. -/
structure ListedByName (items sorted : List α) : Prop where
  perm : sorted.Perm items
  /-- Empty names come first. -/
  empties : sorted.Pairwise fun a b => name b = [] → name a = []
  /-- The names go by the first character of their lowercase. -/
  letters : sorted.Pairwise fun a b =>
    ∀ c ∈ initial? (name a), ∀ d ∈ initial? (name b), c.toNat ≤ d.toNat
  /-- The names that begin with a dot stand together, in an order of their own. -/
  dotted : ∃ front block rest : List α, sorted = front ++ block ++ rest ∧
    (∀ a ∈ front ++ rest, ¬ IsDotted (name a)) ∧ (∀ a ∈ block, IsDotted (name a)) ∧
      block.Pairwise fun a b => DotLe (name a) (name b)
  /-- Names that are alike keep their order. -/
  ties : ∀ a : α, sorted.filter (fun b => Alike (name a) (name b)) =
    items.filter fun b => Alike (name a) (name b)

theorem ordered_byName_iff :
    sorted.Pairwise (Ranking.byName.le · · = true) ↔
      (sorted.Pairwise (fun a b => name b = [] → name a = []) ∧
        sorted.Pairwise fun a b =>
          ∀ c ∈ initial? (name a), ∀ d ∈ initial? (name b), c.toNat ≤ d.toNat) ∧
      sorted.Pairwise fun a b =>
        IsDotted (name a) → IsDotted (name b) → DotLe (name a) (name b) := by
  rw [← List.pairwise_and_iff, ← List.pairwise_and_iff]
  exact List.Pairwise.iff fun a b => le_byName_iff

theorem exists_dotted (h : sorted.Pairwise (Ranking.byName.le · · = true)) :
    ∃ front block rest : List α, sorted = front ++ block ++ rest ∧
      (∀ a ∈ front ++ rest, ¬ IsDotted (name a)) ∧ (∀ a ∈ block, IsDotted (name a)) ∧
        block.Pairwise fun a b => DotLe (name a) (name b) := by
  have hletters : sorted.Pairwise fun a b => rank (initial? (name a)) ≤ rank (initial? (name b)) :=
    h.imp fun hab => (keyLe_nameKey_iff.1 hab).1
  obtain ⟨front, block, rest, rfl, ho, hb⟩ := exists_block hletters (rank (some '.'))
  simp only [ne_eq, rank_initial?_eq_dot_iff] at ho hb
  exact ⟨front, block, rest, rfl, ho, hb, (pairwise_block_iff ho hb).1 (ordered_byName_iff.1 h).2⟩

theorem listedByName_iff_sortedFrom :
    ListedByName items sorted ↔ SortedFrom .byName items sorted := by
  constructor
  · rintro ⟨hperm, hempties, hletters, ⟨front, block, rest, rfl, ho, hb, hblock⟩, hties⟩
    have hdotted := (pairwise_block_iff ho hb).2 hblock
    exact ⟨hperm, ordered_byName_iff.2 ⟨⟨hempties, hletters⟩, hdotted⟩, by
      simpa only [funext (tied_byName _)] using hties⟩
  · intro h
    obtain ⟨⟨hempties, hletters⟩, -⟩ := ordered_byName_iff.1 h.ordered
    have hties := h.ties
    simp only [funext (tied_byName _)] at hties
    exact ⟨h.perm, hempties, hletters, exists_dotted h.ordered, hties⟩

/-- Sorting by name makes a listing by name, and there is no other one of the same things. Names
that begin with the same letter, or behind a dot go on with the same one, are alike whatever follows
and whatever the case. -/
theorem listedByName_iff (items : List α) :
    (∀ sorted, ListedByName items sorted ↔ sorted = sortByName items) ∧
      ∀ c d s t, lowercase c = lowercase d →
        (c ≠ '.' → Alike (c :: s) (d :: t)) ∧ Alike ('.' :: c :: s) ('.' :: d :: t) := by
  have hsorted : SortedFrom .byName items (sortByName items) := sortedFrom_mergeSort .byName items
  refine ⟨fun sorted => listedByName_iff_sortedFrom.trans ?_, fun c d s t h => ?_⟩
  · exact ⟨fun h => h.unique hsorted, fun h => h ▸ hsorted⟩
  · exact ⟨fun hc => alike_cons h hc s t, alike_dot_cons h s t⟩

/-- A listing that sorting leaves as it is: behind the empty name come a sign, the lone dot, other
names with a dot, and letters. The Kelvin sign goes with the letter, and of a lowercase of two
characters the first one counts. -/
theorem listedByName_iff_kelvin :
    let _ : Named Text := ⟨id⟩
    let names : List Text :=
      [[], ['!'], ['.'], ['.', '\u0130', 'a'], ['.', 'i'], ['b'], ['\u212a', 'b'], ['k']]
    ListedByName names names ∧
      lowercase '\u212a' = lowercase 'k' ∧ '\u212a' ≠ '.' ∧ Alike ['\u212a', 'b'] ['k'] := by
  intro _ names
  obtain ⟨hlist, halike⟩ := listedByName_iff names
  have hpairs : names.Pairwise (Ranking.byName.le · · = true) := by decide +kernel
  have hsorted : sortByName names = names := List.mergeSort_of_pairwise hpairs
  have hlow : lowercase '\u212a' = lowercase 'k' := by decide +kernel
  have hne : '\u212a' ≠ '.' := by decide
  exact ⟨(hlist names).2 hsorted.symm, hlow, hne, (halike '\u212a' 'k' ['b'] [] hlow).1 hne⟩

end

end Termkit.Listing
