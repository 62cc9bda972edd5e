import Mathlib.Logic.Relation
import Termkit.Proofs.Markup.Pattern

/-!
# Deleting matches one by one

`Deletion t u` deletes one match of either kind, anywhere in `t`; `Deletions` is any number of
them. Two deletions from one text join in one step each, since matches do not overlap, so that
whatever the order there is only one text without a match to arrive at
(`Deletions.matchFree_unique`).
-/

namespace Termkit.Markup

open Relation

/-- The second text is the first without one match. -/
def Deletion (t u : Text) : Prop := ∃ x m y, t = x ++ m ++ y ∧ u = x ++ y ∧ IsMatch m

/-- The second text is the first after any number of deletions. -/
abbrev Deletions : Text → Text → Prop := ReflTransGen Deletion

def MatchFree (t : Text) : Prop := ∀ x m y, t = x ++ m ++ y → ¬ IsMatch m

/-! ## Deletions in a context -/

variable {t u v : Text}

theorem Deletion.append (h : Deletion t u) (a b : Text) : Deletion (a ++ t ++ b) (a ++ u ++ b) := by
  obtain ⟨x, m, y, rfl, rfl, hm⟩ := h
  exact ⟨a ++ x, m, y ++ b, by simp, by simp, hm⟩

theorem Deletions.append (h : Deletions t u) (a b : Text) :
    Deletions (a ++ t ++ b) (a ++ u ++ b) := by
  induction h with
  | refl => exact .refl
  | tail _ hs ih => exact ih.tail (hs.append a b)

theorem Deletions.cons (h : Deletions t u) (c : Char) : Deletions (c :: t) (c :: u) := by
  simpa using h.append [c] []

theorem Deletions.append_both {a a' b b' : Text} (h : Deletions a a') (k : Deletions b b') :
    Deletions (a ++ b) (a' ++ b') := by
  have h' : Deletions (a ++ b) (a' ++ b) := by simpa using h.append [] b
  have k' : Deletions (a' ++ b) (a' ++ b') := by simpa using k.append a' []
  exact h'.trans k'

/-- A match in front is deleted. -/
theorem IsMatch.deletion {m : Text} (hm : IsMatch m) (r : Text) : Deletion (m ++ r) r :=
  ⟨[], m, r, rfl, rfl, hm⟩

/-- What a deletion leaves is a subsequence. -/
theorem Deletion.sublist (h : Deletion t u) : u.Sublist t := by
  obtain ⟨x, m, y, rfl, rfl, -⟩ := h
  exact (List.sublist_append_left x m).append (List.Sublist.refl y)

theorem Deletions.sublist (h : Deletions t u) : u.Sublist t := by
  induction h with
  | refl => exact .refl t
  | tail _ hs ih => exact hs.sublist.trans ih

theorem Deletion.length_le (h : Deletion t u) : u.length + 2 ≤ t.length := by
  obtain ⟨x, m, y, rfl, rfl, hm⟩ := h
  have := hm.two_le_length
  simp only [List.length_append]
  omega

/-- Deletions leave the text as it is or make it shorter by two characters at least. -/
theorem Deletions.eq_or_length_le (h : Deletions t u) : u = t ∨ u.length + 2 ≤ t.length := by
  induction h with
  | refl => exact .inl rfl
  | tail _ hs ih =>
    have := hs.length_le
    rcases ih with rfl | ih
    · exact .inr this
    · exact .inr (by omega)

theorem Deletions.length_le (h : Deletions t u) : u.length ≤ t.length := h.sublist.length_le

theorem Deletions.eq_of_length_eq (h : Deletions t u) (hl : u.length = t.length) : u = t :=
  h.sublist.eq_of_length hl

/-- A part of a text without a match has none. -/
theorem MatchFree.part {a b : Text} (h : MatchFree (a ++ t ++ b)) : MatchFree t := by
  rintro x m y rfl hm
  exact h (a ++ x) m (y ++ b) (by simp) hm

theorem MatchFree.eq_of_deletions (hf : MatchFree t) (h : Deletions t u) : u = t := by
  rcases ReflTransGen.cases_head h with e | ⟨_, ⟨x, m, y, rfl, -, hm⟩, -⟩
  · exact e.symm
  · exact (hf x m y rfl hm).elim

/-! ## The order does not matter -/

/-- Two matches in one text are the same, or one ends before the other begins. -/
theorem IsMatch.same_or_apart {m m' x x' y y' : Text} (hm : IsMatch m) (hm' : IsMatch m')
    (h : x ++ m ++ y = x' ++ m' ++ y') :
    (x = x' ∧ y = y') ∨ (∃ b, x' = x ++ m ++ b ∧ y = b ++ m' ++ y') ∨
      ∃ b, x = x' ++ m' ++ b ∧ y' = b ++ m ++ y := by
  rw [List.append_assoc, List.append_assoc] at h
  rcases List.append_eq_append_iff.1 h with ⟨a, rfl, e⟩ | ⟨a, rfl, e⟩
  · rcases hm.append_eq_append hm' e with ⟨rfl, -, rfl⟩ | ⟨b, rfl, rfl⟩
    · exact .inl ⟨by simp, rfl⟩
    · exact .inr (.inl ⟨b, by simp, by simp⟩)
  · rcases hm'.append_eq_append hm e with ⟨rfl, -, rfl⟩ | ⟨b, rfl, rfl⟩
    · exact .inl ⟨by simp, rfl⟩
    · exact .inr (.inr ⟨b, by simp, by simp⟩)

/-- Two deletions from one text give the same, or each can still be followed by the other. -/
theorem Deletion.diamond (h : Deletion t u) (k : Deletion t v) :
    u = v ∨ ∃ w, Deletion u w ∧ Deletion v w := by
  obtain ⟨x, m, y, rfl, rfl, hm⟩ := h
  obtain ⟨x', m', y', e, rfl, hm'⟩ := k
  rcases hm.same_or_apart hm' e with ⟨rfl, rfl⟩ | ⟨b, rfl, rfl⟩ | ⟨b, rfl, rfl⟩
  · exact .inl rfl
  · exact .inr ⟨x ++ b ++ y', ⟨x ++ b, m', y', by simp, by simp, hm'⟩,
      ⟨x, m, b ++ y', by simp, by simp, hm⟩⟩
  · exact .inr ⟨x' ++ b ++ y, ⟨x', m', b ++ y, by simp, by simp, hm'⟩,
      ⟨x' ++ b, m, y, by simp, by simp, hm⟩⟩

theorem Deletions.join (h : Deletions t u) (k : Deletions t v) : Join Deletions u v := by
  refine church_rosser (fun _ b c hb hc => ?_) h k
  rcases hb.diamond hc with rfl | ⟨w, hbw, hcw⟩
  · exact ⟨b, .refl, .refl⟩
  · exact ⟨w, .single hbw, .single hcw⟩

/-- Only one text without a match is reached, in whatever order. -/
theorem Deletions.matchFree_unique (h : Deletions t u) (k : Deletions t v) (hu : MatchFree u)
    (hv : MatchFree v) : u = v := by
  obtain ⟨w, huw, hvw⟩ := h.join k
  rw [← hu.eq_of_deletions huw, hv.eq_of_deletions hvw]

end Termkit.Markup
