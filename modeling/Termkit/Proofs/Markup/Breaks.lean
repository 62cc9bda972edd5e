import Termkit.Proofs.Markup.Stripping

/-!
# Stripping between breaks

A break is a character that stands in no tag and in no colour sequence, as a newline or a blank. A
match lies on one side of it, and deletions on both sides leave it where it is, so that stripping
treats what stands between breaks piece by piece (`strip_append_break`, `strip_between_breaks`).
-/

namespace Termkit.Markup

/-- The characters that stand in matches: those of tags' names and parameters, and those that tags
and colour sequences begin and end with. -/
def isMatchChar (c : Char) : Bool :=
  isTagChar c || c == '{' || c == '}' || c == '/' || c == '\x1b' || c == '['

/-- A character that stands in no match. -/
def IsBreak (c : Char) : Prop := isMatchChar c = false

instance (c : Char) : Decidable (IsBreak c) := inferInstanceAs (Decidable (_ = _))

/-- The characters of matches are ESC and visible characters of ASCII. -/
theorem toNat_of_isMatchChar {c : Char} (h : isMatchChar c = true) :
    c.toNat = 0x1b ∨ 0x21 ≤ c.toNat ∧ c.toNat ≤ 0x7d := by
  simp only [isMatchChar, isTagChar, Text.isLetter, Text.isDigit, Bool.or_eq_true,
    Bool.and_eq_true, decide_eq_true_eq, beq_iff_eq, Char.le_def, UInt32.le_iff_toNat_le,
    Char.toNat_val, ← Char.toNat_inj, Char.reduceToNat] at h
  omega

theorem isMatchChar_of_isTagChar {c : Char} (h : isTagChar c = true) : isMatchChar c = true := by
  simp [isMatchChar, h]

theorem IsTagName.isMatchChar {name : Text} (h : IsTagName name) :
    ∀ c ∈ name, isMatchChar c = true := fun c hc => isMatchChar_of_isTagChar (h c hc)

theorem isTagChar_of_isParameter {c : Char} (h : isParameter c = true) : isTagChar c = true := by
  simp only [isParameter, Bool.or_eq_true] at h
  rcases h with h | h <;> simp [isTagChar, h]

theorem IsMatch.isMatchChar {m : Text} (h : IsMatch m) : ∀ c ∈ m, isMatchChar c = true := by
  rcases h with (@⟨name, hn⟩ | @⟨name, hn⟩) | @⟨ps, hp⟩
  · refine List.forall_mem_cons.2 ⟨by decide, List.forall_mem_append.2 ⟨hn.isMatchChar, ?_⟩⟩
    exact List.forall_mem_singleton.2 (by decide)
  · refine List.forall_mem_cons.2 ⟨by decide, List.forall_mem_cons.2 ⟨by decide, ?_⟩⟩
    exact List.forall_mem_append.2 ⟨hn.isMatchChar, List.forall_mem_singleton.2 (by decide)⟩
  · have hps : IsTagName ps := fun c hc => isTagChar_of_isParameter (hp c hc)
    refine List.forall_mem_cons.2 ⟨by decide, List.forall_mem_cons.2 ⟨by decide, ?_⟩⟩
    exact List.forall_mem_append.2 ⟨hps.isMatchChar, List.forall_mem_singleton.2 (by decide)⟩

section

variable {a b : Text} {c : Char}

theorem IsBreak.not_mem (hc : IsBreak c) {m : Text} (hm : IsMatch m) : c ∉ m := by
  intro h
  rw [IsBreak, hm.isMatchChar c h] at hc
  cases hc

/-- A match beside a break lies in front of it or behind it. -/
theorem MatchFree.append_break (ha : MatchFree a) (hb : MatchFree b) (hc : IsBreak c) :
    MatchFree (a ++ c :: b) := by
  intro x m y e hm
  rw [List.append_assoc] at e
  rcases List.append_eq_append_iff.1 e with ⟨d, -, e⟩ | ⟨d, rfl, hd⟩
  · -- the match begins at the break or behind it
    cases d with
    | nil =>
      obtain ⟨_, _, rfl, -⟩ := hm.uncons
      obtain ⟨rfl, -⟩ := List.cons.inj e
      exact hc.not_mem hm List.mem_cons_self
    | cons _ d =>
      obtain ⟨-, rfl⟩ := List.cons.inj e
      exact hb d m y (by simp) hm
  · rcases List.append_eq_append_iff.1 hd with ⟨d', rfl, -⟩ | ⟨d', rfl, hb'⟩
    · exact ha x m d' (by simp) hm
    · cases d' with
      | nil => exact ha x d [] (by simp) (by simpa using hm)
      | cons _ d' =>
        -- the match begins in front of the break and ends at it or behind it
        obtain ⟨rfl, -⟩ := List.cons.inj hb'
        exact hc.not_mem hm (List.mem_append_right _ List.mem_cons_self)

/-- What stands in front of a break and what stands behind it are stripped apart. -/
theorem strip_append_break (hc : IsBreak c) (a b : Text) :
    strip (a ++ c :: b) = strip a ++ c :: strip b :=
  have hd : Deletions (a ++ c :: b) (strip a ++ c :: strip b) :=
    (strip_deletions a).append_both ((strip_deletions b).cons c)
  (hd.eq_strip ((matchFree_strip a).append_break (matchFree_strip b) hc)).symm

/-- Breaks in front of a text stay. -/
theorem strip_breaks_append {w : Text} (h : ∀ c ∈ w, IsBreak c) (t : Text) :
    strip (w ++ t) = w ++ strip t := by
  induction w with
  | nil => rfl
  | cons c w ih =>
    obtain ⟨hc, h⟩ := List.forall_mem_cons.1 h
    rw [List.cons_append, List.cons_append, ← ih h]
    exact strip_append_break hc [] (w ++ t)

/-- Breaks behind a text stay. -/
theorem strip_append_breaks {w : Text} (h : ∀ c ∈ w, IsBreak c) (t : Text) :
    strip (t ++ w) = strip t ++ w := by
  cases w with
  | nil => rw [List.append_nil, List.append_nil]
  | cons c w =>
    obtain ⟨hc, h⟩ := List.forall_mem_cons.1 h
    have hw : strip (w ++ []) = w ++ [] := strip_breaks_append h []
    rw [List.append_nil] at hw
    rw [strip_append_break hc, hw]

end

/-- Deletions leave all breaks, in their order. -/
theorem Deletions.filter_isBreak {t u : Text} (h : Deletions t u) :
    u.filter (IsBreak ·) = t.filter (IsBreak ·) := by
  induction h with
  | refl => rfl
  | tail _ hs ih =>
    obtain ⟨x, m, y, rfl, rfl, hm⟩ := hs
    have hnil : m.filter (IsBreak ·) = [] :=
      List.filter_eq_nil_iff.2 fun c hc => by simpa using fun hb : IsBreak c => hb.not_mem hm hc
    rw [← ih]
    simp [hnil]

theorem strip_pieces (first : Text) (rest : List (Char × Text))
    (h : ∀ piece ∈ rest, IsBreak piece.1) :
    strip (first ++ rest.flatMap fun piece => piece.1 :: piece.2) =
      strip first ++ rest.flatMap fun piece => piece.1 :: strip piece.2 := by
  induction rest generalizing first with
  | nil => simp
  | cons piece rest ih =>
    obtain ⟨hc, h⟩ := List.forall_mem_cons.1 h
    rw [List.flatMap_cons, List.flatMap_cons, List.cons_append, strip_append_break hc, ih _ h,
      List.cons_append]

/-- Stripping works on each side of a break by itself, and so on any number of pieces with breaks
between them; and it removes no break. -/
theorem strip_between_breaks (c : Char) (hc : IsBreak c) :
    (∀ a b, strip (a ++ c :: b) = strip a ++ c :: strip b) ∧
      (∀ (first : Text) (rest : List (Char × Text)), (∀ piece ∈ rest, IsBreak piece.1) →
        strip (first ++ rest.flatMap fun piece => piece.1 :: piece.2) =
          strip first ++ rest.flatMap fun piece => piece.1 :: strip piece.2) ∧
      ∀ t, (strip t).filter (IsBreak ·) = t.filter (IsBreak ·) :=
  ⟨strip_append_break hc, strip_pieces, fun t => (strip_deletions t).filter_isBreak⟩

/-- Halves of a tag and of a colour sequence stay where a newline keeps them apart, and go where
they stand on one line. -/
theorem strip_between_breaks_halves :
    IsBreak '\n' ∧
      strip (['x', '{', '{', 'a', '}', 'b'] ++
        '\n' :: ['}', '\x1b', '{', '}', '[', '1', 'm', 'y']) = ['x', '{', 'b', '\n', '}', 'y'] := by
  have hc : IsBreak '\n' := by decide
  exact ⟨hc, ((strip_between_breaks '\n' hc).1 _ _).trans (by decide)⟩

end Termkit.Markup
