import Termkit.Proofs.Json.PrintableText
import Termkit.Yaml.PlainScalar
import Termkit.Yaml.QuotedScalar

/-!
# Reading JSON scalars as YAML scalars

A JSON string of printable ASCII is a quoted scalar on one line and stands for the same text in both
(`readQuoted_writeString`). Its spaces are kept back until a character follows or the scalar ends,
so that only what was read together with the gap behind it is the text so far. A word within a
flow collection is a plain scalar up to the mark behind it (`readPlain_letters`).
-/

namespace Termkit.Yaml

open Text (IsPrintable Printable)

theorem Mark.right_right (m : Mark) (a b : Nat) : (m.right a).right b = m.right (a + b) := by
  simp [Mark.right, Nat.add_assoc]

theorem not_isBreak {c : Char} (h : IsPrintable c) : isBreak c = false := by
  cases hb : isBreak c with
  | false => rfl
  | true =>
    simp only [isBreak, Bool.or_eq_true, beq_iff_eq] at hb
    rcases hb with (((rfl | rfl) | rfl) | rfl) | rfl <;> exact absurd h (by decide)

theorem not_isBlank {c : Char} (h : IsPrintable c) (hs : c ≠ ' ') : isBlank c = false := by
  cases hb : isBlank c with
  | false => rfl
  | true =>
    simp only [isBlank, Bool.or_eq_true, beq_iff_eq] at hb
    rcases hb with rfl | rfl
    · exact (hs rfl).elim
    · exact absurd h (by decide)

/-- A document marker begins in the first column. -/
theorem not_atDocumentMarker {c : Cursor} (h : c.mark.column ≠ 0) : c.atDocumentMarker = false := by
  simp [Cursor.atDocumentMarker, Cursor.atMarker, h]

section

variable {since m : Mark} {fuel : Nat} {read r : Text} {gap : Gap}

theorem quotedRest_space :
    quotedRest '"' since (fuel + 1) read gap ⟨' ' :: r, m⟩ =
      quotedRest '"' since fuel read (gap.addBlank ' ') ⟨r, m.right 1⟩ := rfl

theorem quotedRest_close (hm : m.column ≠ 0) :
    quotedRest '"' since (fuel + 1) read gap ⟨'"' :: r, m⟩ =
      .ok ((gap.folded ++ read).reverse, ⟨r, m.right 1⟩) := by
  have hd : Cursor.atDocumentMarker ⟨'"' :: r, m⟩ = false := not_atDocumentMarker hm
  simp [quotedRest, isBlank, isBreak, hd, Cursor.skip]

/-- A round of the reader takes a character that is no space, and the gap in front of it. -/
theorem quotedRest_escapeChar {c : Char} (hc : IsPrintable c) (hs : c ≠ ' ') (hm : m.column ≠ 0) :
    quotedRest '"' since (fuel + 1) read gap ⟨Json.escapeChar c ++ r, m⟩ =
      quotedRest '"' since fuel (c :: (gap.folded ++ read)) .none
        ⟨r, m.right (Json.escapeChar c).length⟩ := by
  have hd (t : Text) : Cursor.atDocumentMarker ⟨t, m⟩ = false := not_atDocumentMarker hm
  rw [Json.escapeChar_printable hc]
  split
  · next h =>
    rcases h with rfl | rfl <;>
      simp [quotedRest, isBlank, isBreak, hd, readEscape, letterEscape?, Cursor.skip, bind,
        Except.bind]
  · next h =>
    rw [not_or] at h
    simp [quotedRest, not_isBlank hc hs, not_isBreak hc, hd, h, Cursor.skip]

/-- Written characters are read up to the closing quotation mark. -/
theorem quotedRest_flatMap {t : Text} (ht : Printable t) {fuel : Nat} (hf : t.length < fuel)
    {blanks : Text} (hm : m.column ≠ 0) :
    quotedRest '"' since fuel read (.blanks blanks) ⟨t.flatMap Json.escapeChar ++ '"' :: r, m⟩ =
      .ok ((blanks ++ read).reverse ++ t,
        ⟨r, m.right ((t.flatMap Json.escapeChar).length + 1)⟩) := by
  -- the gap is general: a space is added to it, and any other character ends it
  induction t generalizing fuel read blanks m with
  | nil =>
    obtain ⟨fuel, rfl⟩ := Nat.exists_eq_add_of_le' hf
    simpa [Gap.folded] using quotedRest_close hm
  | cons c t ih =>
    obtain ⟨hc, ht'⟩ := List.forall_mem_cons.1 ht
    obtain ⟨fuel, rfl⟩ := Nat.exists_eq_add_of_le' (Nat.zero_lt_of_lt hf)
    have hf' : t.length < fuel := Nat.lt_of_succ_lt_succ hf
    have hm' (n : Nat) : (m.right n).column ≠ 0 := by
      simp only [Mark.right]
      omega
    by_cases hs : c = ' '
    · subst hs
      have he : Json.escapeChar ' ' = [' '] := rfl
      rw [List.flatMap_cons, he, List.append_assoc, List.singleton_append, quotedRest_space]
      rw [Gap.addBlank, ih ht' hf' (hm' 1)]
      simp [Mark.right_right, Nat.add_comm]
    · rw [List.flatMap_cons, List.append_assoc, quotedRest_escapeChar hc hs hm, Gap.none,
        ih ht' hf' (hm' _)]
      simp [Mark.right_right, Gap.folded, Nat.add_assoc]

end

/-- A printable JSON string is read as its text, and the reader stands right behind it. -/
theorem readQuoted_writeString {t : Text} (ht : Printable t) (r : Text) (m : Mark) :
    readQuoted '"' ⟨Json.writeString t ++ r, m⟩ =
      .ok (t, ⟨r, m.right (Json.writeString t).length⟩) := by
  have hl : t.length < (Json.writeString t ++ r).length + 1 := by
    have := Json.length_le_flatMap_escapeChar t
    simp only [Json.writeString, List.length_append, List.length_cons]
    omega
  have hw : Json.writeString t ++ r = '"' :: (t.flatMap Json.escapeChar ++ '"' :: r) := by
    simp [Json.writeString]
  have hc : (m.right 1).column ≠ 0 := Nat.succ_ne_zero m.column
  rw [hw] at hl ⊢
  refine (quotedRest_flatMap ht hl hc).trans ?_
  simp [Mark.right_right, Json.writeString, Nat.add_comm]

/-! ## Words -/

theorem isFlowMark_cases {x : Char} (h : isFlowMark x = true) :
    x = ',' ∨ x = '[' ∨ x = ']' ∨ x = '{' ∨ x = '}' := by
  simpa [isFlowMark, or_assoc] using h

section

variable {indent : Int} {since m stop : Mark} {fuel : Nat} {read r : Text} {x : Char}

theorem plainRest_flowMark (h : isFlowMark x = true) :
    plainRest true indent since (fuel + 1) read stop .none ⟨x :: r, m⟩ =
      .ok ⟨read.reverse, stop, false, ⟨x :: r, m⟩⟩ := by
  rcases isFlowMark_cases h with rfl | rfl | rfl | rfl | rfl <;> rfl

theorem plainRest_letter (h : Text.isLetter x = true) :
    plainRest true indent since (fuel + 1) read stop .none ⟨x :: r, m⟩ =
      plainRest true indent since fuel (x :: read) (m.right 1) .none ⟨r, m.right 1⟩ := by
  have hp : IsPrintable x := .of_isLetter h
  have hs : x ≠ ' ' := by
    rintro rfl
    exact absurd h (by decide)
  have hcolon : x ≠ ':' := by
    rintro rfl
    exact absurd h (by decide)
  have hmark : isFlowMark x = false := by
    cases hx : isFlowMark x with
    | false => rfl
    | true =>
      rcases isFlowMark_cases hx with rfl | rfl | rfl | rfl | rfl <;> exact absurd h (by decide)
  simp [plainRest, not_isBreak hp, not_isBlank hp hs, hmark, hcolon, Cursor.skip, Gap.none,
    Gap.folded]

theorem plainRest_letters {w : Text} (hw : ∀ c ∈ w, Text.isLetter c = true)
    (hx : isFlowMark x = true) {fuel : Nat} (hf : w.length < fuel) :
    plainRest true indent since fuel read m .none ⟨w ++ x :: r, m⟩ =
      .ok ⟨read.reverse ++ w, m.right w.length, false, ⟨x :: r, m.right w.length⟩⟩ := by
  induction w generalizing fuel read m with
  | nil =>
    obtain ⟨fuel, rfl⟩ := Nat.exists_eq_add_of_le' hf
    rw [List.append_nil]
    exact plainRest_flowMark hx
  | cons c w ih =>
    obtain ⟨hc, hw'⟩ := List.forall_mem_cons.1 hw
    obtain ⟨fuel, rfl⟩ := Nat.exists_eq_add_of_le' (Nat.zero_lt_of_lt hf)
    rw [List.cons_append, plainRest_letter hc, ih hw' (Nat.lt_of_succ_lt_succ hf)]
    simp [Mark.right_right, Nat.add_comm]

end

/-- A word is read up to the mark of the collection that ends it. -/
theorem readPlain_letters {w : Text} (hw : ∀ c ∈ w, Text.isLetter c = true) {x : Char}
    (hx : isFlowMark x = true) (indent : Int) (r : Text) (m : Mark) :
    readPlain true indent ⟨w ++ x :: r, m⟩ =
      .ok ⟨w, m.right w.length, false, ⟨x :: r, m.right w.length⟩⟩ := by
  have hf : w.length < (w ++ x :: r).length + 1 := by
    rw [List.length_append]
    omega
  exact plainRest_letters hw hx hf

end Termkit.Yaml
