import Mathlib.Data.List.Basic
import Termkit.Text.Degrade
import Termkit.Proofs.Text.Printable

/-!
# Degrading keeps the columns

A steady character is one that a narrow terminal lays out: a control character, or a character of
one column from the Basic Multilingual Plane. Whatever widths a terminal has, a character that
degrading leaves as it is stays so, and by `WidthLaws` the question mark is one of these; hence
degrading does nothing a second time (`degradeBy_degradeBy`). Among characters of two columns at
most those that stay are the steady ones (`degradeChar_eq_singleton_iff`), and what replaces the
others takes their columns (`columns_degradeChar`). So a degraded text takes the columns that the
text took, and is made of steady characters (`degrade_fixedPoint`). The laws hold of `columns?`, in
which the Khmer sign beyyal alone takes more than two columns; it is left as it is.
-/

namespace Termkit.Text

/-! ## The columns of a character -/

/-- What is known of the widths of a terminal: the control characters, and only these, have none,
and the question mark takes one column. -/
structure WidthLaws (width? : Char → Option Nat) : Prop where
  control (c : Char) : width? c = none ↔ isControl c = true
  mark : width? '?' = some 1

def TwoAtMost (width? : Char → Option Nat) (c : Char) : Prop := ∀ n ∈ width? c, n ≤ 2

/-- A narrow terminal lays the character out. -/
def IsSteady (width? : Char → Option Nat) (c : Char) : Prop :=
  isControl c = true ∨ c.toNat ≤ 0xffff ∧ width? c = some 1

instance (width? : Char → Option Nat) (c : Char) : Decidable (IsSteady width? c) :=
  inferInstanceAs (Decidable (_ ∨ _))

/-- The columns that a text takes; control characters count nothing. -/
def columns (width? : Char → Option Nat) : Text → Nat
  | [] => 0
  | c :: t => (width? c).getD 0 + columns width? t

theorem toNat_le_of_isControl {c : Char} (h : isControl c = true) : c.toNat ≤ 0xffff := by
  simp only [isControl, Bool.or_eq_true, Bool.and_eq_true, decide_eq_true_eq] at h
  omega

section

variable {width? : Char → Option Nat} {c d : Char} {t : Text}

/-! ## What becomes of a character -/

/-- A character of two columns is replaced, one without a column is dropped, another one beyond
U+FFFF is replaced, and the rest stays. -/
theorem degradeChar_cases (width? : Char → Option Nat) (c : Char) :
    (width? c = some 2 ∧ degradeChar width? c = ['?', '?']) ∨
      (width? c = some 0 ∧ degradeChar width? c = []) ∨
      (0xffff < c.toNat ∧ width? c ≠ some 2 ∧ ¬ (width? c = some 0 ∧ isControl c = false) ∧
        degradeChar width? c = ['?']) ∨
      (c.toNat ≤ 0xffff ∧ width? c ≠ some 2 ∧ ¬ (width? c = some 0 ∧ isControl c = false) ∧
        degradeChar width? c = [c]) := by
  unfold degradeChar
  by_cases h2 : width? c = some 2
  · exact .inl ⟨h2, if_pos h2⟩
  · rw [if_neg h2]
    by_cases h0 : width? c = some 0 ∧ isControl c = false
    · exact .inr (.inl ⟨h0.1, if_pos h0⟩)
    · rw [if_neg h0]
      by_cases hhigh : 0xffff < c.toNat
      · exact .inr (.inr (.inl ⟨hhigh, h2, h0, if_pos hhigh⟩))
      · exact .inr (.inr (.inr ⟨Nat.le_of_not_lt hhigh, h2, h0, if_neg hhigh⟩))

theorem WidthLaws.degradeChar_mark (hw : WidthLaws width?) : degradeChar width? '?' = ['?'] := by
  unfold degradeChar
  rw [hw.mark]
  rfl

/-- What stands in a degraded text is the question mark or was there before. -/
theorem eq_of_mem_degradeChar (h : d ∈ degradeChar width? c) :
    d = '?' ∨ d = c ∧ degradeChar width? c = [c] := by
  obtain ⟨-, e⟩ | ⟨-, e⟩ | ⟨-, -, -, e⟩ | ⟨-, -, -, e⟩ := degradeChar_cases width? c
  all_goals rw [e] at h
  · exact .inl (by simpa using h)
  · cases h
  · exact .inl (List.mem_singleton.1 h)
  · exact .inr ⟨List.mem_singleton.1 h, e⟩

/-- A character of a degraded text stays when it is degraded again. -/
theorem WidthLaws.degradeChar_of_mem (hw : WidthLaws width?) (h : d ∈ degradeChar width? c) :
    degradeChar width? d = [d] := by
  rcases eq_of_mem_degradeChar h with rfl | ⟨rfl, e⟩
  · exact hw.degradeChar_mark
  · exact e

theorem IsSteady.degradeChar (hw : WidthLaws width?) (h : IsSteady width? c) :
    degradeChar width? c = [c] := by
  unfold Text.degradeChar
  rcases h with h | ⟨hlow, h⟩
  · rw [(hw.control c).2 h, if_neg nofun, if_neg (fun h0 => nomatch h0.1),
      if_neg (Nat.not_lt.2 (toNat_le_of_isControl h))]
  · rw [h, if_neg (by decide), if_neg (fun h0 => absurd h0.1 (by decide)),
      if_neg (Nat.not_lt.2 hlow)]

/-- What takes two columns at most, but neither two nor none, takes one. -/
theorem WidthLaws.eq_one (hw : WidthLaws width?) (hn : TwoAtMost width? c)
    (hc : isControl c = false) (h2 : width? c ≠ some 2)
    (h0 : ¬ (width? c = some 0 ∧ isControl c = false)) : width? c = some 1 := by
  cases hwidth : width? c with
  | none =>
    rw [(hw.control c).1 hwidth] at hc
    cases hc
  | some n =>
    have hle : n ≤ 2 := hn n hwidth
    have hne2 : n ≠ 2 := fun e => h2 (e ▸ hwidth)
    have hne0 : n ≠ 0 := fun e => h0 ⟨e ▸ hwidth, hc⟩
    obtain rfl : n = 1 := by omega
    rfl

/-- Of the characters of two columns at most the steady ones stay. -/
theorem degradeChar_eq_singleton_iff (hw : WidthLaws width?) (hn : TwoAtMost width? c) :
    degradeChar width? c = [c] ↔ IsSteady width? c := by
  refine ⟨fun h => ?_, IsSteady.degradeChar hw⟩
  cases hcontrol : isControl c with
  | true => exact .inl hcontrol
  | false =>
    have hmem : c ∈ degradeChar width? c := by rw [h]; exact List.mem_singleton_self c
    obtain ⟨h2, e⟩ | ⟨h0, e⟩ | ⟨hhigh, h2, h0, e⟩ | ⟨hlow, h2, h0, e⟩ := degradeChar_cases width? c
    · rw [e] at h
      cases h
    · rw [e] at h
      cases h
    · -- beyond U+FFFF only a question mark could be left, which is not there
      rw [e] at hmem
      obtain rfl := List.mem_singleton.1 hmem
      exact absurd hhigh (by decide)
    · exact .inr ⟨hlow, hw.eq_one hn hcontrol h2 h0⟩

/-- A character of two columns at most leaves its columns. -/
theorem columns_degradeChar (hw : WidthLaws width?) (hn : TwoAtMost width? c) :
    columns width? (degradeChar width? c) = (width? c).getD 0 := by
  obtain ⟨h2, e⟩ | ⟨h0, e⟩ | ⟨hhigh, h2, h0, e⟩ | ⟨-, -, -, e⟩ := degradeChar_cases width? c
  · rw [e, h2]
    simp [columns, hw.mark]
  · rw [e, h0]
    rfl
  · have hcontrol : isControl c = false := Bool.eq_false_iff.2 fun h =>
      Nat.not_lt.2 (toNat_le_of_isControl h) hhigh
    rw [e, hw.eq_one hn hcontrol h2 h0]
    simp [columns, hw.mark]
  · rw [e]
    rfl

/-! ## Texts -/

theorem columns_append (width? : Char → Option Nat) (s t : Text) :
    columns width? (s ++ t) = columns width? s + columns width? t := by
  induction s with
  | nil => simp [columns]
  | cons c s ih =>
    rw [List.cons_append, columns, columns, ih]
    omega

theorem degradeBy_of_stay (h : ∀ c ∈ t, degradeChar width? c = [c]) : degradeBy width? t = t :=
  calc degradeBy width? t = t.flatMap fun c => [c] := List.flatMap_congr h
    _ = t := List.flatMap_singleton' t

theorem degradeBy_degradeBy (hw : WidthLaws width?) (t : Text) :
    degradeBy width? (degradeBy width? t) = degradeBy width? t :=
  degradeBy_of_stay (List.forall_mem_flatMap.2 fun _ _ _ hd => hw.degradeChar_of_mem hd)

theorem columns_degradeBy (hw : WidthLaws width?) (hn : ∀ c ∈ t, TwoAtMost width? c) :
    columns width? (degradeBy width? t) = columns width? t := by
  induction t with
  | nil => rfl
  | cons c t ih =>
    obtain ⟨hc, ht⟩ := List.forall_mem_cons.1 hn
    rw [degradeBy_cons, columns_append, columns_degradeChar hw hc, ih ht, columns]

theorem steady_degradeBy (hw : WidthLaws width?) (hn : ∀ c ∈ t, TwoAtMost width? c) :
    ∀ d ∈ degradeBy width? t, IsSteady width? d := by
  intro d hd
  obtain ⟨c, hc, hmem⟩ := List.mem_flatMap.1 hd
  rcases eq_of_mem_degradeChar hmem with rfl | ⟨rfl, e⟩
  · exact .inr ⟨by decide, hw.mark⟩
  · exact (degradeChar_eq_singleton_iff hw (hn _ hc)).1 e

end

/-! ## The columns of `columns?` -/

section

variable {c : Char} {t : Text}

theorem CodeRanges.has_eq_false_of_lt {s : CodeRanges} {bound : Nat}
    (hs : ∀ r ∈ s, bound ≤ r.first) (hc : c.toNat < bound) : s.has c = false := by
  refine Bool.eq_false_iff.2 fun h => ?_
  obtain ⟨r, hr, hfirst, -⟩ := (s.has_iff c).1 h
  have := hs r hr
  omega

theorem first_zeroWidth : ∀ r ∈ zeroWidth, 0x7f ≤ r.first := by decide +kernel

theorem first_wide : ∀ r ∈ wide, 0x7f ≤ r.first := by decide +kernel

theorem IsPrintable.columns? (h : IsPrintable c) : columns? c = some 1 := by
  obtain ⟨hl, hu⟩ := h
  have hlt : c.toNat < 0x7f := Nat.lt_succ_of_le hu
  have hcontrol : isControl c = false := by
    simp only [isControl, Bool.or_eq_false_iff, Bool.and_eq_false_imp, decide_eq_false_iff_not,
      decide_eq_true_eq]
    omega
  have hbeyyal : c ≠ beyyal := by
    rintro rfl
    exact absurd hu (by decide)
  rw [Text.columns?, hcontrol, CodeRanges.has_eq_false_of_lt first_zeroWidth hlt,
    CodeRanges.has_eq_false_of_lt first_wide hlt, if_neg hbeyyal]
  rfl

theorem columns?_eq_none_iff : columns? c = none ↔ isControl c = true := by
  refine ⟨fun h => Bool.of_not_eq_false fun hc => ?_, fun h => if_pos h⟩
  rw [Text.columns?, hc, if_neg Bool.false_ne_true] at h
  split at h
  · cases h
  · split at h
    · cases h
    · split at h <;> cases h

theorem widthLaws_columns? : WidthLaws columns? where
  control _ := columns?_eq_none_iff
  mark := IsPrintable.columns? (by decide)

/-- All characters but one take two columns at most. -/
theorem twoAtMost_columns? (h : c ≠ beyyal) : TwoAtMost columns? c := by
  intro n hn
  rw [Option.mem_def, Text.columns?, if_neg h] at hn
  split at hn
  · cases hn
  · split at hn
    · cases hn
      decide
    · split at hn <;> cases hn <;> decide

theorem IsPrintable.isSteady (h : IsPrintable c) : IsSteady Text.columns? c :=
  .inr ⟨Nat.le_trans h.2 (by decide), h.columns?⟩

theorem degrade_flatMap {α : Type} (l : List α) (f : α → Text) :
    degrade (l.flatMap f) = l.flatMap fun x => degrade (f x) := List.flatMap_assoc

theorem degrade_of_steady (h : ∀ c ∈ t, IsSteady columns? c) : degrade t = t :=
  degradeBy_of_stay fun c hc => (h c hc).degradeChar widthLaws_columns?

theorem Printable.degrade (h : Printable t) : degrade t = t :=
  degrade_of_steady fun c hc => (h c hc).isSteady

end

/-- Degrading does nothing a second time. Where characters take two columns at most, a degraded
text takes the columns that the text took and is made of steady characters only, and the texts that
are made of these are those that degrading leaves as they are. -/
theorem degrade_fixedPoint {width? : Char → Option Nat} (hw : WidthLaws width?) (t : Text) :
    degradeBy width? (degradeBy width? t) = degradeBy width? t ∧
      ((∀ c ∈ t, TwoAtMost width? c) →
        columns width? (degradeBy width? t) = columns width? t ∧
          (∀ c ∈ degradeBy width? t, IsSteady width? c) ∧
          (degradeBy width? t = t ↔ ∀ c ∈ t, IsSteady width? c)) := by
  refine ⟨degradeBy_degradeBy hw t, fun hn => ⟨columns_degradeBy hw hn, steady_degradeBy hw hn, ?_⟩⟩
  constructor
  · intro h
    rw [← h]
    exact steady_degradeBy hw hn
  · exact fun h => degradeBy_of_stay fun c hc => (h c hc).degradeChar hw

/-- A control character and a letter with an accent stay, a combining accent goes, and of the wide
and the narrow character beyond U+FFFF each leaves its columns. -/
theorem degrade_fixedPoint_marks :
    let t : Text := ['\t', 'é', 'e', '\u0301', '日', '😀', '𝐀']
    let t' : Text := ['\t', 'é', 'e', '?', '?', '?', '?', '?']
    (WidthLaws columns? ∧ ∀ c ∈ t, TwoAtMost columns? c) ∧ degrade t = t' ∧
      columns columns? t = 7 ∧ columns columns? t' = 7 ∧ (∀ c ∈ t', IsSteady columns? c) ∧
      degrade t' = t' := by
  intro t t'
  have hn : ∀ c ∈ t, TwoAtMost columns? c := by
    have hbeyyal : beyyal ∉ t := by decide +kernel
    exact fun c hc => twoAtMost_columns? (ne_of_mem_of_not_mem hc hbeyyal)
  have ht : degradeBy columns? t = t' := by decide +kernel
  have hcolumns : columns columns? t = 7 := by decide +kernel
  obtain ⟨hagain, hdegrade⟩ := degrade_fixedPoint widthLaws_columns? t
  obtain ⟨hsame, hsteady, -⟩ := hdegrade hn
  rw [ht] at hagain hsame hsteady
  exact ⟨⟨widthLaws_columns?, hn⟩, ht, hcolumns, hsame.trans hcolumns, hsteady, hagain⟩

/-- The character of three columns stays. -/
example : degrade [beyyal] = [beyyal] ∧ columns? beyyal = some 3 := by decide +kernel

end Termkit.Text
