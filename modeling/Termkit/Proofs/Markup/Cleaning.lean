import Mathlib.Data.List.DropRight
import Termkit.Proofs.Markup.Breaks

/-!
# Cleaning reaches a normal form

Trimming takes the blanks from both ends and only these (`exists_trim`), so that blanks put around a
text change nothing in the trimmed one (`trim_surround`). Blanks are breaks: they stand in no match,
and stripping leaves them where they are. So it does not matter whether blanks are trimmed before
the text is stripped, and a cleaned text is clean (`clean_normalForm`).
-/

namespace Termkit

namespace Text

def AllBlank (t : Text) : Prop := ∀ c ∈ t, isBlank c = true

instance (t : Text) : Decidable (AllBlank t) := List.decidableBAll _ t

def Trimmed (t : Text) : Prop :=
  (∀ c ∈ t.head?, isBlank c = false) ∧ ∀ c ∈ t.getLast?, isBlank c = false

/-! ## Trimming -/

section

variable {t w w₁ w₂ : Text}

theorem dropWhile_eq_trim_append (t : Text) :
    t.dropWhile isBlank = trim t ++ (t.dropWhile isBlank).rtakeWhile isBlank :=
  (List.rdropWhile_append_rtakeWhile ..).symm

/-- A text is its trimmed part with blanks around it. -/
theorem exists_trim (t : Text) : ∃ w₁ w₂, AllBlank w₁ ∧ AllBlank w₂ ∧ t = w₁ ++ trim t ++ w₂ := by
  refine ⟨t.takeWhile isBlank, (t.dropWhile isBlank).rtakeWhile isBlank,
    fun _ => List.mem_takeWhile_imp, fun _ => List.mem_rtakeWhile_imp, ?_⟩
  rw [List.append_assoc, ← dropWhile_eq_trim_append, List.takeWhile_append_dropWhile]

theorem isBlank_head?_dropWhile {c : Char} (h : c ∈ (t.dropWhile isBlank).head?) :
    isBlank c = false := by
  have hd := List.head?_dropWhile_not isBlank t
  rwa [Option.mem_def.1 h] at hd

theorem trimmed_trim (t : Text) : Trimmed (trim t) := by
  constructor
  · intro c hc
    apply isBlank_head?_dropWhile (t := t)
    rw [dropWhile_eq_trim_append, List.head?_append, Option.mem_def.1 hc]
    rfl
  · intro c hc
    rw [trim, List.getLast?_reverse] at hc
    exact isBlank_head?_dropWhile hc

theorem trim_append_left (h : AllBlank w) (t : Text) : trim (w ++ t) = trim t := by
  rw [trim, trim, List.dropWhile_append_of_pos h]

theorem trim_append_right (h : AllBlank w) (t : Text) : trim (t ++ w) = trim t := by
  rw [trim, trim, List.dropWhile_append]
  split
  · next he =>
    rw [List.isEmpty_iff.1 he, List.dropWhile_eq_nil_iff.2 h]
  · rw [List.reverse_append, List.dropWhile_append_of_pos fun c hc => h c (List.mem_reverse.1 hc)]

/-- Blanks around a text are trimmed with those at its ends. -/
theorem trim_surround (h₁ : AllBlank w₁) (h₂ : AllBlank w₂) (t : Text) :
    trim (w₁ ++ t ++ w₂) = trim t := by
  rw [trim_append_right h₂, trim_append_left h₁]

@[simp] theorem trim_trim (t : Text) : trim (trim t) = trim t := by
  obtain ⟨w₁, w₂, h₁, h₂, ht⟩ := exists_trim t
  calc trim (trim t) = trim (w₁ ++ trim t ++ w₂) := (trim_surround h₁ h₂ _).symm
    _ = trim t := by rw [← ht]

end

end Text

namespace Markup

open Text

variable {w w₁ w₂ : Text}

/-! ## Blanks are breaks -/

theorem toNat_of_isBlank {c : Char} (h : isBlank c = true) :
    c.toNat ≤ 0x0d ∨ c.toNat = 0x20 ∨ 0x85 ≤ c.toNat := by
  obtain ⟨r, hr, hc⟩ := (CodeRanges.has_iff _ _).1 h
  have hall : ∀ r ∈ blanks,
      r.last ≤ 0x0d ∨ r.first = 0x20 ∧ r.last = 0x20 ∨ 0x85 ≤ r.first := by decide
  have := hall r hr
  omega

/-- No blank stands in a match. -/
theorem isBreak_of_isBlank {c : Char} (h : isBlank c = true) : IsBreak c := by
  have hb := toNat_of_isBlank h
  refine Bool.eq_false_iff.2 fun hm => ?_
  have := toNat_of_isMatchChar hm
  omega

theorem isBreak_of_allBlank (h : AllBlank w) : ∀ c ∈ w, IsBreak c :=
  fun c hc => isBreak_of_isBlank (h c hc)

/-! ## Cleaning -/

theorem strip_surround (h₁ : AllBlank w₁) (h₂ : AllBlank w₂) (t : Text) :
    strip (w₁ ++ t ++ w₂) = w₁ ++ strip t ++ w₂ := by
  rw [strip_append_breaks (isBreak_of_allBlank h₂), strip_breaks_append (isBreak_of_allBlank h₁)]

theorem clean_surround (h₁ : AllBlank w₁) (h₂ : AllBlank w₂) (t : Text) :
    clean (w₁ ++ t ++ w₂) = clean t := by
  rw [clean, strip_surround h₁ h₂, trim_surround h₁ h₂, clean]

theorem clean_trim (t : Text) : clean (trim t) = clean t := by
  obtain ⟨w₁, w₂, h₁, h₂, ht⟩ := exists_trim t
  calc clean (trim t) = clean (w₁ ++ trim t ++ w₂) := (clean_surround h₁ h₂ _).symm
    _ = clean t := by rw [← ht]

/-- A part of a stripped text is left without a match. -/
theorem matchFree_clean (t : Text) : MatchFree (clean t) := by
  obtain ⟨w₁, w₂, -, -, ht⟩ := exists_trim (strip t)
  have h := matchFree_strip t
  rw [ht] at h
  exact h.part

theorem clean_clean (t : Text) : clean (clean t) = clean t := by
  rw [clean, (matchFree_clean t).strip_eq, clean, trim_trim]

/-- Blanks around a text do not show in the cleaned text, which is clean, has no blank at either end
and holds no match; and trimming a text before it is stripped changes nothing. -/
theorem clean_normalForm (t w₁ w₂ : Text) (h₁ : AllBlank w₁) (h₂ : AllBlank w₂) :
    clean (w₁ ++ t ++ w₂) = clean t ∧ clean (clean t) = clean t ∧ Trimmed (clean t) ∧
      MatchFree (clean t) ∧ clean (trim t) = clean t :=
  ⟨clean_surround h₁ h₂ t, clean_clean t, trimmed_trim _, matchFree_clean t, clean_trim t⟩

/-- Blanks of several kinds around the text and behind its tags and colour sequences, one of which
is whole only after another one is gone. -/
theorem clean_normalForm_hidden :
    let t : Text := ['{', 'b', '}', ' ', '{', '{', 'a', '}', '}', 'h', ' ', 'i', '\u3000', '\x1b',
      '{', '}', '[', 'm']
    let w₁ : Text := ['\n', '\u2003']
    let w₂ : Text := ['\u0085', ' ']
    AllBlank w₁ ∧ AllBlank w₂ ∧ clean t = ['h', ' ', 'i'] ∧
      clean (w₁ ++ t ++ w₂) = ['h', ' ', 'i'] ∧ clean (trim t) = ['h', ' ', 'i'] ∧
      clean ['h', ' ', 'i'] = ['h', ' ', 'i'] ∧ MatchFree ['h', ' ', 'i'] := by
  intro t w₁ w₂
  have h₁ : AllBlank w₁ := by decide
  have h₂ : AllBlank w₂ := by decide
  have ht : clean t = ['h', ' ', 'i'] := by decide
  obtain ⟨hw, hc, -, hf, htrim⟩ := clean_normalForm t w₁ w₂ h₁ h₂
  rw [ht] at hw hc hf htrim
  exact ⟨h₁, h₂, ht, hw, htrim, hc, hf⟩

end Markup

end Termkit
