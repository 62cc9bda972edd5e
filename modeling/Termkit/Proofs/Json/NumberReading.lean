import Termkit.Json.NumberLiteral
import Termkit.Json.Writer
import Termkit.Proofs.Json.StringReading

/-!
# Reading what was written: whole numbers

A whole number of 64 bits is read back exactly from its decimal digits, as long as what follows is
no part of a number (`readNumber_ofNat`). The digits have no zero in front, and while they are
gathered no part of them is greater than the whole.
-/

namespace Termkit.Json

/-! ## Decimal digits -/

theorem isDigit_of_mem_ofNat {n : Nat} {c : Char} (h : c ∈ Text.ofNat n) :
    Text.isDigit c = true := by
  have hc := Nat.isDigit_of_mem_toDigits (by decide) (by decide) h
  simp only [Char.isDigit, Bool.and_eq_true, decide_eq_true_eq] at hc
  simp only [Text.isDigit, Bool.and_eq_true, decide_eq_true_eq]
  exact hc

theorem ofNat_ne_nil (n : Nat) : Text.ofNat n ≠ [] := Nat.toDigits_ne_nil

/-- Only zero has a zero in front. -/
theorem head?_ofNat {n : Nat} (h : 0 < n) : (Text.ofNat n).head? ≠ some '0' := by
  induction n using Nat.strongRecOn with
  | ind n ih =>
    by_cases hn : n < 10
    · rw [Text.ofNat, Nat.toDigits_of_lt_base hn, List.head?_cons, ne_eq, Option.some.injEq,
        Nat.digitChar_eq_zero]
      omega
    · have hdiv : (Text.ofNat (n / 10)).head? ≠ some '0' := ih (n / 10) (by omega) (by omega)
      obtain ⟨d, ds, e⟩ := List.exists_cons_of_ne_nil (ofNat_ne_nil (n / 10))
      rw [Text.ofNat] at e hdiv
      rw [Text.ofNat, Nat.toDigits_of_base_le (by decide) (by omega), e]
      rwa [e] at hdiv

theorem not_zero_cons {n : Nat} {c : Char} {r : Text} : Text.ofNat n ≠ '0' :: c :: r := by
  intro h
  rcases Nat.eq_zero_or_pos n with rfl | hn
  · cases h
  · exact head?_ofNat hn (by rw [h]; rfl)

theorem le_ofDigitChars (digits : Text) (s : Nat) : s ≤ Nat.ofDigitChars 10 digits s := by
  rw [Nat.ofDigitChars_eq_ofDigitChars_zero]
  have : 1 * s ≤ 10 ^ digits.length * s := Nat.mul_le_mul_right s (Nat.pow_pos (by decide))
  omega

/-- Digits whose number fits are all gathered. -/
theorem appendDigits_eq {digits : Text} {s : Nat} (h : Nat.ofDigitChars 10 digits s < twoTo 64) :
    appendDigits s digits = (Nat.ofDigitChars 10 digits s, digits.length) := by
  induction digits generalizing s with
  | nil => simp [appendDigits]
  | cons c r ih =>
    have hs : s * 10 + (c.toNat - '0'.toNat) = 10 * s + (c.toNat - '0'.toNat) := by omega
    rw [Nat.ofDigitChars_cons] at h ⊢
    have hle := le_ofDigitChars r (10 * s + (c.toNat - '0'.toNat))
    rw [appendDigits, hs, ih h]
    exact if_pos (by omega)

theorem appendDigits_ofNat {n : Nat} (h : n < twoTo 64) :
    appendDigits 0 (Text.ofNat n) = (n, (Text.ofNat n).length) := by
  have hn : Nat.ofDigitChars 10 (Text.ofNat n) 0 = n := Nat.ofDigitChars_ten_toDigits
  rw [appendDigits_eq (by rwa [hn]), hn]

/-! ## Numbers -/

def EndsNumber (r : Text) : Prop :=
  ∀ c ∈ r.head?, Text.isDigit c = false ∧ c ≠ '.' ∧ c ≠ 'e' ∧ c ≠ 'E'

/-- The digits in front are cut off where the next character is no digit. -/
theorem takeWhile_digits {digits r : Text} (hd : ∀ c ∈ digits, Text.isDigit c = true)
    (hr : ∀ c ∈ r.head?, Text.isDigit c = false) :
    (digits ++ r).takeWhile Text.isDigit = digits := by
  rw [List.takeWhile_append_of_pos hd]
  cases r with
  | nil => simp
  | cons c r => simp [hr c rfl]

theorem readNumber_ofNat {n : Nat} (hn : n < twoTo 64) (negative : Bool) {r : Text}
    (hr : EndsNumber r) (p : Place) :
    readNumber negative ⟨Text.ofNat n ++ r, p⟩ =
      .ok (wholeNumber negative n, ⟨r, p.afterText (Text.ofNat n)⟩) := by
  unfold readNumber
  dsimp only
  rw [takeWhile_digits (fun c hc => isDigit_of_mem_ofNat hc) fun c hc => (hr c hc).1]
  split
  · next e => exact (ofNat_ne_nil n (List.append_eq_nil_iff.1 e).1).elim
  · next e _ => exact (ofNat_ne_nil n e).elim
  · next e _ => exact (not_zero_cons e).elim
  · rw [appendDigits_ofNat hn, Cursor.skip_append]
    dsimp only
    split
    · exact ((hr _ rfl).2.1 rfl).elim
    · exact ((hr _ rfl).2.2.1 rfl).elim
    · exact ((hr _ rfl).2.2.2 rfl).elim
    · rw [if_pos (Nat.sub_self _)]

end Termkit.Json
