import Termkit.Proofs.Binary64.Tenth
import Termkit.Proofs.Decimal.WholeText
import Termkit.Proofs.Json.ValueReading

/-!
# Reading what was written: whole numbers with a point

A whole number is written with one zero behind the point if it is kept as a binary64 number
(`writeFloat_ofInt`). That zero is gathered with the digits before it, so that ten times the number
is rounded, and then a tenth of it (`readValue_tenth`), which is the number or next to it
(`readTenth_adjacent`).
-/

namespace Termkit.Json

theorem writeFloat_ofInt {n : Int} (h : n.natAbs ≤ twoTo 53) :
    writeFloat (.ofInt n) = writeInt n ++ ['.', '0'] := by
  rw [writeFloat, numberNotation.write_ofInt ?_ h, writeInt, List.append_assoc]
  intro e hl hu
  simp only [numberNotation, Bool.and_eq_true, decide_eq_true_iff]
  omega

/-- What is read where the digits of `n` stand before a point and one zero behind it. -/
def readTenth (n : Int) : Binary64 :=
  let f := (Binary64.ofNat (10 * n.natAbs)).div (nearestTenTo 1)
  if n < 0 then f.neg else f

/-! ## Fractions -/

section

variable {r : Text} (hr : EndsNumber r) (negative : Bool)

include hr

theorem finishNumber_of_endsNumber (s : Nat) (e : Int) (p : Place) :
    finishNumber negative s e ⟨r, p⟩ = assemble negative s e ⟨r, p⟩ := by
  unfold finishNumber
  dsimp only
  split
  · exact ((hr _ rfl).2.2.1 rfl).elim
  · exact ((hr _ rfl).2.2.2 rfl).elim
  · rfl

/-- The digits behind the point go on with the significand. -/
theorem readFraction_digits {digits : Text} (hd : ∀ c ∈ digits, Text.isDigit c = true)
    (hne : digits ≠ []) {s : Nat} (hs : Nat.ofDigitChars 10 digits s < twoTo 64) (e : Int)
    (p : Place) : readFraction negative s e ⟨digits ++ r, p⟩ =
      assemble negative (Nat.ofDigitChars 10 digits s) (e - digits.length)
        ⟨r, p.afterText digits⟩ := by
  unfold readFraction
  dsimp only
  rw [takeWhile_digits hd fun c hc => (hr c hc).1, if_neg (by simpa using hne), appendDigits_eq hs,
    Cursor.skip_append]
  exact finishNumber_of_endsNumber hr negative _ _ _

end

/-- The point ends the digits of the whole part. -/
theorem readNumber_point {n : Nat} (hn : n < twoTo 64) (negative : Bool) (r : Text) (p : Place) :
    readNumber negative ⟨Text.ofNat n ++ '.' :: r, p⟩ =
      readFraction negative n 0 ⟨r, (p.afterText (Text.ofNat n)).after '.'⟩ := by
  have hpoint : ∀ c ∈ ('.' :: r).head?, Text.isDigit c = false := by
    rintro _ ⟨rfl⟩
    rfl
  unfold readNumber
  dsimp only
  rw [takeWhile_digits (fun c hc => isDigit_of_mem_ofNat hc) hpoint]
  split
  · next e => exact (ofNat_ne_nil n (List.append_eq_nil_iff.1 e).1).elim
  · next e _ => exact (ofNat_ne_nil n e).elim
  · next e _ => exact (not_zero_cons e).elim
  · rw [appendDigits_ofNat hn, Cursor.skip_append]
    dsimp only
    rw [Nat.sub_self]
    rfl

/-! ## Whole numbers -/

theorem assemble_tenth (n : Int) (c : Cursor) :
    assemble (decide (n < 0)) (10 * n.natAbs) (-1) c = .ok (.float (readTenth n), c) := by
  have hscale (f : Binary64) : scale 1 f (-1) = some (f.div (nearestTenTo 1)) := rfl
  rw [assemble, show (-1 : Int).natAbs / 308 + 1 = 1 from rfl, hscale, readTenth]
  by_cases hn : n < 0
  · rw [decide_eq_true hn, if_pos hn]
    rfl
  · rw [decide_eq_false hn, if_neg hn]
    rfl

section

variable {n : Int} (h : 10 * n.natAbs < twoTo 64) {r : Text} (hr : EndsNumber r) (p : Place)

include h hr

theorem readScalar_tenth : readScalar ⟨writeInt n ++ (['.', '0'] ++ r), p⟩ =
    .ok (.float (readTenth n), ⟨r, p.afterText (writeInt n ++ ['.', '0'])⟩) := by
  have hzero : Nat.ofDigitChars 10 ['0'] n.natAbs = 10 * n.natAbs := Nat.add_zero _
  have hdigit : ∀ c ∈ ['0'], Text.isDigit c = true := fun c hc => List.mem_singleton.1 hc ▸ rfl
  rw [readScalar_writeInt_append, List.cons_append, readNumber_point (by omega),
    readFraction_digits hr _ hdigit (by decide) (by rwa [hzero]), hzero, writeInt,
    Place.afterText_append, Place.afterText_append]
  exact assemble_tenth n _

/-- A whole number with one zero behind the point is read as a tenth of its tenfold. -/
theorem readValue_tenth (room : Nat) : readValue room ⟨writeInt n ++ (['.', '0'] ++ r), p⟩ =
    .ok (.float (readTenth n), ⟨r, p.afterText (writeInt n ++ ['.', '0'])⟩) := by
  obtain ⟨x, t, e, hx⟩ := writeInt_eq_cons n
  rw [← readScalar_tenth h hr p, e]
  exact readValue_of_beginsScalar hx room _ p

end

/-- What is read in place of a whole number is next to it, and is not always the number. -/
theorem readTenth_adjacent {n : Int} (h : n.natAbs ≤ twoTo 53) :
    (readTenth n).isNegative = (Binary64.ofInt n).isNegative ∧
      Binary64.Adjacent (readTenth n).code (Binary64.ofInt n).code ∧
      (readTenth n = .ofInt n ↔ Binary64.ComesBack n.natAbs) := by
  obtain ⟨code, hcode, htenth, hadjacent, hback⟩ := Binary64.tenth_tenfold h
  have hsmall {c : Nat} (hc : c ≤ Binary64.infinityCode) : c < twoTo 63 :=
    Nat.lt_of_le_of_lt hc (by decide)
  have hc := hsmall hcode
  have hc' := hsmall (Binary64.ratioCode_le n.natAbs 1)
  have hread : readTenth n = .ofCode (decide (n < 0)) code := by
    have hf : (Binary64.ofNat (10 * n.natAbs)).div (nearestTenTo 1) = .ofCode false code := htenth
    rw [readTenth, hf]
    by_cases hn : n < 0
    · rw [if_pos hn, decide_eq_true hn, Binary64.neg, Binary64.isNegative_ofCode hc,
        Binary64.code_ofCode hc]
      rfl
    · rw [if_neg hn, decide_eq_false hn]
  rw [hread, Binary64.ofInt, Binary64.ofRatio, Binary64.isNegative_ofCode hc,
    Binary64.isNegative_ofCode hc', Binary64.code_ofCode hc, Binary64.code_ofCode hc']
  refine ⟨rfl, hadjacent, Iff.trans ⟨fun e => ?_, fun e => by rw [e]⟩ hback⟩
  rw [← Binary64.code_ofCode hc (decide (n < 0)), e, Binary64.code_ofCode hc']

end Termkit.Json
