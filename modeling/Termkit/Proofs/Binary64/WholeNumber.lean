import Termkit.Binary64

/-!
# Whole numbers without rounding

A whole number no greater than `2^53` is a binary64 number, and `ofInt` gives it (`hasValue_ofInt`).
Below `2^53` the significand is the number itself, moved up to the leading place
(`ratioCode_one`).
-/

namespace Termkit.Binary64

/-- A finite number that is the given whole number; zero is positive. -/
def HasValue (x : Binary64) (n : Int) : Prop :=
  x.code < infinityCode ∧ x.isNegative = decide (n < 0) ∧
    x.numerator = n.natAbs * x.denominator

theorem HasValue.isZero_eq {x : Binary64} {n : Int} (h : x.HasValue n) (hn : 0 < n.natAbs) :
    x.isZero = false := by
  refine beq_false_of_ne fun hcode => ?_
  have hsig : x.significand = 0 := by
    rw [significand, hcode]
    exact if_pos (Nat.zero_div _)
  have hpos : 0 < n.natAbs * x.denominator := Nat.mul_pos hn (twoTo_pos _)
  rw [← h.2.2, numerator, hsig, Nat.zero_mul] at hpos
  exact absurd hpos (Nat.lt_irrefl 0)

/-! ## The fields of a number -/

section

variable {code : Nat} (h : code < twoTo 63) (negative : Bool)

include h

theorem toNat_bits_ofCode :
    (ofCode negative code).bits.toNat = code + if negative then twoTo 63 else 0 := by
  have h63 : twoTo 63 = 9223372036854775808 := rfl
  have hlt : (code + if negative then twoTo 63 else 0) < 2 ^ 64 := by
    cases negative with
    | false => rw [if_neg (by decide)]; omega
    | true => rw [if_pos rfl]; omega
  rw [ofCode, UInt64.toNat_ofNat', Nat.mod_eq_of_lt hlt]

theorem code_ofCode : (ofCode negative code).code = code := by
  rw [Binary64.code, toNat_bits_ofCode h]
  cases negative with
  | false => exact Nat.mod_eq_of_lt h
  | true => exact (Nat.add_mod_right _ _).trans (Nat.mod_eq_of_lt h)

theorem isNegative_ofCode : (ofCode negative code).isNegative = negative := by
  rw [isNegative, toNat_bits_ofCode h]
  cases negative with
  | false => exact decide_eq_false (by rw [if_neg (by decide)]; omega)
  | true => exact decide_eq_true (by rw [if_pos rfl]; omega)

end

/-! ## The nearest number -/

theorem divEven_one (a : Nat) : divEven a 1 = a := by
  simp [divEven, Nat.mod_one]

section

variable {n : Nat} (hn : 0 < n) (h : n < twoTo 53)

include hn

theorem twoTo_log2_le : twoTo n.log2 ≤ n := Nat.log2_self_le (by omega)

theorem ratioExponent_one : ratioExponent n 1 = (n.log2 : Int) - 52 := by
  have hbelow : ratioBelow n 1 (n.log2 : Int) = false := by
    have := twoTo_log2_le hn
    simp only [ratioBelow, decide_eq_false_iff_not, Int.toNat_natCast]
    rw [show (-(n.log2 : Int)).toNat = 0 by omega, twoTo_zero]
    omega
  have hone : (Nat.log2 1 : Int) = 0 := rfl
  simp only [ratioExponent, hone, Int.sub_zero, hbelow, Bool.false_eq_true, if_false]
  omega

include h

theorem log2_le_52 : n.log2 ≤ 52 :=
  Nat.le_of_lt_succ ((Nat.log2_lt (by omega)).2 h)

/-- The significand has its leading digit in the leading place. -/
theorem significand_bounds :
    twoTo 52 ≤ n * twoTo (52 - n.log2) ∧ n * twoTo (52 - n.log2) < 2 * twoTo 52 := by
  have hlog := log2_le_52 hn h
  have hsplit : twoTo 52 = twoTo n.log2 * twoTo (52 - n.log2) := by
    rw [← twoTo_add]
    congr 1
    omega
  have hlt : n < 2 * twoTo n.log2 := by
    rw [Nat.mul_comm, ← twoTo_succ]
    exact (Nat.log2_lt (by omega)).1 (Nat.lt_succ_self _)
  rw [hsplit, ← Nat.mul_assoc]
  exact ⟨Nat.mul_le_mul_right _ (twoTo_log2_le hn),
    Nat.mul_lt_mul_of_pos_right hlt (twoTo_pos _)⟩

theorem ratioCode_one :
    ratioCode n 1 = (n.log2 + 1022) * twoTo 52 + n * twoTo (52 - n.log2) := by
  have hlog := log2_le_52 hn h
  have hm := significand_bounds hn h
  have h52 : twoTo 52 = 4503599627370496 := rfl
  have hexp : (-((n.log2 : Int) - 52)).toNat = 52 - n.log2 := by omega
  have hden : ((n.log2 : Int) - 52).toNat = 0 := by omega
  have hplace : ((n.log2 : Int) - 52 + 1074).toNat = n.log2 + 1022 := by omega
  rw [ratioCode, if_neg (by omega)]
  dsimp only
  rw [ratioExponent_one hn, hexp, hden, hplace, twoTo_zero, divEven_one]
  refine Nat.min_eq_left ?_
  rw [infinityCode, h52]
  omega

end

/-! ## The value of the nearest number -/

section

variable {e m : Nat} (he : e < 2046) (hl : twoTo 52 ≤ m) (hu : m < 2 * twoTo 52) (negative : Bool)

include he hl hu

theorem normalCode_lt : e * twoTo 52 + m < infinityCode := by
  have h52 : twoTo 52 = 4503599627370496 := rfl
  rw [infinityCode, h52]
  omega

theorem code_ofCode_normal : (ofCode negative (e * twoTo 52 + m)).code = e * twoTo 52 + m :=
  code_ofCode (Nat.lt_trans (normalCode_lt he hl hu) (by decide)) negative

theorem place_ofCode_normal :
    (ofCode negative (e * twoTo 52 + m)).code / twoTo 52 = e + 1 := by
  rw [code_ofCode_normal he hl hu]
  refine Nat.div_eq_of_lt_le ?_ ?_
  · rw [Nat.succ_mul]
    omega
  · rw [Nat.succ_mul, Nat.succ_mul]
    omega

theorem significand_ofCode : (ofCode negative (e * twoTo 52 + m)).significand = m := by
  have hmod : (e * twoTo 52 + m) % twoTo 52 = m - twoTo 52 := by
    rw [Nat.mul_add_mod_self_right, Nat.mod_eq_sub_mod hl, Nat.mod_eq_of_lt (by omega)]
  rw [significand, if_neg (by rw [place_ofCode_normal he hl hu]; omega),
    code_ofCode_normal he hl hu, hmod]
  omega

theorem exponent_ofCode : (ofCode negative (e * twoTo 52 + m)).exponent = (e : Int) - 1074 := by
  rw [exponent, place_ofCode_normal he hl hu, if_neg (by omega)]
  omega

theorem hasValue_ofCode {n : Int} (hn : negative = decide (n < 0))
    (hv : m * twoTo (e - 1074) = n.natAbs * twoTo (1074 - e)) :
    (ofCode negative (e * twoTo 52 + m)).HasValue n := by
  have hlt := normalCode_lt he hl hu
  refine ⟨?_, ?_, ?_⟩
  · rwa [code_ofCode_normal he hl hu]
  · rw [isNegative_ofCode (Nat.lt_trans hlt (by decide)), hn]
  · rw [numerator, denominator, significand_ofCode he hl hu, exponent_ofCode he hl hu]
    rwa [show ((e : Int) - 1074).toNat = e - 1074 by omega,
      show (-((e : Int) - 1074)).toNat = 1074 - e by omega]

end

/-- Rounding changes no whole number up to `2^53`. -/
theorem hasValue_ofInt {n : Int} (h : n.natAbs ≤ twoTo 53) : (ofInt n).HasValue n := by
  rcases Nat.eq_or_lt_of_le h with hn | h
  · have hcode : ratioCode (twoTo 53) 1 = 1075 * twoTo 52 + twoTo 52 := by decide +kernel
    rw [ofInt, ofRatio, hn, hcode]
    refine hasValue_ofCode (by decide) (Nat.le_refl _) (by decide) _ rfl ?_
    rw [hn]
    rfl
  rcases Nat.eq_zero_or_pos n.natAbs with h0 | hn
  · obtain rfl := Int.natAbs_eq_zero.1 h0
    have hsig : (ofInt 0).significand = 0 := by decide
    refine ⟨by decide, by decide, ?_⟩
    rw [numerator, hsig, Int.natAbs_zero, Nat.zero_mul, Nat.zero_mul]
  · have hm := significand_bounds hn h
    have hlog := log2_le_52 hn h
    rw [ofInt, ofRatio, ratioCode_one hn h]
    refine hasValue_ofCode (by omega) hm.1 hm.2 _ rfl ?_
    rw [show n.natAbs.log2 + 1022 - 1074 = 0 by omega,
      show 1074 - (n.natAbs.log2 + 1022) = 52 - n.natAbs.log2 by omega, twoTo_zero, Nat.mul_one]

end Termkit.Binary64
