import Termkit.Proofs.Binary64.Rounding
import Mathlib.Tactic.IntervalCases

/-!
# A tenth of ten times a whole number

Ten times a whole number up to `2^53` is rounded to a step of up to sixteen. A tenth of it is
rounded once more, which gives the number back unless the first rounding was off by too much for
the second: that happens in the three ranges where the step of the tenfold has grown already and
the step of the number has not (`tenth_tenfold`). Even there the result is a neighbour.
-/

namespace Termkit.Binary64

/-- A tenth of ten times the number is the number, after both roundings. -/
def ComesBack (n : Nat) : Prop :=
  (twoTo 54 < 10 * n → n < twoTo 51 → n % 2 = 0) ∧
    (twoTo 55 < 10 * n → n < twoTo 52 → n % 4 ≠ 2) ∧
    (twoTo 56 < 10 * n → n % 8 ≠ 1 ∧ n % 8 ≠ 4 ∧ n % 8 ≠ 7)

instance (n : Nat) : Decidable (ComesBack n) := inferInstanceAs (Decidable (_ ∧ _ ∧ _))

def Adjacent (c c' : Nat) : Prop := c ≤ c' + 1 ∧ c' ≤ c + 1

/-! ## The first rounding -/

theorem hasValue_tenfold_exact {n : Nat} (h : 10 * n < twoTo 54) :
    (ofNat (10 * n)).HasValue (10 * n : Nat) := by
  rcases Nat.lt_or_ge (10 * n) (twoTo 53) with hn | hn
  · have hv := hasValue_ofInt (n := (10 * n : Nat)) (Nat.le_of_lt hn)
    have hsign : decide (((10 * n : Nat) : Int) < 0) = false :=
      decide_eq_false (Int.not_lt.2 (Int.natCast_nonneg _))
    rwa [ofInt, Int.natAbs_natCast, hsign] at hv
  · have hv := hasValue_ofNat (t := 1) (by decide) hn h
    have hhalf : divEven (10 * n) (twoTo 1) = 5 * n := by
      rw [show 10 * n = 5 * n * 2 by omega, show twoTo 1 = 1 * 2 from rfl,
        divEven_mul_right (by decide), divEven_one]
    rwa [hhalf, show 5 * n * twoTo 1 = 10 * n by rw [show twoTo 1 = 2 from rfl]; omega] at hv

/-- The tenfold is rounded to a multiple of the step, by no more than half of it. -/
theorem hasValue_tenfold {n t s : Nat} (hs : twoTo t = s) (ht : t ≤ 900)
    (hl : s * twoTo 52 ≤ 10 * n) (hu : 10 * n < s * twoTo 53) :
    ∃ m, (ofNat (10 * n)).HasValue (m * s : Nat) ∧
      2 * (m * s) ≤ 2 * (10 * n) + s ∧ 2 * (10 * n) ≤ 2 * (m * s) + s := by
  subst hs
  have herror := divEven_error (twoTo_pos t) (10 * n)
  rw [Nat.mul_comm (twoTo t)] at herror
  exact ⟨_, hasValue_ofNat ht hl hu, herror⟩

/-- With a step of eight, a number halfway between two multiples of four has its tenfold rounded by
half a step, and every other number by a quarter of a step at most. -/
theorem near_step_eight {m n : Nat} (hl : 2 * (m * 8) ≤ 2 * (10 * n) + 8)
    (hu : 2 * (10 * n) ≤ 2 * (m * 8) + 8) :
    (10 * n < m * 8 + 3 ∧ m * 8 < 10 * n + 3) ↔ n % 4 ≠ 2 := by
  obtain ⟨q, r, hr, rfl⟩ : ∃ q r, r < 4 ∧ n = 4 * q + r :=
    ⟨_, _, Nat.mod_lt _ (by decide), (Nat.div_add_mod n 4).symm⟩
  interval_cases r <;> omega

/-- With a step of sixteen, the remainder decides whether the tenfold is rounded by less than five,
the half of what a tenth counts. -/
theorem near_step_sixteen {m n : Nat} (hl : 2 * (m * 16) ≤ 2 * (10 * n) + 16)
    (hu : 2 * (10 * n) ≤ 2 * (m * 16) + 16) :
    (10 * n < m * 16 + 5 ∧ m * 16 < 10 * n + 5) ↔ n % 8 ≠ 1 ∧ n % 8 ≠ 4 ∧ n % 8 ≠ 7 := by
  obtain ⟨q, r, hr, rfl⟩ : ∃ q r, r < 8 ∧ n = 8 * q + r :=
    ⟨_, _, Nat.mod_lt _ (by decide), (Nat.div_add_mod n 8).symm⟩
  interval_cases r <;> omega

/-! ## The second rounding -/

/-- Where the tenfold is exact, so is the tenth of it. -/
theorem ratioCode_tenth_exact (n : Nat) : ratioCode (10 * n) 10 = ratioCode n 1 := by
  rw [Nat.mul_comm]
  exact ratioCode_mul_right (b := 1) (by decide) (by decide) n

/-- Scaled by `s`, the number `n` and a tenth of the even number `v` have significands between the
same powers of two, and less than one apart. -/
structure SameBinade (n v s : Nat) : Prop where
  le : twoTo 52 ≤ n * s
  lt : n * s < twoTo 53
  tenth_le : 10 * twoTo 52 ≤ v * s
  tenth_lt : v * s < 10 * twoTo 53
  even : v % 2 = 0
  near_left : 10 * (n * s) < v * s + 10
  near_right : v * s < 10 * (n * s) + 10

/-- In the same binade, the tenth has the code of `n` if its significand is off by less than a
half. -/
theorem SameBinade.ratioCode_tenth {n v j s : Nat} (h : SameBinade n v s) (hs : twoTo j = s)
    (hj : j ≤ 52) : Adjacent (ratioCode v 10) (ratioCode n 1) ∧
      (ratioCode v 10 = ratioCode n 1 ↔ 10 * (n * s) < v * s + 5 ∧ v * s < 10 * (n * s) + 5) := by
  subst hs
  obtain ⟨hl, hu, hl', hu', heven, hlow, hhigh⟩ := h
  have hone := ratioCode_eq (a := n) (b := 1) (j := j) (t := 0) (by omega) (by decide) (by decide)
  have hten := ratioCode_eq (a := v) (b := 10) (j := j) (t := 0) (by omega) (by decide) (by decide)
  simp only [twoTo_zero, Nat.mul_one, Nat.one_mul, divEven_one] at hone hten
  rw [hone hl hu, hten hl' hu']
  have herror := divEven_error (b := 10) (by decide) (v * twoTo j)
  have hven : v * twoTo j % 2 = 0 := by rw [Nat.mul_mod, heven, Nat.zero_mul, Nat.zero_mod]
  unfold Adjacent
  omega

/-! ## Both roundings -/

/-- The powers of two between which steps and significands change. -/
theorem twoTo_bounds : twoTo 51 = 2251799813685248 ∧ twoTo 52 = 4503599627370496 ∧
    twoTo 53 = 9007199254740992 ∧ twoTo 54 = 18014398509481984 ∧
    twoTo 55 = 36028797018963968 ∧ twoTo 56 = 72057594037927936 :=
  ⟨rfl, rfl, rfl, rfl, rfl, rfl⟩

/-- The tenfold of `n` has the value `v`, and a tenth of it is next to `n`. -/
def IsNearTenth (n v : Nat) : Prop :=
  (ofNat (10 * n)).HasValue v ∧ Adjacent (ratioCode v 10) (ratioCode n 1) ∧
    (ratioCode v 10 = ratioCode n 1 ↔ ComesBack n)

section

variable {n : Nat}

theorem isNearTenth_exact (h : (ofNat (10 * n)).HasValue (10 * n : Nat)) (hn : ComesBack n) :
    IsNearTenth n (10 * n) := by
  rw [IsNearTenth, ratioCode_tenth_exact]
  exact ⟨h, ⟨Nat.le_succ _, Nat.le_succ _⟩, iff_of_true rfl hn⟩

theorem isNearTenth_of_lt (h : 10 * n < twoTo 54) : IsNearTenth n (10 * n) := by
  obtain ⟨h51, h52, h53, h54, h55, h56⟩ := twoTo_bounds
  refine isNearTenth_exact (hasValue_tenfold_exact h) ⟨?_, ?_, ?_⟩ <;> omega

/-- The step of the tenfold is four. -/
theorem exists_isNearTenth_four (hl : twoTo 54 ≤ 10 * n) (hu : 10 * n < twoTo 55) :
    ∃ v, IsNearTenth n v := by
  obtain ⟨h51, h52, h53, h54, h55, h56⟩ := twoTo_bounds
  obtain ⟨m, hv, hm, hm'⟩ := hasValue_tenfold (n := n) (t := 2) (s := 4) rfl (by decide) hl hu
  refine ⟨m * 4, hv, ?_⟩
  unfold ComesBack
  rcases Nat.lt_or_ge n (twoTo 51) with hn | hn
  · have hsame : SameBinade n (m * 4) 4 := by constructor <;> omega
    obtain ⟨hadjacent, hcode⟩ := hsame.ratioCode_tenth (j := 2) rfl (by decide)
    exact ⟨hadjacent, hcode.trans (by omega)⟩
  · have hsame : SameBinade n (m * 4) 2 := by constructor <;> omega
    obtain ⟨hadjacent, hcode⟩ := hsame.ratioCode_tenth (j := 1) rfl (by decide)
    exact ⟨hadjacent, hcode.trans (by omega)⟩

/-- The step of the tenfold is eight. -/
theorem exists_isNearTenth_eight (hl : twoTo 55 ≤ 10 * n) (hu : 10 * n < twoTo 56) :
    ∃ v, IsNearTenth n v := by
  obtain ⟨h51, h52, h53, h54, h55, h56⟩ := twoTo_bounds
  obtain ⟨m, hv, hm, hm'⟩ :=
    hasValue_tenfold (n := n) (t := 3) (s := 8) rfl (by decide) (by omega) hu
  have hnear := near_step_eight hm hm'
  refine ⟨m * 8, hv, ?_⟩
  unfold ComesBack
  rcases Nat.lt_or_ge n (twoTo 52) with hn | hn
  · have hsame : SameBinade n (m * 8) 2 := by constructor <;> omega
    obtain ⟨hadjacent, hcode⟩ := hsame.ratioCode_tenth (j := 1) rfl (by decide)
    exact ⟨hadjacent, hcode.trans (by omega)⟩
  · have hsame : SameBinade n (m * 8) 1 := by constructor <;> omega
    obtain ⟨hadjacent, hcode⟩ := hsame.ratioCode_tenth (j := 0) rfl (by decide)
    exact ⟨hadjacent, hcode.trans (by omega)⟩

/-- The step of the tenfold is sixteen. -/
theorem exists_isNearTenth_sixteen (hl : twoTo 56 ≤ 10 * n) (hu : n < twoTo 53) :
    ∃ v, IsNearTenth n v := by
  obtain ⟨h51, h52, h53, h54, h55, h56⟩ := twoTo_bounds
  obtain ⟨m, hv, hm, hm'⟩ :=
    hasValue_tenfold (n := n) (t := 4) (s := 16) rfl (by decide) (by omega) (by omega)
  have hnear := near_step_sixteen hm hm'
  have hsame : SameBinade n (m * 16) 1 := by constructor <;> omega
  obtain ⟨hadjacent, hcode⟩ := hsame.ratioCode_tenth (j := 0) rfl (by decide)
  refine ⟨m * 16, hv, hadjacent, hcode.trans ?_⟩
  unfold ComesBack
  omega

theorem exists_isNearTenth (h : n ≤ twoTo 53) : ∃ v, IsNearTenth n v := by
  rcases Nat.lt_or_ge (10 * n) (twoTo 54) with h54 | h54
  · exact ⟨_, isNearTenth_of_lt h54⟩
  rcases Nat.lt_or_ge (10 * n) (twoTo 55) with h55 | h55
  · exact exists_isNearTenth_four h54 h55
  rcases Nat.lt_or_ge (10 * n) (twoTo 56) with h56 | h56
  · exact exists_isNearTenth_eight h55 h56
  rcases Nat.lt_or_eq_of_le h with h53 | rfl
  · exact exists_isNearTenth_sixteen h56 h53
  · exact ⟨_, isNearTenth_exact (hasValue_ofNat (t := 4) (by decide) (by decide) (by decide))
      (by decide)⟩

/-- What a tenth of the tenfold of a whole number up to `2^53` is. -/
theorem tenth_tenfold (h : n ≤ twoTo 53) : ∃ code ≤ infinityCode,
    (ofNat (10 * n)).div (ofNat (tenTo 1)) = ofCode false code ∧
      Adjacent code (ratioCode n 1) ∧ (code = ratioCode n 1 ↔ ComesBack n) := by
  obtain ⟨v, hv, hadjacent, heq⟩ := exists_isNearTenth h
  have hten : (ofNat (tenTo 1)).HasValue (tenTo 1 : Nat) := hasValue_ofInt (n := 10) (by decide)
  have hsign : decide ((v : Int) < 0) = false :=
    decide_eq_false (Int.not_lt.2 (Int.natCast_nonneg v))
  refine ⟨ratioCode v 10, ratioCode_le v 10, ?_, hadjacent, heq⟩
  rw [div_eq_ofRatio hv hten (by decide), hsign, Int.natAbs_natCast]
  rfl

end

end Termkit.Binary64
