import Termkit.Proofs.Binary64.WholeNumber

/-!
# Rounding a ratio

The code of the number nearest to a ratio depends on the ratio only, not on the two numbers that
give it (`ratioCode_mul_right`), so that a quotient of two numbers is the number nearest to the
ratio of their values (`div_eq_ofRatio`). Between two powers of two the significand is the ratio
scaled and rounded to a whole number (`ratioCode_eq`).
-/

namespace Termkit.Binary64

variable {a b c m : Nat}

/-! ## The nearest whole number -/

/-- The nearest whole number is off by no more than a half. -/
theorem divEven_error (hb : 0 < b) (a : Nat) :
    2 * (b * divEven a b) ≤ 2 * a + b ∧ 2 * a ≤ 2 * (b * divEven a b) + b := by
  have hdiv := Nat.div_add_mod a b
  have hmod := Nat.mod_lt a hb
  have hsucc : b * (a / b + 1) = b * (a / b) + b := Nat.mul_succ _ _
  simp only [divEven]
  split
  · omega
  · split
    · omega
    · rcases Nat.mod_two_eq_zero_or_one (a / b) with h | h
      · rw [h, Nat.add_zero]
        omega
      · rw [h]
        omega

/-- Rounding passes no whole number. -/
theorem le_divEven (hb : 0 < b) (h : b * m ≤ a) : m ≤ divEven a b := by
  refine Nat.le_of_not_lt fun hlt => ?_
  have hstep : b * (divEven a b + 1) ≤ b * m := Nat.mul_le_mul_left b hlt
  have herror := divEven_error hb a
  rw [Nat.mul_succ] at hstep
  omega

theorem divEven_le (hb : 0 < b) (h : a ≤ b * m) : divEven a b ≤ m := by
  refine Nat.le_of_not_lt fun hlt => ?_
  have hstep : b * (m + 1) ≤ b * divEven a b := Nat.mul_le_mul_left b hlt
  have herror := divEven_error hb a
  rw [Nat.mul_succ] at hstep
  omega

theorem divEven_mul_right (hc : 0 < c) (a b : Nat) : divEven (a * c) (b * c) = divEven a b := by
  have hscale : ∀ r, (2 * (r * c) < b * c ↔ 2 * r < b) ∧ (b * c < 2 * (r * c) ↔ b < 2 * r) := by
    intro r
    rw [← Nat.mul_assoc]
    exact ⟨Nat.mul_lt_mul_right hc, Nat.mul_lt_mul_right hc⟩
  simp only [divEven, Nat.mul_div_mul_right _ _ hc, Nat.mul_mod_mul_right, hscale]

/-! ## Powers of two around a ratio -/

/-- The power is a quotient of two powers in any way. -/
theorem ratioBelow_sub (a b j k : Nat) :
    ratioBelow a b ((k : Int) - j) = decide (a * twoTo j < b * twoTo k) := by
  have hcut : ∀ {j k r : Nat}, j = r + k → twoTo j = twoTo r * twoTo k := fun h => by
    rw [h, twoTo_add]
  unfold ratioBelow
  rcases Nat.le_total j k with h | h
  · have hk : twoTo k = twoTo ((k : Int) - j).toNat * twoTo j := hcut (by omega)
    rw [show (-((k : Int) - j)).toNat = 0 by omega, twoTo_zero, Nat.mul_one, hk, ← Nat.mul_assoc]
    exact decide_eq_decide.2 (Nat.mul_lt_mul_right (twoTo_pos j)).symm
  · have hj : twoTo j = twoTo (-((k : Int) - j)).toNat * twoTo k := hcut (by omega)
    rw [show ((k : Int) - j).toNat = 0 by omega, twoTo_zero, Nat.mul_one, hj, ← Nat.mul_assoc]
    exact decide_eq_decide.2 (Nat.mul_lt_mul_right (twoTo_pos k)).symm

theorem ratioBelow_mul_right (hc : 0 < c) (a b : Nat) (e : Int) :
    ratioBelow (a * c) (b * c) e = ratioBelow a b e := by
  unfold ratioBelow
  rw [Nat.mul_right_comm a, Nat.mul_right_comm b]
  exact decide_eq_decide.2 (Nat.mul_lt_mul_right hc)

theorem ratioBelow_mono {e e' : Int} (h : ratioBelow a b e = true) (he : e ≤ e') :
    ratioBelow a b e' = true := by
  obtain ⟨d, rfl⟩ := Int.le.dest he
  have hlt : a * twoTo (-e).toNat < b * twoTo e.toNat := of_decide_eq_true h
  have hd : e + d = ((e.toNat + d : Nat) : Int) - (-e).toNat := by omega
  rw [hd, ratioBelow_sub, decide_eq_true_iff, twoTo_add, ← Nat.mul_assoc]
  exact Nat.lt_of_lt_of_le hlt (Nat.le_mul_of_pos_right _ (twoTo_pos d))

/-- The ratio lies between one power of two and the next: `2^(e-1) ≤ a / b < 2^e`. -/
def HasOrder (a b : Nat) (e : Int) : Prop :=
  ratioBelow a b (e - 1) = false ∧ ratioBelow a b e = true

theorem HasOrder.mul_right {e : Int} (h : HasOrder a b e) (hc : 0 < c) :
    HasOrder (a * c) (b * c) e := by
  rwa [HasOrder, ratioBelow_mul_right hc, ratioBelow_mul_right hc]

theorem HasOrder.unique {e e' : Int} (h : HasOrder a b e) (h' : HasOrder a b e') : e = e' := by
  have hle : ∀ {e e'}, HasOrder a b e → HasOrder a b e' → e' ≤ e := by
    intro e e' h h'
    refine Int.not_lt.1 fun hlt => ?_
    have := ratioBelow_mono h.2 (show e ≤ e' - 1 by omega)
    rw [h'.1] at this
    cases this
  exact Int.le_antisymm (hle h' h) (hle h h')

/-- The logarithms decide the order up to one comparison. -/
theorem hasOrder_ratio (ha : 0 < a) (hb : 0 < b) :
    HasOrder a b (if ratioBelow a b ((a.log2 : Int) - b.log2) then (a.log2 : Int) - b.log2
      else (a.log2 : Int) - b.log2 + 1) := by
  have hlog : ∀ {n : Nat}, 0 < n → twoTo n.log2 ≤ n ∧ n < twoTo (n.log2 + 1) := fun hn =>
    ⟨twoTo_log2_le hn, (Nat.log2_lt (by omega)).1 (Nat.lt_succ_self _)⟩
  obtain ⟨hal, hau⟩ := hlog ha
  obtain ⟨hbl, hbu⟩ := hlog hb
  split
  · next h =>
    refine ⟨?_, h⟩
    have he : (a.log2 : Int) - b.log2 - 1 = (a.log2 : Int) - (b.log2 + 1 : Nat) := by omega
    rw [he, ratioBelow_sub, decide_eq_false_iff_not, Nat.not_lt, Nat.mul_comm a]
    exact Nat.mul_le_mul (Nat.le_of_lt hbu) hal
  · next h =>
    refine ⟨?_, ?_⟩
    · rw [Int.add_sub_cancel]
      exact Bool.eq_false_iff.2 h
    · have he : (a.log2 : Int) - b.log2 + 1 = (a.log2 + 1 : Nat) - (b.log2 : Int) := by omega
      rw [he, ratioBelow_sub, decide_eq_true_iff, Nat.mul_comm b]
      exact Nat.mul_lt_mul_of_lt_of_le hau hbl hb

theorem HasOrder.ratioExponent_eq {e : Int} (h : HasOrder a b e) (ha : 0 < a) (hb : 0 < b) :
    ratioExponent a b = max (-1074) (e - 53) := by
  rw [h.unique (hasOrder_ratio ha hb)]
  rfl

/-! ## The code of a ratio -/

theorem ratioExponent_mul_right (ha : 0 < a) (hb : 0 < b) (hc : 0 < c) :
    ratioExponent (a * c) (b * c) = ratioExponent a b := by
  obtain ⟨e, h⟩ : ∃ e, HasOrder a b e := ⟨_, hasOrder_ratio ha hb⟩
  rw [h.ratioExponent_eq ha hb,
    (h.mul_right hc).ratioExponent_eq (Nat.mul_pos ha hc) (Nat.mul_pos hb hc)]

theorem ratioCode_zero (b : Nat) : ratioCode 0 b = 0 := if_pos rfl

theorem ratioCode_le (a b : Nat) : ratioCode a b ≤ infinityCode := by
  unfold ratioCode
  split
  · exact Nat.zero_le _
  · exact Nat.min_le_right _ _

theorem ratioCode_mul_right (hb : 0 < b) (hc : 0 < c) (a : Nat) :
    ratioCode (a * c) (b * c) = ratioCode a b := by
  rcases Nat.eq_zero_or_pos a with rfl | ha
  · rw [Nat.zero_mul, ratioCode_zero, ratioCode_zero]
  · unfold ratioCode
    rw [if_neg (Nat.ne_of_gt (Nat.mul_pos ha hc)), if_neg (Nat.ne_of_gt ha),
      ratioExponent_mul_right ha hb hc]
    dsimp only
    rw [Nat.mul_right_comm a, Nat.mul_right_comm b, divEven_mul_right hc]

section

variable {j t : Nat} (hj : j ≤ t + 1074) (ht : t ≤ 970) (hb : 0 < b)
  (hl : b * twoTo t * twoTo 52 ≤ a * twoTo j) (hu : a * twoTo j < b * twoTo t * twoTo 53)

include hj ht hb hl hu

/-- The significand is the ratio scaled into its range and rounded there. -/
theorem ratioCode_eq :
    ratioCode a b = (t + 1074 - j) * twoTo 52 + divEven (a * twoTo j) (b * twoTo t) := by
  have hscale : 0 < b * twoTo t := Nat.mul_pos hb (twoTo_pos t)
  have ha : 0 < a := by
    refine Nat.pos_of_ne_zero fun h => ?_
    have := Nat.mul_pos hscale (twoTo_pos 52)
    rw [h, Nat.zero_mul] at hl
    omega
  have horder : HasOrder a b ((t : Int) - j + 53) := by
    have hlow : (t : Int) - j + 53 - 1 = (t + 52 : Nat) - (j : Int) := by omega
    have hhigh : (t : Int) - j + 53 = (t + 53 : Nat) - (j : Int) := by omega
    constructor
    · rwa [hlow, ratioBelow_sub, decide_eq_false_iff_not, Nat.not_lt, twoTo_add, ← Nat.mul_assoc]
    · rwa [hhigh, ratioBelow_sub, decide_eq_true_iff, twoTo_add, ← Nat.mul_assoc]
  have hexp : ratioExponent a b = (t : Int) - j := by
    rw [horder.ratioExponent_eq ha hb]
    omega
  have hround : divEven (a * twoTo (-((t : Int) - j)).toNat) (b * twoTo ((t : Int) - j).toNat) =
      divEven (a * twoTo j) (b * twoTo t) := by
    rw [← divEven_mul_right (twoTo_pos (min j t)), Nat.mul_assoc, Nat.mul_assoc, ← twoTo_add,
      ← twoTo_add, show (-((t : Int) - j)).toNat + min j t = j by omega,
      show ((t : Int) - j).toNat + min j t = t by omega]
  have hm : divEven (a * twoTo j) (b * twoTo t) ≤ twoTo 53 :=
    divEven_le hscale (Nat.le_of_lt hu)
  have h52 : twoTo 52 = 4503599627370496 := rfl
  have h53 : twoTo 53 = 9007199254740992 := rfl
  rw [ratioCode, if_neg (Nat.ne_of_gt ha)]
  dsimp only
  rw [hexp, hround, show ((t : Int) - j + 1074).toNat = t + 1074 - j by omega]
  refine Nat.min_eq_left ?_
  rw [infinityCode, h52]
  omega

end

/-! ## The values of rounded numbers -/

/-- A whole number beyond `2^53` is rounded to a multiple of the step between its neighbours. -/
theorem hasValue_ofNat {n t : Nat} (ht : t ≤ 900) (hl : twoTo t * twoTo 52 ≤ n)
    (hu : n < twoTo t * twoTo 53) :
    (ofNat n).HasValue (divEven n (twoTo t) * twoTo t : Nat) := by
  have h53 : twoTo 53 = 2 * twoTo 52 := Nat.mul_comm _ _
  have hm : twoTo 52 ≤ divEven n (twoTo t) := le_divEven (twoTo_pos t) hl
  have hm' : divEven n (twoTo t) ≤ twoTo 53 := divEven_le (twoTo_pos t) (Nat.le_of_lt hu)
  have hcode : ratioCode n 1 = (t + 1074) * twoTo 52 + divEven n (twoTo t) := by
    have h := ratioCode_eq (a := n) (b := 1) (j := 0) (t := t) (by omega) (by omega) (by decide)
    simp only [twoTo_zero, Nat.one_mul, Nat.mul_one, Nat.sub_zero] at h
    exact h hl hu
  have hsign : ∀ v : Nat, false = decide ((v : Int) < 0) := fun v =>
    (decide_eq_false (Int.not_lt.2 (Int.natCast_nonneg v))).symm
  rw [ofNat, ofRatio, hcode]
  rcases Nat.eq_or_lt_of_le hm' with h | h
  · -- the significand is carried into the exponent
    have hcarry : (t + 1074) * twoTo 52 + twoTo 53 = (t + 1075) * twoTo 52 + twoTo 52 := by
      rw [h53, Nat.succ_mul (t + 1074)]
      omega
    rw [h, hcarry]
    have hpos := twoTo_pos 52
    refine hasValue_ofCode (e := t + 1075) (by omega) (Nat.le_refl _) (by omega) _ (hsign _) ?_
    rw [Int.natAbs_natCast, show t + 1075 - 1074 = t + 1 by omega,
      show 1074 - (t + 1075) = 0 by omega, twoTo_zero, twoTo_succ t, h53]
    ac_rfl
  · refine hasValue_ofCode (e := t + 1074) (by omega) hm (by omega) _ (hsign _) ?_
    rw [Int.natAbs_natCast, Nat.add_sub_cancel, show 1074 - (t + 1074) = 0 by omega, twoTo_zero,
      Nat.mul_one]

/-- The quotient of two numbers is the number nearest to the ratio of their values. -/
theorem div_eq_ofRatio {x y : Binary64} {p q : Int} (hx : x.HasValue p) (hy : y.HasValue q)
    (hq : q ≠ 0) : x.div y = ofRatio (decide (p < 0) != decide (q < 0)) p.natAbs q.natAbs := by
  obtain ⟨-, hxn, hxv⟩ := hx
  obtain ⟨-, hyn, hyv⟩ := hy
  have hden : 0 < x.denominator * y.denominator := Nat.mul_pos (twoTo_pos _) (twoTo_pos _)
  rw [div, hxn, hyn, hxv, hyv, ofRatio, ofRatio, Nat.mul_assoc,
    ← Nat.mul_left_comm q.natAbs, ratioCode_mul_right (Int.natAbs_pos.2 hq) hden]

end Termkit.Binary64
