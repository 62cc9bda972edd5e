import Termkit.Decimal.Notation
import Termkit.Proofs.Binary64.WholeNumber

/-!
# The text of a whole number

Below `2^53` no two whole numbers round to the same binary64 number, so that the only decimals to
choose from on a grid of whole numbers have the value itself (`Interval.Around`). The shortest of
them is the value without the zeros at its end, and written in places it gets them back
(`Notation.write_ofInt`).
-/

namespace Termkit.Decimal

/-! ## An interval around one whole number -/

theorem Interval.has_natCast (i : Interval) (c p : Nat) : i.has c p =
    if i.closed then decide (i.low ≤ c * tenTo p * i.unit) && decide (c * tenTo p * i.unit ≤ i.high)
    else decide (i.low < c * tenTo p * i.unit) && decide (c * tenTo p * i.unit < i.high) := by
  have hscale : (-(p : Int)).toNat = 0 := by omega
  simp only [Interval.has, Int.toNat_natCast, hscale, tenTo_zero, Nat.mul_one]

/-- The value is the whole number `n`, and the interval ends before the next one on either side. -/
structure Interval.Around (i : Interval) (n : Nat) : Prop where
  value_eq : i.value = n * i.unit
  low_lt : i.low < i.value
  lt_high : i.value < i.high
  value_lt : i.value < i.low + i.unit
  high_lt : i.high < i.value + i.unit

namespace Interval.Around

variable {i : Interval} {n : Nat} (h : i.Around n)

include h

theorem unit_pos : 0 < i.unit := by
  have := h.low_lt
  have := h.value_lt
  omega

/-- On a grid of whole numbers only the value lies in the interval. -/
theorem has_iff (c p : Nat) : i.has c p = true ↔ c * tenTo p = n := by
  obtain ⟨hvalue, hlow, hhigh, hlow', hhigh'⟩ := h
  rw [i.has_natCast]
  constructor
  · intro hc
    have hbounds : i.low ≤ c * tenTo p * i.unit ∧ c * tenTo p * i.unit ≤ i.high := by
      split at hc <;> simp only [Bool.and_eq_true, decide_eq_true_iff] at hc <;> omega
    have hlt : c * tenTo p * i.unit < (n + 1) * i.unit := by
      rw [Nat.succ_mul]
      omega
    have hgt : n * i.unit < (c * tenTo p + 1) * i.unit := by
      rw [Nat.succ_mul]
      omega
    have := Nat.lt_of_mul_lt_mul_right hlt
    have := Nat.lt_of_mul_lt_mul_right hgt
    omega
  · intro hc
    rw [hc, ← hvalue]
    split <;> simp only [Bool.and_eq_true, decide_eq_true_iff] <;> omega

theorem onGrid?_eq_some {tie : Tie} {p : Nat} {d : Decimal} (hd : i.onGrid? tie p = some d) :
    ∃ c, d = ⟨c, p⟩ ∧ c * tenTo p = n := by
  unfold Interval.onGrid? at hd
  dsimp only at hd
  split at hd
  · next hc =>
    simp only [Bool.and_eq_true] at hc
    exact ⟨_, (Option.some.inj hd).symm, (h.has_iff _ p).1 hc.1⟩
  · split at hd
    · next hc => exact ⟨_, (Option.some.inj hd).symm, (h.has_iff _ p).1 hc⟩
    · cases hd

theorem onGrid?_zero (tie : Tie) : i.onGrid? tie 0 = some ⟨n, 0⟩ := by
  have hunit := h.unit_pos
  have hhas : i.has n 0 = true := (h.has_iff n 0).2 (Nat.mul_one n)
  have hdiv : i.value / i.unit = n := by rw [h.value_eq, Nat.mul_div_cancel _ hunit]
  have hmod : i.value % i.unit = 0 := by rw [h.value_eq, Nat.mul_mod_left]
  unfold Interval.onGrid?
  simp [hdiv, hmod, hhas, hunit]

end Interval.Around

/-! ## Zeros at the end -/

/-- Zeros that move into the exponent leave the value. -/
theorem dropZeros_eq (fuel c p : Nat) :
    ∃ c' p' : Nat, dropZeros fuel ⟨c, p⟩ = ⟨c', p'⟩ ∧ c' * tenTo p' = c * tenTo p := by
  induction fuel generalizing c p with
  | zero => exact ⟨c, p, rfl, rfl⟩
  | succ fuel ih =>
    rw [dropZeros]
    split
    · next hc =>
      obtain ⟨c', p', e, hv⟩ := ih (c / 10) (p + 1)
      refine ⟨c', p', e, hv.trans ?_⟩
      rw [tenTo_succ, Nat.mul_comm (tenTo p), ← Nat.mul_assoc,
        Nat.div_mul_cancel (Nat.dvd_of_mod_eq_zero hc.2)]
    · exact ⟨c, p, rfl, rfl⟩

theorem ofNat_mul_tenTo {c : Nat} (hc : 0 < c) (p : Nat) :
    Text.ofNat (c * tenTo p) = Text.ofNat c ++ List.replicate p '0' := by
  induction p with
  | zero => simp
  | succ p ih =>
    have hpos : 0 < c * tenTo p := Nat.mul_pos hc (tenTo_pos p)
    have hmul : c * tenTo (p + 1) = 10 * (c * tenTo p) + 0 := by
      rw [tenTo_succ]
      ac_rfl
    rw [hmul, Text.ofNat, ← Nat.toDigits_append_toDigits (by decide) hpos (by decide),
      List.replicate_succ', ← List.append_assoc, ← ih]
    rfl

/-! ## The shortest decimal -/

theorem leadingExponent_eq {i : Interval} {n : Nat} (h : i.Around n) (hn : 0 < n) :
    leadingExponent i.value i.unit = (digitCount n - 1 : Nat) := by
  have hpos : 0 < digitCount n := Nat.length_toDigits_pos
  have hle : i.unit ≤ i.value := h.value_eq ▸ Nat.le_mul_of_pos_left _ hn
  rw [leadingExponent, if_pos hle, h.value_eq, Nat.mul_div_cancel _ h.unit_pos]
  omega

/-- The search meets a decimal of the value no later than on the grid of ones. -/
theorem shortest_eq {x : Binary64} {n : Nat} (h : (Interval.ofBinary64 x).Around n) (hn : 0 < n)
    (hsize : digitCount n ≤ 17) (tie : Tie) :
    ∃ c p : Nat, shortest tie x = ⟨c, p⟩ ∧ c * tenTo p = n := by
  have hpos : 0 < digitCount n := Nat.length_toDigits_pos
  let grid (k : Nat) := (Interval.ofBinary64 x).onGrid? tie ((digitCount n - 1 : Nat) - (k : Int))
  have hhit : ((List.range (digitCount n)).findSome? grid).isSome := by
    refine List.findSome?_isSome_iff.2 ⟨digitCount n - 1, List.mem_range.2 (by omega), ?_⟩
    simp only [grid, Int.sub_self, h.onGrid?_zero, Option.isSome_some]
  obtain ⟨d, hd⟩ := Option.isSome_iff_exists.1 hhit
  obtain ⟨k, hk, hkd⟩ := List.exists_of_findSome?_eq_some hd
  have hexp : ((digitCount n - 1 : Nat) - (k : Int)) = (digitCount n - 1 - k : Nat) := by
    have := List.mem_range.1 hk
    omega
  simp only [grid, hexp] at hkd
  obtain ⟨c, rfl, hc⟩ := h.onGrid?_eq_some hkd
  have hsearch : (List.range 17).findSome? grid = some ⟨c, (digitCount n - 1 - k : Nat)⟩ := by
    rw [← Nat.add_sub_cancel' hsize, List.range_add, List.findSome?_append, hd, Option.some_or]
  obtain ⟨c', p', hz, hv⟩ := dropZeros_eq 17 c (digitCount n - 1 - k)
  refine ⟨c', p', ?_, hv.trans hc⟩
  rw [shortest, leadingExponent_eq h hn, hsearch]
  exact hz

/-! ## Whole numbers -/

theorem digitCount_le {n : Nat} (h : n ≤ twoTo 53) : digitCount n ≤ 16 :=
  (Nat.length_toDigits_le_iff (by decide) (by decide)).2 (Nat.lt_of_le_of_lt h (by decide))

theorem around_ofInt {n : Int} (hn : 0 < n.natAbs) (h : n.natAbs < twoTo 53) :
    (Interval.ofBinary64 (.ofInt n)).Around n.natAbs := by
  obtain ⟨hl, hu⟩ := Binary64.significand_bounds hn h
  have hlog := Binary64.log2_le_52 hn h
  have hm : (Binary64.ofInt n).significand = n.natAbs * twoTo (52 - n.natAbs.log2) := by
    rw [Binary64.ofInt, Binary64.ofRatio, Binary64.ratioCode_one hn h]
    exact Binary64.significand_ofCode (by omega) hl hu _
  have he : (Binary64.ofInt n).exponent = (n.natAbs.log2 : Int) - 52 := by
    rw [Binary64.ofInt, Binary64.ofRatio, Binary64.ratioCode_one hn h,
      Binary64.exponent_ofCode (by omega) hl hu]
    omega
  have hpos := twoTo_pos (52 - n.natAbs.log2)
  have h52 := twoTo_pos 52
  have hscale : n.natAbs * (4 * twoTo (52 - n.natAbs.log2)) =
      4 * (n.natAbs * twoTo (52 - n.natAbs.log2)) := Nat.mul_left_comm _ _ _
  constructor <;>
    simp only [Interval.ofBinary64, hm, he, show ((n.natAbs.log2 : Int) - 52).toNat = 0 by omega,
      show (-((n.natAbs.log2 : Int) - 52)).toNat = 52 - n.natAbs.log2 by omega, twoTo_zero,
      Nat.mul_one]
  · exact hscale.symm
  · split <;> omega
  · omega
  · split <;> omega
  · omega

theorem shortest_ofInt {n : Int} (hn : 0 < n.natAbs) (h : n.natAbs ≤ twoTo 53) (tie : Tie) :
    ∃ c p : Nat, shortest tie (.ofInt n) = ⟨c, p⟩ ∧ c * tenTo p = n.natAbs := by
  rcases Nat.lt_or_eq_of_le h with hlt | heq
  · exact shortest_eq (around_ofInt hn hlt) hn (Nat.le_succ_of_le (digitCount_le h)) tie
  · refine ⟨twoTo 53, 0, ?_, heq ▸ Nat.mul_one _⟩
    rcases Int.natAbs_eq n with e | e <;> rw [e, heq] <;> cases tie <;> decide +kernel

/-- The digits get the zeros back that were moved into the exponent. -/
theorem places_whole {c p n : Nat} (hc : 0 < c) (h : c * tenTo p = n) :
    places (Text.ofNat c) (p + ((Text.ofNat c).length - 1 : Nat)) = Text.ofNat n ++ ['.', '0'] := by
  have hpos : 0 < (Text.ofNat c).length := Nat.length_toDigits_pos
  unfold places
  rw [if_neg (by omega)]
  dsimp only
  rw [if_pos (by omega), ← h, ofNat_mul_tenTo hc]
  congr 3
  omega

section

variable (w : Notation) (hw : ∀ e : Int, 0 ≤ e → e ≤ 15 → w.inPlaces e = true) {n : Int}
  (h : n.natAbs ≤ twoTo 53)

include hw h

theorem Notation.magnitude_ofInt : w.magnitude (.ofInt n) = Text.ofNat n.natAbs ++ ['.', '0'] := by
  rcases Nat.eq_zero_or_pos n.natAbs with h0 | hn
  · obtain rfl := Int.natAbs_eq_zero.1 h0
    exact if_pos (by decide)
  · have hzero : (Binary64.ofInt n).isZero = false := (Binary64.hasValue_ofInt h).isZero_eq hn
    obtain ⟨c, p, hd, hv⟩ := shortest_ofInt hn h w.tie
    have hc : 0 < c := Nat.pos_of_mul_pos_right (hv ▸ hn)
    have hlen : (Text.ofNat c).length + p ≤ 16 := by
      have hdigits := digitCount_le h
      rwa [digitCount, ← Text.ofNat, ← hv, ofNat_mul_tenTo hc, List.length_append,
        List.length_replicate] at hdigits
    have hpos : 0 < (Text.ofNat c).length := Nat.length_toDigits_pos
    rw [magnitude, hzero, if_neg (by decide), hd]
    dsimp only
    rw [hw _ (by omega) (by omega), if_pos rfl, places_whole hc hv]

/-- A whole number up to `2^53` is written with all its digits and one zero behind the point. -/
theorem Notation.write_ofInt :
    w.write (.ofInt n) = (if n < 0 then ['-'] else []) ++ (Text.ofNat n.natAbs ++ ['.', '0']) := by
  obtain ⟨hfinite, hsign, -⟩ := Binary64.hasValue_ofInt h
  have hnan : (Binary64.ofInt n).isNaN = false := decide_eq_false (Nat.lt_asymm hfinite)
  have hinf : (Binary64.ofInt n).isInfinite = false := beq_false_of_ne (Nat.ne_of_lt hfinite)
  rw [write, hnan, hinf, hsign, w.magnitude_ofInt hw h]
  simp

end

end Termkit.Decimal
