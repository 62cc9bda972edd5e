import Termkit.Binary64

/-!
# The shortest decimal of a binary64 number

Every real between two bounds rounds to the same binary64 number; the bounds themselves do when
the significand is even. Of the decimals in that interval, the shortest has the fewest digits, and
of those with equally few it lies nearest to the number; of two that are equally near, a rule for
ties takes one. A grid of decimals meets the interval exactly if one of the number's two neighbours
on the grid does, so that for each count of digits two candidates decide.
-/

namespace Termkit

/-- The decimal `coefficient · 10^exponent`. -/
structure Decimal where
  coefficient : Nat
  exponent : Int
  deriving DecidableEq, Repr

namespace Decimal

/-- Which of two equally near neighbours on a grid is taken. -/
inductive Tie where
  /-- The one with an even coefficient. -/
  | even
  /-- The greater one. -/
  | greater
  deriving DecidableEq, Repr

/-- The lesser neighbour is taken, of which `c` is the coefficient. -/
def Tie.takesLesser (t : Tie) (c : Nat) : Bool :=
  match t with
  | even => c % 2 = 0
  | greater => false

/-- The reals that round to a number, as whole multiples of `1 / unit`. -/
structure Interval where
  low : Nat
  value : Nat
  high : Nat
  unit : Nat
  closed : Bool
  deriving Repr

/-- The interval of a positive finite number. The gap below a power of two is half the gap above,
except where the exponent is the least. -/
def Interval.ofBinary64 (x : Binary64) : Interval :=
  let m := x.significand
  let up := twoTo x.exponent.toNat
  let below := if m = twoTo 52 ∧ -1074 < x.exponent then 1 else 2
  { low := (4 * m - below) * up
    value := 4 * m * up
    high := (4 * m + 2) * up
    unit := 4 * twoTo (-x.exponent).toNat
    closed := m % 2 = 0 }

/-- `c · 10^p` lies in the interval. -/
def Interval.has (i : Interval) (c : Nat) (p : Int) : Bool :=
  let point := c * tenTo p.toNat * i.unit
  let scale := tenTo (-p).toNat
  if i.closed then i.low * scale ≤ point && point ≤ i.high * scale
  else i.low * scale < point && point < i.high * scale

/-- The multiple of `10^p` in the interval that is nearest to the value. -/
def Interval.onGrid? (i : Interval) (tie : Tie) (p : Int) : Option Decimal :=
  let step := tenTo p.toNat * i.unit
  let value := i.value * tenTo (-p).toNat
  let c := value / step
  let above := 2 * (value % step)
  if i.has c p && (above < step || (above = step && tie.takesLesser c) || !i.has (c + 1) p) then
    some ⟨c, p⟩
  else if i.has (c + 1) p then some ⟨c + 1, p⟩
  else none

def digitCount (n : Nat) : Nat := (Nat.toDigits 10 n).length

def leadingExponent (a b : Nat) : Int :=
  if b ≤ a then (digitCount (a / b) : Int) - 1
  else
    let k := digitCount (b / a) - 1
    if b ≤ a * tenTo k then -k else -(k + 1)

/-- Moves trailing zeros of the coefficient into the exponent; `fuel` bounds their count. -/
def dropZeros : Nat → Decimal → Decimal
  | fuel + 1, d =>
    if d.coefficient ≠ 0 ∧ d.coefficient % 10 = 0 then
      dropZeros fuel ⟨d.coefficient / 10, d.exponent + 1⟩
    else d
  | 0, d => d

/-- The shortest decimal of a positive finite number, of seventeen digits at most. -/
def shortest (tie : Tie) (x : Binary64) : Decimal :=
  let i := Interval.ofBinary64 x
  let e := leadingExponent i.value i.unit
  match (List.range 17).findSome? fun n : Nat => i.onGrid? tie (e - n) with
  | some d => dropZeros 17 d
  | none => ⟨i.value / i.unit, 0⟩

end Decimal

end Termkit
