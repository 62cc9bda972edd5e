import Termkit.Power

/-!
# Binary64 numbers

A binary64 number is its 64 bits: a sign and a magnitude code. Codes ascend with the magnitude, so
that rounding is arithmetic on codes: the code of `m · 2^q` with `m < 2^53`, or `2^52 ≤ m` where
the exponent is not the least, is `(q + 1074) · 2^52 + m`, and a significand that rounds up to
`2^53` carries into the exponent by itself. Every operation computes the exact ratio and rounds
once, to the nearest number and on a tie to the even code.
-/

namespace Termkit

/-- A binary64 number by its bits. -/
structure Binary64 where
  bits : UInt64
  deriving DecidableEq, Repr

namespace Binary64

/-- The code of infinity; larger codes are not numbers. -/
def infinityCode : Nat := 2047 * twoTo 52

def ofCode (negative : Bool) (code : Nat) : Binary64 :=
  ⟨UInt64.ofNat (code + if negative then twoTo 63 else 0)⟩

def isNegative (x : Binary64) : Bool := twoTo 63 ≤ x.bits.toNat

def code (x : Binary64) : Nat := x.bits.toNat % twoTo 63

def isNaN (x : Binary64) : Bool := infinityCode < x.code

def isInfinite (x : Binary64) : Bool := x.code == infinityCode

def isZero (x : Binary64) : Bool := x.code == 0

def neg (x : Binary64) : Binary64 := ofCode (!x.isNegative) x.code

def infinity (negative : Bool) : Binary64 := ofCode negative infinityCode

def nan : Binary64 := ofCode false (infinityCode + twoTo 51)

/-- Equality of numbers: zeros are equal whatever their sign, and what is not a number equals
nothing. -/
def sameNumber (x y : Binary64) : Bool :=
  !x.isNaN && !y.isNaN && (x == y || (x.isZero && y.isZero))

def significand (x : Binary64) : Nat :=
  if x.code / twoTo 52 = 0 then x.code else twoTo 52 + x.code % twoTo 52

/-- The power of two that a finite magnitude's significand counts. -/
def exponent (x : Binary64) : Int :=
  if x.code / twoTo 52 = 0 then -1074 else (x.code / twoTo 52 : Nat) - 1075

/-- The magnitude is `numerator / denominator`. -/
def numerator (x : Binary64) : Nat := x.significand * twoTo x.exponent.toNat

def denominator (x : Binary64) : Nat := twoTo (-x.exponent).toNat

/-- The whole number nearest to `a / b`; a half goes to the even neighbour. -/
def divEven (a b : Nat) : Nat :=
  let q := a / b
  let r := a % b
  if 2 * r < b then q else if b < 2 * r then q + 1 else q + q % 2

/-- `a / b < 2^k`. -/
def ratioBelow (a b : Nat) (k : Int) : Bool :=
  a * twoTo (-k).toNat < b * twoTo k.toNat

/-- The least power of two that leaves `a / b` a significand below `2^53`, and no less than the
least of the format. -/
def ratioExponent (a b : Nat) : Int :=
  let k : Int := (a.log2 : Int) - b.log2
  max (-1074) ((if ratioBelow a b k then k else k + 1) - 53)

/-- The code of the magnitude nearest to `a / b`, for `b` not zero. -/
def ratioCode (a b : Nat) : Nat :=
  if a = 0 then 0
  else
    let q := ratioExponent a b
    let m := divEven (a * twoTo (-q).toNat) (b * twoTo q.toNat)
    min ((q + 1074).toNat * twoTo 52 + m) infinityCode

/-- The number nearest to `a / b` with the given sign, for `b` not zero. -/
def ofRatio (negative : Bool) (a b : Nat) : Binary64 := ofCode negative (ratioCode a b)

def ofNat (n : Nat) : Binary64 := ofRatio false n 1

/-- The number nearest to a whole number; zero is positive. -/
def ofInt (n : Int) : Binary64 := ofRatio (n < 0) n.natAbs 1

def mul (x y : Binary64) : Binary64 :=
  ofRatio (x.isNegative != y.isNegative) (x.numerator * y.numerator)
    (x.denominator * y.denominator)

/-- The quotient of two finite numbers, the second not zero. -/
def div (x y : Binary64) : Binary64 :=
  ofRatio (x.isNegative != y.isNegative) (x.numerator * y.denominator)
    (x.denominator * y.numerator)

end Binary64

end Termkit
