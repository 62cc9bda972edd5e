import Termkit.Decimal.Shortest
import Termkit.Text.Numeral

/-!
# Written numbers

A number is written with the digits of its shortest decimal. A `Notation` decides the rest: which
of two equally near decimals is taken, for which exponents of the leading digit the digits stand in
their places, and what is written for values that are not finite. A number written in places has at
least one digit after the point.
-/

namespace Termkit.Decimal

/-- The choices that a format makes for the text of a number. -/
structure Notation where
  tie : Tie
  /-- The digits stand in their places for this exponent of the leading digit. -/
  inPlaces : Int → Bool
  infinity : Bool → Text
  nan : Text

/-- Digits in their places, with the exponent of the leading digit. -/
def places (digits : Text) (e : Int) : Text :=
  if e < 0 then
    '0' :: '.' :: (List.replicate (-e - 1).toNat '0' ++ digits)
  else
    let whole := e.toNat + 1
    if digits.length ≤ whole then
      digits ++ List.replicate (whole - digits.length) '0' ++ ['.', '0']
    else digits.take whole ++ '.' :: digits.drop whole

/-- One digit before the point and a signed exponent. -/
def scientific (digits : Text) (e : Int) : Text :=
  let fraction := match digits.drop 1 with
    | [] => []
    | rest => '.' :: rest
  digits.take 1 ++ fraction ++ 'e' :: (if e < 0 then '-' else '+') :: Text.ofNat e.natAbs

def Notation.magnitude (n : Notation) (x : Binary64) : Text :=
  if x.isZero then ['0', '.', '0']
  else
    let d := shortest n.tie x
    let digits := Text.ofNat d.coefficient
    let e := d.exponent + (digits.length - 1 : Nat)
    if n.inPlaces e then places digits e else scientific digits e

def Notation.write (n : Notation) (x : Binary64) : Text :=
  if x.isNaN then n.nan
  else if x.isInfinite then n.infinity x.isNegative
  else (if x.isNegative then ['-'] else []) ++ n.magnitude x

end Termkit.Decimal
