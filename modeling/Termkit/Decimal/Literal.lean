import Termkit.Decimal.Shortest
import Termkit.Text.Numeral

/-!
# Reading decimals exactly

A decimal literal is a sign, digits with or without a point, and an exponent; the sign, the point,
the digits on one of its sides and the exponent may be left out. It is read as the nearest
binary64 number.
-/

namespace Termkit.Decimal

/-- The binary64 number nearest to a decimal with a sign. The bounds keep the powers of ten small:
beyond them the nearest number is infinite or zero. -/
def toBinary64 (negative : Bool) (d : Decimal) : Binary64 :=
  if d.coefficient = 0 then .ofCode negative 0
  else
    let order := digitCount d.coefficient + d.exponent
    if 310 < order then .infinity negative
    else if order < -330 then .ofCode negative 0
    else .ofRatio negative (d.coefficient * tenTo d.exponent.toNat) (tenTo (-d.exponent).toNat)

def takeSign : Text → Bool × Text
  | '-' :: r => (true, r)
  | '+' :: r => (false, r)
  | t => (false, t)

/-- Reads what follows the digits: nothing, or an exponent. -/
def exponent? : Text → Option Int
  | [] => some 0
  | c :: r =>
    if c = 'e' ∨ c = 'E' then
      let (negative, digits) := takeSign r
      (Text.natIn? 10 digits).map fun n => if negative then -(n : Int) else n
    else none

def unsigned? (t : Text) : Option Decimal := do
  let whole := t.takeWhile Text.isDigit
  let rest := t.dropWhile Text.isDigit
  let (fraction, rest) := match rest with
    | '.' :: r => (r.takeWhile Text.isDigit, r.dropWhile Text.isDigit)
    | r => ([], r)
  let coefficient ← Text.natIn? 10 (whole ++ fraction)
  let e ← exponent? rest
  return ⟨coefficient, e - fraction.length⟩

def nearest? (t : Text) : Option Binary64 :=
  let (negative, rest) := takeSign t
  (unsigned? rest).map (toBinary64 negative)

end Termkit.Decimal
