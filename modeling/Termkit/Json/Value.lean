import Termkit.Decimal.Notation

/-!
# JSON values

Values keep whole numbers apart from the others, and the members of an object in their order with
repeated keys.
-/

namespace Termkit.Json

inductive Value where
  | null
  | bool (b : Bool)
  | int (n : Int)
  | float (x : Binary64)
  | string (t : Text)
  | array (items : List Value)
  | object (members : List (Text × Value))
  deriving Repr

/-- Numbers are written in places from `0.00001` up to sixteen digits before the point, and with an
exponent beyond; a tie goes to the even decimal, and what is not finite is `null`. -/
def numberNotation : Decimal.Notation where
  tie := .even
  inPlaces e := -5 ≤ e && e ≤ 15
  infinity _ := "null".toList
  nan := "null".toList

end Termkit.Json
