import Termkit.Power
import Termkit.Decimal.Literal
import Termkit.Yaml.Mark

/-!
# What a scalar means

A plain scalar without a tag is read as null, a truth value, a whole number or a number if it is
spelled like one, and as a string otherwise; any other scalar is a string. A tag of the language
asks for one of these kinds, and a scalar of another spelling is then an error.
-/

namespace Termkit.Yaml

inductive Scalar where
  | null
  | bool (b : Bool)
  | int (n : Int)
  /-- A whole number that does not fit 64 bits but those of the named type. -/
  | wideInt (n : Int) (type : Text)
  | float (x : Binary64)
  | string (t : Text)
  deriving DecidableEq, Repr

def isNull (t : Text) : Bool :=
  ["null", "Null", "NULL", "~"].any fun s => s.toList == t

def bool? (t : Text) : Option Bool :=
  if ["true", "True", "TRUE"].any fun s => s.toList == t then some true
  else if ["false", "False", "FALSE"].any fun s => s.toList == t then some false
  else none

def startsSigned (t : Text) : Bool := t.head? == some '+' || t.head? == some '-'

/-- More than one digit, the first a zero, with or without a sign: such a text is no number. -/
def isPadded (t : Text) : Bool :=
  let digits := if startsSigned t then t.drop 1 else t
  1 < digits.length && digits.head? == some '0' && digits.all Text.isDigit

/-- The base that a text names in front, and its digits. -/
def baseOf? : Text → Option (Nat × Text)
  | '0' :: 'x' :: r => some (16, r)
  | '0' :: 'o' :: r => some (8, r)
  | '0' :: 'b' :: r => some (2, r)
  | _ => none

def magnitude? (t : Text) : Option Nat :=
  match baseOf? t with
  | some (base, digits) => Text.natIn? base digits
  | none => if isPadded t then none else Text.natIn? 10 t

/-- A whole number that is not negative, below `limit`. -/
def natural? (limit : Nat) (t : Text) : Option Nat :=
  let t := if t.head? = some '+' then t.drop 1 else t
  (magnitude? t).filter (· < limit)

/-- A negative whole number, or zero with a sign, down to `-limit`. -/
def negative? (limit : Nat) (t : Text) : Option Int :=
  match t with
  | '-' :: r => ((magnitude? r).filter (· ≤ limit)).map fun n => -(n : Int)
  | _ => none

/-- Reads a whole number of 64 bits, or else of 128. -/
def int? (t : Text) : Option Scalar :=
  ((natural? (twoTo 64) t).map fun n => .int n) <|>
  ((negative? (twoTo 63) t).map .int) <|>
  ((natural? (twoTo 128) t).map fun n => .wideInt n "u128".toList) <|>
  ((negative? (twoTo 127) t).map fun n => .wideInt n "i128".toList)

def isInfinity (t : Text) : Bool := [".inf", ".Inf", ".INF"].any fun s => s.toList == t

def isNaN (t : Text) : Bool := [".nan", ".NaN", ".NAN"].any fun s => s.toList == t

/-- Reads a number. A decimal too large for a finite number is none. -/
def float? (t : Text) : Option Binary64 :=
  let positive := if t.head? = some '+' then t.drop 1 else t
  if isInfinity positive then some (.infinity false)
  else if t.head? = some '-' ∧ isInfinity (t.drop 1) then some (.infinity true)
  else if isNaN t then some .nan
  else if t.head? = some '+' ∧ startsSigned positive then none
  else (Decimal.nearest? positive).filter fun x => !x.isInfinite

def Scalar.ofPlain (t : Text) : Scalar :=
  if t.isEmpty || isNull t then .null
  else match bool? t, int? t with
    | some b, _ => .bool b
    | none, some n => n
    | none, none =>
      match if isPadded t then none else float? t with
      | some x => .float x
      | none => .string t

def boolTag : Text := "tag:yaml.org,2002:bool".toList

def intTag : Text := "tag:yaml.org,2002:int".toList

def floatTag : Text := "tag:yaml.org,2002:float".toList

def nullTag : Text := "tag:yaml.org,2002:null".toList

/-- A tag of the document's own. -/
def isLocalTag (tag : Text) : Bool := tag.head? == some '!'

/-- A tag of the document's own names a variant, if all its octets are characters. -/
def namesVariant (tag : Text) : Bool := isLocalTag tag && !tag.contains '\x00'

/-- The meaning of a scalar, or what its tag asks for in vain. -/
def Scalar.resolve (tag : Option Text) (isPlain : Bool) (t : Text) : Except Text Scalar :=
  let demand (s : Option Scalar) (wanted : String) : Except Text Scalar :=
    match s with
    | some s => .ok s
    | none => .error wanted.toList
  match tag with
  | none => .ok (if isPlain then ofPlain t else .string t)
  | some tag =>
    if tag = boolTag then demand ((bool? t).map .bool) "a boolean"
    else if tag = intTag then demand (int? t) "an integer"
    else if tag = floatTag then demand ((float? t).map .float) "a float"
    else if tag = nullTag then demand (if isNull t then some .null else none) "null"
    else .ok (if isLocalTag tag && isPlain then ofPlain t else .string t)

end Termkit.Yaml
