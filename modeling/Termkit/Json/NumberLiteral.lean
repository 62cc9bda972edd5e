import Termkit.Json.Fault
import Termkit.Json.Value

/-!
# Reading JSON numbers

A whole number of 64 bits is read exactly. Any other number is read fast rather than exactly: its
digits are gathered in a 64-bit significand, which leaves out the digits from the first that does
not fit, and the significand is then multiplied or divided by a power of ten in one rounded
operation.
-/

namespace Termkit.Json

/-- Appends decimal digits while the significand stays below `2^64`, and counts those appended. -/
def appendDigits : (significand : Nat) → Text → Nat × Nat
  | s, [] => (s, 0)
  | s, c :: r =>
    let s' := s * 10 + (c.toNat - '0'.toNat)
    if s' < twoTo 64 then
      let (t, n) := appendDigits s' r
      (t, n + 1)
    else (s, 0)

def nearestTenTo (n : Nat) : Binary64 := Binary64.ofNat (tenTo n)

/-- `f · 10^e` for `f` not negative, `none` if it is too large. Powers of ten end at `10^308`: a
smaller factor is applied in portions, of which `fuel` bounds the count. -/
def scale : (fuel : Nat) → (f : Binary64) → (e : Int) → Option Binary64
  | fuel, f, e =>
    if 308 < e then if f.isZero then some f else none
    else if 0 ≤ e then
      let r := f.mul (nearestTenTo e.toNat)
      if r.isInfinite then none else some r
    else if -308 ≤ e then some (f.div (nearestTenTo (-e).toNat))
    else if f.isZero then some f
    else match fuel with
      | 0 => some f
      | fuel + 1 => scale fuel (f.div (nearestTenTo 308)) (e + 308)

/-- The number of a significand and a decimal exponent; the sign is applied last. -/
def assemble (negative : Bool) (s : Nat) (e : Int) (c : Cursor) :
    Except Error (Value × Cursor) :=
  match scale (e.natAbs / 308 + 1) (Binary64.ofNat s) e with
  | some f => .ok (.float (if negative then f.neg else f), c)
  | none => c.fault .numberTooLarge

/-- Gathers the digits of an exponent, and counts them up to the first with which it does not fit
31 bits; `none` for the exponent says that there is such a digit. -/
def exponentDigits : (e : Nat) → Text → Option Nat × Nat
  | e, [] => (some e, 0)
  | e, c :: r =>
    let e' := e * 10 + (c.toNat - '0'.toNat)
    if e' < twoTo 31 then
      let (t, n) := exponentDigits e' r
      (t, n + 1)
    else (none, 1)

/-- Reads an exponent from behind its letter. -/
def readExponent (negative : Bool) (s : Nat) (e : Int) (c : Cursor) :
    Except Error (Value × Cursor) :=
  let (down, c) := match c.rest with
    | '+' :: _ => (false, c.next)
    | '-' :: _ => (true, c.next)
    | _ => (false, c)
  match c.rest with
  | [] => c.fault .valueEnds
  | d :: _ =>
    if !Text.isDigit d then c.faultAhead .badNumber
    else
      let digits := c.rest.takeWhile Text.isDigit
      match exponentDigits 0 digits with
      | (some x, n) => assemble negative s (if down then e - x else e + x) (c.skip n)
      | (none, n) =>
        if s ≠ 0 ∧ !down then (c.skip n).fault .numberTooLarge
        else .ok (.float (Binary64.ofCode negative 0), c.skip digits.length)

def finishNumber (negative : Bool) (s : Nat) (e : Int) (c : Cursor) :
    Except Error (Value × Cursor) :=
  match c.rest with
  | 'e' :: _ => readExponent negative s e c.next
  | 'E' :: _ => readExponent negative s e c.next
  | _ => assemble negative s e c

/-- Reads a fraction from behind the point. -/
def readFraction (negative : Bool) (s : Nat) (e : Int) (c : Cursor) :
    Except Error (Value × Cursor) :=
  let digits := c.rest.takeWhile Text.isDigit
  if digits.isEmpty then
    c.faultAhead (if c.rest.isEmpty then .valueEnds else .badNumber)
  else
    let (s, n) := appendDigits s digits
    finishNumber negative s (e - n) (c.skip digits.length)

/-- The value of a whole number of 64 bits. A negative zero is not whole, and neither is a negative
number below the least of 64 bits with a sign. -/
def wholeNumber (negative : Bool) (s : Nat) : Value :=
  if !negative then .int s
  else if s = 0 ∨ twoTo 63 < s then .float (Binary64.ofNat s).neg
  else .int (-s)

/-- Reads a number from behind its sign. -/
def readNumber (negative : Bool) (c : Cursor) : Except Error (Value × Cursor) :=
  let digits := c.rest.takeWhile Text.isDigit
  match c.rest, digits with
  | [], _ => c.fault .valueEnds
  | _, [] => c.faultAhead .badNumber
  | _, '0' :: _ :: _ => c.next.faultAhead .badNumber
  | _, _ =>
    let (s, n) := appendDigits 0 digits
    let dropped := digits.length - n
    let c := c.skip digits.length
    match c.rest with
    | '.' :: _ => readFraction negative s dropped c.next
    | 'e' :: _ => readExponent negative s dropped c.next
    | 'E' :: _ => readExponent negative s dropped c.next
    | _ =>
      if dropped = 0 then .ok (wholeNumber negative s, c)
      else assemble negative s dropped c

end Termkit.Json
