import Termkit.Text.Basic

/-!
# Digits

Numbers as texts of digits, in bases ten and sixteen, and back.
-/

namespace Termkit.Text

def ofNat (n : Nat) : Text := Nat.toDigits 10 n

/-- The lowercase hexadecimal digits of a number, with zeros in front up to `width` digits. -/
def hex (width n : Nat) : Text :=
  let digits := Nat.toDigits 16 n
  List.replicate (width - digits.length) '0' ++ digits

def isDigit (c : Char) : Bool := '0' ≤ c && c ≤ '9'

def isLetter (c : Char) : Bool := ('a' ≤ c && c ≤ 'z') || ('A' ≤ c && c ≤ 'Z')

/-- The value of a digit in any base up to sixteen; letters of either case stand for ten and more. -/
def digitValue? (c : Char) : Option Nat :=
  if isDigit c then some (c.toNat - '0'.toNat)
  else if 'a' ≤ c && c ≤ 'f' then some (c.toNat - 'a'.toNat + 10)
  else if 'A' ≤ c && c ≤ 'F' then some (c.toNat - 'A'.toNat + 10)
  else none

def digitIn? (base : Nat) (c : Char) : Option Nat :=
  (digitValue? c).filter (· < base)

/-- The number written by a nonempty text of digits in the given base. -/
def natIn? (base : Nat) : Text → Option Nat
  | [] => none
  | t => t.foldlM (fun n c => (digitIn? base c).map (n * base + ·)) 0

end Termkit.Text
