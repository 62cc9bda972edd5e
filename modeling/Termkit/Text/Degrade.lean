import Termkit.Text.Width

/-!
# Degrading text for narrow terminals

A terminal without full Unicode support lays out only characters of one column from the Basic
Multilingual Plane. Degrading a text replaces the others: a character of two columns becomes two
question marks, a mark without a column is dropped, and any other character beyond U+FFFF becomes
one question mark. Control characters stay. How many columns a character takes depends on the
terminal and on the version of its tables, so that it is an argument here; `degrade` takes the
columns of `columns?`.
-/

namespace Termkit.Text

/-- What a narrow terminal shows for one character. -/
def degradeChar (width? : Char → Option Nat) (c : Char) : Text :=
  if width? c = some 2 then ['?', '?']
  else if width? c = some 0 ∧ isControl c = false then []
  else if 0xffff < c.toNat then ['?']
  else [c]

def degradeBy (width? : Char → Option Nat) (t : Text) : Text := t.flatMap (degradeChar width?)

def degrade (t : Text) : Text := degradeBy columns? t

section

variable (width? : Char → Option Nat) (c : Char) (s t : Text)

@[simp] theorem degradeBy_nil : degradeBy width? [] = [] := rfl

@[simp] theorem degradeBy_cons :
    degradeBy width? (c :: t) = degradeChar width? c ++ degradeBy width? t := List.flatMap_cons

@[simp] theorem degradeBy_append :
    degradeBy width? (s ++ t) = degradeBy width? s ++ degradeBy width? t := List.flatMap_append

@[simp] theorem degrade_nil : degrade [] = [] := rfl

@[simp] theorem degrade_cons : degrade (c :: t) = degradeChar columns? c ++ degrade t :=
  degradeBy_cons columns? c t

@[simp] theorem degrade_append : degrade (s ++ t) = degrade s ++ degrade t :=
  degradeBy_append columns? s t

end

end Termkit.Text
