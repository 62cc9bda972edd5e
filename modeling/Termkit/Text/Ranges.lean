import Termkit.Text.Basic

/-!
# Sets of characters by ranges

A standard's character property is a list of inclusive ranges of code points.
-/

namespace Termkit.Text

/-- The code points from `first` to `last`, both included. -/
structure CodeRange where
  first : Nat
  last : Nat
  deriving DecidableEq, Repr

abbrev CodeRanges := List CodeRange

def CodeRanges.has (s : CodeRanges) (c : Char) : Bool :=
  s.any fun r => r.first ≤ c.toNat && c.toNat ≤ r.last

theorem CodeRanges.has_iff (s : CodeRanges) (c : Char) :
    s.has c = true ↔ ∃ r ∈ s, r.first ≤ c.toNat ∧ c.toNat ≤ r.last := by
  simp [has]

end Termkit.Text
