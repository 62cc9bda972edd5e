import Termkit.Text.Basic
import Termkit.Binary64

/-!
# Values of a style

A style gives each attribute a flag, a colour, a number or nothing. Only a set flag and a colour
show in markup; the others are kept for what compiles styles to cell attributes.
-/

namespace Termkit.Style

inductive Value where
  | flag (on : Bool)
  | number (x : Binary64)
  | color (name : Text)
  | null
  deriving DecidableEq, Repr

namespace Value

/-- The value shows in markup. -/
def isActive : Value → Bool
  | flag on => on
  | color _ => true
  | number _ | null => false

def color? : Value → Option Text
  | color name => some name
  | _ => none

/-- Equal values; numbers are compared as numbers. -/
def same : Value → Value → Bool
  | flag a, flag b => a == b
  | number x, number y => x.sameNumber y
  | color a, color b => a == b
  | null, null => true
  | _, _ => false

end Value

end Termkit.Style
