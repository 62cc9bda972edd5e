import Termkit.Text.ZeroWidth
import Termkit.Text.Wide

/-!
# Columns of a terminal

The number of columns that a character takes. A control character has no width: what it does to
the cursor is the terminal's affair. The Khmer sign beyyal is the one character of three columns.
-/

namespace Termkit.Text

/-- A control character: U+0000 to U+001F and U+007F to U+009F. -/
def isControl (c : Char) : Bool :=
  c.toNat ≤ 0x1f || (0x7f ≤ c.toNat && c.toNat ≤ 0x9f)

def beyyal : Char := '\u17d8'

/-- The columns that a character takes, `none` for a control character. -/
def columns? (c : Char) : Option Nat :=
  if isControl c then none
  else if zeroWidth.has c then some 0
  else if wide.has c then some 2
  else if c = beyyal then some 3
  else some 1

end Termkit.Text
