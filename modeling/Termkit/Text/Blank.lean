import Termkit.Text.Ranges

/-!
# Blank characters

The characters with the property White_Space, and trimming at both ends.
-/

namespace Termkit.Text

/-- The characters with the property White_Space. -/
def blanks : CodeRanges :=
  [⟨0x0009, 0x000d⟩, ⟨0x0020, 0x0020⟩, ⟨0x0085, 0x0085⟩, ⟨0x00a0, 0x00a0⟩, ⟨0x1680, 0x1680⟩,
   ⟨0x2000, 0x200a⟩, ⟨0x2028, 0x2029⟩, ⟨0x202f, 0x202f⟩, ⟨0x205f, 0x205f⟩, ⟨0x3000, 0x3000⟩]

def isBlank (c : Char) : Bool := blanks.has c

def trim (t : Text) : Text :=
  ((t.dropWhile isBlank).reverse.dropWhile isBlank).reverse

end Termkit.Text
