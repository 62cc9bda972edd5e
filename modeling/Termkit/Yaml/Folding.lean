import Termkit.Yaml.Mark

/-!
# Folding lines

Within a flow scalar the blanks between two words stand as they are, while a line break with the
blanks around it becomes one space, and each further break stands for itself.
-/

namespace Termkit.Yaml

/-- What stands between two words of a flow scalar. -/
inductive Gap where
  /-- Blanks within a line, last first. -/
  | blanks (read : Text)
  /-- The first line break, unless it was escaped, and the further ones, last first. -/
  | breaks (first : Option Char) (more : Text)
  deriving DecidableEq, Repr

namespace Gap

def none : Gap := blanks []

def addBlank (c : Char) : Gap → Gap
  | blanks read => blanks (c :: read)
  | breaks first more => breaks first more

def addBreak (c : Char) : Gap → Gap
  | blanks _ => breaks (some (breakText c)) []
  | breaks first more => breaks first (breakText c :: more)

/-- What the gap stands for in the scalar, last character first. -/
def folded : Gap → Text
  | blanks read => read
  | breaks (some '\n') [] => [' ']
  | breaks (some '\n') more => more
  | breaks first more => more ++ first.toList

def isBroken : Gap → Bool
  | blanks _ => false
  | breaks _ _ => true

end Gap

end Termkit.Yaml
