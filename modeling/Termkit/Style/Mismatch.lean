import Termkit.Decimal.Notation
import Termkit.Text.Quoted

/-!
# Documents that hold no style

A style document is a mapping from names to scalars. What stands there instead of a mapping, and
how a message names it.
-/

namespace Termkit.Style

inductive Found where
  | unit
  | bool (b : Bool)
  | integer (n : Int)
  /-- A whole number that needs the named width. -/
  | wideInteger (n : Int) (width : Text)
  | float (x : Binary64)
  | string (t : Text)
  | sequence
  | mapping
  deriving DecidableEq, Repr

/-- How a document format names nothing and writes numbers. -/
structure Wording where
  unit : Text
  numbers : Decimal.Notation

def Found.describe (w : Wording) : Found → Text
  | unit => w.unit
  | bool b => "boolean `".toList ++ (if b then "true" else "false").toList ++ ['`']
  | integer n => "integer `".toList ++ (toString n).toList ++ ['`']
  | wideInteger n width =>
    "integer `".toList ++ (toString n).toList ++ "` as ".toList ++ width
  | float x => "floating point `".toList ++ w.numbers.write x ++ ['`']
  | string t => "string ".toList ++ Text.quoted t
  | sequence => "sequence".toList
  | mapping => "map".toList

/-- What a style document should hold. -/
def wanted : Text :=
  "a mapping of style attribute names to bool, string or number values".toList

def wrongType (w : Wording) (found : Found) (wanted : Text) : Text :=
  "invalid type: ".toList ++ found.describe w ++ ", expected ".toList ++ wanted

def notScalar : Text := "data did not match any variant of untagged enum StyleValue".toList

end Termkit.Style
