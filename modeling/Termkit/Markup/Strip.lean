import Termkit.Markup.Tag
import Termkit.Text.Blank

/-!
# Stripping markup

Tags and colour sequences are deleted whether or not they are balanced. A deletion may bring
together the halves of another match, so that passes follow one another until one finds nothing.
A match is two characters at least, which bounds the passes.
-/

namespace Termkit.Markup

/-- One pass: deletes all tags and then all colour sequences; `none` if there is nothing to
delete. -/
def stripPass? (t : Text) : Option Text :=
  let u := deleteColors (deleteTags t)
  if u.length = t.length then none else some u

def stripWithin : (passes : Nat) → Text → Text
  | 0, t => t
  | passes + 1, t =>
    match stripPass? t with
    | none => t
    | some u => stripWithin passes u

/-- The text without tags and colour sequences. -/
def strip (t : Text) : Text := stripWithin (t.length / 2 + 1) t

/-- The stripped text without blanks at its ends. -/
def clean (t : Text) : Text := Text.trim (strip t)

end Termkit.Markup
