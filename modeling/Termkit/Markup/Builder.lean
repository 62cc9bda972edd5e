import Termkit.Markup.Strip
import Termkit.Markup.TagPair

/-!
# Building markup

Markup is built piece by piece. Texts are escaped on the way in, so that they cannot open or close
a tag; beside the markup grows the plain text for measuring and logging. Finished markup may be
appended too: its plain text is what lies between its brace sequences, stripped, with the braces.
-/

namespace Termkit

/-- Markup and its plain text. -/
structure Markup where
  markup : Text
  plain : Text
  deriving DecidableEq, Repr

namespace Markup

def empty : Markup := ⟨[], []⟩

/-- The plain text of finished markup. -/
def plainOf (t : Text) : Text := (pieces t).join strip

def text (m : Markup) (t : Text) : Markup := ⟨m.markup ++ escape t, m.plain ++ t⟩

def addStyled (m : Markup) (s : Style) (t : Text) : Markup :=
  ⟨m.markup ++ styled s t, m.plain ++ t⟩

def raw (m : Markup) (t : Text) : Markup := ⟨m.markup ++ t, m.plain ++ plainOf t⟩

def isEmpty (m : Markup) : Bool := m.markup.isEmpty

end Markup

end Termkit
