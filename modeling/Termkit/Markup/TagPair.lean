import Termkit.Markup.Brace
import Termkit.Style.Basic

/-!
# Tags of a style

Each attribute that shows in markup gives a tag: a set flag its name, a colour the colour and the
name. The tags of a style nest in its order, the first innermost.
-/

namespace Termkit.Markup

/-- Puts a hyphen behind a shade in front of a colour, unless there is one. -/
def hyphenate (shade color : Text) : Text :=
  match shade.isPrefixOf? color with
  | some rest => if rest.head? = some '-' then color else shade ++ '-' :: rest
  | none => color

def light : Text := ['l', 'i', 'g', 'h', 't']

def bright : Text := ['b', 'r', 'i', 'g', 'h', 't']

/-- The form of a colour in tags: the shades `light` and `bright` are hyphenated. -/
def normalizeColor (color : Text) : Text := hyphenate bright (hyphenate light color)

/-- The name of an attribute's tag, if it shows. -/
def tagName? (key : Text) : Style.Value → Option Text
  | .color c => some (normalizeColor c ++ '-' :: key)
  | .flag true => some key
  | .flag false | .number _ | .null => none

/-- The names of a style's tags, innermost first. -/
def tagNames (s : Style) : List Text := s.entries.filterMap fun (key, v) => tagName? key v

def openTag (name : Text) : Text := '{' :: (name ++ ['}'])

def closeTag (name : Text) : Text := '{' :: '/' :: (name ++ ['}'])

/-- What stands before and behind a text. -/
structure TagPair where
  opening : Text
  closing : Text
  deriving DecidableEq, Repr

namespace TagPair

def empty : TagPair := ⟨[], []⟩

def nest (p : TagPair) (name : Text) : TagPair :=
  ⟨openTag name ++ p.opening, p.closing ++ closeTag name⟩

def ofStyle (s : Style) : TagPair := (tagNames s).foldl nest empty

def wrap (p : TagPair) (t : Text) : Text := p.opening ++ t ++ p.closing

def isEmpty (p : TagPair) : Bool := p.opening.isEmpty && p.closing.isEmpty

end TagPair

/-- Markup inside the tags of a style. -/
def wrap (s : Style) (t : Text) : Text := (TagPair.ofStyle s).wrap t

def styled (s : Style) (t : Text) : Text := wrap s (escape t)

end Termkit.Markup
