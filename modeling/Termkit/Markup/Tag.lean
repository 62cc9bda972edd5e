import Termkit.Text.Numeral

/-!
# Tags and colour sequences

A tag is a brace, perhaps a slash, any number of tag characters, and the closing brace. A select
graphic rendition sequence, which sets colours on a terminal, is ESC, an opening bracket, any
number of digits and semicolons, and the letter m. Neither can begin in two ways, so that the
length of the match at the front of a text is all there is to know.
-/

namespace Termkit.Markup

/-- The characters of a tag's name: ASCII letters and digits and six marks. -/
def isTagChar (c : Char) : Bool :=
  Text.isLetter c || Text.isDigit c ||
    c == '_' || c == ',' || c == ';' || c == '!' || c == '#' || c == '-'

def isParameter (c : Char) : Bool := Text.isDigit c || c == ';'

/-- The length of the characters from `p` in front and the character that ends them. -/
def runLength? (p : Char → Bool) (stop : Char) : Text → Option Nat
  | [] => none
  | c :: r => if c = stop then some 1 else if p c then (runLength? p stop r).map (· + 1) else none

/-- The length of the tag at the front of a text. -/
def tagLength? : Text → Option Nat
  | '{' :: '/' :: r => (runLength? isTagChar '}' r).map (· + 2)
  | '{' :: r => (runLength? isTagChar '}' r).map (· + 1)
  | _ => none

/-- The length of the colour sequence at the front of a text. -/
def colorLength? : Text → Option Nat
  | '\x1b' :: '[' :: r => (runLength? isParameter 'm' r).map (· + 2)
  | _ => none

/-- Deletes the matches of a pattern from left to right, those that do not overlap an earlier one.
Of a match under way, `left` characters are still to go. -/
def deleteMatches (length? : Text → Option Nat) : (left : Nat) → Text → Text
  | _, [] => []
  | left + 1, _ :: r => deleteMatches length? left r
  | 0, c :: r =>
    match length? (c :: r) with
    | some n => deleteMatches length? (n - 1) r
    | none => c :: deleteMatches length? 0 r

def deleteTags (t : Text) : Text := deleteMatches tagLength? 0 t

def deleteColors (t : Text) : Text := deleteMatches colorLength? 0 t

end Termkit.Markup
