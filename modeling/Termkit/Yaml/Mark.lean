import Termkit.Text.Basic

/-!
# Marks in a YAML text

A mark counts the characters before it, the line breaks before it, and the characters before it on
its line, all from zero. A cursor is a mark with the text behind it.
-/

namespace Termkit.Yaml

structure Mark where
  index : Nat
  line : Nat
  column : Nat
  deriving DecidableEq, Repr

namespace Mark

def start : Mark := ⟨0, 0, 0⟩

def right (m : Mark) (n : Nat) : Mark := ⟨m.index + n, m.line, m.column + n⟩

/-- The start of the next line, behind a break of `n` characters. -/
def down (m : Mark) (n : Nat) : Mark := ⟨m.index + n, m.line + 1, 0⟩

def isOrigin (m : Mark) : Bool := m.line == 0 && m.column == 0

def sameSpot (m n : Mark) : Bool := m.line == n.line && m.column == n.column

end Mark

/-- A line break: CR, LF, NEL, LS or PS. -/
def isBreak (c : Char) : Bool :=
  c == '\r' || c == '\n' || c == '\u0085' || c == '\u2028' || c == '\u2029'

def isBlank (c : Char) : Bool := c == ' ' || c == '\t'

/-- The text ends, or a line does. -/
def atLineEnd : Text → Bool
  | [] => true
  | c :: _ => isBreak c

/-- The text ends, or a line does, or a blank follows. -/
def atWordEnd : Text → Bool
  | [] => true
  | c :: _ => isBlank c || isBreak c

/-- What a line break counts as in a scalar: LS and PS are kept, the others are a line feed. -/
def breakText (c : Char) : Char := if c == '\u2028' || c == '\u2029' then c else '\n'

/-- The count of characters of the line break in front; CR and LF together are one break. -/
def breakSize : Text → Nat
  | '\r' :: '\n' :: _ => 2
  | _ => 1

structure Cursor where
  rest : Text
  mark : Mark
  deriving Repr

namespace Cursor

def skip (n : Nat) (c : Cursor) : Cursor := ⟨c.rest.drop n, c.mark.right n⟩

def nextLine (c : Cursor) : Cursor :=
  let n := breakSize c.rest
  ⟨c.rest.drop n, c.mark.down n⟩

/-- The characters in front that satisfy `p`, none of them a line break. -/
def run (p : Char → Bool) (c : Cursor) : Text := c.rest.takeWhile p

/-- Passes the characters in front that satisfy `p`, none of them a line break. -/
def skipRun (p : Char → Bool) (c : Cursor) : Cursor := c.skip (c.run p).length

def skipBlanks (c : Cursor) : Cursor := c.skipRun isBlank

/-- Passes a byte order mark at the start of a line. It counts as a column. -/
def skipByteOrderMark (c : Cursor) : Cursor :=
  if c.mark.column = 0 ∧ c.rest.head? = some '\ufeff' then c.skip 1 else c

def skipComment (c : Cursor) : Cursor :=
  if c.rest.head? = some '#' then c.skipRun (!isBreak ·) else c

/-- A marker line of three dashes or three dots begins here. -/
def atMarker (x : Char) (c : Cursor) : Bool :=
  c.mark.column == 0 && [x, x, x].isPrefixOf c.rest && atWordEnd (c.rest.drop 3)

/-- A line begins here that starts or ends a document. -/
def atDocumentMarker (c : Cursor) : Bool := c.atMarker '-' || c.atMarker '.'

end Cursor

end Termkit.Yaml
