import Termkit.Text.Basic

/-!
# Places in a JSON text

A place is a line, counted from one, and the number of UTF-8 bytes passed on that line. Errors are
located in two ways: after the bytes that were passed (`Cursor.place`), or one byte further when
the reader only looks at the next byte (`Cursor.ahead`).
-/

namespace Termkit.Json

/-- A line counted from one, and the bytes passed on it. -/
structure Place where
  line : Nat
  column : Nat
  deriving DecidableEq, Repr

def Place.afterByte (p : Place) (c : Char) : Place :=
  if c = '\n' then ⟨p.line + 1, 0⟩ else ⟨p.line, p.column + 1⟩

def Place.after (p : Place) (c : Char) : Place :=
  if c = '\n' then ⟨p.line + 1, 0⟩ else ⟨p.line, p.column + c.utf8Size⟩

def Place.afterText (p : Place) (t : Text) : Place := t.foldl Place.after p

/-- The place `n` bytes further into a text, within a character if they end there. -/
def Place.afterBytes (p : Place) : Nat → Text → Place
  | _, [] => p
  | n, c :: r =>
    if n = 0 then p
    else if c.utf8Size ≤ n then (p.after c).afterBytes (n - c.utf8Size) r
    else ⟨p.line, p.column + n⟩

/-- What is left of a text and the place where it starts. -/
structure Cursor where
  rest : Text
  place : Place
  deriving Repr

namespace Cursor

def start (t : Text) : Cursor := ⟨t, ⟨1, 0⟩⟩

def next (c : Cursor) : Cursor :=
  match c.rest with
  | [] => c
  | x :: r => ⟨r, c.place.after x⟩

def skip : Nat → Cursor → Cursor
  | 0, c => c
  | n + 1, c => skip n c.next

/-- The place after the next byte, which at the end is the place itself. -/
def ahead (c : Cursor) : Place :=
  match c.rest with
  | [] => c.place
  | x :: _ => c.place.afterByte x

/-- The characters that may stand between tokens. -/
def isSpace (x : Char) : Bool := x == ' ' || x == '\n' || x == '\t' || x == '\r'

def skipSpace (c : Cursor) : Cursor :=
  ⟨c.rest.dropWhile isSpace, c.place.afterText (c.rest.takeWhile isSpace)⟩

end Cursor

end Termkit.Json
