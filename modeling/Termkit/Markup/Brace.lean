import Termkit.Text.Basic

/-!
# Braces in markup

Braces delimit the tags of markup, so that a literal brace is written as a sequence of its own,
`{open}` or `{close}`. `pieces` cuts a text at these sequences; reading a text back keeps the
pieces as they are and puts the brace between them.
-/

namespace Termkit.Markup

def openMark : Text := ['{', 'o', 'p', 'e', 'n', '}']

def closeMark : Text := ['{', 'c', 'l', 'o', 's', 'e', '}']

def escapeChar (c : Char) : Text :=
  if c = '{' then openMark else if c = '}' then closeMark else [c]

/-- A text with its braces written as sequences. -/
def escape (t : Text) : Text := t.flatMap escapeChar

/-- A text cut at brace sequences: what stands before the first one, and each brace with what
stands between its sequence and the next. -/
structure Pieces where
  head : Text
  tail : List (Char × Text)
  deriving DecidableEq, Repr

namespace Pieces

def empty : Pieces := ⟨[], []⟩

def cons (c : Char) (p : Pieces) : Pieces := ⟨c :: p.head, p.tail⟩

def brace (b : Char) (p : Pieces) : Pieces := ⟨[], (b, p.head) :: p.tail⟩

/-- Joins the pieces, each read by `f`, with the braces between them. -/
def join (f : Text → Text) (p : Pieces) : Text :=
  f p.head ++ p.tail.flatMap fun q => q.1 :: f q.2

end Pieces

/-- Cuts a text at its brace sequences, from left to right. -/
def pieces : Text → Pieces
  | '{' :: 'o' :: 'p' :: 'e' :: 'n' :: '}' :: r => (pieces r).brace '{'
  | '{' :: 'c' :: 'l' :: 'o' :: 's' :: 'e' :: '}' :: r => (pieces r).brace '}'
  | c :: r => (pieces r).cons c
  | [] => .empty

/-- Reads each brace sequence as its brace and leaves all else. -/
def unescape (t : Text) : Text := (pieces t).join id

@[simp] theorem escape_nil : escape [] = [] := rfl

@[simp] theorem escape_cons (c : Char) (t : Text) : escape (c :: t) = escapeChar c ++ escape t := by
  simp [escape]

@[simp] theorem escape_append (s t : Text) : escape (s ++ t) = escape s ++ escape t := by
  simp [escape]

end Termkit.Markup
