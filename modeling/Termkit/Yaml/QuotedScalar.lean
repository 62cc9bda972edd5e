import Termkit.Yaml.Fault
import Termkit.Yaml.Folding

/-!
# Quoted scalars

Between single quotation marks all stands for itself, but for two marks, which are one. Between
double ones a backslash escapes a character, a code point or a line break. Lines are folded.
-/

namespace Termkit.Yaml

def letterEscape? : Char → Option Char
  | '0' => some '\x00'
  | 'a' => some '\x07'
  | 'b' => some '\x08'
  | 't' => some '\t'
  | '\t' => some '\t'
  | 'n' => some '\n'
  | 'v' => some '\x0b'
  | 'f' => some '\x0c'
  | 'r' => some '\r'
  | 'e' => some '\x1b'
  | ' ' => some ' '
  | '"' => some '"'
  | '/' => some '/'
  | '\\' => some '\\'
  | 'N' => some '\u0085'
  | '_' => some '\u00a0'
  | 'L' => some '\u2028'
  | 'P' => some '\u2029'
  | _ => none

/-- The count of hexadecimal digits behind the letter of an escape by code point. -/
def codeDigits? : Char → Option Nat
  | 'x' => some 2
  | 'u' => some 4
  | 'U' => some 8
  | _ => none

def charOf? (n : Nat) : Option Char :=
  if h : n.isValidChar then some (Char.ofNatAux n h) else none

/-- Reads `n` hexadecimal digits as a code point. -/
def readCodePoint (since : Mark) (n : Nat) (c : Cursor) : Except Error (Char × Cursor) :=
  let digits := c.rest.take n
  match Text.natIn? 16 digits with
  | some code =>
    if digits.length < n then .error (.during .quotedEscape since .noHexDigit c.mark)
    else match charOf? code with
      | some x => .ok (x, c.skip n)
      | none => .error (.during .quotedEscape since .badCodePoint c.mark)
  | none => .error (.during .quotedEscape since .noHexDigit c.mark)

def readEscape (since : Mark) (c : Cursor) : Except Error (Char × Cursor) :=
  match c.rest.drop 1 with
  | [] => .error (.during .quotedEscape since .unknownEscape c.mark)
  | e :: _ =>
    match letterEscape? e, codeDigits? e with
    | some x, _ => .ok (x, c.skip 2)
    | none, some n => readCodePoint since n (c.skip 2)
    | none, none => .error (.during .quotedEscape since .unknownEscape c.mark)

/-- Reads up to the closing quotation mark `quote`. The scalar began at `since`, and `read` holds
what was read, last character first. -/
def quotedRest (quote : Char) (since : Mark) : (fuel : Nat) → (read : Text) → Gap → Cursor →
    Except Error (Text × Cursor)
  | 0, _, _, c => .error (.during .quotedScalar since .streamEnds c.mark)
  | fuel + 1, read, gap, c =>
    match c.rest with
    | [] => .error (.during .quotedScalar since .streamEnds c.mark)
    | x :: r =>
      if isBlank x then quotedRest quote since fuel read (gap.addBlank x) (c.skip 1)
      else if isBreak x then quotedRest quote since fuel read (gap.addBreak x) c.nextLine
      else if c.atDocumentMarker then
        .error (.during .quotedScalar since .markerInQuotedScalar c.mark)
      else
        let read := gap.folded ++ read
        if x = quote then
          if quote = '\'' ∧ r.head? = some '\'' then
            quotedRest quote since fuel ('\'' :: read) .none (c.skip 2)
          else .ok (read.reverse, c.skip 1)
        else if quote = '"' ∧ x = '\\' then
          if r.head?.any isBreak then
            quotedRest quote since fuel read (.breaks none []) (c.skip 1).nextLine
          else do
            let (y, c) ← readEscape since c
            quotedRest quote since fuel (y :: read) .none c
        else quotedRest quote since fuel (x :: read) .none (c.skip 1)

def readQuoted (quote : Char) (c : Cursor) : Except Error (Text × Cursor) :=
  quotedRest quote c.mark (c.rest.length + 1) [] .none (c.skip 1)

end Termkit.Yaml
