import Termkit.Yaml.Fault

/-!
# Block scalars

A block scalar is the lines below its header that are indented alike. Its style says whether line
breaks stand as they are or are folded, and its chomping what becomes of those at the end.
-/

namespace Termkit.Yaml

/-- What becomes of the line breaks at the end. -/
inductive Chomping where
  | strip
  | clip
  | keep
  deriving DecidableEq, Repr

structure BlockHeader where
  chomping : Chomping
  /-- How much further the lines are indented than the collection, if the header says so. -/
  increment : Option Nat
  deriving DecidableEq, Repr

def chomping? : Text → Option Chomping
  | '+' :: _ => some .keep
  | '-' :: _ => some .strip
  | _ => none

/-- Reads the digit of an indentation, if there is one. -/
def readIncrement (since : Mark) (c : Cursor) : Except Error (Option Nat × Cursor) :=
  match c.rest with
  | [] => .ok (none, c)
  | x :: _ =>
    if x = '0' then .error (.during .blockScalar since .zeroIndentation c.mark)
    else if Text.isDigit x then .ok (some (x.toNat - '0'.toNat), c.skip 1)
    else .ok (none, c)

/-- Reads chomping and indentation in either order, from behind the style mark. -/
def readHeader (since : Mark) (c : Cursor) : Except Error (BlockHeader × Cursor) :=
  match chomping? c.rest with
  | some chomping => do
    let (increment, c) ← readIncrement since (c.skip 1)
    return (⟨chomping, increment⟩, c)
  | none => do
    let (increment, c) ← readIncrement since c
    match increment, chomping? c.rest with
    | some _, some chomping => return (⟨chomping, increment⟩, c.skip 1)
    | _, _ => return (⟨.clip, increment⟩, c)

/-- The breaks before a line, last first, the most columns that spaces took before one of them or
before the line, and where the spaces of the line end. -/
structure EmptyLines where
  read : Text
  widest : Nat
  rest : Cursor

/-- Passes empty lines and the indentation of the next line. Without an indentation all spaces
count to it. -/
def emptyLines (since : Mark) (indent : Option Nat) : (fuel : Nat) → EmptyLines →
    Except Error EmptyLines
  | 0, e => .ok e
  | fuel + 1, e =>
    let spaces := (e.rest.run (· == ' ')).length
    let spaces := match indent with
      | none => spaces
      | some n => min spaces (n - e.rest.mark.column)
    let c := e.rest.skip spaces
    let widest := max e.widest c.mark.column
    let within := indent.all fun n => decide (c.mark.column < n)
    match c.rest with
    | [] => .ok ⟨e.read, widest, c⟩
    | x :: _ =>
      if within && x == '\t' then
        .error (.during .blockScalar since .tabInIndentation c.mark)
      else if isBreak x then
        emptyLines since indent fuel ⟨breakText x :: e.read, widest, c.nextLine⟩
      else .ok ⟨e.read, widest, c⟩

structure BlockLines where
  /-- What was read, last character first. -/
  read : Text
  /-- The break behind the last line. -/
  lineBreak : Option Char
  /-- The breaks of the empty lines that follow, last first. -/
  empty : Text
  /-- The last line begins with a blank. -/
  afterBlank : Bool
  rest : Cursor

/-- Reads the lines of the given indentation. Folding leaves the breaks around a line that begins
with a blank as they are. -/
def blockLines (literal : Bool) (since : Mark) (indent : Nat) : (fuel : Nat) → BlockLines →
    Except Error BlockLines
  | 0, b => .ok b
  | fuel + 1, b =>
    let c := b.rest
    if c.mark.column ≠ indent ∨ c.rest = [] then .ok b
    else
      let blank := c.rest.head?.any isBlank
      let fold := !literal && b.lineBreak == some '\n' && !b.afterBlank && !blank
      let joint :=
        if fold then (if b.empty.isEmpty then [' '] else b.empty)
        else b.empty ++ b.lineBreak.toList
      let line := c.run (!isBreak ·)
      let c := c.skip line.length
      let lineBreak := c.rest.head?.map breakText
      let c := if c.rest.isEmpty then c else c.nextLine
      match emptyLines since (some indent) (c.rest.length + 1) ⟨[], 0, c⟩ with
      | .error e => .error e
      | .ok e =>
        blockLines literal since indent fuel
          ⟨line.reverse ++ joint ++ b.read, lineBreak, e.read, blank, e.rest⟩

/-- Reads a block scalar from its style mark, in a collection of the given indentation. Without a
number in the header the indentation is that of the first line with text or of a wider empty line
before it, but at least one column more than the collection. -/
def readBlock (literal : Bool) (indent : Int) (c : Cursor) : Except Error (Text × Cursor) := do
  let since := c.mark
  let (header, c) ← readHeader since (c.skip 1)
  let c := c.skipBlanks.skipComment
  if !atLineEnd c.rest then .error (.during .blockScalar since .noCommentOrBreak c.mark)
  else
    let c := if c.rest.isEmpty then c else c.nextLine
    let given := header.increment.map fun n => (max indent 0).toNat + n
    let before ← emptyLines since given (c.rest.length + 1) ⟨[], 0, c⟩
    let indent := given.getD (max before.widest (max (indent + 1).toNat 1))
    let b ← blockLines literal since indent (before.rest.rest.length + 1)
      ⟨[], none, before.read, false, before.rest⟩
    let tail := match header.chomping with
      | .strip => []
      | .clip => b.lineBreak.toList
      | .keep => b.empty ++ b.lineBreak.toList
    return ((tail ++ b.read).reverse, b.rest)

end Termkit.Yaml
