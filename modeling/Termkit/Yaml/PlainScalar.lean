import Termkit.Yaml.Fault
import Termkit.Yaml.Folding

/-!
# Plain scalars

A plain scalar has no mark at its ends. It ends before a colon that a blank follows, before a
comment, before a line that is not indented enough, and within brackets or braces before any mark
of the collection. Lines are folded.
-/

namespace Termkit.Yaml

/-- The marks that end a plain scalar within brackets or braces. -/
def isFlowMark (c : Char) : Bool := c == ',' || c == '[' || c == ']' || c == '{' || c == '}'

/-- A plain scalar and where it stops; `rest` is behind the blanks and line breaks that follow. -/
structure PlainScalar where
  text : Text
  stop : Mark
  endsLine : Bool
  rest : Cursor

/-- The scalar ends here, behind a gap. -/
def plainEnds (inFlow : Bool) (indent : Int) (c : Cursor) : Bool :=
  (!inFlow && c.mark.column < indent) || c.atDocumentMarker || c.rest.head? == some '#'

/-- Reads on; `stop` is behind the last character of `read`, which is kept last character first. -/
def plainRest (inFlow : Bool) (indent : Int) (since : Mark) : (fuel : Nat) → (read : Text) →
    (stop : Mark) → Gap → Cursor → Except Error PlainScalar
  | 0, read, stop, gap, c => .ok ⟨read.reverse, stop, gap.isBroken, c⟩
  | fuel + 1, read, stop, gap, c =>
    let finish := ⟨read.reverse, stop, gap.isBroken, c⟩
    match c.rest with
    | [] => .ok finish
    | x :: r =>
      if isBlank x then
        if gap.isBroken && c.mark.column < indent && x == '\t' then
          .error (.during .plainScalar since .tabInPlainScalar c.mark)
        else plainRest inFlow indent since fuel read stop (gap.addBlank x) (c.skip 1)
      else if isBreak x then
        plainRest inFlow indent since fuel read stop (gap.addBreak x) c.nextLine
      else if gap ≠ .none ∧ plainEnds inFlow indent c then .ok finish
      else if inFlow && x == ':' && r.head?.any (fun y => isFlowMark y || y == '?') then
        .error (.during .plainScalar since .colonInPlainScalar c.mark)
      else if (x == ':' && atWordEnd r) || (inFlow && isFlowMark x) then .ok finish
      else
        let c := c.skip 1
        plainRest inFlow indent since fuel (x :: gap.folded ++ read) c.mark .none c

/-- Reads a plain scalar in a collection of the given indentation. -/
def readPlain (inFlow : Bool) (indent : Int) (c : Cursor) : Except Error PlainScalar :=
  plainRest inFlow (indent + 1) c.mark (c.rest.length + 1) [] c.mark .none c

end Termkit.Yaml
