import Termkit.Json.Reader
import Termkit.Json.Writer
import Termkit.Style.Basic
import Termkit.Style.Mismatch

/-!
# Styles as JSON documents

A style is written as a flat object in its order. A document is read member by member: each value
is read whole before it is refused for being a list or an object, and a value that is refused hides
whatever is wrong further on.
-/

namespace Termkit.Style

def Value.toJson : Value → Json.Value
  | flag on => .bool on
  | number x => .float x
  | color name => .string name
  | null => .null

def Value.ofJson? : Json.Value → Option Value
  | .null => some null
  | .bool b => some (flag b)
  | .int n => some (number (Binary64.ofInt n))
  | .float x => some (number x)
  | .string t => some (color t)
  | .array _ | .object _ => none

def toJson (s : Style) : Text :=
  (Json.Value.object (s.entries.map fun (k, v) => (k, v.toJson))).compact

inductive JsonCause where
  | malformed (fault : Json.Fault)
  | notMapping (found : Found)
  | notScalar
  deriving DecidableEq, Repr

structure JsonError where
  cause : JsonCause
  place : Json.Place
  deriving DecidableEq, Repr

def JsonError.ofSyntax (e : Json.Error) : JsonError := ⟨.malformed e.fault, e.place⟩

def jsonWording : Wording := ⟨"null".toList, Json.numberNotation⟩

def JsonCause.message : JsonCause → Text
  | malformed f => f.message.toList
  | notMapping found => wrongType jsonWording found wanted
  | notScalar => Style.notScalar

def JsonError.message (e : JsonError) : Text :=
  e.cause.message ++ " at line ".toList ++ Text.ofNat e.place.line ++ " column ".toList ++
    Text.ofNat e.place.column

def Found.ofJson : Json.Value → Found
  | .null => .unit
  | .bool b => .bool b
  | .int n => .integer n
  | .float x => .float x
  | .string t => .string t
  | .array _ => .sequence
  | .object _ => .mapping

/-- Where a refused value is reported: behind the brace that closes the document, if that comes
next. -/
def refusalPlace (c : Json.Cursor) : Json.Place :=
  let c := c.skipSpace
  match c.rest with
  | '}' :: _ => c.next.place
  | _ => c.place

/-- Reads one member's value and hands it on with its key. -/
def takeMember {α : Type} (set : α → Text → Value → α) (key : Text) (acc : α) (c : Json.Cursor) :
    Except JsonError (α × Json.Cursor) := do
  let (v, c) ← (Json.readValue (Json.maxDepth - 1) c).mapError JsonError.ofSyntax
  match Value.ofJson? v with
  | some v => return (set acc key v, c)
  | none => .error ⟨.notScalar, refusalPlace c⟩

/-- Reads the entries of a JSON text one by one; `set` says what is done with each. -/
def readJson {α : Type} (set : α → Text → Value → α) (init : α) (t : Text) :
    Except JsonError α := do
  let c := (Json.Cursor.start t).skipSpace
  match c.rest with
  | '{' :: _ =>
    let (acc, c) ←
      Json.members JsonError.ofSyntax (takeMember set) c.rest.length true init c.next
    let _ ← (Json.passEnd c).mapError JsonError.ofSyntax
    return acc
  | '[' :: _ => .error ⟨.notMapping .sequence, c.place⟩
  | _ =>
    let (v, c) ← (Json.readScalar c).mapError JsonError.ofSyntax
    .error ⟨.notMapping (Found.ofJson v), c.place⟩

def ofJson (t : Text) : Except JsonError Style := readJson set empty t

end Termkit.Style
