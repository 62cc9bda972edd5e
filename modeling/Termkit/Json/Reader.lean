import Termkit.Json.NumberLiteral
import Termkit.Json.StringLiteral

/-!
# Reading JSON values

`members` and `elements` walk the inside of an object and of a list and leave what to do with each
member to their argument, so that a caller may take the members of the outermost object one by
one. `readValue room` reads a value with at most `room` containers in one another.
-/

namespace Termkit.Json

/-- How many containers may stand in one another. -/
def maxDepth : Nat := 127

/-- Passes the letters of a word, of which the first was seen. -/
def passWord : Text → Cursor → Except Error Cursor
  | [], c => .ok c
  | x :: w, c =>
    match c.rest with
    | [] => c.fault .valueEnds
    | y :: _ => if y = x then passWord w c.next else c.faultAhead .noWord

def passColon (c : Cursor) : Except Error Cursor :=
  let c := c.skipSpace
  match c.rest with
  | [] => c.faultAhead .objectEnds
  | ':' :: _ => .ok c.next
  | _ => c.faultAhead .noColon

/-- Passes what stands in front of a key, and says whether there is one. -/
def nextKey (first : Bool) (c : Cursor) : Except Error (Bool × Cursor) :=
  let c := c.skipSpace
  match c.rest with
  | [] => c.faultAhead .objectEnds
  | '}' :: _ => .ok (false, c.next)
  | x :: _ =>
    if first then
      if x = '"' then .ok (true, c.next) else c.faultAhead .keyNotString
    else if x = ',' then
      let c := c.next.skipSpace
      match c.rest with
      | [] => c.faultAhead .valueEnds
      | '"' :: _ => .ok (true, c.next)
      | '}' :: _ => c.faultAhead .trailingComma
      | _ => c.faultAhead .keyNotString
    else c.faultAhead .noCommaOrBrace

/-- Passes what stands in front of an element, and says whether there is one. -/
def nextElement (first : Bool) (c : Cursor) : Except Error (Bool × Cursor) :=
  let c := c.skipSpace
  match c.rest with
  | [] => c.faultAhead .listEnds
  | ']' :: _ => .ok (false, c.next)
  | x :: _ =>
    if first then .ok (true, c)
    else if x = ',' then
      let c := c.next.skipSpace
      match c.rest with
      | [] => c.faultAhead .valueEnds
      | ']' :: _ => c.faultAhead .trailingComma
      | _ => .ok (true, c)
    else c.faultAhead .noCommaOrBracket

/-- Walks the members from behind the opening brace to behind the closing one, or from behind a
member if it is not the `first`. `take` reads the value of a key; its error is any type that faults
fit in. -/
def members {ε α : Type} (lift : Error → ε) (take : Text → α → Cursor → Except ε (α × Cursor)) :
    (fuel : Nat) → (first : Bool) → α → Cursor → Except ε (α × Cursor)
  | 0, _, _, c => .error (lift ⟨.objectEnds, c.place⟩)
  | fuel + 1, first, acc, c => do
    let (more, c) ← (nextKey first c).mapError lift
    if more then
      let (key, c) ← (readString c).mapError lift
      let c ← (passColon c).mapError lift
      let (acc, c) ← take key acc c
      members lift take fuel false acc c
    else return (acc, c)

def elements (take : Cursor → Except Error (Value × Cursor)) :
    (fuel : Nat) → (first : Bool) → List Value → Cursor → Except Error (List Value × Cursor)
  | 0, _, _, c => c.fault .listEnds
  | fuel + 1, first, acc, c => do
    let (more, c) ← nextElement first c
    if more then
      let (v, c) ← take c
      elements take fuel false (v :: acc) c
    else return (acc.reverse, c)

/-- Reads a value that is no container, from its first character. -/
def readScalar (c : Cursor) : Except Error (Value × Cursor) :=
  match c.rest with
  | [] => c.faultAhead .valueEnds
  | 'n' :: _ => do return (.null, ← passWord "ull".toList c.next)
  | 't' :: _ => do return (.bool true, ← passWord "rue".toList c.next)
  | 'f' :: _ => do return (.bool false, ← passWord "alse".toList c.next)
  | '"' :: _ => do
    let (t, c) ← readString c.next
    return (.string t, c)
  | '-' :: _ => readNumber true c.next
  | x :: _ => if Text.isDigit x then readNumber false c else c.faultAhead .noValue

def readValue : (room : Nat) → Cursor → Except Error (Value × Cursor)
  | 0, c =>
    let c := c.skipSpace
    match c.rest with
    | '[' :: _ => c.faultAhead .tooDeep
    | '{' :: _ => c.faultAhead .tooDeep
    | _ => readScalar c
  | room + 1, c =>
    let c := c.skipSpace
    match c.rest with
    | '[' :: _ => do
      let (items, c) ← elements (readValue room) c.rest.length true [] c.next
      return (.array items, c)
    | '{' :: _ => do
      let take key acc c := do
        let (v, c) ← readValue room c
        return ((key, v) :: acc, c)
      let (pairs, c) ← members id take c.rest.length true [] c.next
      return (.object pairs.reverse, c)
    | _ => readScalar c

/-- Nothing but spaces is left. -/
def passEnd (c : Cursor) : Except Error Unit :=
  let c := c.skipSpace
  if c.rest.isEmpty then .ok () else c.faultAhead .trailingCharacters

end Termkit.Json
