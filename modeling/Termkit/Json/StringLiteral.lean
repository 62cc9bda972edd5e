import Termkit.Json.Fault
import Termkit.Text.Order

/-!
# Reading JSON strings

The text of a string is read from behind its opening quotation mark. Characters beyond U+FFFF may
be escaped by a pair of surrogates; a surrogate that stands alone is refused.
-/

namespace Termkit.Json

def shortEscape? : Char → Option Char
  | '"' => some '"'
  | '\\' => some '\\'
  | '/' => some '/'
  | 'b' => some '\x08'
  | 'f' => some '\x0c'
  | 'n' => some '\n'
  | 'r' => some '\r'
  | 't' => some '\t'
  | _ => none

/-- The number of four hexadecimal digits. A cut text is an end of the string, even before a
character that is no digit. -/
def hexUnit (c : Cursor) : Except Error (Nat × Cursor) :=
  if Text.utf8Size (c.rest.take 4) < 4 then .error ⟨.stringEnds, c.place.afterText c.rest⟩
  else match c.rest with
    | d₁ :: d₂ :: d₃ :: d₄ :: _ =>
      match Text.natIn? 16 [d₁, d₂, d₃, d₄] with
      | some n => .ok (n, c.skip 4)
      | none => .error ⟨.badEscape, c.place.afterBytes 4 c.rest⟩
    | _ => .error ⟨.badEscape, c.place.afterBytes 4 c.rest⟩

/-- Passes the given byte of the second half of a surrogate pair. -/
def pairByte (x : Char) (c : Cursor) : Except Error Cursor :=
  match c.rest with
  | [] => c.fault .stringEnds
  | y :: _ => if y = x then .ok c.next else c.faultAhead .halfSurrogatePair

/-- The character of an escape by number, from behind its letter. -/
def numberEscape (c : Cursor) : Except Error (Char × Cursor) := do
  let (n, c) ← hexUnit c
  if 0xdc00 ≤ n ∧ n ≤ 0xdfff then c.fault .loneSurrogate
  else if 0xd800 ≤ n ∧ n ≤ 0xdbff then
    let c ← pairByte '\\' c
    let c ← pairByte 'u' c
    let (m, c) ← hexUnit c
    if 0xdc00 ≤ m ∧ m ≤ 0xdfff then
      return (Char.ofNat (0x10000 + (n - 0xd800) * 0x400 + (m - 0xdc00)), c)
    else c.fault .loneSurrogate
  else return (Char.ofNat n, c)

/-- Reads up to the closing quotation mark; `read` holds what was read, last character first. -/
def stringRest : (fuel : Nat) → (read : Text) → Cursor → Except Error (Text × Cursor)
  | 0, _, c => c.fault .stringEnds
  | fuel + 1, read, c =>
    match c.rest with
    | [] => c.fault .stringEnds
    | '"' :: _ => .ok (read.reverse, c.next)
    | '\\' :: r =>
      let c := c.next
      match r with
      | [] => c.fault .stringEnds
      | 'u' :: _ => do
        let (x, c) ← numberEscape c.next
        stringRest fuel (x :: read) c
      | e :: _ =>
        match shortEscape? e with
        | some x => stringRest fuel (x :: read) c.next
        | none => c.faultAhead .badEscape
    | x :: _ =>
      if x.toNat < 0x20 then c.faultAhead .controlCharacter
      else stringRest fuel (x :: read) c.next

/-- Reads a string from behind its opening quotation mark. -/
def readString (c : Cursor) : Except Error (Text × Cursor) :=
  stringRest (c.rest.length + 1) [] c

end Termkit.Json
