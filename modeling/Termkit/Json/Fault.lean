import Termkit.Json.Cursor
import Termkit.Text.Numeral

/-!
# What can be wrong with a JSON text

A fault is the cause alone; an error adds the place.
-/

namespace Termkit.Json

inductive Fault where
  | valueEnds
  | objectEnds
  | listEnds
  | stringEnds
  | noValue
  | noWord
  | noColon
  | noCommaOrBrace
  | noCommaOrBracket
  | keyNotString
  | trailingComma
  | trailingCharacters
  | badNumber
  | numberTooLarge
  | badEscape
  | controlCharacter
  | loneSurrogate
  | halfSurrogatePair
  | tooDeep
  deriving DecidableEq, Repr

def Fault.message : Fault → String
  | valueEnds => "EOF while parsing a value"
  | objectEnds => "EOF while parsing an object"
  | listEnds => "EOF while parsing a list"
  | stringEnds => "EOF while parsing a string"
  | noValue => "expected value"
  | noWord => "expected ident"
  | noColon => "expected `:`"
  | noCommaOrBrace => "expected `,` or `\x7d`"
  | noCommaOrBracket => "expected `,` or `]`"
  | keyNotString => "key must be a string"
  | trailingComma => "trailing comma"
  | trailingCharacters => "trailing characters"
  | badNumber => "invalid number"
  | numberTooLarge => "number out of range"
  | badEscape => "invalid escape"
  | controlCharacter => "control character (\\u0000-\\u001F) found while parsing a string"
  | loneSurrogate => "lone leading surrogate in hex escape"
  | halfSurrogatePair => "unexpected end of hex escape"
  | tooDeep => "recursion limit exceeded"

structure Error where
  fault : Fault
  place : Place
  deriving DecidableEq, Repr

namespace Cursor

/-- A fault met behind the bytes that were passed. -/
def fault {α : Type} (c : Cursor) (f : Fault) : Except Error α := .error ⟨f, c.place⟩

/-- A fault met in looking at the next byte. -/
def faultAhead {α : Type} (c : Cursor) (f : Fault) : Except Error α := .error ⟨f, c.ahead⟩

end Cursor

end Termkit.Json
