import Termkit.Json.Value

/-!
# Compact JSON texts

A value is written without any space. A string escapes the quotation mark, the backslash and the
controls below U+0020, these by a letter where JSON has one; all else stands for itself.
-/

namespace Termkit.Json

def escapeChar (c : Char) : Text :=
  match c with
  | '"' => ['\\', '"']
  | '\\' => ['\\', '\\']
  | '\x08' => ['\\', 'b']
  | '\t' => ['\\', 't']
  | '\n' => ['\\', 'n']
  | '\x0c' => ['\\', 'f']
  | '\r' => ['\\', 'r']
  | c => if c.toNat < 0x20 then '\\' :: 'u' :: Text.hex 4 c.toNat else [c]

def writeString (t : Text) : Text := '"' :: (t.flatMap escapeChar ++ ['"'])

def writeInt (n : Int) : Text := (if n < 0 then ['-'] else []) ++ Text.ofNat n.natAbs

def writeFloat (x : Binary64) : Text := numberNotation.write x

mutual

def Value.compact : Value → Text
  | .null => "null".toList
  | .bool b => (if b then "true" else "false").toList
  | .int n => writeInt n
  | .float x => writeFloat x
  | .string t => writeString t
  | .array items => '[' :: (List.intercalate [','] (compactItems items) ++ [']'])
  | .object members => '{' :: (List.intercalate [','] (compactMembers members) ++ ['}'])

def compactItems : List Value → List Text
  | [] => []
  | v :: rest => v.compact :: compactItems rest

def compactMembers : List (Text × Value) → List Text
  | [] => []
  | (k, v) :: rest => (writeString k ++ ':' :: v.compact) :: compactMembers rest

end

end Termkit.Json
