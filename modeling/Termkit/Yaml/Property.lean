import Termkit.Power
import Termkit.Yaml.Fault
import Termkit.Yaml.Token

/-!
# Anchors, tags and directives

An anchor or alias is a name. A tag is written whole between angle brackets, or as a handle and a
suffix. A directive stands on a line of its own before a document; one names the version of the
language, the other gives a handle the start of the tags that it abbreviates.
-/

namespace Termkit.Yaml

def isNameChar (c : Char) : Bool := Text.isLetter c || Text.isDigit c || c == '_' || c == '-'

/-- The marks that may follow a name without a blank. -/
def mayFollowName (c : Char) : Bool :=
  c == '?' || c == ':' || c == ',' || c == ']' || c == '}' || c == '%' || c == '@' || c == '`'

def readName (a : Activity) (c : Cursor) : Except Error (Text × Cursor) :=
  let since := c.mark
  let c := c.skip 1
  let name := c.run isNameChar
  let c := c.skip name.length
  if name.isEmpty || !(atWordEnd c.rest || c.rest.head?.any mayFollowName) then
    .error (.during a since .noAnchorName c.mark)
  else .ok (name, c)

/-- The characters of a tag's address. Within angle brackets and in directives the marks of flow
sequences belong to them. -/
def isUriChar (whole : Bool) (c : Char) : Bool :=
  isNameChar c || ";/?:@&=+$.%!~*'()".toList.contains c || (whole && ",[]".toList.contains c)

/-- The count of octets of a character that begins with the octet. -/
def octetCount? (octet : Nat) : Option Nat :=
  if octet < 0x80 then some 1
  else if octet / 0x20 = 6 then some 2
  else if octet / 0x10 = 14 then some 3
  else if octet / 0x08 = 30 then some 4
  else none

/-- The bits that the first octet of a character gives to its code point. -/
def firstBits (octet count : Nat) : Nat :=
  if count = 1 then octet else octet % twoTo (7 - count)

def readOctet (a : Activity) (since : Mark) (c : Cursor) : Except Error (Nat × Cursor) :=
  match c.rest with
  | '%' :: x :: y :: _ =>
    match Text.natIn? 16 [x, y] with
    | some n => .ok (n, c.skip 3)
    | none => .error (.during a since .noUriOctet c.mark)
  | _ => .error (.during a since .noUriOctet c.mark)

/-- Reads the later octets of an escaped character; `code` is what the octets before them give. -/
def laterOctets (a : Activity) (since : Mark) : (count : Nat) → (code : Nat) → Cursor →
    Except Error (Nat × Cursor)
  | 0, code, c => .ok (code, c)
  | count + 1, code, c => do
    let (octet, after) ← readOctet a since c
    if octet / 0x40 ≠ 2 then .error (.during a since .badLaterOctet c.mark)
    else laterOctets a since count (code * 0x40 + octet % 0x40) after

/-- Reads an escaped character of an address. Octets that go together may still be no character, if
fewer would do or if there is none with that code point. -/
def readEscapedChar (a : Activity) (since : Mark) (c : Cursor) :
    Except Error (Option Char × Cursor) := do
  let (octet, after) ← readOctet a since c
  match octetCount? octet with
  | none => .error (.during a since .badFirstOctet c.mark)
  | some count =>
    let (code, c) ← laterOctets a since (count - 1) (firstBits octet count) after
    let x := Char.ofNat code
    return (if x.toNat = code ∧ x.utf8Size = count then some x else none, c)

/-- Reads the characters of an address; `read` holds those read, last first, with `none` for octets
that are no character. -/
def uriRest (whole : Bool) (a : Activity) (since : Mark) : (fuel : Nat) →
    (read : List (Option Char)) → Cursor → Except Error (List (Option Char) × Cursor)
  | 0, read, c => .ok (read.reverse, c)
  | fuel + 1, read, c =>
    match c.rest with
    | [] => .ok (read.reverse, c)
    | '%' :: _ => do
      let (x, c) ← readEscapedChar a since c
      uriRest whole a since fuel (x :: read) c
    | x :: _ =>
      if isUriChar whole x then uriRest whole a since fuel (some x :: read) (c.skip 1)
      else .ok (read.reverse, c)

/-- The text of an address. An escaped U+0000 ends it, so that this character is free to stand for
octets that are no character. -/
def uriText (read : List (Option Char)) : Text :=
  (read.takeWhile (· ≠ some '\x00')).map (·.getD '\x00')

/-- Reads an address that goes on from `head`, of which the leading mark does not belong to it.
There must be a character, in the head or behind it. -/
def readUri (whole : Bool) (a : Activity) (since : Mark) (head : Text) (c : Cursor) :
    Except Error (Text × Cursor) := do
  let (uri, after) ← uriRest whole a since (c.rest.length + 1) [] c
  if head.isEmpty && uri.isEmpty then .error (.during a since .noTagUri after.mark)
  else return (head.drop 1 ++ uriText uri, after)

/-- Reads a handle: an exclamation mark, name characters, and perhaps another mark. -/
def readHandle (a : Activity) (since : Mark) (c : Cursor) : Except Error (Text × Cursor) :=
  if c.rest.head? = some '!' then
    let name := (c.skip 1).run isNameChar
    let after := c.skip (name.length + 1)
    if after.rest.head? = some '!' then .ok ('!' :: name ++ ['!'], after.skip 1)
    else .ok ('!' :: name, after)
  else .error (.during a since .noTagMark c.mark)

/-- A handle between two marks. -/
def isNamedHandle (handle : Text) : Bool := 1 < handle.length && handle.getLast? == some '!'

/-- Reads a tag as a handle and a suffix. The tag that is only a mark, and one written whole, have
no handle. -/
def readTag (inFlow : Bool) (c : Cursor) : Except Error (TokenKind × Cursor) := do
  let since := c.mark
  let (handle, suffix, c) ←
    if (c.rest.drop 1).head? = some '<' then do
      let (uri, c) ← readUri true .tagUri since [] (c.skip 2)
      if c.rest.head? = some '>' then pure ([], uri, c.skip 1)
      else .error (.during .tag since .noTagEnd c.mark)
    else do
      let (handle, c) ← readHandle .tag since c
      if isNamedHandle handle then
        let (suffix, c) ← readUri false .tagUri since [] c
        pure (handle, suffix, c)
      else
        let (suffix, c) ← readUri false .tagUri since handle c
        if suffix.isEmpty then pure ([], ['!'], c) else pure (['!'], suffix, c)
  if atWordEnd c.rest || (inFlow && c.rest.head? == some ',') then
    return (.tag handle suffix, c)
  else .error (.during .tag since .noBlankOrBreak c.mark)

def readVersionNumber (since : Mark) (c : Cursor) : Except Error (Nat × Cursor) :=
  let digits := c.run Text.isDigit
  if 9 < digits.length then
    .error (.during .versionDirective since .longVersion (c.skip 9).mark)
  else match Text.natIn? 10 digits with
    | some n => .ok (n, c.skip digits.length)
    | none => .error (.during .versionDirective since .noVersion c.mark)

/-- Reads what follows the name of a version directive. -/
def readVersion (since : Mark) (c : Cursor) : Except Error (TokenKind × Cursor) := do
  let (major, c) ← readVersionNumber since c.skipBlanks
  if c.rest.head? = some '.' then
    let (minor, c) ← readVersionNumber since (c.skip 1)
    return (.versionDirective major minor, c)
  else .error (.during .versionDirective since .noVersionPoint c.mark)

/-- Reads what follows the name of a tag directive. -/
def readTagDirective (since : Mark) (c : Cursor) : Except Error (TokenKind × Cursor) := do
  let (handle, c) ← readHandle .tagDirectiveHandle since c.skipBlanks
  if handle ≠ ['!'] ∧ !isNamedHandle handle then
    .error (.during .tagDirectiveName since .noTagMark c.mark)
  else if !c.rest.head?.any isBlank then
    .error (.during .tagDirective since .noBlank c.mark)
  else
    let (uri, c) ← readUri true .tagDirectiveUri since [] c.skipBlanks
    if atWordEnd c.rest then return (.tagDirective handle uri, c)
    else .error (.during .tagDirective since .noBlankOrBreak c.mark)

/-- Reads a directive, from its mark to the end of its line; the mark is where the directive itself
ends. -/
def readDirective (c : Cursor) : Except Error (TokenKind × Mark × Cursor) := do
  let since := c.mark
  let c := c.skip 1
  let name := c.run isNameChar
  let c := c.skip name.length
  if name.isEmpty then .error (.during .directive since .noDirectiveName c.mark)
  else if !atWordEnd c.rest then .error (.during .directive since .badDirectiveName c.mark)
  else
    let (kind, c) ←
      if name = "YAML".toList then readVersion since c
      else if name = "TAG".toList then readTagDirective since c
      else .error (.during .directive since .unknownDirective c.mark)
    let stop := c.mark
    let c := c.skipBlanks.skipComment
    if !atLineEnd c.rest then .error (.during .directive since .noCommentOrBreak c.mark)
    else return (kind, stop, if c.rest.isEmpty then c else c.nextLine)

end Termkit.Yaml
