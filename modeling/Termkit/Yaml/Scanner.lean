import Termkit.Text.Order
import Termkit.Yaml.BlockScalar
import Termkit.Yaml.PlainScalar
import Termkit.Yaml.Property
import Termkit.Yaml.QuotedScalar

/-!
# Scanning tokens

The scanner cuts a text into tokens. That a scalar or a flow collection is a mapping key shows only
at the colon behind it, so that for each level of brackets the scanner keeps the last token that
may turn out to be a key; the tokens for the key, and for a mapping that begins there, are put in
front of it afterwards. A key stands on one line and is at most 1024 characters long.

`Tokens.ofText` gives the tokens of a text and what ends them, if not the end of the text. From a
text with an error come the tokens that were settled before it: those before the first one that
might still have been a key.
-/

namespace Termkit.Yaml

/-- A token that may turn out to be a key. -/
structure KeyStart where
  /-- The count of tokens before it. -/
  position : Nat
  mark : Mark
  /-- It stands where only a key may stand. -/
  required : Bool
  deriving Repr

structure Scanner where
  cursor : Cursor
  /-- The tokens so far, last first. -/
  read : List Token
  /-- The indentation of the innermost block collection, -1 outside of all. -/
  indent : Int
  /-- The indentations of the block collections around it. -/
  outer : List Int
  /-- A key may begin here. -/
  keyAllowed : Bool
  /-- What may be a key on the present level of brackets. -/
  keyStart : Option KeyStart
  /-- What may be a key on each of the levels around it, innermost first. -/
  outerKeys : List (Option KeyStart)
  ended : Bool

namespace Scanner

def start (t : Text) : Scanner :=
  { cursor := ⟨t, .start⟩
    read := []
    indent := -1
    outer := []
    keyAllowed := true
    keyStart := none
    outerKeys := []
    ended := false }

def mark (s : Scanner) : Mark := s.cursor.mark

def inFlow (s : Scanner) : Bool := !s.outerKeys.isEmpty

/-- Adds a token that ends where the scanner is. -/
def emit (s : Scanner) (kind : TokenKind) (since : Mark) : Scanner :=
  { s with read := ⟨kind, since, s.mark⟩ :: s.read }

/-- Adds a token without extent behind the first `position` tokens. -/
def insert (s : Scanner) (kind : TokenKind) (position : Nat) (m : Mark) : Scanner :=
  { s with read := s.read.insertIdx (s.read.length - position) ⟨kind, m, m⟩ }

/-- Passes `n` characters and adds them as a token. -/
def pass (s : Scanner) (n : Nat) (kind : TokenKind) : Scanner :=
  { s with cursor := s.cursor.skip n }.emit kind s.mark

def isStale (m : Mark) (k : KeyStart) : Bool :=
  k.mark.line < m.line || k.mark.index + 1024 < m.index

/-- Gives up what may be a key, which is an error if it had to be one. -/
def giveUp (m : Mark) (k : KeyStart) : Except Error (Option KeyStart) :=
  if k.required then .error (.during .key k.mark .noColonAfterKey m) else .ok none

def refresh (m : Mark) : Option KeyStart → Except Error (Option KeyStart)
  | some k => if isStale m k then giveUp m k else .ok (some k)
  | none => .ok none

def dropStale (s : Scanner) : Except Error Scanner := do
  let outerKeys ← s.outerKeys.mapM (refresh s.mark)
  let keyStart ← refresh s.mark s.keyStart
  return { s with keyStart, outerKeys }

/-- Gives up the key of the present level. -/
def dropKey (s : Scanner) : Except Error Scanner :=
  match s.keyStart with
  | some k => do return { s with keyStart := ← giveUp s.mark k }
  | none => .ok s

/-- The next token may be a key, if one is allowed. -/
def saveKey (s : Scanner) : Except Error Scanner :=
  if s.keyAllowed then do
    let required := !s.inFlow && s.indent == s.mark.column
    let t ← s.dropKey
    return { t with keyStart := some ⟨s.read.length, s.mark, required⟩ }
  else .ok s

/-- Begins a block collection if the column is further right than the one around it. -/
def openBlock (s : Scanner) (column : Nat) (kind : TokenKind) (position : Nat) (m : Mark) :
    Scanner :=
  if !s.inFlow && s.indent < column then
    { s with indent := column, outer := s.indent :: s.outer }.insert kind position m
  else s

/-- Ends the block collections that are further right than the column. -/
def closeBlocks (s : Scanner) (column : Int) : Scanner :=
  if s.inFlow then s
  else
    let rec go : List Int → Int → List Token → Int × List Int × List Token
      | [], indent, read => (indent, [], read)
      | o :: outer, indent, read =>
        if column < indent then go outer o (⟨.blockEnd, s.mark, s.mark⟩ :: read)
        else (indent, o :: outer, read)
    let (indent, outer, read) := go s.outer s.indent s.read
    { s with indent, outer, read }

/-- Passes byte order marks at the start of lines, blanks, comments and line breaks. A tab counts as
blank only where no key may begin. -/
def skipTrivia : (fuel : Nat) → Scanner → Scanner
  | 0, s => s
  | fuel + 1, s =>
    let tabs := s.inFlow || !s.keyAllowed
    let c := (s.cursor.skipByteOrderMark.skipRun fun x => x == ' ' || (tabs && x == '\t')).skipComment
    if c.rest.head?.any isBreak then
      skipTrivia fuel { s with cursor := c.nextLine, keyAllowed := s.keyAllowed || !s.inFlow }
    else { s with cursor := c }

/-! ## One kind of token -/

/-- The end of the text. Block collections end on a line of their own. -/
def scanEnd (s : Scanner) : Except Error Scanner := do
  let m := s.mark
  let c := if m.column = 0 then s.cursor else { s.cursor with mark := m.down 0 }
  let s ← ({ s with cursor := c }.closeBlocks (-1)).dropKey
  return { s with keyAllowed := false, ended := true }.emit .streamEnd s.mark

def scanDirective (s : Scanner) : Except Error Scanner := do
  let s ← (s.closeBlocks (-1)).dropKey
  let (kind, stop, c) ← readDirective s.cursor
  return { s with cursor := c, keyAllowed := false, read := ⟨kind, s.mark, stop⟩ :: s.read }

/-- A line that starts or ends a document. -/
def scanMarker (s : Scanner) (kind : TokenKind) : Except Error Scanner := do
  let s ← (s.closeBlocks (-1)).dropKey
  return { s with keyAllowed := false }.pass 3 kind

def scanFlowStart (s : Scanner) (kind : TokenKind) : Except Error Scanner := do
  let s ← s.saveKey
  return { s with keyStart := none, outerKeys := s.keyStart :: s.outerKeys, keyAllowed := true }.pass
    1 kind

def scanFlowEnd (s : Scanner) (kind : TokenKind) : Except Error Scanner := do
  let s ← s.dropKey
  let s := match s.outerKeys with
    | k :: outerKeys => { s with keyStart := k, outerKeys }
    | [] => s
  return { s with keyAllowed := false }.pass 1 kind

def scanFlowEntry (s : Scanner) : Except Error Scanner := do
  let s ← s.dropKey
  return { s with keyAllowed := true }.pass 1 .flowEntry

/-- Begins a block collection at an indicator, outside of brackets. -/
def openAtIndicator (s : Scanner) (kind : TokenKind) (refused : Fault) : Except Error Scanner :=
  if s.inFlow then .ok s
  else if s.keyAllowed then .ok (s.openBlock s.mark.column kind s.read.length s.mark)
  else .error (.plain refused s.mark)

def scanBlockEntry (s : Scanner) : Except Error Scanner := do
  let s ← s.openAtIndicator .blockSequenceStart .sequenceNotAllowed
  let s ← s.dropKey
  return { s with keyAllowed := true }.pass 1 .blockEntry

def scanKey (s : Scanner) : Except Error Scanner := do
  let s ← s.openAtIndicator .blockMappingStart .keyNotAllowed
  let s ← s.dropKey
  return { s with keyAllowed := !s.inFlow }.pass 1 .key

/-- The colon behind a key, which settles what was kept as a possible key, or without one. -/
def scanValue (s : Scanner) : Except Error Scanner :=
  match s.keyStart with
  | some k =>
    let s := (s.insert .key k.position k.mark).openBlock k.mark.column .blockMappingStart
      k.position k.mark
    .ok ({ s with keyStart := none, keyAllowed := false }.pass 1 .value)
  | none => do
    let s ← s.openAtIndicator .blockMappingStart .valueNotAllowed
    return { s with keyAllowed := !s.inFlow }.pass 1 .value

def scanName (s : Scanner) (a : Activity) (kind : Text → TokenKind) : Except Error Scanner := do
  let s ← s.saveKey
  let (name, c) ← readName a s.cursor
  return { s with keyAllowed := false, cursor := c }.emit (kind name) s.mark

def scanTag (s : Scanner) : Except Error Scanner := do
  let s ← s.saveKey
  let (kind, c) ← readTag s.inFlow s.cursor
  return { s with keyAllowed := false, cursor := c }.emit kind s.mark

def scanBlockScalar (s : Scanner) (literal : Bool) : Except Error Scanner := do
  let s ← s.dropKey
  let (text, c) ← readBlock literal s.indent s.cursor
  return { s with keyAllowed := true, cursor := c }.emit (.scalar false text) s.mark

def scanQuoted (s : Scanner) (quote : Char) : Except Error Scanner := do
  let s ← s.saveKey
  let (text, c) ← readQuoted quote s.cursor
  return { s with keyAllowed := false, cursor := c }.emit (.scalar false text) s.mark

def scanPlain (s : Scanner) : Except Error Scanner := do
  let s ← s.saveKey
  let p ← readPlain s.inFlow s.indent s.cursor
  return { s with
    keyAllowed := p.endsLine
    cursor := p.rest
    read := ⟨.scalar true p.text, s.mark, p.stop⟩ :: s.read }

/-- The characters that begin no plain scalar. -/
def isIndicator (x : Char) : Bool := "-?:,[]{}#&*!|>'\"%@`".toList.contains x

def startsPlain (inFlow : Bool) (x : Char) (r : Text) : Bool :=
  !(isBlank x || isBreak x || isIndicator x) ||
    (x == '-' && !r.head?.any isBlank) ||
    (!inFlow && (x == '?' || x == ':') && !atWordEnd r)

def scanToken (s : Scanner) : Except Error Scanner :=
  let c := s.cursor
  match c.rest with
  | [] => s.scanEnd
  | x :: r =>
    if c.mark.column = 0 ∧ x = '%' then s.scanDirective
    else if c.atMarker '-' then s.scanMarker .documentStart
    else if c.atMarker '.' then s.scanMarker .documentEnd
    else if x = '[' then s.scanFlowStart .flowSequenceStart
    else if x = '{' then s.scanFlowStart .flowMappingStart
    else if x = ']' then s.scanFlowEnd .flowSequenceEnd
    else if x = '}' then s.scanFlowEnd .flowMappingEnd
    else if x = ',' then s.scanFlowEntry
    else if x = '-' ∧ atWordEnd r then s.scanBlockEntry
    else if x = '?' ∧ (s.inFlow ∨ atWordEnd r) then s.scanKey
    else if x = ':' ∧ (s.inFlow ∨ atWordEnd r) then s.scanValue
    else if x = '*' then s.scanName .aliasName .aliasOf
    else if x = '&' then s.scanName .anchorName .anchor
    else if x = '!' then s.scanTag
    else if x = '|' ∧ !s.inFlow then s.scanBlockScalar true
    else if x = '>' ∧ !s.inFlow then s.scanBlockScalar false
    else if x = '\'' ∨ x = '"' then s.scanQuoted x
    else if startsPlain s.inFlow x r then s.scanPlain
    else .error (.during .nextToken c.mark .noToken c.mark)

/-- Passes what stands before the next token, and scans it. -/
def next (s : Scanner) : Except Error Scanner := do
  let s ← (s.skipTrivia (s.cursor.rest.length + 1)).dropStale
  (s.closeBlocks s.mark.column).scanToken

/-- The count of tokens before the first one that may turn out to be a key. -/
def settled (s : Scanner) : Nat :=
  (s.keyStart :: s.outerKeys).foldl (fun n k => (k.map (·.position)).elim n (min n)) s.read.length

end Scanner

/-- Tokens, and the error that ends them. -/
structure Tokens where
  ready : List Token
  failure : Option Error
  deriving Repr

/-- Scans on to the end of the text or to an error, for `fuel` tokens at most. `settled` counts the
tokens that can no longer change. -/
def Tokens.scan : (fuel : Nat) → (settled : Nat) → Scanner → Tokens
  | 0, settled, s => ⟨s.read.reverse.take settled, none⟩
  | fuel + 1, settled, s =>
    match s.next with
    | .error e => ⟨s.read.reverse.take settled, some e⟩
    | .ok s =>
      match s.dropStale with
      | .error e => ⟨s.read.reverse.take settled, some e⟩
      | .ok s => if s.ended then ⟨s.read.reverse, none⟩ else scan fuel s.settled s

/-- A character that may stand in a YAML text. -/
def isAllowed (c : Char) : Bool :=
  let n := c.toNat
  n == 0x09 || n == 0x0a || n == 0x0d || (0x20 ≤ n && n ≤ 0x7e) || n == 0x85 ||
    (0xa0 ≤ n && n ≤ 0xfffd) || 0x10000 ≤ n

/-- The tokens of a text. A character that may not stand in it is refused before all else. -/
def Tokens.ofText (t : Text) : Tokens :=
  let before := t.takeWhile isAllowed
  if before.length < t.length then
    ⟨[], some ⟨.controlCharacter, .start, none, Text.utf8Size before⟩⟩
  else scan (t.length + 2) 0 (.start t)

end Termkit.Yaml
