import Termkit.Yaml.Mark
import Termkit.Text.Numeral

/-!
# What can be wrong with a YAML text

A fault is the cause alone. An error adds the mark where it was met, and perhaps the activity during
which it was met with the mark where that began.
-/

namespace Termkit.Yaml

inductive Fault where
  | controlCharacter
  | noColonAfterKey
  | sequenceNotAllowed
  | keyNotAllowed
  | valueNotAllowed
  | noToken
  | noDirectiveName
  | badDirectiveName
  | unknownDirective
  | noCommentOrBreak
  | longVersion
  | noVersion
  | noVersionPoint
  | noBlank
  | noBlankOrBreak
  | noAnchorName
  | noTagEnd
  | noTagMark
  | noTagUri
  | noUriOctet
  | badFirstOctet
  | badLaterOctet
  | zeroIndentation
  | tabInIndentation
  | tabInPlainScalar
  | colonInPlainScalar
  | markerInQuotedScalar
  | streamEnds
  | unknownEscape
  | noHexDigit
  | badCodePoint
  | noDocumentStart
  | duplicateVersion
  | incompatibleVersion
  | duplicateTagDirective
  | unknownTagHandle
  | noNode
  | noDash
  | noKey
  | noCommaOrBracket
  | noCommaOrBrace
  | unknownAnchor
  deriving DecidableEq, Repr

def Fault.message : Fault → String
  | controlCharacter => "control characters are not allowed"
  | noColonAfterKey => "could not find expected ':'"
  | sequenceNotAllowed => "block sequence entries are not allowed in this context"
  | keyNotAllowed => "mapping keys are not allowed in this context"
  | valueNotAllowed => "mapping values are not allowed in this context"
  | noToken => "found character that cannot start any token"
  | noDirectiveName => "could not find expected directive name"
  | badDirectiveName => "found unexpected non-alphabetical character"
  | unknownDirective => "found unknown directive name"
  | noCommentOrBreak => "did not find expected comment or line break"
  | longVersion => "found extremely long version number"
  | noVersion => "did not find expected version number"
  | noVersionPoint => "did not find expected digit or '.' character"
  | noBlank => "did not find expected whitespace"
  | noBlankOrBreak => "did not find expected whitespace or line break"
  | noAnchorName => "did not find expected alphabetic or numeric character"
  | noTagEnd => "did not find the expected '>'"
  | noTagMark => "did not find expected '!'"
  | noTagUri => "did not find expected tag URI"
  | noUriOctet => "did not find URI escaped octet"
  | badFirstOctet => "found an incorrect leading UTF-8 octet"
  | badLaterOctet => "found an incorrect trailing UTF-8 octet"
  | zeroIndentation => "found an indentation indicator equal to 0"
  | tabInIndentation => "found a tab character where an indentation space is expected"
  | tabInPlainScalar => "found a tab character that violates indentation"
  | colonInPlainScalar => "found unexpected ':'"
  | markerInQuotedScalar => "found unexpected document indicator"
  | streamEnds => "found unexpected end of stream"
  | unknownEscape => "found unknown escape character"
  | noHexDigit => "did not find expected hexadecimal number"
  | badCodePoint => "found invalid Unicode character escape code"
  | noDocumentStart => "did not find expected <document start>"
  | duplicateVersion => "found duplicate %YAML directive"
  | incompatibleVersion => "found incompatible YAML document"
  | duplicateTagDirective => "found duplicate %TAG directive"
  | unknownTagHandle => "found undefined tag handle"
  | noNode => "did not find expected node content"
  | noDash => "did not find expected '-' indicator"
  | noKey => "did not find expected key"
  | noCommaOrBracket => "did not find expected ',' or ']'"
  | noCommaOrBrace => "did not find expected ',' or '\x7d'"
  | unknownAnchor => "unknown anchor"

/-- What was going on when a fault was met. -/
inductive Activity where
  | key
  | nextToken
  | directive
  | versionDirective
  | tagDirective
  | tagDirectiveHandle
  | tagDirectiveName
  | tagDirectiveUri
  | anchorName
  | aliasName
  | tag
  | tagUri
  | blockScalar
  | quotedScalar
  | quotedEscape
  | plainScalar
  | node
  | blockNode
  | flowNode
  | blockSequence
  | blockMapping
  | flowSequence
  | flowMapping
  deriving DecidableEq, Repr

def Activity.message : Activity → String
  | key => "while scanning a simple key"
  | nextToken => "while scanning for the next token"
  | directive => "while scanning a directive"
  | versionDirective => "while scanning a %YAML directive"
  | tagDirective => "while scanning a %TAG directive"
  | tagDirectiveHandle => "while scanning a tag directive"
  | tagDirectiveName => "while parsing a tag directive"
  | tagDirectiveUri => "while parsing a %TAG directive"
  | anchorName => "while scanning an anchor"
  | aliasName => "while scanning an alias"
  | tag => "while scanning a tag"
  | tagUri => "while parsing a tag"
  | blockScalar => "while scanning a block scalar"
  | quotedScalar => "while scanning a quoted scalar"
  | quotedEscape => "while parsing a quoted scalar"
  | plainScalar => "while scanning a plain scalar"
  | node => "while parsing a node"
  | blockNode => "while parsing a block node"
  | flowNode => "while parsing a flow node"
  | blockSequence => "while parsing a block collection"
  | blockMapping => "while parsing a block mapping"
  | flowSequence => "while parsing a flow sequence"
  | flowMapping => "while parsing a flow mapping"

/-- A fault, where it was met, and in what activity. Where the characters themselves are refused
there is no mark yet, and `offset` counts the bytes before the one that is refused. -/
structure Error where
  fault : Fault
  mark : Mark
  context : Option (Activity × Mark)
  offset : Nat
  deriving DecidableEq, Repr

namespace Error

def plain (f : Fault) (m : Mark) : Error := ⟨f, m, none, 0⟩

/-- A fault met in an activity that began at `since`. -/
def during (a : Activity) (since : Mark) (f : Fault) (m : Mark) : Error :=
  ⟨f, m, some (a, since), 0⟩

end Error

/-- The words for a mark; lines and columns are counted from one. -/
def Mark.words (m : Mark) : Text :=
  " at line ".toList ++ Text.ofNat (m.line + 1) ++ " column ".toList ++ Text.ofNat (m.column + 1)

/-- The message of an error. The origin of the text is not named, and the beginning of the activity
is named only where it is another spot. -/
def Error.message (e : Error) : Text :=
  e.fault.message.toList ++
    (if !e.mark.isOrigin then e.mark.words
     else if e.offset ≠ 0 then " at position ".toList ++ Text.ofNat e.offset
     else []) ++
    match e.context with
    | none => []
    | some (a, since) =>
      ", ".toList ++ a.message.toList ++
        (if !since.isOrigin && !since.sameSpot e.mark then since.words else [])

end Termkit.Yaml
