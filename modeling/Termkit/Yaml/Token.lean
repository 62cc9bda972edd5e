import Termkit.Yaml.Mark

/-!
# Tokens of a YAML text

Block structure shows in tokens of its own: a collection starts where a line is indented further
and ends where one is indented less.
-/

namespace Termkit.Yaml

inductive TokenKind where
  | streamEnd
  | versionDirective (major minor : Nat)
  | tagDirective (handle uri : Text)
  | documentStart
  | documentEnd
  | blockSequenceStart
  | blockMappingStart
  | blockEnd
  | flowSequenceStart
  | flowSequenceEnd
  | flowMappingStart
  | flowMappingEnd
  | blockEntry
  | flowEntry
  | key
  | value
  | aliasOf (name : Text)
  | anchor (name : Text)
  | tag (handle suffix : Text)
  | scalar (isPlain : Bool) (text : Text)
  deriving DecidableEq, Repr

structure Token where
  kind : TokenKind
  start : Mark
  stop : Mark
  deriving DecidableEq, Repr

end Termkit.Yaml
