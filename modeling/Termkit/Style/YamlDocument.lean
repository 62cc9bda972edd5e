import Termkit.Style.Basic
import Termkit.Style.Mismatch
import Termkit.Yaml.Compose
import Termkit.Yaml.Scalar

/-!
# Styles as YAML documents

A document is read entry by entry. A value is read whole, aliases and nested collections included,
before it is refused for being a collection. What is wrong is reported with the way from the root
to the node and with the node's mark. Collections stand at most 128 deep in one another, and the
aliases that are followed are limited by the size of the document.
-/

namespace Termkit.Style

open Termkit.Yaml (Mark Node Document Scalar)

inductive Step where
  | key (name : Text)
  /-- Behind a key that is no scalar itself. -/
  | otherKey
  | index (i : Nat)
  deriving DecidableEq, Repr

/-- The way from the root to a node, last step first. -/
abbrev Way := List Step

/-- The words for a way; the root is a dot. -/
def Way.words : Way → Text
  | [] => ['.']
  | .index i :: up => Way.words up ++ '[' :: (Text.ofNat i ++ [']'])
  | .key name :: up => (if up.isEmpty then [] else Way.words up ++ ['.']) ++ name
  | .otherKey :: up => (if up.isEmpty then [] else Way.words up ++ ['.']) ++ ['?']

inductive YamlError where
  /-- The document is broken off. -/
  | malformed (e : Yaml.Error)
  /-- The document is broken off for no reason of its own. -/
  | unfinished
  /-- A node is refused with a message. -/
  | refused (message : Text) (way : Way) (mark : Mark)
  | tooDeep (mark : Mark)
  | tooManyAliases
  | severalDocuments
  deriving DecidableEq, Repr

/-- The words for a mark, unless it is the origin. -/
def markWords (m : Mark) : Text := if m.isOrigin then [] else m.words

/-- The message of an error. A way that is a single dot is not named. -/
def YamlError.message : YamlError → Text
  | malformed e => e.message
  | unfinished => "EOF while parsing a value".toList
  | refused message way mark =>
    (if way.words = ['.'] then [] else way.words ++ ": ".toList) ++ message ++ markWords mark
  | tooDeep mark => "recursion limit exceeded".toList ++ markWords mark
  | tooManyAliases => "repetition limit exceeded".toList
  | severalDocuments =>
    "deserializing from YAML containing more than one document is not supported".toList

/-- Numbers are written in places, however long that is, and a tie goes to the greater decimal. -/
def yamlWording : Wording where
  unit := "unit value".toList
  numbers :=
    { tie := .greater
      inPlaces := fun _ => true
      infinity := fun negative => (if negative then "-inf" else "inf").toList
      nan := "NaN".toList }

def Found.ofScalar : Scalar → Found
  | .null => .unit
  | .bool b => .bool b
  | .int n => .integer n
  | .wideInt n type => .wideInteger n type
  | .float x => .float x
  | .string t => .string t

/-- The attribute value of a scalar, if its number is not too wide. -/
def Value.ofScalar? : Scalar → Option Value
  | .null => some null
  | .bool b => some (flag b)
  | .int n => some (number (Binary64.ofInt n))
  | .wideInt _ _ => none
  | .float x => some (number x)
  | .string t => some (color t)

/-- Reads a node with the count of aliases followed so far. -/
abbrev Reading (α : Type) : Type := StateT Nat (Except YamlError) α

/-- Refuses the rest of a document that is broken off. -/
def breakOff {α : Type} (d : Document) : Reading α :=
  throw ((d.failure.map YamlError.malformed).getD .unfinished)

/-- The node itself, or the one that it is an alias of. -/
def follow (d : Document) : Node → Reading Node
  | .aliasTo _ slot => do
    let jumps ← get
    if d.size * 100 < jumps + 1 then throw .tooManyAliases
    modify (· + 1)
    return d.target slot
  | n => return n

def wrongValue (t wanted : Text) : Text :=
  "invalid value: string ".toList ++ Text.quoted t ++ ", expected ".toList ++ wanted

/-- The message for a tag that names a variant: the values of a style have none. -/
def variantTag : Text :=
  "untagged and internally tagged enums do not support enum input".toList

def refuseVariant (tag : Option Text) (way : Way) (m : Mark) : Reading Unit :=
  if tag.any Yaml.namesVariant then throw (.refused variantTag way m) else pure ()

def readScalar (tag : Option Text) (isPlain : Bool) (t : Text) (way : Way) (m : Mark) :
    Reading Scalar :=
  match Scalar.resolve tag isPlain t with
  | .ok s => return s
  | .error wanted => throw (.refused (wrongValue t wanted) way m)

/-- Reads a value whole, with at most `room` further collections in one another; a collection has
no attribute value. -/
def readValue (d : Document) : (room : Nat) → Way → Node → Reading (Option Value)
  | room, way, n => do
    match ← follow d n with
    | .missing | .aliasTo _ _ => breakOff d
    | .scalar m tag isPlain t =>
      refuseVariant tag way m
      let s ← readScalar tag isPlain t way m
      match Value.ofScalar? s with
      | some v => return some v
      | none =>
        throw (.refused (wrongType yamlWording (.ofScalar s) "any value".toList) way m)
    | .sequence m tag items =>
      refuseVariant tag way m
      match room with
      | 0 => throw (.tooDeep m)
      | room + 1 =>
        for (item, i) in items.zipIdx do
          let _ ← readValue d room (.index i :: way) item
        return none
    | .mapping m tag entries =>
      refuseVariant tag way m
      match room with
      | 0 => throw (.tooDeep m)
      | room + 1 =>
        for (key, value) in entries do
          let _ ← readValue d room way key
          let step := match key with
            | .scalar _ _ _ t => .key t
            | _ => .otherKey
          let _ ← readValue d room (step :: way) value
        return none

/-- How many collections may stand in one another. -/
def maxDepth : Nat := 128

/-- Reads the name of an attribute: the text of a scalar, whatever it means. -/
def readKey (d : Document) (n : Node) : Reading Text := do
  let wanted := "a string".toList
  match ← follow d n with
  | .missing | .aliasTo _ _ => breakOff d
  | .scalar _ _ _ t => return t
  | .sequence m _ _ => throw (.refused (wrongType yamlWording .sequence wanted) [] m)
  | .mapping m _ _ => throw (.refused (wrongType yamlWording .mapping wanted) [] m)

/-- Reads the entries of the root one by one; `set` says what is done with each. -/
def readEntries {α : Type} (set : α → Text → Value → α) (d : Document) (root : Mark) :
    List (Node × Node) → α → Reading α
  | [], acc => return acc
  | (k, v) :: rest, acc => do
    let key ← readKey d k
    let step := match k with
      | .scalar _ _ _ t => Step.key t
      | _ => .otherKey
    match ← readValue d (maxDepth - 1) [step] v with
    | some v => readEntries set d root rest (set acc key v)
    | none => throw (.refused notScalar [] root)

/-- Reads the root. An empty plain scalar has no entries. -/
def readRoot {α : Type} (set : α → Text → Value → α) (init : α) (d : Document) : Reading α := do
  let refuse (found : Found) (m : Mark) : Reading α :=
    throw (.refused (wrongType yamlWording found wanted) [] m)
  match ← follow d d.root with
  | .missing | .aliasTo _ _ => breakOff d
  | .mapping m _ entries => readEntries set d m entries init
  | .sequence m _ _ => refuse .sequence m
  | .scalar m tag isPlain t =>
    if t.isEmpty && isPlain then return init
    else
      let s ← readScalar tag isPlain t [] m
      refuse (.ofScalar s) m

/-- Reads the entries of a YAML text one by one; `set` says what is done with each. -/
def readYaml {α : Type} (set : α → Text → Value → α) (init : α) (t : Text) :
    Except YamlError α := do
  let d := Document.ofText t
  let (acc, _) ← (readRoot set init d).run 0
  match d.failure with
  | some e => .error (.malformed e)
  | none => if d.goesOn then .error .severalDocuments else return acc

def ofYaml (t : Text) : Except YamlError Style := readYaml set empty t

end Termkit.Style
