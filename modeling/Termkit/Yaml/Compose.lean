import Termkit.Yaml.Node
import Termkit.Yaml.Scanner

/-!
# Composing documents

The composer builds the nodes of a stream's first document from tokens. An error does not undo what
was read: from there on no token is left, and every node that is still asked for is missing.
-/

namespace Termkit.Yaml

/-- The tokens still to come, and what was read of the document. -/
structure Composer where
  tokens : List Token
  failure : Option Error
  /-- The starts of tags that handles stand for. -/
  handles : List (Text × Text)
  /-- The slot of each anchor name. -/
  slots : List (Text × Nat)
  targets : List Target
  size : Nat

namespace Composer

/-- The handles that need no directive. -/
def defaultHandles : List (Text × Text) :=
  [("!".toList, "!".toList), ("!!".toList, "tag:yaml.org,2002:".toList)]

def start (t : Tokens) : Composer :=
  { tokens := t.ready
    failure := t.failure
    handles := defaultHandles
    slots := []
    targets := []
    size := 0 }

abbrev Step (α : Type) : Type := StateM Composer α

/-- The next token, if an error did not come first. -/
def peek : Step (Option Token) := return (← get).tokens.head?

def skip : Step Unit := modify fun s => { s with tokens := s.tokens.drop 1 }

/-- Breaks the document off. -/
def refuse (e : Error) : Step Unit := modify fun s => { s with tokens := [], failure := some e }

/-- Counts a node or the end of a collection. -/
def count : Step Unit := modify fun s => { s with size := s.size + 1 }

def emptyNode (m : Mark) : Step Node := do
  count
  return .empty m

/-- Gives an anchored node a slot: as many as there are other names before it. A name that is given
again loses its earlier slot. -/
def setAnchor (name : Text) (node : Node) : Step Unit :=
  modify fun s =>
    let slot := s.slots.length
    { s with
      slots := (name, slot) :: s.slots.filter (·.1 != name)
      targets := ⟨slot, s.size, node⟩ :: s.targets }

/-- Puts a collection that is now complete in its slot. -/
def completeAnchor (position : Nat) (node : Node) : Step Unit :=
  modify fun s =>
    { s with
      targets := s.targets.map fun t => if t.position = position then { t with node } else t }

def aliasNode (name : Text) (m : Mark) : Step Node := do
  match (← get).slots.lookup name with
  | some slot =>
    count
    return .aliasTo m slot
  | none =>
    refuse (.plain .unknownAnchor m)
    return .missing

/-- Anchors and numbers a node that is no collection. -/
def leaf (anchor : Option Text) (node : Node) : Step Node := do
  if let some name := anchor then setAnchor name node
  count
  return node

/-- Anchors and numbers a collection, of which `body` reads the inside and numbers the
end. -/
def collection {α : Type} (anchor : Option Text) (body : Step α) (make : α → Node) :
    Step Node := do
  let position := (← get).size
  if let some name := anchor then setAnchor name .missing
  count
  let node := make (← body)
  if anchor.isSome then completeAnchor position node
  return node

structure Properties where
  anchor : Option Text
  /-- The handle and suffix of the tag, and where it starts. -/
  tag : Option (Text × Text × Mark)

/-- Reads an anchor and a tag, in either order. -/
def properties : Step Properties := do
  let readTag : Step (Option (Text × Text × Mark)) := do
    match ← peek with
    | some ⟨.tag handle suffix, m, _⟩ => do
      skip
      return some (handle, suffix, m)
    | _ => return none
  let readAnchor : Step (Option Text) := do
    match ← peek with
    | some ⟨.anchor name, _, _⟩ => do
      skip
      return some name
    | _ => return none
  match ← readAnchor with
  | some name => return ⟨some name, ← readTag⟩
  | none =>
    match ← readTag with
    | some tag => return ⟨← readAnchor, some tag⟩
    | none => return ⟨none, none⟩

def expandTag (handles : List (Text × Text)) (since : Mark) :
    Option (Text × Text × Mark) → Except Error (Option Text)
  | none => .ok none
  | some (handle, suffix, m) =>
    if handle.isEmpty then .ok (some suffix)
    else match handles.lookup handle with
      | some uri => .ok (some (uri ++ suffix))
      | none => .error (.during .node since .unknownTagHandle m)

/-- Which collections may begin at a node. -/
structure Place where
  /-- Block collections. -/
  block : Bool
  /-- A sequence whose entries are indented no further than the mapping around it. -/
  indentless : Bool

def Place.inFlow : Place := ⟨false, false⟩

def Place.entry : Place := ⟨true, false⟩

def Place.inMapping : Place := ⟨true, true⟩

/-- One of the kinds is the token's. -/
def isOneOf (kinds : List TokenKind) (t : Token) : Bool := kinds.contains t.kind

/-- Passes the comma between two items of a flow collection, and says whether reading goes on. -/
def separator (stop : TokenKind) (first : Bool) (refusal : Mark → Error) : Step Bool := do
  match ← peek with
  | none => return false
  | some t =>
    if first ∨ t.kind = stop then return true
    else if t.kind = .flowEntry then do
      skip
      return true
    else do
      refuse (refusal t.start)
      return false

mutual

/-- Reads a node; `fuel` bounds the depth of the calls. -/
def node (fuel : Nat) (place : Place) : Step Node := do
  match fuel with
  | 0 => return .missing
  | fuel + 1 =>
    match ← peek with
    | none => return .missing
    | some ⟨.aliasOf name, m, _⟩ => do
      skip
      aliasNode name m
    | some first => do
      let p ← properties
      match ← peek with
      | none => return .missing
      | some t =>
        match expandTag (← get).handles first.start p.tag with
        | .error e => do
          refuse e
          return .missing
        | .ok tag => content fuel place first.start p.anchor tag t

def content (fuel : Nat) (place : Place) (since : Mark) (anchor tag : Option Text) (t : Token) :
    Step Node := do
  match fuel with
  | 0 => return .missing
  | fuel + 1 =>
    match t.kind with
    | .scalar isPlain text => do
      skip
      leaf anchor (.scalar since tag isPlain text)
    | .flowSequenceStart => do
      skip
      collection anchor (flowItems fuel t.start true) (.sequence since tag)
    | .flowMappingStart => do
      skip
      collection anchor (flowEntries fuel t.start true) (.mapping since tag)
    | kind =>
      if place.indentless ∧ kind = .blockEntry then
        collection anchor (indentlessItems fuel) (.sequence since tag)
      else if place.block ∧ kind = .blockSequenceStart then do
        skip
        collection anchor (blockItems fuel t.start) (.sequence since tag)
      else if place.block ∧ kind = .blockMappingStart then do
        skip
        collection anchor (blockEntries fuel t.start) (.mapping since tag)
      else if anchor.isSome || tag.isSome then
        leaf anchor (.scalar since tag true [])
      else do
        refuse (.during (if place.block then .blockNode else .flowNode) since .noNode t.start)
        return .missing

/-- Reads a node, or leaves it empty before one of the tokens; it is then placed at `m`, or where
that token starts. -/
def optional (fuel : Nat) (place : Place) (stops : List TokenKind) (m : Option Mark) :
    Step Node := do
  match fuel with
  | 0 => return .missing
  | fuel + 1 =>
    match ← peek with
    | none => return .missing
    | some t => if isOneOf stops t then emptyNode (m.getD t.start) else node fuel place

/-- Reads the items of a block sequence that began at `since`. -/
def blockItems (fuel : Nat) (since : Mark) : Step (List Node) := do
  match fuel with
  | 0 => return [.missing]
  | fuel + 1 =>
    match ← peek with
    | none => return [.missing]
    | some ⟨.blockEntry, _, m⟩ => do
      skip
      let item ← optional fuel .entry [.blockEntry, .blockEnd] m
      return item :: (← blockItems fuel since)
    | some ⟨.blockEnd, _, _⟩ => do
      skip
      count
      return []
    | some t => do
      refuse (.during .blockSequence since .noDash t.start)
      return [.missing]

/-- Reads the items of a sequence without an indentation of its own. -/
def indentlessItems (fuel : Nat) : Step (List Node) := do
  match fuel with
  | 0 => return [.missing]
  | fuel + 1 =>
    match ← peek with
    | none => return [.missing]
    | some ⟨.blockEntry, _, m⟩ => do
      skip
      let item ← optional fuel .entry [.blockEntry, .key, .value, .blockEnd] m
      return item :: (← indentlessItems fuel)
    | some _ => do
      count
      return []

/-- Reads the entries of a block mapping that began at `since`. -/
def blockEntries (fuel : Nat) (since : Mark) : Step (List (Node × Node)) := do
  match fuel with
  | 0 => return [(.missing, .missing)]
  | fuel + 1 =>
    let stops := [TokenKind.key, .value, .blockEnd]
    match ← peek with
    | none => return [(.missing, .missing)]
    | some ⟨.key, _, m⟩ => do
      skip
      let key ← optional fuel .inMapping stops m
      let value ← blockValue fuel stops
      return (key, value) :: (← blockEntries fuel since)
    | some ⟨.blockEnd, _, _⟩ => do
      skip
      count
      return []
    | some t => do
      refuse (.during .blockMapping since .noKey t.start)
      return [(.missing, .missing)]

def blockValue (fuel : Nat) (stops : List TokenKind) : Step Node := do
  match fuel with
  | 0 => return .missing
  | fuel + 1 =>
    match ← peek with
    | none => return .missing
    | some ⟨.value, _, m⟩ => do
      skip
      optional fuel .inMapping stops m
    | some t => emptyNode t.start

/-- Reads the items of a flow sequence that began at `since`. An item may be a single entry of a
mapping. -/
def flowItems (fuel : Nat) (since : Mark) (first : Bool) : Step (List Node) := do
  match fuel with
  | 0 => return [.missing]
  | fuel + 1 => do
    if !(← separator .flowSequenceEnd first (.during .flowSequence since .noCommaOrBracket)) then
      return [.missing]
    match ← peek with
    | none => return [.missing]
    | some ⟨.flowSequenceEnd, _, _⟩ => do
      skip
      count
      return []
    | some ⟨.key, m, _⟩ => do
      skip
      let item ← collection none (singleEntry fuel) (.mapping m none)
      return item :: (← flowItems fuel since false)
    | some _ => do
      let item ← node fuel .inFlow
      return item :: (← flowItems fuel since false)

/-- Reads the single entry of a mapping within a flow sequence. Where the key is left out, the token
that shows it is passed. -/
def singleEntry (fuel : Nat) : Step (List (Node × Node)) := do
  match fuel with
  | 0 => return [(.missing, .missing)]
  | fuel + 1 =>
    match ← peek with
    | none => return [(.missing, .missing)]
    | some t => do
      let key ←
        if isOneOf [.value, .flowEntry, .flowSequenceEnd] t then do
          skip
          emptyNode t.stop
        else node fuel .inFlow
      let value ← flowValue fuel [.flowEntry, .flowSequenceEnd]
      match ← peek with
      | none => return [(key, value), (.missing, .missing)]
      | some _ => do
        count
        return [(key, value)]

def flowValue (fuel : Nat) (stops : List TokenKind) : Step Node := do
  match fuel with
  | 0 => return .missing
  | fuel + 1 =>
    match ← peek with
    | none => return .missing
    | some ⟨.value, _, _⟩ => do
      skip
      optional fuel .inFlow stops none
    | some t => emptyNode t.start

/-- Reads the entries of a flow mapping that began at `since`. A node alone is a key with an empty
value. -/
def flowEntries (fuel : Nat) (since : Mark) (first : Bool) : Step (List (Node × Node)) := do
  match fuel with
  | 0 => return [(.missing, .missing)]
  | fuel + 1 => do
    if !(← separator .flowMappingEnd first (.during .flowMapping since .noCommaOrBrace)) then
      return [(.missing, .missing)]
    match ← peek with
    | none => return [(.missing, .missing)]
    | some ⟨.flowMappingEnd, _, _⟩ => do
      skip
      count
      return []
    | some ⟨.key, _, _⟩ => do
      skip
      let key ← optional fuel .inFlow [.value, .flowEntry, .flowMappingEnd] none
      let value ← flowValue fuel [.flowEntry, .flowMappingEnd]
      return (key, value) :: (← flowEntries fuel since false)
    | some _ => do
      let key ← node fuel .inFlow
      match ← peek with
      | none => return [(key, .missing)]
      | some t =>
        let value ← emptyNode t.start
        return (key, value) :: (← flowEntries fuel since false)

end

/-! ## Documents -/

def directives : (fuel : Nat) → (version : Bool) → (handles : List (Text × Text)) → Step Unit
  | 0, _, _ => pure ()
  | fuel + 1, version, handles => do
    match ← peek with
    | some ⟨.versionDirective major minor, m, _⟩ =>
      if version then refuse (.plain .duplicateVersion m)
      else if major ≠ 1 ∨ (minor ≠ 1 ∧ minor ≠ 2) then refuse (.plain .incompatibleVersion m)
      else do
        skip
        directives fuel true handles
    | some ⟨.tagDirective handle uri, m, _⟩ =>
      if (handles.lookup handle).isSome then refuse (.plain .duplicateTagDirective m)
      else do
        skip
        directives fuel version (handles ++ [(handle, uri)])
    | _ => modify fun s => { s with handles := handles ++ defaultHandles }

/-- A token that belongs to no node. -/
def isOutside (t : Token) : Bool :=
  match t.kind with
  | .versionDirective _ _ | .tagDirective _ _ | .documentStart | .documentEnd | .streamEnd => true
  | _ => false

def explicitDocument (fuel : Nat) : Step Node := do
  directives fuel false []
  match ← peek with
  | none => return .missing
  | some ⟨.documentStart, _, _⟩ => do
    skip
    match ← peek with
    | none => return .missing
    | some t => if isOutside t then emptyNode t.start else node fuel .entry
  | some t => do
    refuse (.plain .noDocumentStart t.start)
    return .missing

/-- Reads the first document. A stream without one counts as an empty document. -/
def firstDocument (fuel : Nat) : Step Node := do
  match ← peek with
  | none => return .missing
  | some t =>
    match t.kind with
    | .streamEnd => emptyNode t.start
    | .versionDirective _ _ | .tagDirective _ _ | .documentStart => explicitDocument fuel
    | _ => node fuel .entry

def goesOn (tokens : List Token) : Bool :=
  match tokens.dropWhile (·.kind == .documentEnd) with
  | ⟨.streamEnd, _, _⟩ :: _ => false
  | _ => true

end Composer

/-- Composes the first document of a text. Only what broke off before the document's end counts as
its failure. -/
def Document.ofText (t : Text) : Document :=
  let tokens := Tokens.ofText t
  let (root, s) := (Composer.firstDocument (4 * tokens.ready.length + 4)).run (.start tokens)
  { root
    targets := s.targets
    size := s.size
    failure := if s.tokens.isEmpty then s.failure else none
    goesOn := Composer.goesOn s.tokens }

end Termkit.Yaml
