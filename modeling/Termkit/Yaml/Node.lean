import Termkit.Yaml.Fault

/-!
# The nodes of a document

A document is a tree of scalars, sequences and mappings, whose aliases name other nodes by the slots
that anchors were given. What was not read, because an error broke the document off, is a missing
node: a collection that was broken off ends in one.
-/

namespace Termkit.Yaml

inductive Node where
  | missing
  | scalar (mark : Mark) (tag : Option Text) (isPlain : Bool) (text : Text)
  | aliasTo (mark : Mark) (slot : Nat)
  | sequence (mark : Mark) (tag : Option Text) (items : List Node)
  | mapping (mark : Mark) (tag : Option Text) (entries : List (Node × Node))
  deriving Repr

/-- The empty plain scalar that stands where a node was left out. -/
def Node.empty (m : Mark) : Node := .scalar m none true []

structure Target where
  slot : Nat
  /-- The count of nodes and ends of collections before it in the document. -/
  position : Nat
  node : Node
  deriving Repr

structure Document where
  root : Node
  /-- The anchored nodes, last first. -/
  targets : List Target
  /-- The count of nodes and ends of collections. -/
  size : Nat
  /-- What broke the document off. -/
  failure : Option Error
  /-- Something follows the document. -/
  goesOn : Bool

/-- The node in a slot: the last one that was given it. -/
def Document.target (d : Document) (slot : Nat) : Node :=
  ((d.targets.find? (·.slot == slot)).map (·.node)).getD .missing

end Termkit.Yaml
