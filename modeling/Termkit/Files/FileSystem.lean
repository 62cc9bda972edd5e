import Termkit.Files.Path

/-!
# File systems

A search needs two things of a file system: the names in a directory, and what kind of thing a
path names, without following a link at its end. Either may fail. A file system may change between
two questions, so that it has a state.
-/

namespace Termkit.Files

/-- What a path names. A system may report both marks. -/
structure Kind where
  isDirectory : Bool
  isLink : Bool
  deriving DecidableEq, Repr

namespace Kind

def file : Kind := ⟨false, false⟩

def directory : Kind := ⟨true, false⟩

def link : Kind := ⟨false, true⟩

def canEnter (k : Kind) : Bool := k.isDirectory && !k.isLink

theorem canEnter_iff {k : Kind} : k.canEnter = true ↔ k.isDirectory = true ∧ k.isLink = false := by
  simp [canEnter]

end Kind

structure FileSystem (σ : Type) where
  list? : Path → σ → Option (List Text) × σ
  kind? : Path → σ → Option Kind × σ

/-- A question to a file system and its answer. -/
inductive Call where
  | list (p : Path) (answer : Option (List Text))
  | kind (p : Path) (answer : Option Kind)
  deriving DecidableEq, Repr

end Termkit.Files
