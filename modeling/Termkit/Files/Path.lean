import Termkit.Text.Basic

/-!
# Paths

A path is kept as it is written. Two spellings are the same path if they have the same parts: the
text is cut at slashes, and empty parts and parts that are a single dot are left out, but for a
leading dot of a relative path. Two dots are a part like any other.
-/

namespace Termkit.Files

/-- A path as it is written. -/
structure Path where
  raw : Text
  deriving DecidableEq, Repr

/-- A name that an entry of a directory may have. -/
def OrdinaryName (name : Text) : Prop :=
  name ≠ [] ∧ '/' ∉ name ∧ name ≠ ['.'] ∧ name ≠ ['.', '.']

instance (name : Text) : Decidable (OrdinaryName name) := inferInstanceAs (Decidable (_ ∧ _))

namespace Path

def segments : Text → List Text
  | [] => [[]]
  | '/' :: r => [] :: segments r
  | c :: r =>
    match segments r with
    | [] => [[c]]
    | s :: rest => (c :: s) :: rest

def isAbsolute (p : Path) : Bool := p.raw.head? == some '/'

/-- A segment that names a part wherever it stands. -/
def isPart (s : Text) : Bool := s != [] && s != ['.']

def parts (p : Path) : List Text :=
  match segments p.raw with
  | ['.'] :: rest => ['.'] :: rest.filter isPart
  | all => all.filter isPart

/-- The same path, in whatever spelling. -/
def same (p q : Path) : Bool := p.isAbsolute == q.isAbsolute && p.parts == q.parts

theorem same_iff {p q : Path} :
    p.same q = true ↔ p.isAbsolute = q.isAbsolute ∧ p.parts = q.parts := by
  simp [same]

theorem same_refl (p : Path) : p.same p = true := same_iff.2 ⟨rfl, rfl⟩

theorem same_symm {p q : Path} (h : p.same q = true) : q.same p = true :=
  same_iff.2 ⟨(same_iff.1 h).1.symm, (same_iff.1 h).2.symm⟩

/-- What is the same path is the same as any other path. -/
theorem same_congr {p q : Path} (h : p.same q = true) (r : Path) : r.same p = r.same q := by
  obtain ⟨ha, hp⟩ := same_iff.1 h
  rw [same, same, ha, hp]

/-- A name below a path. An absolute name stands for itself. -/
def join (p : Path) (name : Text) : Path :=
  if name.head? = some '/' then ⟨name⟩
  else if p.raw = [] ∨ p.raw.getLast? = some '/' then ⟨p.raw ++ name⟩
  else ⟨p.raw ++ '/' :: name⟩

/-- Drops slashes and parts that are a single dot in front. -/
def dropIdle : Text → Text
  | '/' :: r => dropIdle r
  | '.' :: '/' :: r => dropIdle r
  | ['.'] => []
  | t => t

/-- What a path is called from a directory that it begins with. -/
def below? (base p : Path) : Option Text := (base.raw.isPrefixOf? p.raw).map dropIdle

end Path

end Termkit.Files
