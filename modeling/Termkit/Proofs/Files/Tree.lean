import Mathlib.Data.List.Nodup
import Termkit.Proofs.Files.Places
import Termkit.Proofs.Files.Walk

/-!
# Finite trees

A tree is made of files, links and directories. Answers show a tree below a path if they list every
directory in it and tell what each entry is; what a link lists, and what lies behind it, is left
open, so that a link may lead back up. The walk through a tree that is shown is finite, because it
enters no link (`Answers.Shows.exists_walk`).
-/

namespace Termkit.Files

inductive Tree where
  | file
  | link
  | directory (entries : List (Text × Tree))

namespace Tree

def IsDirectory (t : Tree) : Prop := ∃ entries, t = directory entries

inductive At : Tree → List Text → Tree → Prop where
  | here (t : Tree) : At t [] t
  | inside {entries : List (Text × Tree)} {name : Text} {sub t : Tree} {place : List Text} :
      (name, sub) ∈ entries → At sub place t → At (.directory entries) (name :: place) t

/-- The names in every directory are ordinary and distinct. -/
inductive WellNamed : Tree → Prop where
  | file : WellNamed .file
  | link : WellNamed .link
  | directory {entries : List (Text × Tree)} : (entries.map (·.1)).Nodup →
      (∀ e ∈ entries, OrdinaryName e.1) → (∀ e ∈ entries, WellNamed e.2) →
      WellNamed (.directory entries)

/-- What is answered when an entry is examined. -/
def HasKind : Tree → Option Kind → Prop
  | file, k => k = some .file
  | link, k => ∃ l : Kind, k = some l ∧ l.isLink = true
  | directory _, k => k = some .directory

/-- The place is a directory that is not skipped, and so are all that lead to it. -/
inductive Reaches (b : Probe) : Path → Tree → List Text → Prop where
  | here {p : Path} {entries : List (Text × Tree)} : b.skips p = false →
      Reaches b p (.directory entries) []
  | inside {p : Path} {entries : List (Text × Tree)} {name : Text} {sub : Tree}
      {place : List Text} : b.skips p = false → (name, sub) ∈ entries →
      Reaches b (p.join name) sub place → Reaches b p (.directory entries) (name :: place)

theorem At.ordinaryName {t sub : Tree} {place : List Text} (h : t.At place sub)
    (hw : t.WellNamed) : ∀ name ∈ place, OrdinaryName name := by
  induction h with
  | here t => simp
  | inside he _ ih =>
    cases hw with
    | directory _ hn hs => exact List.forall_mem_cons.2 ⟨hn _ he, ih (hs _ he)⟩

/-- One thing stands at each place. -/
theorem At.unique {t sub sub' : Tree} {place : List Text} (h : t.At place sub) (hw : t.WellNamed)
    (h' : t.At place sub') : sub = sub' := by
  induction h with
  | here t =>
    cases h'
    rfl
  | inside he _ ih =>
    cases hw with
    | directory hn _ hs =>
      cases h' with
      | inside he' h' =>
        cases List.inj_on_of_nodup_map hn he he' rfl
        exact ih (hs _ he) h'

end Tree

/-- The answers show the tree below the path. -/
inductive Answers.Shows (a : Answers) : Path → Tree → Prop where
  | file (p : Path) : Shows a p .file
  | link (p : Path) : Shows a p .link
  | directory {p : Path} {entries : List (Text × Tree)} :
      a.list? p = some (entries.map (·.1)) →
      (∀ e ∈ entries, e.2.HasKind (a.kind? (p.join e.1))) →
      (∀ e ∈ entries, Shows a (p.join e.1) e.2) → Shows a p (.directory entries)

variable {a : Answers} {b : Probe}

/-! ## Entering -/

/-- Directories are entered, and links are not. -/
theorem Tree.HasKind.canEnter_iff {t : Tree} {k : Option Kind} (h : t.HasKind k) :
    k.any (·.canEnter) = true ↔ t.IsDirectory := by
  cases t with
  | file =>
    obtain rfl : k = some .file := h
    exact ⟨nofun, nofun⟩
  | link =>
    obtain ⟨l, rfl, hl⟩ := h
    refine ⟨fun he => ?_, nofun⟩
    have hno : l.isLink = false := (Kind.canEnter_iff.1 he).2
    rw [hl] at hno
    cases hno
  | directory entries =>
    obtain rfl : k = some .directory := h
    exact ⟨fun _ => ⟨entries, rfl⟩, fun _ => rfl⟩

/-! ## The walk through a tree -/

theorem exists_walk_names {p : Path} {entries : List (Text × Tree)}
    (h : ∀ e ∈ entries, (a.kind? (p.join e.1)).any (·.canEnter) = true →
      ∃ w, Walk a b (.directory (p.join e.1)) w) :
    ∃ w, Walk a b (.names p (entries.map (·.1))) w := by
  induction entries with
  | nil => exact ⟨[], .done⟩
  | cons e entries ih =>
    obtain ⟨he, h⟩ := List.forall_mem_cons.1 h
    obtain ⟨after, ha⟩ := ih h
    cases hk : (a.kind? (p.join e.1)).any (·.canEnter) with
    | false => exact ⟨_, .passed hk ha⟩
    | true =>
      obtain ⟨below, hb⟩ := he hk
      exact ⟨_, .entered hk hb ha⟩

/-- Links are not entered, so that the walk ends with the tree. -/
theorem Answers.Shows.exists_walk {p : Path} {t : Tree} (h : a.Shows p t) (b : Probe) :
    t.IsDirectory → ∃ w, Walk a b (.directory p) w := by
  induction h with
  | file | link => exact fun ⟨_, e⟩ => nomatch e
  | @directory p entries hl hk _ ih =>
    intro _
    cases hs : b.skips p with
    | true => exact ⟨[], .skipped hs⟩
    | false =>
      obtain ⟨w, hw⟩ := exists_walk_names fun e he hc => ih e he ((hk e he).canEnter_iff.1 hc)
      exact ⟨w, .listed hs hl hw⟩

end Termkit.Files
