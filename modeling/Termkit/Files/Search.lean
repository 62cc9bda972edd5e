import Termkit.Files.FileSystem

/-!
# Searching a directory tree

The search walks a tree in pre-order and in the order of the listings, and ends at the first entry
with the name that it looks for, be it found directly or below an earlier entry. It lists no
directory that is skipped and enters no link. What cannot be listed or examined counts as nothing
there. The log of a search holds its questions to the file system, in order.
-/

namespace Termkit.Files

inductive Status where
  | found (p : Path)
  | absent
  /-- The search went deeper than it was allowed to. -/
  | tooDeep
  deriving DecidableEq, Repr

def Status.path? : Status → Option Path
  | found p => some p
  | _ => none

/-- How a search ended, what it asked, and the file system's state after it. -/
structure Run (σ : Type) where
  status : Status
  log : List Call
  state : σ
  deriving Repr

/-- Device, kernel and network trees, which have no end or no meaning for a search. -/
def virtualRoots : List Path :=
  ["/dev", "/sys", "/proc", "/net"].map fun s => ⟨s.toList⟩

/-- The directories that a search does not list. -/
structure Probe where
  skipped : List Path
  deriving DecidableEq, Repr

namespace Probe

def new : Probe := ⟨virtualRoots⟩

def skip (b : Probe) (p : Path) : Probe := ⟨b.skipped ++ [p]⟩

/-- The path is a skipped directory, in whatever spelling. -/
def skips (b : Probe) (p : Path) : Bool := b.skipped.any (·.same p)

variable {σ : Type}

/-- Goes through the names of the directory `dir` and searches below them by `descend`. -/
def scan (fs : FileSystem σ) (target : Text) (descend : Path → σ → Run σ) (dir : Path) :
    List Text → σ → Run σ
  | [], s => ⟨.absent, [], s⟩
  | name :: rest, s =>
    let p := dir.join name
    if name = target then ⟨.found p, [], s⟩
    else
      let (k, s) := fs.kind? p s
      let below := if k.any (·.canEnter) then descend p s else ⟨.absent, [], s⟩
      match below.status with
      | .absent =>
        let after := scan fs target descend dir rest below.state
        ⟨after.status, .kind p k :: below.log ++ after.log, after.state⟩
      | status => ⟨status, .kind p k :: below.log, below.state⟩

/-- Searches a directory and at most `depth` levels in all. -/
def search (fs : FileSystem σ) (b : Probe) (target : Text) : (depth : Nat) → Path → σ → Run σ
  | 0, _, s => ⟨.tooDeep, [], s⟩
  | depth + 1, dir, s =>
    if b.skips dir then ⟨.absent, [], s⟩
    else
      match fs.list? dir s with
      | (none, s) => ⟨.absent, [.list dir none], s⟩
      | (some names, s) =>
        let run := scan fs target (search fs b target depth) dir names s
        { run with log := .list dir (some names) :: run.log }

end Probe

end Termkit.Files
