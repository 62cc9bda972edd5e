import Termkit.Files.Search
import Termkit.Text.Order

/-!
# Disks

A disk is a tree of directories, files and links below a root directory. A path is resolved part
by part: a link in the middle is followed to its target, two dots lead to the directory above, and
a slash or a dot behind the last part asks for a directory.
-/

namespace Termkit.Files

inductive Node where
  | file
  | directory
  | link (target : Path)
  deriving DecidableEq, Repr

def Node.kind : Node → Kind
  | file => .file
  | directory => .directory
  | link _ => .link

def Node.targetLength : Node → Nat
  | link t => t.raw.length
  | _ => 0

/-- Why a path leads nowhere. -/
inductive DiskFault where
  | notFound
  | notADirectory
  | linkLoop
  deriving DecidableEq, Repr

/-- The names from the root directory down to a place. -/
abbrev Place := List Text

/-- The places of a disk in the order in which they were made; the root directory is always
there. -/
structure Disk where
  nodes : List (Place × Node)
  deriving Repr

namespace Disk

def node? (d : Disk) (p : Place) : Option Node :=
  if p = [] then some .directory else d.nodes.lookup p

def names (d : Disk) (p : Place) : List Text :=
  d.nodes.filterMap fun (q, _) =>
    match q.getLast? with
    | some name => if q.dropLast = p then some name else none
    | none => none

/-- The segments that a path is resolved by. A slash at the end asks for a directory, as a dot
does. -/
def steps (p : Path) : List Text :=
  (Path.segments p.raw).filter (· ≠ []) ++
    (if p.raw.getLast? = some '/' then [['.']] else [])

def maxLinks : Nat := 40

/-- Walks the segments from a place; `fuel` bounds the segments and the links followed. A link at
the end is followed only on request. -/
def walk (d : Disk) (follow : Bool) : (fuel : Nat) → (links : Nat) → Place → List Text →
    Except DiskFault Place
  | 0, _, _, _ => .error .linkLoop
  | _, _, here, [] => .ok here
  | fuel + 1, links, here, step :: rest =>
    match d.node? here with
    | some .directory =>
      if step = ['.'] then walk d follow fuel links here rest
      else if step = ['.', '.'] then walk d follow fuel links here.dropLast rest
      else
        let next := here ++ [step]
        match d.node? next with
        | none => .error .notFound
        | some (.link target) =>
          if rest = [] ∧ !follow then .ok next
          else if maxLinks ≤ links then .error .linkLoop
          else
            let base := if target.isAbsolute then [] else here
            walk d follow fuel (links + 1) base (steps target ++ rest)
        | some _ => walk d follow fuel links next rest
    | some _ => .error .notADirectory
    | none => .error .notFound

def longestTarget (d : Disk) : Nat := (d.nodes.map (·.2.targetLength)).max?.getD 0

/-- The turns that a path may take, the segments of its links included. -/
def reach (d : Disk) (p : Path) : Nat := p.raw.length + 1 + maxLinks * (d.longestTarget + 1)

/-- The place that an absolute path leads to. -/
def resolve (d : Disk) (follow : Bool) (p : Path) : Except DiskFault Place :=
  if p.raw = [] then .error .notFound else d.walk follow (d.reach p) 0 [] (steps p)

def list (d : Disk) (p : Path) : Except DiskFault (List Text) := do
  let place ← d.resolve true p
  match d.node? place with
  | some .directory => return d.names place
  | some _ => .error .notADirectory
  | none => .error .notFound

def listSorted (d : Disk) (p : Path) : Except DiskFault (List Text) :=
  (d.list p).map (·.mergeSort Text.notAfter)

/-- The kind of what a path names, links not followed at its end. -/
def kind (d : Disk) (p : Path) : Except DiskFault Kind := do
  let place ← d.resolve false p
  match d.node? place with
  | some n => return n.kind
  | none => .error .notFound

def fileSystem (d : Disk) : FileSystem Unit where
  list? p _ := ((d.list p).toOption, ())
  kind? p _ := ((d.kind p).toOption, ())

/-- How far below the root directory the deepest place is. -/
def height (d : Disk) : Nat := (d.nodes.map (·.1.length)).max?.getD 0

/-- Searches the disk, one level deeper than its places go. -/
def search (d : Disk) (b : Probe) (start : Path) (target : Text) : Run Unit :=
  b.search d.fileSystem target (d.height + 1) start ()

def find (d : Disk) (b : Probe) (start : Path) (target : Text) : Option Path :=
  (d.search b start target).status.path?

/-- Makes a node at a place with ordinary names where there is none, and nothing else. -/
def make (d : Disk) (p : Place) (n : Node) : Disk :=
  if (d.node? p).isNone && p.all fun name => decide (OrdinaryName name) then
    ⟨d.nodes ++ [(p, n)]⟩
  else d

/-- Makes a directory and those above it. -/
def makeDirectories (d : Disk) (p : Path) : Disk :=
  let step : Disk × Place → Text → Disk × Place := fun (d, here) s =>
    match d.walk true (d.reach p) 0 here [s] with
    | .ok next => (d, next)
    | .error _ => (d.make (here ++ [s]) .directory, here ++ [s])
  ((steps p).foldl step (d, [])).1

/-- Makes a node at a path in a directory that is there; nothing if it is not. -/
def makeAt (d : Disk) (p : Path) (n : Node) : Disk :=
  let all := (steps p).filter (· ≠ ['.'])
  match all.getLast? with
  | none => d
  | some name =>
    match d.walk true (d.reach p) 0 [] all.dropLast with
    | .ok dir => d.make (dir ++ [name]) n
    | .error _ => d

end Disk

end Termkit.Files
