import Termkit.Files.Search

/-!
# File systems given by tables

A table gives the listings of directories and the kinds of paths, and answers for every spelling of
a path; of two entries for one path the later holds. It answers a limited number of requests for a
listing, so that a search in it ends even if directories contain themselves.
-/

namespace Termkit.Files

structure Table where
  listings : List (Path × List Text)
  kinds : List (Path × Kind)
  maxListings : Nat

namespace Table

def last? {α : Type} (entries : List (Path × α)) (p : Path) : Option α :=
  (entries.reverse.find? (·.1.same p)).map (·.2)

/-- The file system of a table; its state counts the listings that were asked for. -/
def fileSystem (t : Table) : FileSystem Nat where
  list? p asked :=
    if t.maxListings ≤ asked then (none, asked) else (last? t.listings p, asked + 1)
  kind? p asked := (last? t.kinds p, asked)

/-- Searches the table, one level deeper than it answers requests for a listing. -/
def find (t : Table) (b : Probe) (start : Path) (target : Text) (asked : Nat) : Run Nat :=
  b.search t.fileSystem target (t.maxListings + 1) start asked

end Table

end Termkit.Files
