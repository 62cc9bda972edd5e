import Termkit.Style.Value

/-!
# Styles

A style maps attribute names to values and keeps the order in which the names came. Setting a
present name replaces its value in place; a name that was removed and is set again comes last.
-/

namespace Termkit

/-- Attribute names with their values, in order. -/
structure Style where
  entries : List (Text × Style.Value)
  deriving DecidableEq, Repr

namespace Style

def empty : Style := ⟨[]⟩

def size (s : Style) : Nat := s.entries.length

def isEmpty (s : Style) : Bool := s.entries.isEmpty

def keys (s : Style) : List Text := s.entries.map (·.1)

/-- The entries after a name is set: its first entry is replaced, or a new one comes last. -/
def setEntry (key : Text) (v : Value) : List (Text × Value) → List (Text × Value)
  | [] => [(key, v)]
  | (k, w) :: rest => if k = key then (k, v) :: rest else (k, w) :: setEntry key v rest

/-- The value of the first entry of a name, if there is one, and the entries without that entry. -/
def takeEntry (key : Text) : List (Text × Value) → Option Value × List (Text × Value)
  | [] => (none, [])
  | (k, w) :: rest =>
    if k = key then (some w, rest) else (takeEntry key rest).map id ((k, w) :: ·)

def set (s : Style) (key : Text) (v : Value) : Style := ⟨setEntry key v s.entries⟩

def get? (s : Style) (key : Text) : Option Value := s.entries.lookup key

/-- Removes an attribute, and gives the value that was removed with it. -/
def remove (s : Style) (key : Text) : Option Value × Style :=
  (takeEntry key s.entries).map id Style.mk

/-- Sets the pairs one after another, from the empty style. -/
def ofList (pairs : List (Text × Value)) : Style :=
  pairs.foldl (fun s p => s.set p.1 p.2) empty

def activeCount (s : Style) : Nat := s.entries.countP (·.2.isActive)

/-- The same pairs in the same order; numbers are compared as numbers. -/
def same (s t : Style) : Bool :=
  s.size == t.size &&
    (s.entries.zip t.entries).all fun (p, q) => p.1 == q.1 && p.2.same q.2

@[simp] theorem entries_empty : empty.entries = [] := rfl

@[simp] theorem entries_set (s : Style) (key : Text) (v : Value) :
    (s.set key v).entries = setEntry key v s.entries := rfl

/-- Setting a name adds it at the end or leaves the names as they are. -/
theorem keys_setEntry (key : Text) (v : Value) (es : List (Text × Value)) :
    (setEntry key v es).map (·.1) =
      if key ∈ es.map (·.1) then es.map (·.1) else es.map (·.1) ++ [key] := by
  induction es with
  | nil => simp [setEntry]
  | cons e rest ih =>
    obtain ⟨k, w⟩ := e
    by_cases h : k = key
    · simp [setEntry, h]
    · have h' : key ≠ k := fun e => h e.symm
      simp only [setEntry, if_neg h, List.map_cons, List.mem_cons, h', false_or, ih]
      split <;> simp

end Style

end Termkit
