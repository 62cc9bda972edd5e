import Termkit.Text.Lowercase

/-!
# Sorting listings

Listings are sorted by the first letter of the names, whatever its case, or by descending index.
Both sorts are stable: what the key does not tell apart keeps its order.
-/

namespace Termkit.Listing

class Named (α : Type) where
  name : α → Text

class Indexed (α : Type) where
  index : α → Int

/-- No character comes before every character. -/
def rank : Option Char → Nat
  | none => 0
  | some c => c.toNat + 1

/-- The first lowercase character of a name, and for names that begin with a dot the second. -/
def nameKey (name : Text) : Nat × Nat :=
  let low := name.flatMap Text.lowercase
  match low with
  | '.' :: rest => (rank (some '.'), rank rest.head?)
  | _ => (rank low.head?, rank none)

def keyLe (a b : Nat × Nat) : Bool := a.1 < b.1 || (a.1 == b.1 && a.2 ≤ b.2)

variable {α : Type}

/-- Sorts by the first letter of the names. -/
def sortByName [Named α] (items : List α) : List α :=
  items.mergeSort fun a b => keyLe (nameKey (Named.name a)) (nameKey (Named.name b))

def sortByIndex [Indexed α] (items : List α) : List α :=
  items.mergeSort fun a b => Indexed.index b ≤ Indexed.index a

end Termkit.Listing
