import Termkit.Text.Basic

/-!
# The order of texts

Texts are ordered character by character, by code point, a text before its continuations. That is
also the order of their UTF-8 bytes.
-/

namespace Termkit.Text

/-- The first text comes before the second, or they are equal. -/
def notAfter : Text → Text → Bool
  | [], _ => true
  | _ :: _, [] => false
  | a :: s, b :: t => a.toNat < b.toNat || (a == b && notAfter s t)

def utf8Size : Text → Nat
  | [] => 0
  | c :: t => c.utf8Size + utf8Size t

end Termkit.Text
