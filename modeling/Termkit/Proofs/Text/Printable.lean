import Termkit.Text.Numeral

/-!
# Printable characters

Space and the visible characters of ASCII: what every terminal, and every format for documents,
takes as it stands.
-/

namespace Termkit.Text

/-- The character is a space or a visible character of ASCII. -/
def IsPrintable (c : Char) : Prop := 0x20 ≤ c.toNat ∧ c.toNat ≤ 0x7e

instance (c : Char) : Decidable (IsPrintable c) := inferInstanceAs (Decidable (_ ∧ _))

theorem IsPrintable.of_isLetter {c : Char} (h : isLetter c = true) : IsPrintable c := by
  simp only [isLetter, Bool.or_eq_true, Bool.and_eq_true, decide_eq_true_eq, Char.le_def,
    UInt32.le_iff_toNat_le] at h
  have ha : 'a'.val.toNat = 0x61 := rfl
  have hz : 'z'.val.toNat = 0x7a := rfl
  have hA : 'A'.val.toNat = 0x41 := rfl
  have hZ : 'Z'.val.toNat = 0x5a := rfl
  have hc : c.toNat = c.val.toNat := rfl
  unfold IsPrintable
  omega

def Printable (t : Text) : Prop := ∀ c ∈ t, IsPrintable c

instance (t : Text) : Decidable (Printable t) := List.decidableBAll _ t

end Termkit.Text
