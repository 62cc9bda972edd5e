import Termkit.Proofs.Json.StringReading
import Termkit.Proofs.Text.Printable

/-!
# JSON strings of printable characters

What is written for printable ASCII is printable ASCII again (`printable_writeString`), and takes at
most two characters for each (`length_writeString_le`).
-/

namespace Termkit.Json

open Text (IsPrintable Printable)

/-- A printable character is written by itself, but for two that get a backslash. -/
theorem escapeChar_printable {c : Char} (h : IsPrintable c) :
    escapeChar c = if c = '"' ∨ c = '\\' then ['\\', c] else [c] := by
  unfold escapeChar
  split
  case h_1 | h_2 => rfl
  case h_8 hq hb _ _ _ _ _ =>
    have hc : ¬ c.toNat < 0x20 := Nat.not_lt.2 h.1
    rw [if_neg hc, if_neg fun e => e.elim hq hb]
  all_goals exact absurd h (by decide)

theorem printable_escapeChar {c : Char} (h : IsPrintable c) : Printable (escapeChar c) := by
  rw [escapeChar_printable h]
  split
  · exact List.forall_mem_cons.2 ⟨by decide, List.forall_mem_singleton.2 h⟩
  · exact List.forall_mem_singleton.2 h

theorem printable_writeString {t : Text} (h : Printable t) : Printable (writeString t) := by
  have hq : IsPrintable '"' := by decide
  refine List.forall_mem_cons.2 ⟨hq, List.forall_mem_append.2 ⟨fun c hc => ?_, ?_⟩⟩
  · obtain ⟨d, hd, hc⟩ := List.mem_flatMap.1 hc
    exact printable_escapeChar (h d hd) c hc
  · exact List.forall_mem_singleton.2 hq

/-- No printable character is written in more than two. -/
theorem length_writeString_le {t : Text} (h : Printable t) :
    (writeString t).length ≤ 2 * t.length + 2 := by
  have hl : (t.flatMap escapeChar).length ≤ 2 * t.length := by
    induction t with
    | nil => exact Nat.le_refl 0
    | cons c t ih =>
      obtain ⟨hc, ht⟩ := List.forall_mem_cons.1 h
      have hc' : (escapeChar c).length ≤ 2 := by
        rw [escapeChar_printable hc]
        split <;> simp
      have := ih ht
      rw [List.flatMap_cons, List.length_append, List.length_cons]
      omega
  rw [writeString, List.length_cons, List.length_append, List.length_singleton]
  omega

end Termkit.Json
