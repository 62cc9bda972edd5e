import Termkit.Json.StringLiteral
import Termkit.Json.Writer

/-!
# Reading what was written: strings

A string that was written is read back as it was, and the reader stands right behind it, whatever
follows (`readString_writeString`). Each character is one round of the reader, be it written by
itself, by a letter or by its number (`stringRest_escapeChar`).
-/

namespace Termkit.Json

/-! ## Where the reader stands -/

@[simp] theorem Place.afterText_nil (p : Place) : p.afterText [] = p := rfl

@[simp] theorem Place.afterText_cons (p : Place) (c : Char) (t : Text) :
    p.afterText (c :: t) = (p.after c).afterText t := rfl

@[simp] theorem Place.afterText_append (p : Place) (s t : Text) :
    p.afterText (s ++ t) = (p.afterText s).afterText t := List.foldl_append

theorem Cursor.skip_append (a r : Text) (p : Place) :
    Cursor.skip a.length ⟨a ++ r, p⟩ = ⟨r, p.afterText a⟩ := by
  induction a generalizing p with
  | nil => rfl
  | cons c a ih => exact ih (p.after c)

/-! ## One character -/

/-- The controls are written in four digits, which say the number of the character. -/
theorem hex_control : ∀ n < 0x20, (Text.hex 4 n).length = 4 ∧ Text.utf8Size (Text.hex 4 n) = 4 ∧
    Text.natIn? 16 (Text.hex 4 n) = some n := by decide

theorem hexUnit_hex {n : Nat} (h : n < 0x20) (r : Text) (p : Place) :
    hexUnit ⟨Text.hex 4 n ++ r, p⟩ = .ok (n, ⟨r, p.afterText (Text.hex 4 n)⟩) := by
  obtain ⟨hl, hu, hn⟩ := hex_control n h
  obtain ⟨a, b, c, d, e⟩ : ∃ a b c d, Text.hex 4 n = [a, b, c, d] := by
    match hd : Text.hex 4 n, hl with
    | [a, b, c, d], _ => exact ⟨a, b, c, d, rfl⟩
  rw [e] at hu hn ⊢
  have hskip : Cursor.skip 4 ⟨[a, b, c, d] ++ r, p⟩ = ⟨r, p.afterText [a, b, c, d]⟩ :=
    Cursor.skip_append [a, b, c, d] r p
  have hu' : ¬ Text.utf8Size (([a, b, c, d] ++ r).take 4) < 4 := by
    change ¬ Text.utf8Size [a, b, c, d] < 4
    omega
  simp only [hexUnit, if_neg hu', hskip]
  simp only [List.cons_append, List.nil_append, hn]

theorem numberEscape_hex {n : Nat} (h : n < 0x20) (r : Text) (p : Place) :
    numberEscape ⟨Text.hex 4 n ++ r, p⟩ =
      .ok (Char.ofNat n, ⟨r, p.afterText (Text.hex 4 n)⟩) := by
  have h₁ : ¬ (0xdc00 ≤ n ∧ n ≤ 0xdfff) := by omega
  have h₂ : ¬ (0xd800 ≤ n ∧ n ≤ 0xdbff) := by omega
  unfold numberEscape
  rw [hexUnit_hex h]
  exact (if_neg h₁).trans (if_neg h₂)

/-- A round of the reader takes one character that was written. -/
theorem stringRest_escapeChar (fuel : Nat) (read : Text) (c : Char) (r : Text) (p : Place) :
    stringRest (fuel + 1) read ⟨escapeChar c ++ r, p⟩ =
      stringRest fuel (c :: read) ⟨r, p.afterText (escapeChar c)⟩ := by
  unfold escapeChar
  split
  case h_8 c hq hb _ _ _ _ _ =>
    split
    · next hc =>
      have he := numberEscape_hex hc r ((p.after '\\').after 'u')
      rw [Char.ofNat_toNat] at he
      simp only [stringRest, Cursor.next, List.cons_append, he]
      rfl
    · next hc =>
      rw [stringRest]
      dsimp only [List.singleton_append]
      split
      · next e => cases e
      · next e => exact (hq (List.cons.inj e).1).elim
      · next e => exact (hb (List.cons.inj e).1).elim
      · next e =>
        obtain ⟨rfl, rfl⟩ := List.cons.inj e
        rw [if_neg hc]
        rfl
  all_goals rfl

/-! ## Strings -/

theorem stringRest_flatMap {fuel : Nat} {t : Text} (h : t.length < fuel) (read r : Text)
    (p : Place) : stringRest fuel read ⟨t.flatMap escapeChar ++ '"' :: r, p⟩ =
      .ok (read.reverse ++ t, ⟨r, p.afterText (t.flatMap escapeChar ++ ['"'])⟩) := by
  induction t generalizing fuel read p with
  | nil =>
    obtain ⟨fuel, rfl⟩ := Nat.exists_eq_add_of_le' h
    simp [stringRest, Cursor.next]
  | cons c t ih =>
    obtain ⟨fuel, rfl⟩ : ∃ f, fuel = f + 1 := ⟨fuel - 1, by simp at h; omega⟩
    have ht : t.length < fuel := by simpa using h
    rw [List.flatMap_cons, List.append_assoc, stringRest_escapeChar, ih ht]
    simp

theorem escapeChar_ne_nil (c : Char) : escapeChar c ≠ [] := by
  unfold escapeChar
  split
  case h_8 => split <;> exact nofun
  all_goals exact nofun

theorem length_le_flatMap_escapeChar (t : Text) : t.length ≤ (t.flatMap escapeChar).length := by
  induction t with
  | nil => exact Nat.le_refl 0
  | cons c t ih =>
    have := List.length_pos_iff.2 (escapeChar_ne_nil c)
    rw [List.flatMap_cons, List.length_append, List.length_cons]
    omega

/-- A string that was written is read back, up to its closing quotation mark. -/
theorem readString_writeString (t r : Text) (p : Place) :
    readString (Cursor.next ⟨writeString t ++ r, p⟩) =
      .ok (t, ⟨r, p.afterText (writeString t)⟩) := by
  have hl : t.length < (t.flatMap escapeChar ++ '"' :: r).length + 1 := by
    have := length_le_flatMap_escapeChar t
    rw [List.length_append]
    omega
  have hr := stringRest_flatMap hl [] r (p.after '"')
  have ht : writeString t ++ r = '"' :: (t.flatMap escapeChar ++ '"' :: r) := by
    simp [writeString]
  rw [ht, readString, Cursor.next]
  exact hr

end Termkit.Json
