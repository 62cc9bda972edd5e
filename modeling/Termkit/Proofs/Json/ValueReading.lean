import Termkit.Json.Reader
import Termkit.Proofs.Json.NumberReading

/-!
# Reading what was written: values

A value that is no list and no object is read back as it was (`readValue_compact`), provided that
its numbers are whole and not too large. A text that begins with a bracket or brace is never read as
anything but a list or an object (`isContainer_of_readValue`).
-/

namespace Termkit.Json

def Value.isContainer : Value → Bool
  | .array _ | .object _ => true
  | .null | .bool _ | .int _ | .float _ | .string _ => false

/-- Every number in the value is whole and no greater than `2^53`. -/
inductive Value.IsExact : Value → Prop where
  | null : IsExact .null
  | bool (b : Bool) : IsExact (.bool b)
  | int {n : Int} : n.natAbs ≤ twoTo 53 → IsExact (.int n)
  | string (t : Text) : IsExact (.string t)
  | array {items : List Value} : (∀ v ∈ items, IsExact v) → IsExact (.array items)
  | object {members : List (Text × Value)} : (∀ m ∈ members, IsExact m.2) →
      IsExact (.object members)

/-! ## Scalars -/

theorem wholeNumber_natAbs {n : Int} (h : n.natAbs ≤ twoTo 53) :
    wholeNumber (decide (n < 0)) n.natAbs = .int n := by
  have h53 : twoTo 53 = 9007199254740992 := rfl
  have h63 : twoTo 63 = 9223372036854775808 := rfl
  unfold wholeNumber
  by_cases hn : n < 0
  · have hs : ¬ (n.natAbs = 0 ∨ twoTo 63 < n.natAbs) := by omega
    rw [decide_eq_true hn, if_neg (by decide), if_neg hs]
    congr 1
    omega
  · rw [decide_eq_false hn, if_pos (by decide)]
    congr 1
    omega

theorem readScalar_digit {d : Char} (hd : Text.isDigit d = true) (r : Text) (p : Place) :
    readScalar ⟨d :: r, p⟩ = readNumber false ⟨d :: r, p⟩ := by
  unfold readScalar
  split
  · next e => cases e
  · next e => exact absurd ((List.cons.inj e).1 ▸ hd) (by decide)
  · next e => exact absurd ((List.cons.inj e).1 ▸ hd) (by decide)
  · next e => exact absurd ((List.cons.inj e).1 ▸ hd) (by decide)
  · next e => exact absurd ((List.cons.inj e).1 ▸ hd) (by decide)
  · next e => exact absurd ((List.cons.inj e).1 ▸ hd) (by decide)
  · next e =>
    obtain ⟨rfl, rfl⟩ := List.cons.inj e
    rw [if_pos hd]

/-- A number is read from behind its sign. -/
theorem readScalar_writeInt_append (n : Int) (r : Text) (p : Place) :
    readScalar ⟨writeInt n ++ r, p⟩ = readNumber (decide (n < 0))
      ⟨Text.ofNat n.natAbs ++ r, p.afterText (if n < 0 then ['-'] else [])⟩ := by
  unfold writeInt
  by_cases hn : n < 0
  · rw [if_pos hn, decide_eq_true hn]
    rfl
  · obtain ⟨d, ds, e⟩ := List.exists_cons_of_ne_nil (ofNat_ne_nil n.natAbs)
    have hd : Text.isDigit d = true := isDigit_of_mem_ofNat (by rw [e]; exact List.mem_cons_self)
    rw [if_neg hn, decide_eq_false hn, List.nil_append, e]
    exact readScalar_digit hd (ds ++ r) p

theorem readScalar_writeInt {n : Int} (h : n.natAbs ≤ twoTo 53) {r : Text} (hr : EndsNumber r)
    (p : Place) : readScalar ⟨writeInt n ++ r, p⟩ =
      .ok (.int n, ⟨r, p.afterText (writeInt n)⟩) := by
  have h64 : n.natAbs < twoTo 64 := Nat.lt_of_le_of_lt h (by decide)
  rw [readScalar_writeInt_append, readNumber_ofNat h64 _ hr, wholeNumber_natAbs h,
    ← Place.afterText_append, writeInt]

/-- A scalar that was written is read back. -/
theorem readScalar_compact {v : Value} (hv : v.IsExact) (hc : v.isContainer = false) {r : Text}
    (hr : EndsNumber r) (p : Place) :
    readScalar ⟨v.compact ++ r, p⟩ = .ok (v, ⟨r, p.afterText v.compact⟩) := by
  cases hv with
  | null => rfl
  | bool b => cases b <;> rfl
  | int h =>
    rw [Value.compact]
    exact readScalar_writeInt h hr p
  | string t =>
    have hread := readString_writeString t r p
    rw [writeString, List.cons_append] at hread
    rw [Value.compact, writeString, List.cons_append, readScalar]
    dsimp only
    rw [hread]
    rfl
  | array => cases hc
  | object => cases hc

/-! ## Which character begins a value -/

/-- The character begins a value that is no container. -/
def BeginsScalar (x : Char) : Prop := Cursor.isSpace x = false ∧ x ≠ '[' ∧ x ≠ '{'

theorem BeginsScalar.of_isDigit {x : Char} (h : Text.isDigit x = true) : BeginsScalar x := by
  refine ⟨?_, ?_, ?_⟩
  · cases hs : Cursor.isSpace x with
    | false => rfl
    | true =>
      simp only [Cursor.isSpace, Bool.or_eq_true, beq_iff_eq] at hs
      rcases hs with ((rfl | rfl) | rfl) | rfl <;> exact absurd h (by decide)
  · rintro rfl
    exact absurd h (by decide)
  · rintro rfl
    exact absurd h (by decide)

instance (x : Char) : Decidable (BeginsScalar x) := inferInstanceAs (Decidable (_ ∧ _ ∧ _))

theorem writeInt_eq_cons (n : Int) : ∃ x t, writeInt n = x :: t ∧ BeginsScalar x := by
  unfold writeInt
  by_cases hn : n < 0
  · rw [if_pos hn]
    exact ⟨'-', _, rfl, by decide⟩
  · obtain ⟨d, ds, e⟩ := List.exists_cons_of_ne_nil (ofNat_ne_nil n.natAbs)
    rw [if_neg hn, List.nil_append, e]
    exact ⟨d, ds, rfl, .of_isDigit (isDigit_of_mem_ofNat (by rw [e]; exact List.mem_cons_self))⟩

theorem compact_scalar {v : Value} (hv : v.IsExact) (hc : v.isContainer = false) :
    ∃ x t, v.compact = x :: t ∧ BeginsScalar x := by
  cases hv with
  | null => exact ⟨'n', _, rfl, by decide⟩
  | bool b =>
    cases b with
    | false => exact ⟨'f', _, rfl, by decide⟩
    | true => exact ⟨'t', _, rfl, by decide⟩
  | @int n h =>
    rw [Value.compact]
    exact writeInt_eq_cons n
  | string t => exact ⟨'"', _, by rw [Value.compact, writeString], by decide⟩
  | array => cases hc
  | object => cases hc

theorem compact_container {v : Value} (hc : v.isContainer = true) :
    ∃ x t, v.compact = x :: t ∧ (x = '[' ∨ x = '{') := by
  cases v with
  | array items => exact ⟨'[', _, by rw [Value.compact], .inl rfl⟩
  | object members => exact ⟨'{', _, by rw [Value.compact], .inr rfl⟩
  | null | bool | int | float | string => cases hc

theorem skipSpace_of_not_isSpace {x : Char} (h : Cursor.isSpace x = false) (r : Text) (p : Place) :
    Cursor.skipSpace ⟨x :: r, p⟩ = ⟨x :: r, p⟩ := by
  simp [Cursor.skipSpace, h]

theorem readValue_of_beginsScalar {x : Char} (h : BeginsScalar x) (room : Nat) (r : Text)
    (p : Place) : readValue room ⟨x :: r, p⟩ = readScalar ⟨x :: r, p⟩ := by
  obtain ⟨hs, hb, hc⟩ := h
  cases room with
  | zero | succ room =>
    rw [readValue, skipSpace_of_not_isSpace hs]
    dsimp only
    split
    · next e => exact (hb (List.cons.inj e).1).elim
    · next e => exact (hc (List.cons.inj e).1).elim
    · rfl

/-- A scalar that was written is read back, however little room there is for containers. -/
theorem readValue_compact {v : Value} (hv : v.IsExact) (hc : v.isContainer = false) (room : Nat)
    {r : Text} (hr : EndsNumber r) (p : Place) :
    readValue room ⟨v.compact ++ r, p⟩ = .ok (v, ⟨r, p.afterText v.compact⟩) := by
  obtain ⟨x, t, e, hx⟩ := compact_scalar hv hc
  rw [← readScalar_compact hv hc hr p, e]
  exact readValue_of_beginsScalar hx room (t ++ r) p

theorem ok_of_bind_eq_ok {ε α β : Type} {x : Except ε α} {f : α → Except ε β} {b : β}
    (h : x >>= f = .ok b) : ∃ a, x = .ok a ∧ f a = .ok b := by
  cases x with
  | error e => cases h
  | ok a => exact ⟨a, rfl, h⟩

/-- What begins like a container is read as one, if it is read at all. -/
theorem isContainer_of_readValue {x : Char} (hx : x = '[' ∨ x = '{') {room : Nat} {r : Text}
    {p : Place} {v : Value} {c : Cursor} (h : readValue room ⟨x :: r, p⟩ = .ok (v, c)) :
    v.isContainer = true := by
  have hs : Cursor.isSpace x = false := by rcases hx with rfl | rfl <;> rfl
  cases room with
  | zero =>
    rw [readValue, skipSpace_of_not_isSpace hs] at h
    rcases hx with rfl | rfl <;> cases h
  | succ room =>
    rw [readValue, skipSpace_of_not_isSpace hs] at h
    rcases hx with rfl | rfl
    · obtain ⟨⟨items, c'⟩, -, h⟩ := ok_of_bind_eq_ok h
      cases h
      rfl
    · obtain ⟨⟨pairs, c'⟩, -, h⟩ := ok_of_bind_eq_ok h
      cases h
      rfl

end Termkit.Json
