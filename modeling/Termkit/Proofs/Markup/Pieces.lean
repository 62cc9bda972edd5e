import Termkit.Markup.Builder
import Termkit.Proofs.Markup.Stripping

/-!
# Cutting markup at its brace sequences

`pieces` finds exactly the brace sequences of a text: no sequence begins within another or reaches
across its end, so that a text is cut at each of them whatever stands around it
(`pieces_append_escapeChar`). A tag of any other name stays within its piece
(`IsTag.pieces_append`). For the plain text of markup this means that it is read piece by piece
(`plainOf_append_escapeChar`).
-/

namespace Termkit.Markup

def IsBrace (c : Char) : Prop := c = '{' ∨ c = '}'

instance (c : Char) : Decidable (IsBrace c) := inferInstanceAs (Decidable (_ ∨ _))

theorem escapeChar_of_not_isBrace {c : Char} (h : ¬ IsBrace c) : escapeChar c = [c] := by
  unfold escapeChar
  rw [if_neg fun e => h (.inl e), if_neg fun e => h (.inr e)]

/-- A brace sequence is a tag. -/
theorem IsBrace.isTag {b : Char} (h : IsBrace b) : IsTag (escapeChar b) := by
  rcases h with rfl | rfl
  · exact isTag_openMark
  · exact isTag_closeMark

namespace Pieces

def prepend (a : Text) (p : Pieces) : Pieces := ⟨a ++ p.head, p.tail⟩

/-- The pieces before a brace sequence, and those behind it. -/
def around (p : Pieces) (b : Char) (q : Pieces) : Pieces :=
  ⟨p.head, p.tail ++ (b, q.head) :: q.tail⟩

theorem join_around (f : Text → Text) (p : Pieces) (b : Char) (q : Pieces) :
    (p.around b q).join f = p.join f ++ b :: q.join f := by
  simp [around, join]

end Pieces

/-! ## Where a text is cut -/

theorem IsBrace.pieces_append {b : Char} (h : IsBrace b) (r : Text) :
    pieces (escapeChar b ++ r) = (pieces r).brace b := by
  rcases h with rfl | rfl <;> rfl

/-- A character that begins no brace sequence is part of its piece. -/
theorem pieces_cons {c : Char} {r : Text}
    (h : ∀ b, IsBrace b → ∀ rest, c :: r ≠ escapeChar b ++ rest) :
    pieces (c :: r) = (pieces r).cons c := by
  rw [pieces]
  · rintro rest rfl rfl
    exact h '{' (.inl rfl) rest rfl
  · rintro rest rfl rfl
    exact h '}' (.inr rfl) rest rfl

theorem pieces_cons_of_ne {c : Char} (h : c ≠ '{') (r : Text) :
    pieces (c :: r) = (pieces r).cons c := by
  refine pieces_cons fun b hb rest e => h ?_
  rcases hb with rfl | rfl <;> exact (List.cons.inj e).1

theorem pieces_append_of_not_mem {a : Text} (h : '{' ∉ a) (r : Text) :
    pieces (a ++ r) = (pieces r).prepend a := by
  induction a with
  | nil => rfl
  | cons c a ih =>
    have hc : c ≠ '{' := Ne.symm (List.ne_of_not_mem_cons h)
    rw [List.cons_append, pieces_cons_of_ne hc, ih (List.not_mem_of_not_mem_cons h)]
    rfl

/-- A tag that stands for no brace is part of its piece. -/
theorem IsTag.pieces_append {m : Text} (hm : IsTag m) (ho : m ≠ openMark) (hc : m ≠ closeMark)
    (r : Text) : pieces (m ++ r) = (pieces r).prepend m := by
  obtain ⟨c, body, rfl, -, -, hbody⟩ := IsMatch.uncons (.inl hm)
  have hfront : ∀ b, IsBrace b → ∀ rest, c :: (body ++ r) ≠ escapeChar b ++ rest := by
    intro b hb rest e
    have hmark := (finds_tag.prefix_unique hm hb.isTag e).1
    rcases hb with rfl | rfl
    · exact ho hmark
    · exact hc hmark
  have hb : '{' ∉ body := fun hmem => hbody '{' hmem (.inl rfl)
  rw [List.cons_append, pieces_cons hfront, pieces_append_of_not_mem hb]
  rfl

/-- A text is cut at every brace sequence, whatever stands before and behind it. -/
theorem pieces_append_escapeChar {b : Char} (hb : IsBrace b) (a r : Text) :
    pieces (a ++ (escapeChar b ++ r)) = (pieces a).around b (pieces r) := by
  fun_induction pieces a with
  | case1 a ih =>
    change (pieces (a ++ (escapeChar b ++ r))).brace '{' = _
    rw [ih]
    rfl
  | case2 a ih =>
    change (pieces (a ++ (escapeChar b ++ r))).brace '}' = _
    rw [ih]
    rfl
  | case3 c a ho hc ih =>
    rw [List.cons_append, pieces_cons, ih]
    · rfl
    · intro b' hb' rest e
      -- a sequence that begins in `c :: a` ends before the other one begins
      have e' : escapeChar b' ++ rest = (c :: a) ++ (escapeChar b ++ r) := e.symm
      rcases IsMatch.append_eq_append (.inl hb'.isTag) (.inl hb.isTag) e' with
        ⟨h, -⟩ | ⟨a', h, -⟩
      · cases h
      · rcases hb' with rfl | rfl
        · obtain ⟨rfl, ht⟩ := List.cons.inj h
          exact ho a' rfl ht
        · obtain ⟨rfl, ht⟩ := List.cons.inj h
          exact hc a' rfl ht
  | case4 => exact hb.pieces_append r

/-! ## The plain text of markup -/

theorem plainOf_of_not_mem {a : Text} (h : '{' ∉ a) : plainOf a = strip a := by
  have hp := pieces_append_of_not_mem h []
  rw [List.append_nil] at hp
  rw [plainOf, hp]
  simp [Pieces.prepend, Pieces.join, pieces, Pieces.empty]

/-- The plain text before and behind a brace sequence does not depend on each other. -/
theorem plainOf_append_escapeChar {b : Char} (hb : IsBrace b) (a r : Text) :
    plainOf (a ++ (escapeChar b ++ r)) = plainOf a ++ b :: plainOf r := by
  rw [plainOf, pieces_append_escapeChar hb, Pieces.join_around]
  rfl

/-- A tag that stands for no brace does not show, behind a text that opens none. -/
theorem plainOf_append_tag {a m : Text} (ha : '{' ∉ a) (hm : IsTag m) (ho : m ≠ openMark)
    (hc : m ≠ closeMark) (r : Text) : plainOf (a ++ (m ++ r)) = plainOf (a ++ r) := by
  have hd : Deletion (a ++ m ++ (pieces r).head) (a ++ (pieces r).head) :=
    ⟨a, m, _, rfl, rfl, .inl hm⟩
  rw [plainOf, plainOf, pieces_append_of_not_mem ha, pieces_append_of_not_mem ha,
    hm.pieces_append ho hc]
  simp only [Pieces.prepend, Pieces.join, ← List.append_assoc]
  rw [Deletions.strip_eq (.single hd)]

end Termkit.Markup
