import Mathlib.Data.List.MinMax
import Termkit.Proofs.Markup.Pieces

/-!
# The laws of plain text

The plain text of finished markup is composed at brace sequences: each sequence, wherever it
stands, gives its brace between what is read before it and what is read behind it, and a text
without a sequence is stripped. These laws hold of one function only (`PlainLaws.eq_plainOf`). It
is also what the search for the nearest sequence computes, cut after cut, and that search ends
(`readRounds_eq`).
-/

namespace Termkit.Markup

def MarkFree (t : Text) : Prop := ¬ openMark <:+: t ∧ ¬ closeMark <:+: t

theorem markFree_iff {t : Text} : MarkFree t ↔ ∀ b, IsBrace b → ¬ escapeChar b <:+: t := by
  constructor
  · rintro h b (rfl | rfl)
    · exact h.1
    · exact h.2
  · exact fun h => ⟨h '{' (.inl rfl), h '}' (.inr rfl)⟩

/-- A text has a brace sequence, with something before it and something behind it, or it has
none. -/
theorem markFree_or_cut (t : Text) :
    MarkFree t ∨ ∃ a b r, IsBrace b ∧ t = a ++ (escapeChar b ++ r) := by
  by_cases h : MarkFree t
  · exact .inl h
  · rw [markFree_iff] at h
    push Not at h
    obtain ⟨b, hb, a, r, rfl⟩ := h
    exact .inr ⟨a, b, r, hb, by simp⟩

theorem IsBrace.six_le_length {b : Char} (h : IsBrace b) : 6 ≤ (escapeChar b).length := by
  rcases h with rfl | rfl <;> decide

/-- A text without brace sequences is one piece. -/
theorem MarkFree.pieces_eq {t : Text} (h : MarkFree t) : pieces t = ⟨t, []⟩ := by
  fun_induction pieces t with
  | case1 r => exact (h.1 ⟨[], r, rfl⟩).elim
  | case2 r => exact (h.2 ⟨[], r, rfl⟩).elim
  | case3 c r ho hc ih =>
    have hr : MarkFree r :=
      ⟨fun hi => h.1 (List.infix_cons hi), fun hi => h.2 (List.infix_cons hi)⟩
    rw [ih hr]
    rfl
  | case4 => rfl

theorem MarkFree.plainOf_eq {t : Text} (h : MarkFree t) : plainOf t = strip t := by
  rw [plainOf, h.pieces_eq]
  simp [Pieces.join]

/-! ## The laws -/

/-- What is read of a text follows from what is read of the parts around its brace sequences. -/
structure PlainLaws (P : Text → Text) : Prop where
  atOpenMark : ∀ a r, P (a ++ openMark ++ r) = P a ++ ['{'] ++ P r
  atCloseMark : ∀ a r, P (a ++ closeMark ++ r) = P a ++ ['}'] ++ P r
  between : ∀ t, MarkFree t → P t = strip t

theorem PlainLaws.append_escapeChar {P : Text → Text} (h : PlainLaws P) {b : Char}
    (hb : IsBrace b) (a r : Text) : P (a ++ (escapeChar b ++ r)) = P a ++ b :: P r := by
  rw [← List.append_assoc]
  rcases hb with rfl | rfl
  · exact (h.atOpenMark a r).trans (List.append_assoc _ _ _)
  · exact (h.atCloseMark a r).trans (List.append_assoc _ _ _)

theorem plainLaws_plainOf : PlainLaws plainOf where
  atOpenMark a r := by
    rw [List.append_assoc, List.append_assoc]
    exact plainOf_append_escapeChar (.inl rfl) a r
  atCloseMark a r := by
    rw [List.append_assoc, List.append_assoc]
    exact plainOf_append_escapeChar (.inr rfl) a r
  between _ h := h.plainOf_eq

/-- Whatever obeys the laws reads every text alike: a sequence parts it in two shorter ones. -/
theorem PlainLaws.eq_plainOf {P : Text → Text} (h : PlainLaws P) (t : Text) : P t = plainOf t := by
  induction hl : t.length using Nat.strongRecOn generalizing t with
  | ind n ih =>
    subst hl
    rcases markFree_or_cut t with hf | ⟨a, b, r, hb, rfl⟩
    · rw [h.between t hf, hf.plainOf_eq]
    · have := hb.six_le_length
      simp only [List.length_append] at ih
      rw [h.append_escapeChar hb, plainOf_append_escapeChar hb,
        ih _ (by omega) a rfl, ih _ (by omega) r rfl]

/-! ## The search for the nearest sequence -/

/-- The first sequence of each brace, with what stands before it and behind it. -/
def cuts (t : Text) : List (Char × Text × Text) :=
  ['{', '}'].filterMap fun b => (t.dropInfix? (escapeChar b)).map (b, ·)

/-- The nearer of them. -/
def nearestCut? (t : Text) : Option (Char × Text × Text) := (cuts t).argmin (·.2.1.length)

/-- Reads a text cut after cut in at most `rounds` rounds, behind what was read before. -/
def readRounds : (rounds : Nat) → (out rest : Text) → Option Text
  | 0, _, _ => none
  | rounds + 1, out, rest =>
    match nearestCut? rest with
    | none => some (out ++ strip rest)
    | some q => readRounds rounds (out ++ strip q.2.1 ++ [q.1]) q.2.2

variable {t a r : Text} {b : Char}

theorem mem_cuts : (b, a, r) ∈ cuts t ↔
    IsBrace b ∧ t.dropInfix? (escapeChar b) = some (a, r) := by
  simp only [cuts, List.mem_filterMap, List.mem_cons, List.not_mem_nil, or_false, IsBrace,
    Option.map_eq_some_iff, Prod.mk.injEq]
  constructor
  · rintro ⟨c, hc, _, hp, rfl, rfl⟩
    exact ⟨hc, hp⟩
  · rintro ⟨hb, hp⟩
    exact ⟨b, hb, _, hp, rfl, rfl⟩

/-- The text in front of a first sequence is the shortest with that sequence behind it. -/
theorem dropInfix?_eq_some (h : t.dropInfix? (escapeChar b) = some (a, r)) :
    t = a ++ (escapeChar b ++ r) ∧
      ∀ a' r', t = a' ++ (escapeChar b ++ r') → a.length ≤ a'.length := by
  obtain ⟨⟨m, ht, hm⟩, hmin⟩ := List.dropInfix?_eq_some_iff.1 h
  rw [beq_iff_eq.1 hm, List.append_assoc] at ht
  refine ⟨ht, fun a' r' h' => hmin a' (escapeChar b) r' ?_ BEq.rfl⟩
  rw [h', List.append_assoc]

/-- A sequence that stands in the text is found, the first one of its brace. -/
theorem exists_dropInfix? (h : t = a ++ (escapeChar b ++ r)) :
    ∃ p, t.dropInfix? (escapeChar b) = some p := by
  induction hl : a.length using Nat.strongRecOn generalizing a r with
  | ind n ih =>
    by_cases hs : ∃ a' r', t = a' ++ (escapeChar b ++ r') ∧ a'.length < n
    · obtain ⟨a', r', h', hlt⟩ := hs
      exact ih a'.length hlt h' rfl
    · refine ⟨(a, r), List.dropInfix?_eq_some_iff.2 ⟨⟨escapeChar b, ?_, BEq.rfl⟩, ?_⟩⟩
      · rw [h, List.append_assoc]
      · intro a' m r' h' hm
        rw [beq_iff_eq.1 hm, List.append_assoc] at h'
        exact Nat.le_of_not_lt fun hlt => hs ⟨a', r', h', hl ▸ hlt⟩

theorem nearestCut?_eq_none (h : nearestCut? t = none) : MarkFree t := by
  rcases markFree_or_cut t with hf | ⟨a, b, r, hb, ht⟩
  · exact hf
  · obtain ⟨p, hp⟩ := exists_dropInfix? ht
    rw [nearestCut?, List.argmin_eq_none] at h
    exact (List.not_mem_nil (h ▸ mem_cuts.2 ⟨hb, hp⟩)).elim

/-- No sequence begins before the nearest one. -/
theorem nearestCut?_eq_some (h : nearestCut? t = some (b, a, r)) :
    IsBrace b ∧ t = a ++ (escapeChar b ++ r) ∧ MarkFree a := by
  obtain ⟨hb, hcut⟩ := mem_cuts.1 (List.argmin_mem h)
  obtain ⟨ht, -⟩ := dropInfix?_eq_some hcut
  refine ⟨hb, ht, (markFree_or_cut a).resolve_right ?_⟩
  rintro ⟨a', b', r', hb', rfl⟩
  -- the first sequence of that brace would begin within `a`
  have ht' : t = a' ++ (escapeChar b' ++ (r' ++ (escapeChar b ++ r))) := by simp [ht]
  obtain ⟨⟨a'', r''⟩, hcut'⟩ := exists_dropInfix? ht'
  have hmin := (dropInfix?_eq_some hcut').2 _ _ ht'
  have hnear := List.le_of_mem_argmin (mem_cuts.2 ⟨hb', hcut'⟩) h
  have := hb'.six_le_length
  simp only [List.length_append] at hnear
  omega

/-- Each round but the last passes six characters at least, and the rounds that this allows are
enough. -/
theorem readRounds_eq (rounds : Nat) (out rest : Text) (h : rest.length < 6 * rounds) :
    readRounds rounds out rest = some (out ++ plainOf rest) := by
  induction rounds generalizing out rest with
  | zero => omega
  | succ rounds ih =>
    rw [readRounds]
    cases hcut : nearestCut? rest with
    | none => simp only [(nearestCut?_eq_none hcut).plainOf_eq]
    | some q =>
      obtain ⟨b, a, r⟩ := q
      obtain ⟨hb, rfl, ha⟩ := nearestCut?_eq_some hcut
      have := hb.six_le_length
      simp only [List.length_append] at h
      simp only [ih _ r (by omega), plainOf_append_escapeChar hb, ha.plainOf_eq, List.append_assoc,
        List.cons_append, List.nil_append]

/-- The plain text of finished markup obeys the laws, nothing else does, and the search for the
nearest sequence ends with it on every text. -/
theorem plain_raw_laws :
    PlainLaws (fun t => (empty.raw t).plain) ∧
      (∀ P, PlainLaws P → ∀ t, P t = (empty.raw t).plain) ∧
      ∀ t, readRounds (t.length / 6 + 1) [] t = some (empty.raw t).plain :=
  ⟨plainLaws_plainOf, fun _ h => h.eq_plainOf, fun t => readRounds_eq _ [] t (by omega)⟩

end Termkit.Markup
