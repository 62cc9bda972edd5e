import Termkit.Markup.Strip
import Termkit.Proofs.Markup.Deletion

/-!
# Stripping reaches the normal form of deletion

A pass deletes matches and finds nothing just if there is none, so that the passes end in a text
without a match, reached by deletions: `strip_deletions`, `matchFree_strip`. By confluence every
order of deletions that ends without a match ends there (`Deletions.eq_strip`), whatever was
deleted before does not count (`Deletions.strip_eq`), and parts may be stripped first
(`strip_append_strip`).
-/

namespace Termkit.Markup

/-! ## One pattern -/

namespace Finds

variable {length? : Text → Option Nat} {P : Text → Prop}

/-- Of a match under way, the characters still to go are dropped; the rest comes by deletions. -/
theorem deletions (F : Finds length? P) (hP : ∀ m, P m → IsMatch m) (left : Nat) (t : Text) :
    Deletions (t.drop left) (deleteMatches length? left t) := by
  fun_induction deleteMatches length? left t with
  | case1 => simpa using Relation.ReflTransGen.refl
  | case2 _ _ _ ih => exact ih
  | case3 c r n hn ih =>
    obtain ⟨m, rest, e, hm, rfl⟩ := F.sound hn
    have hd : r.drop (m.length - 1) = rest := by
      have hl : m.length = m.length - 1 + 1 := by
        have := (hP m hm).two_le_length
        omega
      calc r.drop (m.length - 1) = (c :: r).drop m.length := by rw [hl]; rfl
        _ = rest := by rw [e, List.drop_left]
    rw [hd] at ih
    refine .head ?_ ih
    rw [List.drop_zero, e]
    exact (hP m hm).deletion rest
  | case4 c r _ ih => exact ih.cons c

/-- What keeps its length has no match. -/
theorem matchless_of_length_eq (F : Finds length? P) (hP : ∀ m, P m → IsMatch m) (left : Nat)
    (t : Text) (hl : (deleteMatches length? left t).length = (t.drop left).length) :
    ∀ x m y, t.drop left = x ++ m ++ y → ¬ P m := by
  fun_induction deleteMatches length? left t with
  | case1 =>
    intro x m y e hm
    have hlen := congrArg List.length e
    have := (hP m hm).two_le_length
    simp only [List.drop_nil, List.length_nil, List.length_append] at hlen
    omega
  | case2 _ _ _ ih => exact ih hl
  | case3 c r n hn ih =>
    have := (F.deletions hP (n - 1) r).length_le
    simp only [List.length_drop, List.drop_zero, List.length_cons] at this hl
    omega
  | case4 c r hn ih =>
    rintro (_ | ⟨d, x⟩) m y e hm
    · exact F.eq_none.1 hn m y e hm
    · obtain ⟨-, e⟩ := List.cons.inj e
      exact ih (by simpa using hl) x m y e hm

end Finds

/-! ## Passes -/

variable {t u : Text}

theorem deleteTags_deletions (t : Text) : Deletions t (deleteTags t) :=
  finds_tag.deletions (fun _ => .inl) 0 t

theorem deleteColors_deletions (t : Text) : Deletions t (deleteColors t) :=
  finds_color.deletions (fun _ => .inr) 0 t

/-- Where both patterns together leave the length, the first one did. -/
theorem length_deleteTags_of_length_eq (h : (deleteColors (deleteTags t)).length = t.length) :
    (deleteTags t).length = t.length := by
  have htags := (deleteTags_deletions t).length_le
  have hcolors := (deleteColors_deletions (deleteTags t)).length_le
  omega

theorem matchFree_of_stripPass?_eq_none (h : stripPass? t = none) : MatchFree t := by
  have hl : (deleteColors (deleteTags t)).length = t.length := by
    simp only [stripPass?] at h
    split at h
    · next e => exact e
    · cases h
  have ht : deleteTags t = t :=
    (deleteTags_deletions t).eq_of_length_eq (length_deleteTags_of_length_eq hl)
  rw [ht] at hl
  rintro x m y e (hm | hm)
  · exact finds_tag.matchless_of_length_eq (fun _ => .inl) 0 t (congrArg _ ht) x m y e hm
  · exact finds_color.matchless_of_length_eq (fun _ => .inr) 0 t hl x m y e hm

theorem stripPass?_eq_some (h : stripPass? t = some u) :
    Deletions t u ∧ u.length + 2 ≤ t.length := by
  have hd : Deletions t (deleteColors (deleteTags t)) :=
    (deleteTags_deletions t).trans (deleteColors_deletions (deleteTags t))
  simp only [stripPass?] at h
  split at h
  · cases h
  · next hl =>
    cases h
    exact ⟨hd, hd.eq_or_length_le.resolve_left fun e => hl (congrArg _ e)⟩

theorem stripWithin_deletions (passes : Nat) (t : Text) : Deletions t (stripWithin passes t) := by
  induction passes generalizing t with
  | zero => exact .refl
  | succ passes ih =>
    unfold stripWithin
    split
    · exact .refl
    · next u h => exact (stripPass?_eq_some h).1.trans (ih u)

/-- Each pass but the last takes two characters at least, so that half the length is enough. -/
theorem matchFree_stripWithin (passes : Nat) (t : Text) (h : t.length < 2 * passes) :
    MatchFree (stripWithin passes t) := by
  induction passes generalizing t with
  | zero => omega
  | succ passes ih =>
    unfold stripWithin
    split
    · next hp => exact matchFree_of_stripPass?_eq_none hp
    · next u hp =>
      have := (stripPass?_eq_some hp).2
      exact ih u (by omega)

/-! ## The normal form -/

theorem strip_deletions (t : Text) : Deletions t (strip t) := stripWithin_deletions _ t

theorem matchFree_strip (t : Text) : MatchFree (strip t) := matchFree_stripWithin _ t (by omega)

theorem Deletions.eq_strip (h : Deletions t u) (hu : MatchFree u) : u = strip t :=
  h.matchFree_unique (strip_deletions t) hu (matchFree_strip t)

/-- What was deleted before does not change the stripped text. -/
theorem Deletions.strip_eq (h : Deletions t u) : strip u = strip t :=
  Deletions.eq_strip (h.trans (strip_deletions u)) (matchFree_strip u)

theorem MatchFree.strip_eq (h : MatchFree t) : strip t = t :=
  (Deletions.eq_strip .refl h).symm

@[simp] theorem strip_strip (t : Text) : strip (strip t) = strip t := (matchFree_strip t).strip_eq

/-- A part of a text may be stripped first. -/
theorem strip_append_strip (a b c : Text) : strip (a ++ strip b ++ c) = strip (a ++ b ++ c) :=
  ((strip_deletions b).append a c).strip_eq

/-- Stripping gives the one text without a match that deletions reach, in whatever order they
come. -/
theorem strip_normalForm (t : Text) :
    Deletions t (strip t) ∧ MatchFree (strip t) ∧
      (∀ u, Deletions t u → MatchFree u → u = strip t) ∧
      strip (strip t) = strip t ∧
      ∀ a b c, strip (a ++ b ++ c) = strip (a ++ strip b ++ c) :=
  ⟨strip_deletions t, matchFree_strip t, fun _ h hu => h.eq_strip hu, strip_strip t,
    fun a b c => (strip_append_strip a b c).symm⟩

example : strip ['{', '{', 'a', '}', '}', '\x1b', '{', 'b', '}', '[', '1', 'm', 'x'] = ['x'] := by
  decide

end Termkit.Markup
