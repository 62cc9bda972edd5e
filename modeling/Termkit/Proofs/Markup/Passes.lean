import Termkit.Proofs.Markup.Stripping
import Termkit.Proofs.Markup.VisibleTags

/-!
# The passes of stripping

A pass replaces one pattern and then the other, and each replacement says whether it found a match.
The two answers together tell whether the text has a match at all: a replacement without a match
gives the text back, and after one with a match it does not count what the other finds
(`stripPass?_eq`). So the pass that finds nothing comes exactly at the normal form
(`stripPass?_eq_none_iff`), and any other takes two characters at least. `StripsIn calls t u` is the
loop without a bound: passes follow one another until one finds nothing. Its calls are at most one
more than half the length (`StripsIn.length_add`), it ends from every text, and it ends at the
stripped one (`strip_ends`).
-/

namespace Termkit.Markup

/-! ## One replacement -/

/-- The text without the matches of a pattern, or `none` if it has none. -/
def replace? (length? : Text → Option Nat) (t : Text) : Option Text :=
  if matchesFrom length? 0 t = [] then none else some (deleteMatches length? 0 t)

namespace Finds

variable {length? : Text → Option Nat} {P : Text → Prop}

/-- Nothing is deleted just if there is no match. -/
theorem matchesFrom_eq_nil (F : Finds length? P) (hP : ∀ m, P m → IsMatch m) (left : Nat)
    (t : Text) : matchesFrom length? left t = [] ↔
      (deleteMatches length? left t).length = (t.drop left).length := by
  fun_induction deleteMatches length? left t with
  | case1 => simp [matchesFrom]
  | case2 left c r ih => exact ih
  | case3 c r n hn ih =>
    have := (F.deletions hP (n - 1) r).length_le
    simp only [matchesFrom, hn, List.length_drop, List.drop_zero, List.length_cons] at this ⊢
    constructor
    · intro h
      cases h
    · omega
  | case4 c r hn ih => simpa [matchesFrom, hn] using ih

/-- A replacement finds a match just if it makes the text shorter. -/
theorem replace?_eq (F : Finds length? P) (hP : ∀ m, P m → IsMatch m) (t : Text) :
    replace? length? t =
      if (deleteMatches length? 0 t).length = t.length then none
      else some (deleteMatches length? 0 t) := by
  have h : matchesFrom length? 0 t = [] ↔ (deleteMatches length? 0 t).length = t.length :=
    F.matchesFrom_eq_nil hP 0 t
  simp only [replace?, h]

theorem getD_replace? (F : Finds length? P) (hP : ∀ m, P m → IsMatch m) (t : Text) :
    (replace? length? t).getD t = deleteMatches length? 0 t := by
  have hd : Deletions t (deleteMatches length? 0 t) := F.deletions hP 0 t
  rw [F.replace?_eq hP]
  split
  · next h => exact (hd.eq_of_length_eq h).symm
  · rfl

end Finds

/-! ## One pass -/

/-- Two replacements one after the other. The text has changed if the first one changed it,
whatever the second one finds then. -/
def replaceBoth? (t : Text) : Option Text :=
  (replace? tagLength? t).elim (replace? colorLength? t) fun u =>
    some ((replace? colorLength? u).getD u)

/-- A pass reports what its two replacements report. -/
theorem stripPass?_eq (t : Text) : stripPass? t = replaceBoth? t := by
  have htags : replace? tagLength? t =
      if (deleteTags t).length = t.length then none else some (deleteTags t) :=
    finds_tag.replace?_eq (fun _ => .inl) t
  rw [replaceBoth?, htags]
  unfold stripPass?
  by_cases h : (deleteTags t).length = t.length
  · have ht : deleteTags t = t := (deleteTags_deletions t).eq_of_length_eq h
    rw [if_pos h, ht]
    exact (finds_color.replace?_eq (fun _ => .inr) t).symm
  · -- the second replacement may find nothing, but the text is shorter already
    have hlt : (deleteColors (deleteTags t)).length ≠ t.length := fun e =>
      h (length_deleteTags_of_length_eq e)
    rw [if_neg h]
    have hu : (replace? colorLength? (deleteTags t)).getD (deleteTags t) =
        deleteColors (deleteTags t) := finds_color.getD_replace? (fun _ => .inr) (deleteTags t)
    simp only [Option.elim_some, hu, if_neg hlt]

/-- A pass finds nothing just if there is no match. -/
theorem stripPass?_eq_none_iff {t : Text} : stripPass? t = none ↔ MatchFree t := by
  refine ⟨matchFree_of_stripPass?_eq_none, fun hf => ?_⟩
  cases h : stripPass? t with
  | none => rfl
  | some u =>
    obtain ⟨hd, hl⟩ := stripPass?_eq_some h
    rw [hf.eq_of_deletions hd] at hl
    omega

/-! ## The loop -/

/-- Passes from `t` on, each on what the one before left, come to `u` by the last of `calls`
passes, which is the first that finds nothing. -/
inductive StripsIn : (calls : Nat) → Text → Text → Prop where
  | last {t : Text} : stripPass? t = none → StripsIn 1 t t
  | pass {n : Nat} {t u v : Text} : stripPass? t = some u → StripsIn n u v → StripsIn (n + 1) t v

namespace StripsIn

variable {m n : Nat} {t u v : Text}

/-- Each pass but the last takes two characters. -/
theorem length_add (h : StripsIn n t u) : u.length + 2 * n ≤ t.length + 2 := by
  induction h with
  | last => omega
  | pass hp _ ih =>
    have := (stripPass?_eq_some hp).2
    omega

theorem unique (h : StripsIn m t u) (k : StripsIn n t v) : m = n ∧ u = v := by
  induction h generalizing n with
  | last hp =>
    cases k with
    | last _ => exact ⟨rfl, rfl⟩
    | pass hq _ =>
      rw [hp] at hq
      cases hq
  | pass hp _ ih =>
    cases k with
    | last hq =>
      rw [hp] at hq
      cases hq
    | pass hq k =>
      rw [hp] at hq
      cases hq
      obtain ⟨rfl, rfl⟩ := ih k
      exact ⟨rfl, rfl⟩

end StripsIn

/-- Where the bound on the passes is enough for the length, the loop ends as the bounded one. -/
theorem exists_stripsIn_stripWithin (passes : Nat) (t : Text) (h : t.length < 2 * passes) :
    ∃ n, StripsIn n t (stripWithin passes t) := by
  induction passes generalizing t with
  | zero => omega
  | succ passes ih =>
    unfold stripWithin
    split
    · next hp => exact ⟨1, .last hp⟩
    · next u hp =>
      have := (stripPass?_eq_some hp).2
      obtain ⟨n, hn⟩ := ih u (by omega)
      exact ⟨n + 1, .pass hp hn⟩

/-- A pass reports what its two replacements report, and finds nothing just if there is no match;
else it leaves a subsequence that is shorter by two characters at least. So the loop ends, in the
stripped text and nowhere else, and its calls are at most one more than half the length. -/
theorem strip_ends (t : Text) :
    stripPass? t = replaceBoth? t ∧
      (stripPass? t = none ↔ MatchFree t) ∧
      (∀ u, stripPass? t = some u → u.Sublist t ∧ u.length + 2 ≤ t.length) ∧
      ∃ calls, calls ≤ t.length / 2 + 1 ∧
        ∀ n u, StripsIn n t u ↔ n = calls ∧ u = strip t := by
  refine ⟨stripPass?_eq t, stripPass?_eq_none_iff, fun u hu => ?_, ?_⟩
  · obtain ⟨hd, hl⟩ := stripPass?_eq_some hu
    exact ⟨hd.sublist, hl⟩
  · obtain ⟨calls, hs⟩ : ∃ calls, StripsIn calls t (strip t) :=
      exists_stripsIn_stripWithin (t.length / 2 + 1) t (by omega)
    have hbound := hs.length_add
    refine ⟨calls, by omega, fun n u => ⟨fun h => h.unique hs, ?_⟩⟩
    rintro ⟨rfl, rfl⟩
    exact hs

/-- The bound is met where each pass uncovers just one match. -/
example : StripsIn 3 ['{', '{', '}', '}'] [] := .pass rfl (.pass rfl (.last rfl))

end Termkit.Markup
