import Mathlib.Data.List.Basic
import Termkit.Proofs.Markup.Pieces

/-!
# Escaped text and what it is read back as

Escaped text is read back as the text that it was made from, and what stands beside it is read as
if it stood alone: no brace sequence begins on one side of the seam and ends on the other
(`Apart`, `unescape_beside_escape`). The escaped texts are the rows of single characters and brace
sequences, and these are the texts that come back when they are read and escaped again
(`escape_unescape_eq_iff`).
-/

namespace Termkit.Markup

variable {a b s t v w x y : Text} {c : Char}

/-! ## Reading character by character -/

theorem IsBrace.unescape_append (h : IsBrace c) (r : Text) :
    unescape (escapeChar c ++ r) = c :: unescape r := by
  rw [unescape, h.pieces_append]
  rfl

theorem unescape_cons_of_ne (h : c ≠ '{') (r : Text) : unescape (c :: r) = c :: unescape r := by
  rw [unescape, pieces_cons_of_ne h]
  rfl

/-- A character that begins no brace sequence is read as itself. -/
theorem unescape_cons {r : Text} (h : ∀ b, IsBrace b → ∀ rest, c :: r ≠ escapeChar b ++ rest) :
    unescape (c :: r) = c :: unescape r := by
  rw [unescape, pieces_cons h]
  rfl

/-! ## The halves of a brace sequence -/

section

variable (h : IsBrace c) (e : escapeChar c = v ++ w)

include h e

theorem IsBrace.open_mem (hv : v ≠ []) : '{' ∈ v := by
  have hhead : (escapeChar c).head? = some '{' := by rcases h with rfl | rfl <;> rfl
  rw [e, List.head?_append_of_ne_nil v hv] at hhead
  exact List.mem_of_head? hhead

theorem IsBrace.close_mem (hw : w ≠ []) : '}' ∈ w := by
  have hlast : (escapeChar c).getLast? = some '}' := by rcases h with rfl | rfl <;> rfl
  rw [e, List.getLast?_append_of_ne_nil v hw] at hlast
  exact List.mem_of_getLast? hlast

/-- Where a brace sequence is cut in two, only the first part has the opening brace, and only the
second one has the closing brace. -/
theorem IsBrace.halves (hv : v ≠ []) (hw : w ≠ []) :
    ('{' ∈ v ∧ '}' ∉ v) ∧ '}' ∈ w ∧ '{' ∉ w := by
  have ho := h.open_mem e hv
  have hc := h.close_mem e hw
  have hcount : (escapeChar c).count '{' = 1 ∧ (escapeChar c).count '}' = 1 := by
    rcases h with rfl | rfl <;> decide
  rw [e, List.count_append, List.count_append] at hcount
  have := List.count_pos_iff.2 ho
  have := List.count_pos_iff.2 hc
  exact ⟨⟨ho, List.count_eq_zero.1 (by omega)⟩, hc, List.count_eq_zero.1 (by omega)⟩

end

/-! ## Seams -/

/-- Each brace sequence of `a ++ b` lies in `a` or in `b`. -/
def Apart (a b : Text) : Prop :=
  ∀ x c y, IsBrace c → a ++ b = x ++ escapeChar c ++ y →
    x ++ escapeChar c <+: a ∨ escapeChar c ++ y <:+ b

theorem Apart.of_append (h : Apart (a ++ b) s) : Apart b s := by
  intro x c y hc e
  have e' : a ++ b ++ s = a ++ x ++ escapeChar c ++ y := by simp [e]
  refine (h (a ++ x) c y hc e').imp_left fun hp => ?_
  rwa [List.append_assoc, List.prefix_append_right_inj] at hp

/-- What stands at the front of both sides together stands at the front of the first. -/
theorem Apart.ne_escapeChar_append {d : Char} (h : Apart (d :: a) b)
    (ha : ∀ c, IsBrace c → ∀ r, d :: a ≠ escapeChar c ++ r) (hc : IsBrace c) (r : Text) :
    d :: (a ++ b) ≠ escapeChar c ++ r := by
  intro e
  rcases h [] c r hc e with ⟨y, hy⟩ | hs
  · exact ha c hc y hy.symm
  · have := hs.length_le
    rw [← e, List.length_cons, List.length_append] at this
    omega

/-- Texts are read apart if no sequence stands across the seam. -/
theorem Apart.unescape_append (h : Apart a b) : unescape (a ++ b) = unescape a ++ unescape b := by
  fun_induction pieces a with
  | case1 a ih =>
    have hb : IsBrace '{' := .inl rfl
    change unescape (escapeChar '{' ++ (a ++ b)) = unescape (escapeChar '{' ++ a) ++ _
    rw [hb.unescape_append, hb.unescape_append, ih (Apart.of_append (a := openMark) h),
      List.cons_append]
  | case2 a ih =>
    have hb : IsBrace '}' := .inr rfl
    change unescape (escapeChar '}' ++ (a ++ b)) = unescape (escapeChar '}' ++ a) ++ _
    rw [hb.unescape_append, hb.unescape_append, ih (Apart.of_append (a := closeMark) h),
      List.cons_append]
  | case3 d a ho hc ih =>
    have hfront : ∀ c, IsBrace c → ∀ r, d :: a ≠ escapeChar c ++ r := by
      rintro c (rfl | rfl) r e
      · obtain ⟨rfl, ht⟩ := List.cons.inj e
        exact ho r rfl ht
      · obtain ⟨rfl, ht⟩ := List.cons.inj e
        exact hc r rfl ht
    rw [List.cons_append, unescape_cons fun c => h.ne_escapeChar_append hfront,
      unescape_cons hfront, ih (Apart.of_append (a := [d]) h), List.cons_append]
  | case4 => rfl

/-- A sequence across the seam would have its opening brace on one side only and its closing brace
on the other only. -/
theorem apart_of_halves (h : ∀ x v w y, a = x ++ v → b = w ++ y →
    ('{' ∈ v ∧ '}' ∉ v) → ¬ ('}' ∈ w ∧ '{' ∉ w)) : Apart a b := by
  intro x c y hc e
  rcases List.append_eq_append_iff.1 e with ⟨w, hw, rfl⟩ | ⟨w, rfl, -⟩
  · rcases List.append_eq_append_iff.1 hw with ⟨v, rfl, hv⟩ | ⟨v, rfl, rfl⟩
    · by_cases hv0 : v = []
      · exact .inr ⟨[], by rw [hv, hv0]; rfl⟩
      · by_cases hw0 : w = []
        · exact .inl ⟨[], by rw [hv, hw0]; simp⟩
        · have := hc.halves hv hv0 hw0
          exact (h x v w y rfl rfl this.1 this.2).elim
    · exact .inr ⟨v, by simp⟩
  · exact .inl ⟨w, rfl⟩

/-! ## Parts of escaped text -/

/-- No closing brace stands in the first part of an escaped character without an opening one. -/
theorem escapeChar_open_mem (e : escapeChar c = v ++ w) (hv : '}' ∈ v) : '{' ∈ v := by
  by_cases h : IsBrace c
  · exact h.open_mem e (List.ne_nil_of_mem hv)
  · rw [escapeChar_of_not_isBrace h] at e
    have hc : '}' ∈ [c] := e ▸ List.mem_append_left w hv
    exact (h (.inr (List.mem_singleton.1 hc).symm)).elim

theorem escapeChar_close_mem (e : escapeChar c = v ++ w) (hw : '{' ∈ w) : '}' ∈ w := by
  by_cases h : IsBrace c
  · exact h.close_mem e (List.ne_nil_of_mem hw)
  · rw [escapeChar_of_not_isBrace h] at e
    have hc : '{' ∈ [c] := e ▸ List.mem_append_right v hw
    exact (h (.inl (List.mem_singleton.1 hc).symm)).elim

theorem escape_open_mem (h : escape t = v ++ w) (hv : '}' ∈ v) : '{' ∈ v := by
  induction t generalizing v with
  | nil =>
    obtain ⟨rfl, -⟩ := List.append_eq_nil_iff.1 h.symm
    cases hv
  | cons c t ih =>
    rw [escape_cons] at h
    rcases List.append_eq_append_iff.1 h with ⟨v', rfl, h⟩ | ⟨w', hc, -⟩
    · rw [List.append_assoc] at h
      rcases List.mem_append.1 hv with hv | hv
      · exact List.mem_append_left v' (escapeChar_open_mem (List.append_nil _).symm hv)
      · exact List.mem_append_right _ (ih (List.append_cancel_left h) hv)
    · exact escapeChar_open_mem hc hv

theorem escape_close_mem (h : escape t = v ++ w) (hw : '{' ∈ w) : '}' ∈ w := by
  induction t generalizing v w with
  | nil =>
    obtain ⟨-, rfl⟩ := List.append_eq_nil_iff.1 h.symm
    cases hw
  | cons c t ih =>
    rw [escape_cons] at h
    rcases List.append_eq_append_iff.1 h with ⟨v', -, h⟩ | ⟨w', hc, rfl⟩
    · exact ih h hw
    · rcases List.mem_append.1 hw with hw | hw
      · exact List.mem_append_left _ (escapeChar_close_mem hc hw)
      · exact List.mem_append_right _ (ih (v := []) rfl hw)

theorem apart_escape_left (t s : Text) : Apart (escape t) s :=
  apart_of_halves fun _ _ _ _ ht _ hv _ => hv.2 (escape_close_mem ht hv.1)

theorem apart_escape_right (s t : Text) : Apart s (escape t) :=
  apart_of_halves fun _ _ _ _ _ ht _ hw => hw.2 (escape_open_mem ht hw.1)

/-! ## Reading escaped text back -/

theorem unescape_escape (t : Text) : unescape (escape t) = t := by
  induction t with
  | nil => rfl
  | cons c t ih =>
    rw [escape_cons]
    by_cases h : IsBrace c
    · rw [h.unescape_append, ih]
    · rw [escapeChar_of_not_isBrace h]
      exact (unescape_cons_of_ne (fun e => h (.inl e)) _).trans (congrArg _ ih)

theorem escape_injective : Function.Injective escape :=
  Function.LeftInverse.injective unescape_escape

/-- Escaped text is read back whatever stands in front of it or behind it, and what stands there is
read as if it stood alone: no sequence lies across either seam. -/
theorem unescape_beside_escape (s t : Text) :
    unescape (escape t ++ s) = t ++ unescape s ∧ unescape (s ++ escape t) = unescape s ++ t ∧
      unescape (escape t) = t ∧ Function.Injective escape ∧
      Apart (escape t) s ∧ Apart s (escape t) := by
  have hl := apart_escape_left t s
  have hr := apart_escape_right s t
  refine ⟨?_, ?_, unescape_escape t, escape_injective, hl, hr⟩
  · rw [hl.unescape_append, unescape_escape]
  · rw [hr.unescape_append, unescape_escape]

/-- The halves of a sequence on both sides of text that spells sequences. -/
example : unescape (['{', 'o', 'p', 'e'] ++ escape ['n', '}', '{', 'o', 'p', 'e', 'n', '}'] ++
    ['n', '}']) = ['{', 'o', 'p', 'e', 'n', '}', '{', 'o', 'p', 'e', 'n', '}', 'n', '}'] := by
  decide

/-! ## The escaped texts -/

/-- What escaped text is made of: a character that is no brace, or a brace sequence. -/
def IsEscapedPart (u : Text) : Prop := (∃ c, ¬ IsBrace c ∧ u = [c]) ∨ u = openMark ∨ u = closeMark

def IsEscaped (s : Text) : Prop :=
  ∃ parts : List Text, parts.flatten = s ∧ ∀ u ∈ parts, IsEscapedPart u

theorem isEscapedPart_escapeChar (c : Char) : IsEscapedPart (escapeChar c) := by
  by_cases h : IsBrace c
  · rcases h with rfl | rfl
    · exact .inr (.inl rfl)
    · exact .inr (.inr rfl)
  · exact .inl ⟨c, h, escapeChar_of_not_isBrace h⟩

theorem IsEscapedPart.exists_escapeChar {u : Text} (h : IsEscapedPart u) :
    ∃ c, escapeChar c = u := by
  rcases h with ⟨c, hc, rfl⟩ | rfl | rfl
  · exact ⟨c, escapeChar_of_not_isBrace hc⟩
  · exact ⟨'{', rfl⟩
  · exact ⟨'}', rfl⟩

theorem isEscaped_escape (t : Text) : IsEscaped (escape t) :=
  ⟨t.map escapeChar, rfl, List.forall_mem_map.2 fun c _ => isEscapedPart_escapeChar c⟩

theorem IsEscaped.exists_escape (h : IsEscaped s) : ∃ t, escape t = s := by
  obtain ⟨parts, rfl, hu⟩ := h
  induction parts with
  | nil => exact ⟨[], rfl⟩
  | cons u parts ih =>
    obtain ⟨hu, hus⟩ := List.forall_mem_cons.1 hu
    obtain ⟨c, rfl⟩ := hu.exists_escapeChar
    obtain ⟨t, ht⟩ := ih hus
    exact ⟨c :: t, by rw [escape_cons, ht, List.flatten_cons]⟩

theorem isEscaped_iff : IsEscaped s ↔ ∃ t, escape t = s := by
  refine ⟨IsEscaped.exists_escape, ?_⟩
  rintro ⟨t, rfl⟩
  exact isEscaped_escape t

/-- A brace sequence that begins at place `k` of the text covers place `i`. -/
def Covers (s : Text) (k i : Nat) : Prop :=
  ∃ x c y, IsBrace c ∧ s = x ++ escapeChar c ++ y ∧ x.length = k ∧
    k ≤ i ∧ i < k + (escapeChar c).length

variable {i j k : Nat}

theorem Covers.append_left (h : Covers s k i) (a : Text) :
    Covers (a ++ s) (a.length + k) (a.length + i) := by
  obtain ⟨x, c, y, hc, rfl, rfl, hk, hi⟩ := h
  exact ⟨a ++ x, c, y, hc, by simp, List.length_append, by omega, by omega⟩

/-- Two sequences that cover a place begin at the same place. -/
theorem Covers.unique (h : Covers s j i) (h' : Covers s k i) : j = k := by
  obtain ⟨x, c, y, hc, e, rfl, hj, hji⟩ := h
  obtain ⟨x', c', y', hc', e', rfl, hk, hki⟩ := h'
  rcases IsMatch.same_or_apart (.inl hc.isTag) (.inl hc'.isTag) (e.symm.trans e') with
    ⟨rfl, -⟩ | ⟨b, rfl, -⟩ | ⟨b, rfl, -⟩
  · rfl
  · simp only [List.length_append] at hk
    omega
  · simp only [List.length_append] at hj
    omega

theorem exists_covers_escape (hb : IsBrace c) (h : (escape t)[i]? = some c) :
    ∃ k, Covers (escape t) k i := by
  induction t generalizing i with
  | nil => cases h
  | cons d t ih =>
    rw [escape_cons] at h ⊢
    by_cases hi : i < (escapeChar d).length
    · rw [List.getElem?_append_left hi] at h
      by_cases hd : IsBrace d
      · exact ⟨0, [], d, escape t, hd, rfl, rfl, Nat.zero_le i, by omega⟩
      · rw [escapeChar_of_not_isBrace hd] at h
        have hc : c ∈ [d] := List.mem_of_getElem? h
        rw [List.mem_singleton.1 hc] at hb
        exact (hd hb).elim
    · obtain ⟨i, rfl⟩ := Nat.exists_eq_add_of_le (Nat.le_of_not_lt hi)
      rw [List.getElem?_append_right (Nat.le_add_right _ _), Nat.add_sub_cancel_left] at h
      obtain ⟨k, hk⟩ := ih h
      exact ⟨_, hk.append_left (escapeChar d)⟩

/-- A text comes back when it is read and escaped again just if it is a row of parts, and these are
the escaped texts. Each brace in such a text is covered by one brace sequence. -/
theorem escape_unescape_eq_iff (s : Text) :
    (escape (unescape s) = s ↔ IsEscaped s) ∧ (IsEscaped s ↔ ∃ t, escape t = s) ∧
      (IsEscaped s → ∀ i c, s[i]? = some c → IsBrace c → ∃! k, Covers s k i) := by
  refine ⟨⟨fun h => isEscaped_iff.2 ⟨_, h⟩, fun h => ?_⟩, isEscaped_iff, fun h i c hi hc => ?_⟩
  · obtain ⟨t, rfl⟩ := h.exists_escape
    rw [unescape_escape]
  · obtain ⟨t, rfl⟩ := h.exists_escape
    obtain ⟨k, hk⟩ := exists_covers_escape hc hi
    exact ⟨k, hk, fun _ hj => hj.unique hk⟩

end Termkit.Markup
