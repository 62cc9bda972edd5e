import Termkit.Proofs.Markup.Pieces
import Termkit.Proofs.Markup.VisibleTags

/-!
# The plain text of built markup

`Shows m p` says that the markup `m` is made of the characters of `p`, braces as sequences, and of
tags anywhere between them. What a run builds is such a pair (`shows_build`). Such markup is read
back as its text, as long as no colour sequence stands in the text, which stripping would take for
markup (`Shows.plainOf_eq`): the text grown beside the markup and the text read from the finished
markup are the same (`plain_raw_build`).
-/

namespace Termkit.Markup

/-! ## Texts without colour sequences -/

def ColorFree (t : Text) : Prop := ∀ x m y, t = x ++ m ++ y → ¬ IsColor m

theorem colorFree_of_deleteColors_eq {t : Text} (h : deleteColors t = t) : ColorFree t :=
  finds_color.matchless_of_length_eq (fun _ => .inr) 0 t (congrArg _ h)

theorem ColorFree.left {a b : Text} (h : ColorFree (a ++ b)) : ColorFree a := by
  rintro x m y rfl
  exact h x m (y ++ b) (by simp)

theorem ColorFree.right {a b : Text} (h : ColorFree (a ++ b)) : ColorFree b := by
  rintro x m y rfl
  exact h (a ++ x) m y (by simp)

/-- Without an opening brace there is no tag. -/
theorem ColorFree.matchFree {t : Text} (h : ColorFree t) (hb : '{' ∉ t) : MatchFree t := by
  rintro x m y rfl (hm | hm)
  · refine hb ?_
    cases hm <;> simp [openTag, closeTag]
  · exact h x m y rfl hm

theorem ColorFree.plainOf_eq {t : Text} (h : ColorFree t) (hb : '{' ∉ t) : plainOf t = t := by
  rw [plainOf_of_not_mem hb, (h.matchFree hb).strip_eq]

/-! ## Markup for a text -/

/-- The markup is the escaped text with tags in it. -/
inductive Shows : Text → Text → Prop where
  | nil : Shows [] []
  | char {m p : Text} (c : Char) : Shows m p → Shows (escapeChar c ++ m) (c :: p)
  | tag {t m p : Text} : IsVisibleTag t → Shows m p → Shows (t ++ m) p

theorem Shows.append {m p m' p' : Text} (h : Shows m p) (h' : Shows m' p') :
    Shows (m ++ m') (p ++ p') := by
  induction h with
  | nil => exact h'
  | char c _ ih =>
    rw [List.append_assoc, List.cons_append]
    exact .char c ih
  | tag ht _ ih =>
    rw [List.append_assoc]
    exact .tag ht ih

theorem Shows.flatMap {α : Type} {f g : α → Text} {l : List α} (h : ∀ x ∈ l, Shows (f x) (g x)) :
    Shows (l.flatMap f) (l.flatMap g) := by
  induction l with
  | nil => exact .nil
  | cons x rest ih =>
    obtain ⟨hx, hrest⟩ := List.forall_mem_cons.1 h
    exact hx.append (ih hrest)

theorem shows_escape (t : Text) : Shows (escape t) t := by
  induction t with
  | nil => exact .nil
  | cons c t ih =>
    rw [escape_cons]
    exact .char c ih

/-- A row of tags shows nothing. -/
theorem shows_row {f : Text → Text} {names : List Text}
    (h : ∀ name ∈ names, IsVisibleTag (f name)) : Shows (names.flatMap f) [] := by
  induction names with
  | nil => exact .nil
  | cons name rest ih =>
    obtain ⟨hn, hrest⟩ := List.forall_mem_cons.1 h
    exact .tag hn (ih hrest)

theorem Step.shows {st : Step} (h : ∀ s ∈ st.style?, HasPlainNames s) :
    Shows st.markup st.plain := by
  cases st with
  | text t => exact shows_escape t
  | styled s t =>
    have ho : Shows ((tagNames s).reverse.flatMap openTag) [] :=
      shows_row fun name hn => (h s rfl name (List.mem_reverse.1 hn)).openTag
    have hc : Shows ((tagNames s).flatMap closeTag) [] :=
      shows_row fun name hn => (h s rfl name hn).closeTag
    rw [markup_styled]
    simpa [Step.plain] using (ho.append (shows_escape t)).append hc

theorem shows_build {steps : List Step} (h : ∀ s ∈ steps.filterMap Step.style?, HasPlainNames s) :
    Shows (build steps).markup (build steps).plain := by
  rw [markup_build, plain_build]
  exact .flatMap fun st hst => Step.shows fun s hs => h s (List.mem_filterMap.2 ⟨st, hst, hs⟩)

/-! ## Reading it back -/

/-- Behind the characters `a` of a piece that was begun, markup is read back as the text that it
was made for: a character lengthens the piece, a brace ends it, and a tag is deleted from it. -/
theorem Shows.plainOf_append {m p : Text} (h : Shows m p) {a : Text} (ha : '{' ∉ a)
    (hc : ColorFree (a ++ p)) : plainOf (a ++ m) = a ++ p := by
  induction h generalizing a with
  | nil => rw [List.append_nil] at hc ⊢; exact hc.plainOf_eq ha
  | @char m p c _ ih =>
    by_cases hb : IsBrace c
    · have hp : ColorFree p := ColorFree.right (a := [c]) hc.right
      rw [plainOf_append_escapeChar hb, hc.left.plainOf_eq ha]
      rw [show plainOf m = p from ih (a := []) (by simp) hp]
    · have ha' : '{' ∉ a ++ [c] := by
        simp only [List.mem_append, List.mem_singleton, not_or]
        exact ⟨ha, fun e => hb (.inl e.symm)⟩
      rw [escapeChar_of_not_isBrace hb]
      simpa using ih ha' (by simpa using hc)
  | tag ht _ ih => rw [plainOf_append_tag ha ht.1 ht.ne_openMark ht.ne_closeMark, ih ha hc]

theorem Shows.plainOf_eq {m p : Text} (h : Shows m p) (hc : ColorFree p) : plainOf m = p :=
  h.plainOf_append (a := []) (by simp) hc

/-- The plain text of a run, grown step by step, is what is read from its finished markup. -/
theorem plain_raw_build (steps : List Step)
    (hn : ∀ s ∈ steps.filterMap Step.style?, HasPlainNames s)
    (hc : ColorFree (build steps).plain) :
    (empty.raw (build steps).markup).plain = (build steps).plain :=
  (shows_build hn).plainOf_eq hc

/-- Texts that hold a brace sequence, halves of a tag, and halves of a colour sequence on both
sides of a brace. -/
theorem plain_raw_build_halves :
    let s : Style := ⟨[(['b'], .flag true), (['f', 'g'], .color ['r', 'e', 'd'])]⟩
    let steps : List Step := [.text ['{', 'o', 'p', 'e', 'n', '}', '\x1b'],
      .styled s ['}', '[', '1', 'm', '{', '/'], .styled s ['b', '}', '{']]
    (∀ s ∈ steps.filterMap Step.style?, HasPlainNames s) ∧ ColorFree (build steps).plain ∧
      (empty.raw (build steps).markup).plain =
        ['{', 'o', 'p', 'e', 'n', '}', '\x1b', '}', '[', '1', 'm', '{', '/', 'b', '}', '{'] := by
  intro s steps
  have hn : ∀ s ∈ steps.filterMap Step.style?, HasPlainNames s := by decide
  have hc : ColorFree (build steps).plain := colorFree_of_deleteColors_eq (by decide)
  exact ⟨hn, hc, plain_raw_build steps hn hc⟩

end Termkit.Markup
