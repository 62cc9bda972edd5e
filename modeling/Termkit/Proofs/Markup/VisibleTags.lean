import Mathlib.Data.List.Basic
import Termkit.Proofs.Markup.Building
import Termkit.Proofs.Markup.Pattern

/-!
# The tags of built markup

`tagsIn` lists the tags of a text from left to right, and `visibleTags` those that do not stand
for a literal brace. Where every brace that opens belongs to a whole tag (`Whole`), the list is
read piece by piece (`tagsIn_append`): escaped texts are such pieces, and so are the tags of a
style. Hence the texts of a run add no tag and break none, and the tags nest
(`visibleTags_build`).
-/

namespace Termkit.Markup

/-! ## The tags of a text -/

/-- The matches of a pattern from left to right, those that do not overlap an earlier one. Of a
match under way, `left` characters are still to go. -/
def matchesFrom (length? : Text → Option Nat) : (left : Nat) → Text → List Text
  | _, [] => []
  | left + 1, _ :: r => matchesFrom length? left r
  | 0, c :: r =>
    match length? (c :: r) with
    | some n => (c :: r).take n :: matchesFrom length? (n - 1) r
    | none => matchesFrom length? 0 r

def tagsIn (t : Text) : List Text := matchesFrom tagLength? 0 t

theorem matchesFrom_eq_drop (length? : Text → Option Nat) (left : Nat) (t : Text) :
    matchesFrom length? left t = matchesFrom length? 0 (t.drop left) := by
  induction t generalizing left with
  | nil => simp [matchesFrom]
  | cons c r ih =>
    cases left with
    | zero => rfl
    | succ left => simp [matchesFrom, ih left]

@[simp] theorem tagsIn_nil : tagsIn [] = [] := rfl

theorem tagsIn_cons {c : Char} (hc : c ≠ '{') (r : Text) : tagsIn (c :: r) = tagsIn r := by
  have h : tagLength? (c :: r) = none := by
    refine finds_tag.eq_none.2 fun m rest e hm => hc ?_
    cases hm <;> exact (List.cons.inj e).1
  simp [tagsIn, matchesFrom, h]

theorem IsTag.tagsIn_append {m : Text} (hm : IsTag m) (r : Text) :
    tagsIn (m ++ r) = m :: tagsIn r := by
  obtain ⟨c, body, rfl, -⟩ := IsMatch.uncons (.inl hm)
  have h : tagLength? (c :: (body ++ r)) = some (body.length + 1) := finds_tag.complete r hm
  simp only [tagsIn, List.cons_append, matchesFrom, h, Nat.add_sub_cancel]
  rw [matchesFrom_eq_drop, List.drop_left, List.take_succ_cons, List.take_left]

/-- Every brace that opens belongs to a whole tag. -/
inductive Whole : Text → Prop where
  | nil : Whole []
  | char {c : Char} {r : Text} : c ≠ '{' → Whole r → Whole (c :: r)
  | tag {m r : Text} : IsTag m → Whole r → Whole (m ++ r)

theorem IsTag.whole {m : Text} (h : IsTag m) : Whole m := by simpa using Whole.tag h .nil

theorem Whole.append {a b : Text} (ha : Whole a) (hb : Whole b) : Whole (a ++ b) := by
  induction ha with
  | nil => exact hb
  | char hc _ ih => exact .char hc ih
  | tag hm _ ih =>
    rw [List.append_assoc]
    exact .tag hm ih

theorem Whole.flatMap {α : Type} {f : α → Text} {l : List α} (h : ∀ x ∈ l, Whole (f x)) :
    Whole (l.flatMap f) := by
  induction l with
  | nil => exact .nil
  | cons x rest ih =>
    obtain ⟨hx, hrest⟩ := List.forall_mem_cons.1 h
    exact hx.append (ih hrest)

/-- No tag reaches across the end of a whole piece. -/
theorem tagsIn_append {a : Text} (ha : Whole a) (b : Text) :
    tagsIn (a ++ b) = tagsIn a ++ tagsIn b := by
  induction ha with
  | nil => rfl
  | char hc _ ih => rw [List.cons_append, tagsIn_cons hc, tagsIn_cons hc, ih]
  | tag hm _ ih =>
    rw [List.append_assoc, hm.tagsIn_append, hm.tagsIn_append, ih, List.cons_append]

/-! ## Without the literal braces -/

/-- The tags of a text but for those that stand for a literal brace. -/
def visibleTags (t : Text) : List Text :=
  (tagsIn t).filter fun m => m != openMark && m != closeMark

theorem visibleTags_append {a : Text} (ha : Whole a) (b : Text) :
    visibleTags (a ++ b) = visibleTags a ++ visibleTags b := by
  rw [visibleTags, tagsIn_append ha, List.filter_append]
  rfl

theorem visibleTags_flatMap {α : Type} {f : α → Text} {l : List α} (h : ∀ x ∈ l, Whole (f x)) :
    visibleTags (l.flatMap f) = l.flatMap fun x => visibleTags (f x) := by
  induction l with
  | nil => rfl
  | cons x rest ih =>
    obtain ⟨hx, hrest⟩ := List.forall_mem_cons.1 h
    rw [List.flatMap_cons, visibleTags_append hx, ih hrest, List.flatMap_cons]

theorem whole_escapeChar (c : Char) : Whole (escapeChar c) := by
  unfold escapeChar
  split
  · exact isTag_openMark.whole
  · split
    · exact isTag_closeMark.whole
    · next h _ => exact .char h .nil

theorem visibleTags_escapeChar (c : Char) : visibleTags (escapeChar c) = [] := by
  unfold escapeChar
  split
  · rfl
  · split
    · rfl
    · next h _ => rw [visibleTags, tagsIn_cons h, tagsIn_nil, List.filter_nil]

theorem whole_escape (t : Text) : Whole (escape t) := .flatMap fun c _ => whole_escapeChar c

/-- A text shows no tag in markup. -/
@[simp] theorem visibleTags_escape (t : Text) : visibleTags (escape t) = [] := by
  rw [escape, visibleTags_flatMap fun c _ => whole_escapeChar c]
  simp [visibleTags_escapeChar]

theorem IsTag.visibleTags {m : Text} (hm : IsTag m) (ho : m ≠ openMark) (hc : m ≠ closeMark) :
    Markup.visibleTags m = [m] := by
  have h : tagsIn m = [m] := by simpa using hm.tagsIn_append []
  simp [Markup.visibleTags, h, ho, hc]

/-! ## The tags of a run -/

/-- The name of a tag that is neither of those that stand for a literal brace. -/
def IsPlainName (name : Text) : Prop :=
  IsTagName name ∧ name ≠ ['o', 'p', 'e', 'n'] ∧ name ≠ ['c', 'l', 'o', 's', 'e']

instance (name : Text) : Decidable (IsPlainName name) :=
  inferInstanceAs (Decidable (_ ∧ _ ∧ _))

def HasPlainNames (s : Style) : Prop := ∀ name ∈ tagNames s, IsPlainName name

instance (s : Style) : Decidable (HasPlainNames s) := List.decidableBAll _ (tagNames s)

def IsVisibleTag (m : Text) : Prop := IsTag m ∧ visibleTags m = [m]

theorem IsVisibleTag.ne_openMark {m : Text} (h : IsVisibleTag m) : m ≠ openMark := by
  rintro rfl
  exact absurd h.2 (by decide)

theorem IsVisibleTag.ne_closeMark {m : Text} (h : IsVisibleTag m) : m ≠ closeMark := by
  rintro rfl
  exact absurd h.2 (by decide)

theorem IsPlainName.openTag {name : Text} (h : IsPlainName name) :
    IsVisibleTag (openTag name) := by
  obtain ⟨hn, ho, hc⟩ := h
  refine ⟨.opening hn, IsTag.visibleTags (.opening hn) (fun e => ho ?_) fun e => hc ?_⟩
  · exact List.append_cancel_right (List.cons.inj e).2
  · exact List.append_cancel_right (List.cons.inj e).2

theorem IsPlainName.closeTag {name : Text} (h : IsPlainName name) :
    IsVisibleTag (closeTag name) := by
  have ho : Markup.closeTag name ≠ openMark := by simp [Markup.closeTag, openMark]
  have hc : Markup.closeTag name ≠ closeMark := by simp [Markup.closeTag, closeMark]
  exact ⟨.closing h.1, IsTag.visibleTags (.closing h.1) ho hc⟩

theorem whole_row {f : Text → Text} {names : List Text}
    (h : ∀ name ∈ names, IsVisibleTag (f name)) : Whole (names.flatMap f) :=
  .flatMap fun name hn => (h name hn).1.whole

theorem visibleTags_row {f : Text → Text} {names : List Text}
    (h : ∀ name ∈ names, IsVisibleTag (f name)) :
    visibleTags (names.flatMap f) = names.map f := by
  rw [visibleTags_flatMap fun name hn => (h name hn).1.whole, List.map_eq_flatMap]
  exact List.flatMap_congr fun name hn => (h name hn).2

/-- The tags of a style, last name first and then first name first. -/
def styleTags (s : Style) : List Text :=
  (tagNames s).reverse.map openTag ++ (tagNames s).map closeTag

/-- The tags that a step puts around its text. -/
def Step.tags (st : Step) : List Text := st.style?.elim [] styleTags

theorem Step.markup_tags {st : Step} (h : ∀ s ∈ st.style?, HasPlainNames s) :
    Whole st.markup ∧ visibleTags st.markup = st.tags := by
  cases st with
  | text t => exact ⟨whole_escape t, visibleTags_escape t⟩
  | styled s t =>
    have ho : ∀ name ∈ (tagNames s).reverse, IsVisibleTag (openTag name) := fun name hn =>
      (h s rfl name (List.mem_reverse.1 hn)).openTag
    have hc : ∀ name ∈ tagNames s, IsVisibleTag (closeTag name) := fun name hn =>
      (h s rfl name hn).closeTag
    have hw := (whole_row ho).append (whole_escape t)
    rw [markup_styled]
    refine ⟨hw.append (whole_row hc), ?_⟩
    rw [visibleTags_append hw, visibleTags_append (whole_row ho), visibleTags_escape,
      List.append_nil, visibleTags_row ho, visibleTags_row hc]
    rfl

theorem visibleTags_markup_build {steps : List Step}
    (h : ∀ s ∈ steps.filterMap Step.style?, HasPlainNames s) :
    visibleTags (build steps).markup = steps.flatMap Step.tags := by
  have hst : ∀ st ∈ steps, Whole st.markup ∧ visibleTags st.markup = st.tags := fun st hst =>
    Step.markup_tags fun s hs => h s (List.mem_filterMap.2 ⟨st, hst, hs⟩)
  rw [markup_build, visibleTags_flatMap fun st hs => (hst st hs).1]
  exact List.flatMap_congr fun st hs => (hst st hs).2

/-- Only the styles count: the texts may be any others. -/
theorem flatMap_tags_congr {steps steps' : List Step}
    (h : steps'.map Step.style? = steps.map Step.style?) :
    steps'.flatMap Step.tags = steps.flatMap Step.tags := by
  have e (l : List Step) : l.flatMap Step.tags =
      (l.map Step.style?).flatMap fun s => s.elim [] styleTags := by
    rw [List.flatMap_map]
    rfl
  rw [e, e, h]

/-! ## Nesting -/

/-- The names of the tags that are open after a list of tags, the innermost first, if `names` were
open before; `none` if a closing tag does not close the innermost. -/
def openNames : (names : List Text) → List Text → Option (List Text)
  | names, [] => some names
  | name :: outer, ('{' :: '/' :: r) :: rest =>
    if r = name ++ ['}'] then openNames outer rest else none
  | [], ('{' :: '/' :: _) :: _ => none
  | names, ('{' :: r) :: rest => openNames (r.dropLast :: names) rest
  | _, _ => none

theorem openNames_openTag {name : Text} (h : IsTagName name) (names rest : List Text) :
    openNames names (openTag name :: rest) = openNames (name :: names) rest := by
  cases name with
  | nil => simp [openTag, openNames]
  | cons c name => simp [openTag, openNames, h.ne_slash, List.dropLast_cons_of_ne_nil]

theorem openNames_closeTag (name : Text) (outer rest : List Text) :
    openNames (name :: outer) (closeTag name :: rest) = openNames outer rest := by
  simp [closeTag, openNames]

/-- Tags opened in a row and closed in the mirrored row leave open what was open before. -/
theorem openNames_mirror {names : List Text} (h : ∀ name ∈ names, IsTagName name)
    (outer rest : List Text) :
    openNames outer (names.map openTag ++ names.reverse.map closeTag ++ rest) =
      openNames outer rest := by
  induction names generalizing outer rest with
  | nil => rfl
  | cons name inner ih =>
    obtain ⟨hn, hi⟩ := List.forall_mem_cons.1 h
    calc openNames outer
          ((name :: inner).map openTag ++ (name :: inner).reverse.map closeTag ++ rest)
        = openNames outer (openTag name ::
            (inner.map openTag ++ inner.reverse.map closeTag ++ closeTag name :: rest)) := by simp
      _ = openNames (name :: outer) (closeTag name :: rest) := by rw [openNames_openTag hn, ih hi]
      _ = openNames outer rest := openNames_closeTag name outer rest

theorem openNames_flatMap_tags {steps : List Step}
    (h : ∀ s ∈ steps.filterMap Step.style?, HasPlainNames s) :
    openNames [] (steps.flatMap Step.tags) = some [] := by
  induction steps with
  | nil => rfl
  | cons st rest ih =>
    cases st with
    | text t => exact ih h
    | styled s t =>
      obtain ⟨hs, hrest⟩ := List.forall_mem_cons.1 h
      have hn : ∀ name ∈ (tagNames s).reverse, IsTagName name := fun name hm =>
        (hs name (List.mem_reverse.1 hm)).1
      have := openNames_mirror hn [] (rest.flatMap Step.tags)
      rw [List.reverse_reverse] at this
      exact this.trans (ih hrest)

/-- The tags that show in built markup are those of the styles, step by step and in two mirrored
rows around each text. They are the same whatever the texts are, and every closing tag closes the
one opened last that is still open. -/
theorem visibleTags_build (steps : List Step)
    (h : ∀ s ∈ steps.filterMap Step.style?, HasPlainNames s) :
    visibleTags (build steps).markup = steps.flatMap Step.tags ∧
      (∀ steps' : List Step, steps'.map Step.style? = steps.map Step.style? →
        visibleTags (build steps').markup = visibleTags (build steps).markup) ∧
      openNames [] (visibleTags (build steps).markup) = some [] := by
  have hv := visibleTags_markup_build h
  refine ⟨hv, fun steps' hs => ?_, ?_⟩
  · have h' : ∀ s ∈ steps'.filterMap Step.style?, HasPlainNames s := by
      have e (l : List Step) : l.filterMap Step.style? = (l.map Step.style?).filterMap id := by
        simp [List.filterMap_map]
      rwa [e, hs, ← e]
    rw [visibleTags_markup_build h', hv, flatMap_tags_congr hs]
  · rw [hv]
    exact openNames_flatMap_tags h

/-- Texts that are halves of tags around a styled one. -/
theorem visibleTags_build_halves :
    let s : Style := ⟨[(['b'], .flag true), (['i'], .null), (['f', 'g'], .color ['r', 'e', 'd'])]⟩
    let steps : List Step := [.text ['{', 'b'], .styled s ['}', '{', 'o', 'p', 'e', 'n', '}', '{'],
      .text ['/', 'b', '}']]
    (∀ s ∈ steps.filterMap Step.style?, HasPlainNames s) ∧
      visibleTags (build steps).markup =
        [openTag ['r', 'e', 'd', '-', 'f', 'g'], openTag ['b'], closeTag ['b'],
          closeTag ['r', 'e', 'd', '-', 'f', 'g']] ∧
      openNames [] (visibleTags (build steps).markup) = some [] := by
  intro s steps
  have h : ∀ s ∈ steps.filterMap Step.style?, HasPlainNames s := by decide
  obtain ⟨hv, -, hn⟩ := visibleTags_build steps h
  exact ⟨h, hv.trans (by decide), hn⟩

end Termkit.Markup
