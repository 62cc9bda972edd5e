import Mathlib.Data.List.Basic
import Termkit.Markup.Builder

/-!
# Runs of the builder

A run is a list of steps, each of which appends a text, plain or in a style. What a run builds is
the steps' own markup and texts one after another, from the empty markup (`markup_build`,
`plain_build`). A style puts its tags around a text in two rows that mirror each other
(`markup_styled`), under names made of what the style holds and of hyphens (`forall_mem_tagNames`).
-/

namespace Termkit.Markup

/-- One step of building: a text, plain or in a style. -/
inductive Step where
  | text (t : Text)
  | styled (s : Style) (t : Text)
  deriving DecidableEq, Repr

namespace Step

def apply (m : Markup) : Step → Markup
  | text t => m.text t
  | styled s t => m.addStyled s t

def style? : Step → Option Style
  | text _ => none
  | styled s _ => some s

def plain : Step → Text
  | text t => t
  | styled _ t => t

def markup : Step → Text
  | text t => escape t
  | styled s t => Markup.styled s t

end Step

/-- What the steps build, from nothing. -/
def build (steps : List Step) : Markup := steps.foldl Step.apply empty

theorem markup_apply (m : Markup) (st : Step) : (st.apply m).markup = m.markup ++ st.markup := by
  cases st <;> rfl

theorem plain_apply (m : Markup) (st : Step) : (st.apply m).plain = m.plain ++ st.plain := by
  cases st <;> rfl

theorem markup_foldl_apply (steps : List Step) (m : Markup) :
    (steps.foldl Step.apply m).markup = m.markup ++ steps.flatMap Step.markup := by
  induction steps generalizing m with
  | nil => simp
  | cons st rest ih => rw [List.foldl_cons, ih, markup_apply, List.flatMap_cons, List.append_assoc]

theorem plain_foldl_apply (steps : List Step) (m : Markup) :
    (steps.foldl Step.apply m).plain = m.plain ++ steps.flatMap Step.plain := by
  induction steps generalizing m with
  | nil => simp
  | cons st rest ih => rw [List.foldl_cons, ih, plain_apply, List.flatMap_cons, List.append_assoc]

theorem markup_build (steps : List Step) :
    (build steps).markup = steps.flatMap Step.markup := markup_foldl_apply steps empty

theorem plain_build (steps : List Step) :
    (build steps).plain = steps.flatMap Step.plain := plain_foldl_apply steps empty

/-! ## The tags of a style -/

theorem foldl_nest (names : List Text) (p : TagPair) :
    names.foldl TagPair.nest p =
      ⟨names.reverse.flatMap openTag ++ p.opening, p.closing ++ names.flatMap closeTag⟩ := by
  induction names generalizing p with
  | nil => simp
  | cons name rest ih =>
    rw [List.foldl_cons, ih]
    simp [TagPair.nest]

/-- The opening tags come last name first, the closing tags first name first. -/
theorem ofStyle_eq (s : Style) :
    TagPair.ofStyle s = ⟨(tagNames s).reverse.flatMap openTag, (tagNames s).flatMap closeTag⟩ := by
  simp [TagPair.ofStyle, foldl_nest, TagPair.empty]

theorem markup_styled (s : Style) (t : Text) :
    (Step.styled s t).markup =
      (tagNames s).reverse.flatMap openTag ++ escape t ++ (tagNames s).flatMap closeTag := by
  simp [Step.markup, styled, wrap, TagPair.wrap, ofStyle_eq]

section

variable {p : Char → Prop}

theorem forall_mem_hyphenate (hp : p '-') {shade color : Text} (h : ∀ c ∈ color, p c) :
    ∀ c ∈ hyphenate shade color, p c := by
  unfold hyphenate
  split
  · next rest e =>
    split
    · exact h
    · rw [← List.append_eq_of_isPrefixOf?_eq_some e] at h
      obtain ⟨hs, hr⟩ := List.forall_mem_append.1 h
      exact List.forall_mem_append.2 ⟨hs, List.forall_mem_cons.2 ⟨hp, hr⟩⟩
  · exact h

theorem forall_mem_normalizeColor (hp : p '-') {color : Text} (h : ∀ c ∈ color, p c) :
    ∀ c ∈ normalizeColor color, p c :=
  forall_mem_hyphenate hp (forall_mem_hyphenate hp h)

/-- The names of a style's tags are made of the characters of the names and colours that show in
markup, and of hyphens. -/
theorem forall_mem_tagNames (hp : p '-') {s : Style}
    (h : ∀ e ∈ s.entries, e.2.isActive = true →
      (∀ c ∈ e.1, p c) ∧ ∀ color ∈ e.2.color?, ∀ c ∈ color, p c) :
    ∀ name ∈ tagNames s, ∀ c ∈ name, p c := by
  intro name hn
  obtain ⟨⟨key, v⟩, he, hv⟩ := List.mem_filterMap.1 hn
  cases v with
  | color color =>
    obtain ⟨hk, hc⟩ := h _ he rfl
    cases hv
    exact List.forall_mem_append.2
      ⟨forall_mem_normalizeColor hp (hc color rfl), List.forall_mem_cons.2 ⟨hp, hk⟩⟩
  | flag on =>
    cases on with
    | true =>
      cases hv
      exact (h _ he rfl).1
    | false => cases hv
  | number x => cases hv
  | null => cases hv

end

end Termkit.Markup
