import Mathlib.Data.List.Forall2
import Termkit.Proofs.Markup.Building

/-!
# Tags nest attribute by attribute

`ShowsAs` says which tag an attribute shows by. An attribute has one just if its value is active, so
that the tags of a style are those of its active attributes in their order (`showsAs_tagNames`).
They go around a text one attribute after another: those of the attributes in front first, and
around them those of the attributes behind (`wrap_append`), so that wrapping in a style is a fold
over its attributes (`wrap_nests`).
-/

namespace Termkit.Markup

/-- The name of the tag that an attribute shows by. -/
inductive ShowsAs : Text × Style.Value → Text → Prop where
  | flag (key : Text) : ShowsAs (key, .flag true) key
  | color (key color : Text) : ShowsAs (key, .color color) (normalizeColor color ++ '-' :: key)

theorem ShowsAs.of_tagName? {key name : Text} {v : Style.Value} (h : tagName? key v = some name) :
    ShowsAs (key, v) name := by
  cases v with
  | color c =>
    cases h
    exact .color key c
  | flag on =>
    cases on with
    | true =>
      cases h
      exact .flag key
    | false => cases h
  | number x => cases h
  | null => cases h

/-- What has a tag is what is active. -/
theorem isSome_tagName? (key : Text) (v : Style.Value) :
    (tagName? key v).isSome = v.isActive := by
  cases v with
  | flag on => cases on <;> rfl
  | color c => rfl
  | number x => rfl
  | null => rfl

/-! ## The tags of a style -/

theorem tagNames_append (es fs : List (Text × Style.Value)) :
    tagNames ⟨es ++ fs⟩ = tagNames ⟨es⟩ ++ tagNames ⟨fs⟩ := List.filterMap_append

theorem tagNames_cons (e : Text × Style.Value) (rest : List (Text × Style.Value)) :
    tagNames ⟨e :: rest⟩ = (tagName? e.1 e.2).toList ++ tagNames ⟨rest⟩ := by
  cases h : tagName? e.1 e.2 <;> simp [tagNames, h]

/-- The tags of a style are those of its active attributes, in order. -/
theorem showsAs_tagNames (es : List (Text × Style.Value)) :
    List.Forall₂ ShowsAs (es.filter (·.2.isActive)) (tagNames ⟨es⟩) := by
  induction es with
  | nil => exact .nil
  | cons e rest ih =>
    have hactive : (tagName? e.1 e.2).isSome = e.2.isActive := isSome_tagName? e.1 e.2
    rw [tagNames_cons]
    cases h : tagName? e.1 e.2 with
    | none =>
      rw [h] at hactive
      rw [List.filter_cons_of_neg (by simp [← hactive])]
      exact ih
    | some name =>
      rw [h] at hactive
      rw [List.filter_cons_of_pos (by simp [← hactive])]
      exact .cons (.of_tagName? h) ih

theorem tagNames_eq_nil {s : Style} : tagNames s = [] ↔ ∀ e ∈ s.entries, e.2.isActive = false := by
  rw [tagNames, List.filterMap_eq_nil_iff]
  refine forall₂_congr fun e _ => ?_
  rw [← isSome_tagName? e.1 e.2, Option.isSome_eq_false_iff, Option.isNone_iff_eq_none]

theorem isEmpty_ofStyle {s : Style} : (TagPair.ofStyle s).isEmpty = true ↔ tagNames s = [] := by
  rw [ofStyle_eq]
  cases tagNames s with
  | nil => simp [TagPair.isEmpty]
  | cons name rest => simp [TagPair.isEmpty, closeTag]

/-! ## Wrapping -/

/-- The tags of the attributes behind go around those of the attributes in front. -/
theorem wrap_append (es fs : List (Text × Style.Value)) (t : Text) :
    wrap ⟨es ++ fs⟩ t = wrap ⟨fs⟩ (wrap ⟨es⟩ t) := by
  simp [wrap, TagPair.wrap, ofStyle_eq, tagNames_append]

theorem wrap_eq_foldl (es : List (Text × Style.Value)) (t : Text) :
    wrap ⟨es⟩ t = es.foldl (fun inner e => wrap (Style.empty.set e.1 e.2) inner) t := by
  induction es generalizing t with
  | nil => simp [wrap, TagPair.wrap, ofStyle_eq, tagNames]
  | cons e rest ih =>
    -- the first attribute alone is the style in which nothing but it is set
    have hfirst : wrap ⟨e :: rest⟩ t = wrap ⟨rest⟩ (wrap (Style.empty.set e.1 e.2) t) :=
      wrap_append [e] rest t
    rw [hfirst, ih, List.foldl_cons]

/-- Wrapping in a style is wrapping in its attributes one after another, the first innermost. The
opening tags are those of the active attributes from the last to the first, the closing tags those
from the first to the last, and there are none just if no attribute is active. -/
theorem wrap_nests (s : Style) :
    (∀ t, wrap s t = s.entries.foldl (fun inner e => wrap (Style.empty.set e.1 e.2) inner) t) ∧
      (∃ names, List.Forall₂ ShowsAs (s.entries.filter (·.2.isActive)) names ∧
        (TagPair.ofStyle s).opening = names.reverse.flatMap openTag ∧
        (TagPair.ofStyle s).closing = names.flatMap closeTag) ∧
      ((TagPair.ofStyle s).isEmpty = true ↔ ∀ e ∈ s.entries, e.2.isActive = false) := by
  refine ⟨wrap_eq_foldl s.entries, ⟨tagNames s, showsAs_tagNames s.entries, ?_, ?_⟩, ?_⟩
  · rw [ofStyle_eq]
  · rw [ofStyle_eq]
  · rw [isEmpty_ofStyle, tagNames_eq_nil]

/-- Attributes that do not show leave no gap, and a shade is hyphenated in its tag. -/
example : wrap ⟨[(['b'], .flag true), (['i'], .flag false), (['w'], .null),
      (['f', 'g'], .color ['l', 'i', 'g', 'h', 't', 'r', 'e', 'd'])]⟩ ['x'] =
    "{light-red-fg}{b}x{/b}{/light-red-fg}".toList := by decide

end Termkit.Markup
