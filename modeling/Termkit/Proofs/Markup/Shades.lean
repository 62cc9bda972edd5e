import Mathlib.Data.List.Forall2
import Termkit.Proofs.Markup.Nesting
import Termkit.Proofs.Style.OrderedMap

/-!
# Shades in colours

A colour is bare of a hyphen for a shade if it begins with the shade and no hyphen follows
(`IsBare`). To hyphenate puts that hyphen in and leaves all other colours; what it does for one
shade does not count for another one that begins differently (`isBare_hyphenate`), so that the
order of the shades does not matter. Hence the form of a colour in tags is a normal form: it is bare
for no shade, and a colour that is bare for none is its own form (`normalizeColor_of_not_isBare`).
The tags of a style see its colours in this form only (`SameForm.tagName?_eq`), so that they stay
the same when the colours are normalised one name after another (`tagNames_foldl_normalizeAt`).
-/

namespace Termkit.Markup

/-! ## One shade -/

/-- The colour begins with the shade, and no hyphen follows. -/
def IsBare (shade color : Text) : Prop :=
  ∃ rest, color = shade ++ rest ∧ rest.head? ≠ some '-'

section

variable {shade shade' color : Text}

theorem hyphenate_append {rest : Text} (h : rest.head? ≠ some '-') (shade : Text) :
    hyphenate shade (shade ++ rest) = shade ++ '-' :: rest := by
  have e : shade.isPrefixOf? (shade ++ rest) = some rest :=
    List.isPrefixOf?_eq_some_iff_append_eq.2 rfl
  simp only [hyphenate, e, if_neg h]

theorem hyphenate_of_not_isBare (h : ¬ IsBare shade color) : hyphenate shade color = color := by
  unfold hyphenate
  split
  · next rest e =>
    split
    · rfl
    · next hr => exact (h ⟨rest, (List.append_eq_of_isPrefixOf?_eq_some e).symm, hr⟩).elim
  · rfl

theorem not_isBare_hyphenate (shade color : Text) : ¬ IsBare shade (hyphenate shade color) := by
  by_cases h : IsBare shade color
  · obtain ⟨rest, rfl, hr⟩ := h
    rw [hyphenate_append hr]
    rintro ⟨rest', e, hr'⟩
    rw [← List.append_cancel_left e] at hr'
    exact hr' rfl
  · rwa [hyphenate_of_not_isBare h]

def BeginApart (shade shade' : Text) : Prop := ∀ r r', shade ++ r ≠ shade' ++ r'

theorem BeginApart.symm (h : BeginApart shade shade') : BeginApart shade' shade :=
  fun r r' e => h r' r e.symm

theorem IsBare.not_isBare (h : IsBare shade color) (ha : BeginApart shade shade') :
    ¬ IsBare shade' color := by
  obtain ⟨rest, rfl, -⟩ := h
  rintro ⟨rest', e, -⟩
  exact ha rest rest' e

/-- A hyphen behind one shade does not count for another. -/
theorem isBare_hyphenate (ha : BeginApart shade shade') (color : Text) :
    IsBare shade (hyphenate shade' color) ↔ IsBare shade color := by
  by_cases h : IsBare shade' color
  · have hc : ¬ IsBare shade color := h.not_isBare ha.symm
    obtain ⟨rest, rfl, hr⟩ := h
    rw [hyphenate_append hr]
    refine iff_of_false ?_ hc
    rintro ⟨rest', e, -⟩
    exact ha rest' _ e.symm
  · rw [hyphenate_of_not_isBare h]

/-- The order of two shades does not matter. -/
theorem hyphenate_comm (ha : BeginApart shade shade') (color : Text) :
    hyphenate shade (hyphenate shade' color) = hyphenate shade' (hyphenate shade color) := by
  by_cases h : IsBare shade color
  · have h' : ¬ IsBare shade' color := h.not_isBare ha
    have hh : ¬ IsBare shade' (hyphenate shade color) := (isBare_hyphenate ha.symm color).not.2 h'
    rw [hyphenate_of_not_isBare h', hyphenate_of_not_isBare hh]
  · have hh : ¬ IsBare shade (hyphenate shade' color) := (isBare_hyphenate ha color).not.2 h
    rw [hyphenate_of_not_isBare hh, hyphenate_of_not_isBare h]

end

/-! ## The normal form -/

/-- The shades that are hyphenated in tags. -/
def shades : List Text := [light, bright]

theorem beginApart_light_bright : BeginApart light bright := by
  intro r r' e
  simp [light, bright] at e

section

variable {shade color : Text}

theorem mem_shades : shade ∈ shades ↔ shade = light ∨ shade = bright := by
  simp [shades]

theorem not_isBare_normalizeColor (h : shade ∈ shades) (color : Text) :
    ¬ IsBare shade (normalizeColor color) := by
  rcases mem_shades.1 h with rfl | rfl
  · rw [normalizeColor, isBare_hyphenate beginApart_light_bright]
    exact not_isBare_hyphenate light color
  · exact not_isBare_hyphenate bright (hyphenate light color)

theorem normalizeColor_of_not_isBare (h : ∀ shade ∈ shades, ¬ IsBare shade color) :
    normalizeColor color = color := by
  have hl : hyphenate light color = color :=
    hyphenate_of_not_isBare (h light (mem_shades.2 (.inl rfl)))
  rw [normalizeColor, hl, hyphenate_of_not_isBare (h bright (mem_shades.2 (.inr rfl)))]

theorem normalizeColor_append (h : shade ∈ shades) {rest : Text} (hr : rest.head? ≠ some '-') :
    normalizeColor (shade ++ rest) = shade ++ '-' :: rest := by
  have hbare : IsBare shade (shade ++ rest) := ⟨rest, rfl, hr⟩
  rcases mem_shades.1 h with rfl | rfl
  · have hb : ¬ IsBare bright (hyphenate light (light ++ rest)) :=
      (isBare_hyphenate beginApart_light_bright.symm _).not.2
        (hbare.not_isBare beginApart_light_bright)
    rw [normalizeColor, hyphenate_of_not_isBare hb, hyphenate_append hr]
  · have hl : ¬ IsBare light (bright ++ rest) := hbare.not_isBare beginApart_light_bright.symm
    rw [normalizeColor, hyphenate_of_not_isBare hl, hyphenate_append hr]

/-- What is in normal form stays as it is. -/
@[simp] theorem normalizeColor_normalizeColor (color : Text) :
    normalizeColor (normalizeColor color) = normalizeColor color :=
  normalizeColor_of_not_isBare fun _ h => not_isBare_normalizeColor h color

/-- The colour itself, or the colour with one hyphen behind its shade. -/
theorem normalizeColor_cases (color : Text) :
    normalizeColor color = color ∨
      ∃ shade ∈ shades, ∃ rest, color = shade ++ rest ∧ rest.head? ≠ some '-' ∧
        normalizeColor color = shade ++ '-' :: rest := by
  by_cases h : ∃ shade ∈ shades, IsBare shade color
  · obtain ⟨shade, hs, rest, rfl, hr⟩ := h
    exact .inr ⟨shade, hs, rest, rfl, hr, normalizeColor_append hs hr⟩
  · refine .inl (normalizeColor_of_not_isBare fun shade hs hb => h ⟨shade, hs, hb⟩)

end

/-! ## Values of one form -/

/-- Equal values, numbers compared as numbers, and colours of one normal form. -/
inductive SameForm : Style.Value → Style.Value → Prop where
  | refl (v : Style.Value) : SameForm v v
  | number {x y : Binary64} : x.sameNumber y = true → SameForm (.number x) (.number y)
  | color {c d : Text} : normalizeColor c = normalizeColor d → SameForm (.color c) (.color d)

theorem SameForm.tagName?_eq {v w : Style.Value} (h : SameForm v w) (key : Text) :
    tagName? key v = tagName? key w := by
  cases h with
  | refl => rfl
  | number => rfl
  | color h => rw [tagName?, tagName?, h]

/-- Attributes of one name whose values have one form. -/
def SameEntry (e e' : Text × Style.Value) : Prop := e.1 = e'.1 ∧ SameForm e.2 e'.2

theorem SameEntry.refl (e : Text × Style.Value) : SameEntry e e := ⟨rfl, .refl e.2⟩

theorem tagNames_congr {es es' : List (Text × Style.Value)} (h : List.Forall₂ SameEntry es es') :
    tagNames ⟨es⟩ = tagNames ⟨es'⟩ := by
  induction h with
  | nil => rfl
  | cons he _ ih =>
    obtain ⟨hkey, hv⟩ := he
    rw [tagNames_cons, tagNames_cons, hkey, hv.tagName?_eq, ih]

theorem ofStyle_congr {s s' : Style} (h : tagNames s = tagNames s') :
    TagPair.ofStyle s = TagPair.ofStyle s' := by
  rw [TagPair.ofStyle, TagPair.ofStyle, h]

/-! ## Normalising the colours of a style -/

def normalizeValue (v : Style.Value) : Style.Value :=
  v.color?.elim v fun c => .color (normalizeColor c)

/-- Sets the attribute, if it is a colour, to the normal form of that colour. -/
def normalizeAt (s : Style) (key : Text) : Style :=
  ((s.get? key).bind Style.Value.color?).elim s fun c => s.set key (.color (normalizeColor c))

theorem normalizeValue_normalizeValue (v : Style.Value) :
    normalizeValue (normalizeValue v) = normalizeValue v := by
  cases v with
  | color c => exact congrArg Style.Value.color (normalizeColor_normalizeColor c)
  | _ => rfl

section

variable {s : Style} {key : Text}

theorem normalizeAt_of_color {c : Text} (h : s.get? key = some (.color c)) :
    normalizeAt s key = s.set key (.color (normalizeColor c)) := by
  rw [normalizeAt, h]
  rfl

/-- What is no colour is left alone, and so is a name that is not there. -/
theorem normalizeAt_of_not_color (h : ∀ c, s.get? key ≠ some (.color c)) :
    normalizeAt s key = s ∧ (s.get? key).map normalizeValue = s.get? key := by
  cases hv : s.get? key with
  | none => simp [normalizeAt, hv]
  | some v =>
    have hc : v.color? = none := by
      cases v with
      | color c => exact (h c hv).elim
      | _ => rfl
    simp [normalizeAt, hv, normalizeValue, hc]

theorem keys_normalizeAt (s : Style) (key : Text) : (normalizeAt s key).keys = s.keys := by
  by_cases h : ∃ c, s.get? key = some (.color c)
  · obtain ⟨c, hc⟩ := h
    rw [normalizeAt_of_color hc, Style.keys_set_of_mem (Style.mem_keys.2 ⟨_, hc⟩)]
  · rw [(normalizeAt_of_not_color (not_exists.1 h)).1]

theorem get?_normalizeAt (s : Style) (key k : Text) : (normalizeAt s key).get? k =
    if k = key then (s.get? k).map normalizeValue else s.get? k := by
  by_cases h : ∃ c, s.get? key = some (.color c)
  · obtain ⟨c, hc⟩ := h
    rw [normalizeAt_of_color hc, Style.get?_set]
    split
    · next hk =>
      rw [hk, hc]
      rfl
    · rfl
  · obtain ⟨hs, hmap⟩ := normalizeAt_of_not_color (not_exists.1 h)
    rw [hs]
    split
    · next hk => rw [hk, hmap]
    · rfl

theorem forall₂_setEntry {v w : Style.Value} {es : List (Text × Style.Value)}
    (h : es.lookup key = some v) (hv : SameForm w v) :
    List.Forall₂ SameEntry (Style.setEntry key w es) es := by
  induction es with
  | nil => cases h
  | cons e rest ih =>
    obtain ⟨k, u⟩ := e
    rw [Style.lookup_entry] at h
    by_cases hk : k = key
    · rw [if_pos hk.symm] at h
      cases h
      rw [Style.setEntry, if_pos hk]
      exact .cons ⟨rfl, hv⟩ (List.forall₂_same.2 fun e _ => .refl e)
    · rw [if_neg (Ne.symm hk)] at h
      rw [Style.setEntry, if_neg hk]
      exact .cons (.refl _) (ih h)

theorem tagNames_normalizeAt (s : Style) (key : Text) :
    tagNames (normalizeAt s key) = tagNames s := by
  by_cases h : ∃ c, s.get? key = some (.color c)
  · obtain ⟨c, hc⟩ := h
    rw [normalizeAt_of_color hc]
    exact tagNames_congr (forall₂_setEntry hc (.color (normalizeColor_normalizeColor c)))
  · rw [(normalizeAt_of_not_color (not_exists.1 h)).1]

end

/-! ### Any number of names, one after another -/

theorem keys_foldl_normalizeAt (order : List Text) (s : Style) :
    (order.foldl normalizeAt s).keys = s.keys := by
  induction order generalizing s with
  | nil => rfl
  | cons key rest ih => rw [List.foldl_cons, ih, keys_normalizeAt]

theorem get?_foldl_normalizeAt (order : List Text) (s : Style) (k : Text) :
    (order.foldl normalizeAt s).get? k =
      if k ∈ order then (s.get? k).map normalizeValue else s.get? k := by
  induction order generalizing s with
  | nil => rfl
  | cons key rest ih =>
    rw [List.foldl_cons, ih, get?_normalizeAt]
    by_cases hk : k = key
    · -- a name that comes again is normalised again, which changes nothing
      have htwice : ((s.get? k).map normalizeValue).map normalizeValue =
          (s.get? k).map normalizeValue := by
        rw [Option.map_map]
        exact Option.map_congr fun v _ => normalizeValue_normalizeValue v
      have hm : k ∈ key :: rest := by rw [hk]; exact List.mem_cons_self
      rw [if_pos hk, htwice, ite_self, if_pos hm]
    · rw [if_neg hk]
      simp only [List.mem_cons, hk, false_or]

theorem tagNames_foldl_normalizeAt (order : List Text) (s : Style) :
    tagNames (order.foldl normalizeAt s) = tagNames s := by
  induction order generalizing s with
  | nil => rfl
  | cons key rest ih => rw [List.foldl_cons, ih, tagNames_normalizeAt]

/-- The form of a colour in tags is a normal form: it begins with a shade only if a hyphen follows,
it is the colour itself or the colour with one hyphen behind its shade, and the order of the shades
does not matter. A style whose colours are replaced by their normal forms, in any order of the
names, keeps its tags, and so do styles with the same names in the same order and values of one
form. -/
theorem normalizeColor_normalForm :
    (∀ color, normalizeColor (normalizeColor color) = normalizeColor color ∧
      (∀ shade ∈ shades, ∀ rest, normalizeColor color = shade ++ rest → rest.head? = some '-') ∧
      (normalizeColor color = color ∨
        ∃ shade ∈ shades, ∃ rest, color = shade ++ rest ∧ rest.head? ≠ some '-' ∧
          normalizeColor color = shade ++ '-' :: rest) ∧
      hyphenate light (hyphenate bright color) = normalizeColor color) ∧
    (∀ (s : Style) (order : List Text), s.keys ⊆ order →
      let s' := order.foldl normalizeAt s
      s'.keys = s.keys ∧ (∀ key, s'.get? key = (s.get? key).map normalizeValue) ∧
        TagPair.ofStyle s' = TagPair.ofStyle s) ∧
    ∀ s s' : Style, List.Forall₂ SameEntry s.entries s'.entries →
      TagPair.ofStyle s = TagPair.ofStyle s' := by
  refine ⟨fun color => ⟨normalizeColor_normalizeColor color, ?_, normalizeColor_cases color, ?_⟩,
    fun s order ho => ?_, fun s s' h => ofStyle_congr (tagNames_congr h)⟩
  · intro shade hs rest e
    by_contra hr
    exact not_isBare_normalizeColor hs color ⟨rest, e, hr⟩
  · exact hyphenate_comm beginApart_light_bright color
  · intro s'
    refine ⟨keys_foldl_normalizeAt order s, fun key => ?_,
      ofStyle_congr (tagNames_foldl_normalizeAt order s)⟩
    rw [get?_foldl_normalizeAt]
    split
    · rfl
    · next hk =>
      have hnone : s.get? key = none := Style.get?_eq_none.2 fun hm => hk (ho hm)
      rw [hnone]
      rfl

/-- Shades that stand alone and in front of one another, normalised from the last name on. -/
theorem normalizeColor_normalForm_shades :
    let s : Style := ⟨[(['a'], .color light), (['b'], .flag true),
      (['c'], .color (light ++ bright)), (['d'], .color (bright ++ '-' :: light))]⟩
    let s' : Style := ⟨[(['a'], .color (light ++ ['-'])), (['b'], .flag true),
      (['c'], .color (light ++ '-' :: bright)), (['d'], .color (bright ++ light))]⟩
    let order : List Text := [['d'], ['c'], ['b'], ['a']]
    (s.keys ⊆ order ∧ TagPair.ofStyle (order.foldl normalizeAt s) = TagPair.ofStyle s) ∧
      List.Forall₂ SameEntry s.entries s'.entries ∧ TagPair.ofStyle s = TagPair.ofStyle s' := by
  intro s s' order
  obtain ⟨-, hstyle, hsame⟩ := normalizeColor_normalForm
  have ho : s.keys ⊆ order := by decide
  have hs : List.Forall₂ SameEntry s.entries s'.entries :=
    .cons ⟨rfl, .color (by decide)⟩ <| .cons (.refl _) <|
      .cons ⟨rfl, .color (by decide)⟩ <| .cons ⟨rfl, .color (by decide)⟩ .nil
  exact ⟨⟨ho, (hstyle s order ho).2.2⟩, hs, hsame s s' hs⟩

end Termkit.Markup
