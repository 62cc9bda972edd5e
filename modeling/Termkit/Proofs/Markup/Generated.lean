import Termkit.Proofs.Markup.Building
import Termkit.Proofs.Markup.Pieces

/-!
# Stripping what was generated

The tags of a style can be deleted one by one wherever they stand, as long as their names are made
of tag characters, and that they are if the style's names and colours are
(`HasTagParts.hasTagNames`). So stripping takes no notice of them, even where what stands around
them is a half of a tag before they are gone and a whole one after (`strip_generated`). Escaped
text loses just its braces by deletions, so that built markup is stripped to its plain text without
braces, stripped (`strip_build`).
-/

namespace Termkit.Markup

/-! ## Deletions in all parts of a text -/

theorem Deletions.flatMap {α : Type} {f g : α → Text} {l : List α}
    (h : ∀ x ∈ l, Deletions (f x) (g x)) : Deletions (l.flatMap f) (l.flatMap g) := by
  induction l with
  | nil => exact .refl
  | cons x rest ih =>
    obtain ⟨hx, hrest⟩ := List.forall_mem_cons.1 h
    exact hx.append_both (ih hrest)

/-- A match alone is deleted whole. -/
theorem IsMatch.deletions {m : Text} (hm : IsMatch m) : Deletions m [] :=
  .single (by simpa using hm.deletion [])

/-- A row of tags is deleted whole. -/
theorem deletions_row {f : Text → Text} {names : List Text} (h : ∀ name ∈ names, IsTag (f name)) :
    Deletions (names.flatMap f) [] := by
  have hrow := Deletions.flatMap (g := fun _ => []) fun name hn =>
    IsMatch.deletions (.inl (h name hn))
  rwa [List.flatMap_eq_nil_iff.2 fun _ _ => rfl] at hrow

/-! ## The tags of a style -/

def HasTagNames (s : Style) : Prop := ∀ name ∈ tagNames s, IsTagName name

instance (s : Style) : Decidable (HasTagNames s) := List.decidableBAll _ (tagNames s)

/-- The names that show in markup, and the colours, are made of tag characters. -/
def HasTagParts (s : Style) : Prop :=
  ∀ e ∈ s.entries, e.2.isActive = true → IsTagName e.1 ∧ ∀ c ∈ e.2.color?, IsTagName c

instance (s : Style) : Decidable (HasTagParts s) :=
  inferInstanceAs (Decidable (∀ e ∈ s.entries, _ → _ ∧ _))

theorem HasTagParts.hasTagNames {s : Style} (h : HasTagParts s) : HasTagNames s :=
  forall_mem_tagNames (p := (isTagChar · = true)) rfl h

section

variable {s : Style} (h : HasTagNames s)

include h

theorem deletions_opening : Deletions (TagPair.ofStyle s).opening [] := by
  rw [ofStyle_eq]
  exact deletions_row fun name hn => .opening (h name (List.mem_reverse.1 hn))

theorem deletions_closing : Deletions (TagPair.ofStyle s).closing [] := by
  rw [ofStyle_eq]
  exact deletions_row fun name hn => .closing (h name hn)

end

/-- A part of a line: a text, or one of the two sides of a pair of tags. -/
inductive Fragment where
  | text (t : Text)
  | opening
  | closing
  deriving DecidableEq, Repr

namespace Fragment

def markup (p : TagPair) : Fragment → Text
  | text t => t
  | opening => p.opening
  | closing => p.closing

def plain : Fragment → Text
  | text t => t
  | opening | closing => []

theorem deletions {s : Style} (h : HasTagNames s) (f : Fragment) :
    Deletions (f.markup (TagPair.ofStyle s)) f.plain := by
  cases f with
  | text t => exact .refl
  | opening => exact deletions_opening h
  | closing => exact deletions_closing h

end Fragment

theorem strip_fragments {s : Style} (h : HasTagNames s) (fs : List Fragment) :
    strip (fs.flatMap (·.markup (TagPair.ofStyle s))) = strip (fs.flatMap (·.plain)) :=
  (Deletions.flatMap fun f _ => f.deletions h).strip_eq.symm

/-- The tags of a style leave no trace when they are stripped, whatever texts stand around them, in
whatever order and number they come. -/
theorem strip_generated (s : Style) (h : HasTagParts s) :
    (∀ a b, strip (a ++ (TagPair.ofStyle s).opening ++ b) = strip (a ++ b)) ∧
      (∀ a b, strip (a ++ (TagPair.ofStyle s).closing ++ b) = strip (a ++ b)) ∧
      (∀ t, strip (wrap s t) = strip t ∧ (MatchFree t → strip (wrap s t) = t)) ∧
      ∀ fs : List Fragment,
        strip (fs.flatMap (·.markup (TagPair.ofStyle s))) = strip (fs.flatMap (·.plain)) ∧
          (MatchFree (fs.flatMap (·.plain)) →
            strip (fs.flatMap (·.markup (TagPair.ofStyle s))) = fs.flatMap (·.plain)) := by
  have hf := strip_fragments h.hasTagNames
  have hw : ∀ t, strip (wrap s t) = strip t := fun t => by
    simpa [wrap, TagPair.wrap, Fragment.markup, Fragment.plain] using
      hf [.opening, .text t, .closing]
  refine ⟨fun a b => ?_, fun a b => ?_, fun t => ⟨hw t, fun ht => (hw t).trans ht.strip_eq⟩,
    fun fs => ⟨hf fs, fun hp => (hf fs).trans hp.strip_eq⟩⟩
  · simpa [Fragment.markup, Fragment.plain] using hf [.text a, .opening, .text b]
  · simpa [Fragment.markup, Fragment.plain] using hf [.text a, .closing, .text b]

/-- A shade with its hyphen left out, a name with braces that does not show, and texts that become
a tag or a colour sequence once the tags between them are gone. -/
theorem strip_generated_halves :
    let s : Style := ⟨[(['b'], .flag true), (['{', '}'], .null),
      (['f', 'g'], .color ['l', 'i', 'g', 'h', 't', 'r', 'e', 'd'])]⟩
    HasTagParts s ∧
      strip (['x', '{'] ++ (TagPair.ofStyle s).opening ++ ['}', 'y']) = ['x', 'y'] ∧
      strip (['x', '\x1b'] ++ (TagPair.ofStyle s).closing ++ ['[', '0', 'm', 'y']) = ['x', 'y'] ∧
      strip (wrap s ['{', '!', ' ']) = ['{', '!', ' '] := by
  intro s
  have h : HasTagParts s := by decide
  obtain ⟨ho, hc, hw, -⟩ := strip_generated s h
  exact ⟨h, (ho _ _).trans (by decide), (hc _ _).trans (by decide), (hw _).1.trans (by decide)⟩

/-! ## Built markup -/

def withoutBraces (t : Text) : Text := t.filter fun c => ¬ IsBrace c

theorem deletions_escapeChar (c : Char) : Deletions (escapeChar c) (withoutBraces [c]) := by
  by_cases h : IsBrace c
  · have hb : withoutBraces [c] = [] := by simp [withoutBraces, h]
    rw [hb]
    exact IsMatch.deletions (.inl h.isTag)
  · have hb : withoutBraces [c] = [c] := by simp [withoutBraces, h]
    rw [hb, escapeChar_of_not_isBrace h]

theorem withoutBraces_flatMap {α : Type} (l : List α) (f : α → Text) :
    withoutBraces (l.flatMap f) = l.flatMap fun x => withoutBraces (f x) := List.filter_flatMap

/-- Brace sequences are tags, and the rest of an escaped text stands as it is. -/
theorem deletions_escape (t : Text) : Deletions (escape t) (withoutBraces t) := by
  have h := Deletions.flatMap (l := t) fun c _ => deletions_escapeChar c
  rwa [← withoutBraces_flatMap, List.flatMap_singleton'] at h

theorem Step.deletions {st : Step} (h : ∀ s ∈ st.style?, HasTagNames s) :
    Deletions st.markup (withoutBraces st.plain) := by
  cases st with
  | text t => exact deletions_escape t
  | styled s t =>
    have hs : HasTagNames s := h s rfl
    have ho := (deletions_opening hs).append_both (deletions_escape t)
    simpa [Step.markup, Markup.styled, wrap, TagPair.wrap, Step.plain] using
      ho.append_both (deletions_closing hs)

theorem deletions_build {steps : List Step}
    (h : ∀ s ∈ steps.filterMap Step.style?, HasTagNames s) :
    Deletions (build steps).markup (withoutBraces (build steps).plain) := by
  rw [markup_build, plain_build, withoutBraces_flatMap]
  exact .flatMap fun st hst => Step.deletions fun s hs => h s (List.mem_filterMap.2 ⟨st, hst, hs⟩)

/-- Stripped or cleaned, built markup is its plain text without braces, stripped or cleaned. -/
theorem strip_build (steps : List Step) (h : ∀ s ∈ steps.filterMap Step.style?, HasTagNames s) :
    strip (build steps).markup = strip (withoutBraces (build steps).plain) ∧
      clean (build steps).markup = clean (withoutBraces (build steps).plain) := by
  have hs : strip (build steps).markup = strip (withoutBraces (build steps).plain) :=
    (deletions_build h).strip_eq.symm
  exact ⟨hs, congrArg Text.trim hs⟩

/-- A tag named like a brace sequence, a text that holds one, and a colour sequence whose parts come
from two steps with braces between them. -/
theorem strip_build_halves :
    let s : Style := ⟨[(['o', 'p', 'e', 'n'], .flag true), (['f', 'g'], .color [])]⟩
    let steps : List Step := [.text ['{', 'o', 'p', 'e', 'n', '}', ' ', '\x1b', '{'],
      .styled s ['}', '[', '3', '{', '1'], .text ['m', ' ']]
    (∀ s ∈ steps.filterMap Step.style?, HasTagNames s) ∧
      strip (build steps).markup = ['o', 'p', 'e', 'n', ' ', ' '] ∧
      clean (build steps).markup = ['o', 'p', 'e', 'n'] := by
  intro s steps
  have h : ∀ s ∈ steps.filterMap Step.style?, HasTagNames s := by decide
  obtain ⟨hs, hc⟩ := strip_build steps h
  exact ⟨h, hs.trans (by decide), hc.trans (by decide)⟩

end Termkit.Markup
