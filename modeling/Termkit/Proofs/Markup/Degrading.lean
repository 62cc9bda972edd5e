import Mathlib.Data.List.Basic
import Termkit.Proofs.Markup.Breaks
import Termkit.Proofs.Markup.Building
import Termkit.Proofs.Markup.Pieces
import Termkit.Proofs.Text.Degrading

/-!
# Degrading markup

All that markup adds to a text is steady: the matches of the stripper, the brace sequences, and the
tags of a style whose names and colours are printable. So a match stays a match when the text around
it is degraded, and a deletion stays a deletion (`Deletion.degrade`). Degrading may bring together a
match that was none before, but none is lost by stripping first (`strip_degrade`). Nor does
degrading make a brace or take one away, so that it does not matter whether texts are degraded
before they are built into markup or with it (`degrade_build`).
-/

namespace Termkit.Markup

open Text (columns? degrade degradeChar IsSteady IsPrintable Printable)

/-! ## Deletions -/

theorem isSteady_of_isMatchChar {c : Char} (h : isMatchChar c = true) : IsSteady columns? c := by
  rcases toNat_of_isMatchChar h with he | ⟨hl, hu⟩
  · refine .inl ?_
    simp [Text.isControl, he]
  · exact IsPrintable.isSteady ⟨by omega, by omega⟩

theorem IsMatch.degrade {m : Text} (h : IsMatch m) : degrade m = m :=
  Text.degrade_of_steady fun c hc => isSteady_of_isMatchChar (h.isMatchChar c hc)

theorem Deletion.degrade {t u : Text} (h : Deletion t u) : Deletion (degrade t) (degrade u) := by
  obtain ⟨x, m, y, rfl, rfl, hm⟩ := h
  refine ⟨Text.degrade x, m, Text.degrade y, ?_, Text.degrade_append x y, hm⟩
  rw [Text.degrade_append, Text.degrade_append, hm.degrade]

theorem Deletions.degrade {t u : Text} (h : Deletions t u) : Deletions (degrade t) (degrade u) :=
  h.lift Text.degrade fun _ _ => Deletion.degrade

/-- A text may be stripped before it is degraded, if it is stripped again. -/
theorem strip_degrade (t : Text) : strip (degrade t) = strip (degrade (strip t)) :=
  (strip_deletions t).degrade.strip_eq.symm

/-- A mark that goes leaves a tag, so that stripping first alone would not do. -/
example :
    let t : Text := ['{', 'b', 'o', '\u0301', 'l', 'd', '}', 'x']
    strip t = t ∧ strip (degrade t) = ['x'] := by decide +kernel

/-! ## Escaped texts -/

theorem IsBrace.isPrintable {c : Char} (h : IsBrace c) : IsPrintable c := by
  rcases h with rfl | rfl <;> decide

theorem IsBrace.printable_escapeChar {c : Char} (h : IsBrace c) : Printable (escapeChar c) := by
  rcases h with rfl | rfl <;> decide

theorem degrade_escapeChar (c : Char) :
    degrade (escapeChar c) = escape (degradeChar columns? c) := by
  by_cases hb : IsBrace c
  · have hc : degradeChar columns? c = [c] :=
      hb.isPrintable.isSteady.degradeChar Text.widthLaws_columns?
    rw [hb.printable_escapeChar.degrade, hc, escape_cons, escape_nil, List.append_nil]
  · rw [escapeChar_of_not_isBrace hb, Text.degrade_cons, Text.degrade_nil, List.append_nil]
    obtain ⟨-, e⟩ | ⟨-, e⟩ | ⟨-, -, -, e⟩ | ⟨-, -, -, e⟩ := Text.degradeChar_cases columns? c
    · rw [e]
      rfl
    · rw [e]
      rfl
    · rw [e]
      rfl
    · rw [e, escape_cons, escape_nil, List.append_nil, escapeChar_of_not_isBrace hb]

theorem degrade_escape (t : Text) : degrade (escape t) = escape (degrade t) := by
  induction t with
  | nil => rfl
  | cons c t ih =>
    rw [escape_cons, Text.degrade_append, Text.degrade_cons, escape_append, degrade_escapeChar, ih]

/-! ## Built markup -/

theorem printable_openTag {name : Text} (h : Printable name) : Printable (openTag name) :=
  List.forall_mem_cons.2
    ⟨by decide, List.forall_mem_append.2 ⟨h, List.forall_mem_singleton.2 (by decide)⟩⟩

theorem printable_closeTag {name : Text} (h : Printable name) : Printable (closeTag name) :=
  List.forall_mem_cons.2 ⟨by decide, List.forall_mem_cons.2
    ⟨by decide, List.forall_mem_append.2 ⟨h, List.forall_mem_singleton.2 (by decide)⟩⟩⟩

/-- The names that show in markup, and the colours, are printable. -/
def HasPrintableParts (s : Style) : Prop :=
  ∀ e ∈ s.entries, e.2.isActive = true → Printable e.1 ∧ ∀ c ∈ e.2.color?, Printable c

instance (s : Style) : Decidable (HasPrintableParts s) :=
  inferInstanceAs (Decidable (∀ e ∈ s.entries, _ → _ ∧ _))

section

variable {s : Style} (h : HasPrintableParts s)

include h

theorem printable_tagNames : ∀ name ∈ tagNames s, Printable name :=
  forall_mem_tagNames (p := IsPrintable) (by decide) h

theorem printable_opening : Printable (TagPair.ofStyle s).opening := by
  rw [ofStyle_eq]
  exact List.forall_mem_flatMap.2 fun name hn =>
    printable_openTag (printable_tagNames h name (List.mem_reverse.1 hn))

theorem printable_closing : Printable (TagPair.ofStyle s).closing := by
  rw [ofStyle_eq]
  exact List.forall_mem_flatMap.2 fun name hn =>
    printable_closeTag (printable_tagNames h name hn)

theorem degrade_styled (t : Text) : degrade (styled s t) = styled s (degrade t) := by
  simp only [styled, wrap, TagPair.wrap, Text.degrade_append, (printable_opening h).degrade,
    (printable_closing h).degrade, degrade_escape]

end

def Step.mapText (f : Text → Text) : Step → Step
  | text t => text (f t)
  | styled s t => styled s (f t)

theorem Step.degrade_markup {st : Step} (h : ∀ s ∈ st.style?, HasPrintableParts s) :
    degrade st.markup = (st.mapText degrade).markup := by
  cases st with
  | text t => exact degrade_escape t
  | styled s t => exact degrade_styled (h s rfl) t

theorem Step.degrade_plain (st : Step) : degrade st.plain = (st.mapText degrade).plain := by
  cases st <;> rfl

/-- Degrading goes through escaping, and through all that is built of texts and styles with
printable names and colours: markup and plain text are those that the same steps build of degraded
texts. -/
theorem degrade_build :
    (∀ t, degrade (escape t) = escape (degrade t)) ∧
      ∀ steps : List Step, (∀ s ∈ steps.filterMap Step.style?, HasPrintableParts s) →
        degrade (build steps).markup = (build (steps.map (.mapText degrade))).markup ∧
          degrade (build steps).plain = (build (steps.map (.mapText degrade))).plain := by
  refine ⟨degrade_escape, fun steps h => ?_⟩
  constructor
  · rw [markup_build, markup_build, Text.degrade_flatMap, List.flatMap_map]
    exact List.flatMap_congr fun st hst =>
      Step.degrade_markup fun s hs => h s (List.mem_filterMap.2 ⟨st, hst, hs⟩)
  · rw [plain_build, plain_build, Text.degrade_flatMap, List.flatMap_map]
    exact List.flatMap_congr fun st _ => st.degrade_plain

/-- A combining mark within braces that are escaped, wide and narrow characters beyond U+FFFF around
a tag, a name with a blank, and a wide name that does not show. -/
theorem degrade_build_marks :
    let s : Style := ⟨[(['f', ' ', 'g'], .color ['l', 'i', 'g', 'h', 't']), (['日'], .flag false)]⟩
    let steps : List Step := [.text ['{', 'b', '\u0301', '}', '日'], .styled s ['😀', '{', '𝐀', '\n']]
    let steps' : List Step :=
      [.text ['{', 'b', '}', '?', '?'], .styled s ['?', '?', '{', '?', '\n']]
    (∀ s ∈ steps.filterMap Step.style?, HasPrintableParts s) ∧
      degrade (build steps).markup = (build steps').markup ∧
      degrade (build steps).plain = (build steps').plain := by
  intro s steps steps'
  have h : ∀ s ∈ steps.filterMap Step.style?, HasPrintableParts s := by decide
  have hsteps : steps.map (.mapText degrade) = steps' := by decide +kernel
  have hbuild := degrade_build.2 steps h
  rw [hsteps] at hbuild
  exact ⟨h, hbuild⟩

end Termkit.Markup
