import Termkit.Markup.Tag
import Termkit.Markup.TagPair

/-!
# Tags and colour sequences as sets of texts

`IsTag` and `IsColor` say which texts are matches, without a scanner. `Finds length? P` says that
a scanner measures the text of `P` at the front of its input; the scanners of tags and of colour
sequences do. A match begins with a brace or ESC and holds neither further on
(`IsMatch.uncons`), so that two matches never overlap: of two in one text, they are the same, or
one ends before the other begins (`IsMatch.append_eq_append`).
-/

namespace Termkit.Markup

def IsTagName (name : Text) : Prop := ∀ c ∈ name, isTagChar c = true

instance (name : Text) : Decidable (IsTagName name) := List.decidableBAll _ name

/-- A slash is no tag character, so that no opening tag looks like a closing one. -/
theorem IsTagName.ne_slash {c : Char} {name : Text} (h : IsTagName (c :: name)) : c ≠ '/' := by
  rintro rfl
  exact absurd (h '/' List.mem_cons_self) (by decide)

/-- The texts that are tags as a whole. -/
inductive IsTag : Text → Prop where
  | opening {name : Text} : IsTagName name → IsTag (openTag name)
  | closing {name : Text} : IsTagName name → IsTag (closeTag name)

theorem isTag_openMark : IsTag openMark :=
  show IsTag (openTag ['o', 'p', 'e', 'n']) from .opening (by decide)

theorem isTag_closeMark : IsTag closeMark :=
  show IsTag (openTag ['c', 'l', 'o', 's', 'e']) from .opening (by decide)

/-- The texts that are colour sequences as a whole. -/
inductive IsColor : Text → Prop where
  | mk {ps : Text} : (∀ c ∈ ps, isParameter c = true) → IsColor ('\x1b' :: '[' :: (ps ++ ['m']))

def IsMatch (m : Text) : Prop := IsTag m ∨ IsColor m

/-! ## Scanners -/

/-- The run of characters from `p` and the character that ends it. -/
theorem runLength?_eq_some {p : Char → Bool} {stop : Char} (hs : p stop = false) {t : Text}
    {n : Nat} : runLength? p stop t = some n ↔
      ∃ run rest, t = run ++ stop :: rest ∧ (∀ c ∈ run, p c = true) ∧ n = run.length + 1 := by
  induction t generalizing n with
  | nil => simp [runLength?]
  | cons c r ih =>
    unfold runLength?
    constructor
    · intro h
      split at h
      · next e =>
        cases h
        exact ⟨[], r, by rw [e]; rfl, by simp, rfl⟩
      · split at h
        · next hp =>
          obtain ⟨k, hk, rfl⟩ := Option.map_eq_some_iff.1 h
          obtain ⟨run, rest, rfl, hrun, rfl⟩ := ih.1 hk
          exact ⟨c :: run, rest, rfl, List.forall_mem_cons.2 ⟨hp, hrun⟩, rfl⟩
        · cases h
    · rintro ⟨run, rest, ht, hrun, rfl⟩
      cases run with
      | nil => simp_all
      | cons d run =>
        obtain ⟨rfl, rfl⟩ := List.cons.inj ht
        obtain ⟨hc, hrun⟩ := List.forall_mem_cons.1 hrun
        have hne : c ≠ stop := by rintro rfl; simp_all
        rw [if_neg hne, if_pos hc, ih.2 ⟨run, rest, rfl, hrun, rfl⟩]
        rfl

theorem runLength?_append (p : Char → Bool) (stop : Char) (hs : p stop = false) {run : Text}
    (h : ∀ c ∈ run, p c = true) (rest : Text) :
    runLength? p stop (run ++ stop :: rest) = some (run.length + 1) :=
  (runLength?_eq_some hs).2 ⟨run, rest, rfl, h, rfl⟩

/-- `length?` measures the text of `P` at the front, if there is one, and there is at most one. -/
structure Finds (length? : Text → Option Nat) (P : Text → Prop) : Prop where
  sound {t : Text} {n : Nat} : length? t = some n → ∃ m r, t = m ++ r ∧ P m ∧ m.length = n
  complete {m : Text} (r : Text) : P m → length? (m ++ r) = some m.length

namespace Finds

variable {length? : Text → Option Nat} {P : Text → Prop}

theorem eq_none (F : Finds length? P) {t : Text} :
    length? t = none ↔ ∀ m r, t = m ++ r → ¬ P m := by
  constructor
  · rintro h m r rfl hm
    rw [F.complete r hm] at h
    cases h
  · intro h
    cases e : length? t with
    | none => rfl
    | some n =>
      obtain ⟨m, r, ht, hm, -⟩ := F.sound e
      exact (h m r ht hm).elim

theorem prefix_unique (F : Finds length? P) {m m' r r' : Text} (hm : P m) (hm' : P m')
    (h : m ++ r = m' ++ r') : m = m' ∧ r = r' := by
  have hl : m.length = m'.length := by
    have := F.complete r hm
    rw [h, F.complete r' hm'] at this
    exact (Option.some.inj this).symm
  exact List.append_inj h hl

end Finds

theorem finds_tag : Finds tagLength? IsTag where
  sound := by
    intro t n h
    unfold tagLength? at h
    split at h
    · next r =>
      obtain ⟨k, hk, rfl⟩ := Option.map_eq_some_iff.1 h
      obtain ⟨name, rest, rfl, hn, rfl⟩ := (runLength?_eq_some rfl).1 hk
      exact ⟨closeTag name, rest, by simp [closeTag], .closing hn, by simp [closeTag]⟩
    · next r _ =>
      obtain ⟨k, hk, rfl⟩ := Option.map_eq_some_iff.1 h
      obtain ⟨name, rest, rfl, hn, rfl⟩ := (runLength?_eq_some rfl).1 hk
      exact ⟨openTag name, rest, by simp [openTag], .opening hn, by simp [openTag]⟩
    · cases h
  complete := by
    intro m r hm
    cases hm with
    | @opening name hn =>
      have hrun := runLength?_append isTagChar '}' rfl hn r
      have ht : openTag name ++ r = '{' :: (name ++ '}' :: r) := by simp [openTag]
      rw [ht]
      unfold tagLength?
      split
      · next e =>
        cases name with
        | nil => cases e
        | cons c name => exact (hn.ne_slash (List.cons.inj (List.cons.inj e).2).1).elim
      · next e =>
        cases e
        simp [hrun, openTag]
      · next h => exact (h _ rfl).elim
    | @closing name hn =>
      have hrun := runLength?_append isTagChar '}' rfl hn r
      have ht : closeTag name ++ r = '{' :: '/' :: (name ++ '}' :: r) := by simp [closeTag]
      rw [ht]
      simp [tagLength?, hrun, closeTag]

theorem finds_color : Finds colorLength? IsColor where
  sound := by
    intro t n h
    unfold colorLength? at h
    split at h
    · next r =>
      obtain ⟨k, hk, rfl⟩ := Option.map_eq_some_iff.1 h
      obtain ⟨ps, rest, rfl, hp, rfl⟩ := (runLength?_eq_some rfl).1 hk
      exact ⟨'\x1b' :: '[' :: (ps ++ ['m']), rest, by simp, .mk hp, by simp⟩
    · cases h
  complete := by
    intro m r hm
    cases hm with
    | @mk ps hp =>
      simp [colorLength?, runLength?_append isParameter 'm' rfl hp r]

/-! ## Matches in a text -/

/-- The characters that a match begins with. -/
def IsLead (c : Char) : Prop := c = '{' ∨ c = '\x1b'

instance (c : Char) : Decidable (IsLead c) := inferInstanceAs (Decidable (_ ∨ _))

theorem not_isLead {p : Char → Bool} (ho : p '{' = false) (he : p '\x1b' = false) {c : Char}
    (hc : p c = true) : ¬ IsLead c := by
  rintro (rfl | rfl)
  · rw [ho] at hc
    cases hc
  · rw [he] at hc
    cases hc

/-- A match is a lead and at least one character more, none of which is a lead. -/
theorem IsMatch.uncons {m : Text} (h : IsMatch m) :
    ∃ c body, m = c :: body ∧ IsLead c ∧ body ≠ [] ∧ ∀ d ∈ body, ¬ IsLead d := by
  rcases h with (@⟨name, hn⟩ | @⟨name, hn⟩) | @⟨ps, hp⟩
  · have hname : ∀ d ∈ name, ¬ IsLead d := fun d hd => not_isLead rfl rfl (hn d hd)
    refine ⟨_, _, rfl, .inl rfl, by simp, ?_⟩
    exact List.forall_mem_append.2 ⟨hname, List.forall_mem_singleton.2 (by decide)⟩
  · have hname : ∀ d ∈ name, ¬ IsLead d := fun d hd => not_isLead rfl rfl (hn d hd)
    refine ⟨_, _, rfl, .inl rfl, by simp, List.forall_mem_cons.2 ⟨by decide, ?_⟩⟩
    exact List.forall_mem_append.2 ⟨hname, List.forall_mem_singleton.2 (by decide)⟩
  · have hps : ∀ d ∈ ps, ¬ IsLead d := fun d hd => not_isLead rfl rfl (hp d hd)
    refine ⟨_, _, rfl, .inr rfl, by simp, List.forall_mem_cons.2 ⟨by decide, ?_⟩⟩
    exact List.forall_mem_append.2 ⟨hps, List.forall_mem_singleton.2 (by decide)⟩

theorem IsMatch.two_le_length {m : Text} (h : IsMatch m) : 2 ≤ m.length := by
  obtain ⟨c, body, rfl, -, hb, -⟩ := h.uncons
  have := List.length_pos_iff.2 hb
  simp only [List.length_cons]
  omega

theorem IsMatch.prefix_unique {m m' r r' : Text} (hm : IsMatch m) (hm' : IsMatch m')
    (h : m ++ r = m' ++ r') : m = m' ∧ r = r' := by
  rcases hm with hm | hm <;> rcases hm' with hm' | hm'
  · exact finds_tag.prefix_unique hm hm' h
  · cases hm <;> cases hm' <;> simp [openTag, closeTag] at h
  · cases hm
    cases hm' <;> simp [openTag, closeTag] at h
  · exact finds_color.prefix_unique hm hm' h

/-- A match at the front of a text is the match that follows `a`, or ends before it begins. -/
theorem IsMatch.append_eq_append {m m' a r r' : Text} (hm : IsMatch m) (hm' : IsMatch m')
    (h : m ++ r = a ++ (m' ++ r')) :
    (a = [] ∧ m = m' ∧ r = r') ∨ ∃ b, a = m ++ b ∧ r = b ++ (m' ++ r') := by
  rcases List.append_eq_append_iff.1 h with ⟨b, ha, hr⟩ | ⟨b, hb, hr⟩
  · exact .inr ⟨b, ha, hr⟩
  · cases a with
    | nil => exact .inl ⟨rfl, hm.prefix_unique hm' h⟩
    | cons c a =>
      cases b with
      | nil =>
        refine .inr ⟨[], ?_, hr.symm⟩
        rw [hb, List.append_nil, List.append_nil]
      | cons d b =>
        -- the lead of the second match would stand inside the first
        obtain ⟨_, body, e, -, -, hbody⟩ := hm.uncons
        obtain ⟨_, body', rfl, hlead, -, -⟩ := hm'.uncons
        obtain ⟨rfl, -⟩ := List.cons.inj hr
        rw [hb] at e
        obtain ⟨-, rfl⟩ := List.cons.inj e
        exact (hbody _ (by simp) hlead).elim

end Termkit.Markup
