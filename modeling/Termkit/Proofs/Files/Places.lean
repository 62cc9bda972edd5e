import Termkit.Files.Path

/-!
# Places below a path

Joining a name takes no notice of how a path is spelled (`same_join`), be the name what it may. A
place below a path is the list of names that lead to it. Where each of them is an ordinary name,
one without slashes that is neither empty nor a dot, joining a name adds one part (`parts_join`). So
two places below a path are the same path only if they are the same place (`same_below`).
-/

namespace Termkit.Files

namespace Path

def below (p : Path) (place : List Text) : Path := place.foldl join p

@[simp] theorem below_nil (p : Path) : p.below [] = p := rfl

@[simp] theorem below_cons (p : Path) (name : Text) (place : List Text) :
    p.below (name :: place) = (p.join name).below place := rfl

/-! ## Segments -/

theorem segments_ne_nil (t : Text) : segments t ≠ [] := by
  fun_cases segments t <;> simp_all

theorem segments_of_not_mem {t : Text} (h : '/' ∉ t) : segments t = [t] := by
  induction t with
  | nil => rfl
  | cons c t ih =>
    have hc : c ≠ '/' := (List.ne_of_not_mem_cons h).symm
    rw [segments, ih (List.not_mem_of_not_mem_cons h)]
    exact hc

theorem segments_cons {c : Char} (hc : c ≠ '/') {t s : Text} {rest : List Text}
    (h : segments t = s :: rest) : segments (c :: t) = (c :: s) :: rest := by
  rw [segments, h]
  exact hc

theorem segments_append_slash (s t : Text) :
    segments (s ++ '/' :: t) = segments s ++ segments t := by
  induction s with
  | nil => rfl
  | cons c s ih =>
    obtain ⟨first, rest, hs⟩ := List.exists_cons_of_ne_nil (segments_ne_nil s)
    by_cases hc : c = '/'
    · subst hc
      rw [List.cons_append, segments, segments, ih, List.cons_append]
    · rw [hs] at ih
      rw [List.cons_append, segments_cons hc ih, segments_cons hc hs]
      rfl

/-! ## Parts -/

theorem parts_append {p q : Path} {more : List Text}
    (h : segments q.raw = segments p.raw ++ more) : q.parts = p.parts ++ more.filter isPart := by
  obtain ⟨first, rest, hs⟩ := List.exists_cons_of_ne_nil (segments_ne_nil p.raw)
  unfold parts
  rw [h, hs, List.cons_append]
  split
  · next e =>
    obtain ⟨rfl, rfl⟩ := List.cons.inj e
    simp
  · next e =>
    split
    · next e' =>
      obtain ⟨rfl, rfl⟩ := List.cons.inj e'
      exact (e _ rfl).elim
    · rw [← List.cons_append, List.filter_append]

theorem parts_ne_nil {p : Path} (ha : p.isAbsolute = false) (hp : p.raw ≠ []) : p.parts ≠ [] := by
  obtain ⟨c, r, hr⟩ := List.exists_cons_of_ne_nil hp
  have hc : c ≠ '/' := by
    rintro rfl
    simp [isAbsolute, hr] at ha
  obtain ⟨s, rest, hs⟩ := List.exists_cons_of_ne_nil (segments_ne_nil r)
  unfold parts
  rw [hr, segments_cons hc hs]
  split
  · exact List.cons_ne_nil _ _
  · next e =>
    have hpart : isPart (c :: s) = true := by
      have hdot : c :: s ≠ ['.'] := fun hd => e rest (by rw [hd])
      simpa [isPart] using hdot
    rw [List.filter_cons_of_pos hpart]
    exact List.cons_ne_nil _ _

/-- The empty path is the relative one without parts. -/
theorem raw_eq_nil_iff {p : Path} : p.raw = [] ↔ p.isAbsolute = false ∧ p.parts = [] := by
  constructor
  · intro h
    obtain rfl : p = ⟨[]⟩ := congrArg Path.mk h
    exact ⟨rfl, rfl⟩
  · rintro ⟨ha, hp⟩
    exact Decidable.byContradiction fun h => parts_ne_nil ha h hp

/-! ## Joining -/

section

variable {p q : Path} {name : Text}

theorem join_of_absolute (hn : name.head? = some '/') : p.join name = ⟨name⟩ := if_pos hn

theorem join_of_nil (hp : p.raw = []) : p.join name = ⟨name⟩ := by
  simp [join, hp]

theorem isAbsolute_join (hn : name.head? ≠ some '/') :
    (p.join name).isAbsolute = p.isAbsolute := by
  have hname : (name.head? == some '/') = false := by simp [hn]
  unfold join isAbsolute
  rw [if_neg hn]
  split
  · next hp =>
    cases hr : p.raw with
    | nil => simp [hname]
    | cons c r => simp
  · next hp =>
    cases hr : p.raw with
    | nil => exact (hp (.inl hr)).elim
    | cons c r => rfl

/-- A relative name adds its parts to a path that is not empty, and a dot in front of it is none of
them. -/
theorem parts_join_of_ne_nil (hp : p.raw ≠ []) (hn : name.head? ≠ some '/') :
    (p.join name).parts = p.parts ++ (segments name).filter isPart := by
  unfold join
  rw [if_neg hn]
  split
  · next hslash =>
    -- the slash at the end adds an empty segment, in whose place the name comes
    obtain ⟨s, hs⟩ := List.getLast?_eq_some_iff.1 (hslash.resolve_left hp)
    have hsegments : segments p.raw = segments s ++ [[]] := by
      rw [hs, segments_append_slash]
      rfl
    have hp' : p.parts = (⟨s⟩ : Path).parts ++ [] := parts_append hsegments
    rw [hp', List.append_nil]
    refine parts_append ?_
    rw [hs, List.append_assoc, List.singleton_append, segments_append_slash]
  · exact parts_append (segments_append_slash p.raw name)

/-- The same path in another spelling is the same path with a name joined to it, whatever the
name. -/
theorem same_join (h : p.same q = true) (name : Text) : (p.join name).same (q.join name) = true := by
  by_cases hn : name.head? = some '/'
  · rw [join_of_absolute hn, join_of_absolute hn]
    exact same_refl _
  · obtain ⟨ha, hparts⟩ := same_iff.1 h
    by_cases hp : p.raw = []
    · -- no other spelling of the empty path is there for a dot in front to be told apart from
      have hq : q.raw = [] := by rwa [raw_eq_nil_iff, ← ha, ← hparts, ← raw_eq_nil_iff]
      rw [join_of_nil hp, join_of_nil hq]
      exact same_refl _
    · have hq : q.raw ≠ [] := by rwa [Ne, raw_eq_nil_iff, ← ha, ← hparts, ← raw_eq_nil_iff]
      rw [same_iff, isAbsolute_join hn, isAbsolute_join hn, parts_join_of_ne_nil hp hn,
        parts_join_of_ne_nil hq hn]
      exact ⟨ha, by rw [hparts]⟩

end

end Path

section

variable {p : Path} {name : Text} (h : OrdinaryName name)

include h

theorem OrdinaryName.segments_eq : Path.segments name = [name] := Path.segments_of_not_mem h.2.1

theorem OrdinaryName.isPart : Path.isPart name = true := by
  simp [Path.isPart, h.1, h.2.2.1]

theorem OrdinaryName.head?_ne : name.head? ≠ some '/' :=
  fun e => h.2.1 (List.mem_of_head? e)

namespace Path

theorem parts_join : (p.join name).parts = p.parts ++ [name] := by
  have hname : [name].filter Path.isPart = [name] := List.filter_cons_of_pos h.isPart
  by_cases hp : p.raw = []
  · rw [join_of_nil hp, (raw_eq_nil_iff.1 hp).2, List.nil_append, parts, h.segments_eq]
    split
    · next e => exact (h.2.2.1 (List.cons.inj e).1).elim
    · exact hname
  · rw [parts_join_of_ne_nil hp h.head?_ne, h.segments_eq, hname]

end Path

end

/-! ## Places -/

namespace Path

variable {p : Path} {place place' : List Text}

theorem parts_below (h : ∀ name ∈ place, OrdinaryName name) :
    (p.below place).parts = p.parts ++ place := by
  induction place generalizing p with
  | nil => simp
  | cons name place ih =>
    obtain ⟨hn, h⟩ := List.forall_mem_cons.1 h
    rw [below_cons, ih h, parts_join hn, List.append_assoc, List.singleton_append]

theorem isAbsolute_below (h : ∀ name ∈ place, name.head? ≠ some '/') :
    (p.below place).isAbsolute = p.isAbsolute := by
  induction place generalizing p with
  | nil => rfl
  | cons name place ih =>
    obtain ⟨hn, h⟩ := List.forall_mem_cons.1 h
    rw [below_cons, ih h, isAbsolute_join hn]

/-- Places below a path have paths of their own. -/
theorem same_below (h : ∀ name ∈ place, OrdinaryName name)
    (h' : ∀ name ∈ place', OrdinaryName name) :
    (p.below place).same (p.below place') = true ↔ place = place' := by
  have ha := isAbsolute_below (p := p) fun name hn => (h name hn).head?_ne
  have ha' := isAbsolute_below (p := p) fun name hn => (h' name hn).head?_ne
  simp [same, parts_below h, parts_below h', ha, ha']

end Path

end Termkit.Files
