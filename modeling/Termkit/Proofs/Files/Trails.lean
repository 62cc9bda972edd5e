import Mathlib.Data.List.Basic
import Termkit.Proofs.Files.Places
import Termkit.Proofs.Files.Runs
import Termkit.Proofs.Files.Walk

/-!
# The way to a found path

A search that finds a path came to it by a way down (`Trail`): from the start through directories
that it listed and did not skip, each but the start a name in the listing before it that was
examined and may be entered, to a listing with the name it looks for (`IsRun.exists_trail`). Where
listings hold names of entries only, the found path is written as the start with these names behind
it and slashes between them, and so lies below the start (`search_found_below`).
-/

namespace Termkit.Files

/-- A name that an entry of a directory may be listed by: one or two dots among them. -/
def EntryName (name : Text) : Prop := name ≠ [] ∧ '/' ∉ name

instance (name : Text) : Decidable (EntryName name) := inferInstanceAs (Decidable (_ ∧ _))

theorem EntryName.head?_ne {name : Text} (h : EntryName name) : name.head? ≠ some '/' :=
  fun e => h.2 (List.mem_of_head? e)

/-! ## How a path below a path is written -/

namespace Path

variable {p : Path} {name : Text} {place : List Text}

/-- What is written between a path and a name that is joined to it. -/
def separator (p : Path) : Text :=
  if p.raw = [] ∨ p.raw.getLast? = some '/' then [] else ['/']

/-- The components of a path: the root, if the path begins there, and its parts. -/
def components (p : Path) : List Text := if p.isAbsolute then ['/'] :: p.parts else p.parts

theorem raw_join (hn : name.head? ≠ some '/') :
    (p.join name).raw = p.raw ++ p.separator ++ name := by
  unfold join separator
  rw [if_neg hn]
  split <;> simp

theorem separator_join (h : EntryName name) : (p.join name).separator = ['/'] := by
  unfold separator
  rw [raw_join h.head?_ne, if_neg]
  rintro (e | e)
  · exact h.1 (List.append_eq_nil_iff.1 e).2
  · rw [List.getLast?_append_of_ne_nil _ h.1] at e
    exact h.2 (List.mem_of_getLast? e)

/-- Only in front of the first name there may be a slash already. -/
theorem raw_below (h : ∀ name ∈ place, EntryName name) (hp : place ≠ []) :
    (p.below place).raw = p.raw ++ p.separator ++ ['/'].intercalate place := by
  induction place generalizing p with
  | nil => exact (hp rfl).elim
  | cons name rest ih =>
    obtain ⟨hn, h⟩ := List.forall_mem_cons.1 h
    cases rest with
    | nil => rw [below_cons, below_nil, raw_join hn.head?_ne, List.intercalate_singleton]
    | cons next rest =>
      rw [below_cons, ih h (List.cons_ne_nil _ _), raw_join hn.head?_ne, separator_join hn,
        List.intercalate_cons_cons]
      simp only [List.append_assoc]

theorem parts_prefix_join (hn : name.head? ≠ some '/') : p.parts <+: (p.join name).parts := by
  by_cases hp : p.raw = []
  · rw [(raw_eq_nil_iff.1 hp).2]
    exact List.nil_prefix
  · rw [parts_join_of_ne_nil hp hn]
    exact List.prefix_append _ _

theorem parts_prefix_below (h : ∀ name ∈ place, name.head? ≠ some '/') :
    p.parts <+: (p.below place).parts := by
  induction place generalizing p with
  | nil => exact List.prefix_refl _
  | cons name rest ih =>
    obtain ⟨hn, h⟩ := List.forall_mem_cons.1 h
    exact (parts_prefix_join hn).trans (ih h)

theorem components_prefix_below (h : ∀ name ∈ place, name.head? ≠ some '/') :
    p.components <+: (p.below place).components := by
  have hparts := parts_prefix_below (p := p) h
  unfold components
  rw [isAbsolute_below h]
  split
  · exact (List.prefix_cons_inj _).2 hparts
  · exact hparts

/-- An ordinary name is the last component of what it names. -/
theorem getLast?_components_join (h : OrdinaryName name) :
    (p.join name).components.getLast? = some name := by
  unfold components
  rw [parts_join h]
  split
  · rw [← List.cons_append, List.getLast?_concat]
  · exact List.getLast?_concat

end Path

/-! ## Ways down -/

/-- A way down to the name that is looked for: the names that lead there, and the calls that show
it. -/
inductive Trail (b : Probe) (target : Text) : Task → List Text → List Call → Prop where
  | listed {dir : Path} {all names : List Text} {calls : List Call} : b.skips dir = false →
      Trail b target (.names dir all) names calls →
      Trail b target (.directory dir) names (.list dir (some all) :: calls)
  | here {dir : Path} {all : List Text} : target ∈ all → Trail b target (.names dir all) [] []
  | down {dir : Path} {all names : List Text} {name : Text} {k : Kind} {calls : List Call} :
      name ∈ all → k.isDirectory = true → k.isLink = false →
      Trail b target (.directory (dir.join name)) names calls →
      Trail b target (.names dir all) (name :: names) (.kind (dir.join name) (some k) :: calls)

variable {b : Probe} {target : Text} {task : Task} {names : List Text} {calls : List Call}

/-- A way down from some names of a listing is one from all of them. -/
theorem Trail.cons {dir : Path} {rest : List Text}
    (h : Trail b target (.names dir rest) names calls) (name : Text) :
    Trail b target (.names dir (name :: rest)) names calls := by
  cases h with
  | here ht => exact .here (List.mem_cons_of_mem _ ht)
  | down hn hd hl ht => exact .down (List.mem_cons_of_mem _ hn) hd hl ht

/-- What holds of all names in the listings holds of the names on the way and of the last one. -/
theorem Trail.forall_names (h : Trail b target task names calls) {P : Text → Prop}
    (hc : ∀ dir all, .list dir (some all) ∈ calls → ∀ name ∈ all, P name)
    (ht : ∀ dir all, task = .names dir all → ∀ name ∈ all, P name) :
    ∀ name ∈ names ++ [target], P name := by
  induction h with
  | listed _ _ ih =>
    refine ih (fun dir all hm => hc dir all (List.mem_cons_of_mem _ hm)) ?_
    rintro _ _ ⟨⟩
    exact hc _ _ List.mem_cons_self
  | here htarget =>
    rw [List.nil_append, List.forall_mem_singleton]
    exact ht _ _ rfl _ htarget
  | down hn _ _ _ ih =>
    rw [List.cons_append, List.forall_mem_cons]
    exact ⟨ht _ _ rfl _ hn, ih (fun dir all hm => hc dir all (List.mem_cons_of_mem _ hm)) nofun⟩

variable {σ : Type} {fs : FileSystem σ} {s : σ} {r : Run σ} {p : Path}

/-- What is found was come to by a way down, in this order, whatever else was asked between. -/
theorem IsRun.exists_trail (h : IsRun fs b target task s r) (hp : r.status = .found p) :
    ∃ names calls, Trail b target task names calls ∧ calls.Sublist r.log ∧
      p = task.dir.below (names ++ [target]) := by
  induction h with
  | cut | skipped | unlisted | done => cases hp
  | listed hs _ _ ih =>
    obtain ⟨names, calls, ht, hsub, rfl⟩ := ih hp
    exact ⟨names, _, .listed hs ht, hsub.cons_cons _, rfl⟩
  | found =>
    cases hp
    exact ⟨[], [], .here List.mem_cons_self, List.nil_sublist _, rfl⟩
  | passed _ _ _ _ ih =>
    obtain ⟨names, calls, ht, hsub, rfl⟩ := ih hp
    exact ⟨names, calls, ht.cons _, hsub.cons _, rfl⟩
  | returned _ _ _ _ _ _ _ ih =>
    obtain ⟨names, calls, ht, hsub, rfl⟩ := ih hp
    exact ⟨names, calls, ht.cons _, (hsub.trans (List.sublist_append_right _ _)).cons _, rfl⟩
  | stopped _ _ he _ _ ihb =>
    obtain ⟨names, calls, ht, hsub, rfl⟩ := ihb hp
    obtain ⟨k, rfl, hd, hl⟩ := exists_of_canEnter he
    exact ⟨_ :: names, _, .down List.mem_cons_self hd hl ht, hsub.cons_cons _, rfl⟩

/-- Every name that the file system lists is one of an entry. -/
def FileSystem.ListsEntries (fs : FileSystem σ) : Prop :=
  ∀ p s all, (fs.list? p s).1 = some all → ∀ name ∈ all, EntryName name

/-- A found path is the start, a slash unless the start is empty or ends in one, and the names on a
way down to the name that was looked for, with single slashes between them. So it lies below the
start, from where it can be called, and an ordinary name is its last component. -/
theorem search_found_below (fs : FileSystem σ) (hfs : fs.ListsEntries) (b : Probe) (start : Path)
    (target : Text) (s : σ) (r : Run σ) (hr : b.Ends fs target start s r) (p : Path)
    (hp : r.status = .found p) :
    (∃ names calls, Trail b target (.directory start) names calls ∧ calls.Sublist r.log ∧
      p.raw = start.raw ++ start.separator ++ ['/'].intercalate (names ++ [target])) ∧
      start.components <+: p.components ∧ (start.below? p).isSome = true ∧
      (OrdinaryName target → p.components.getLast? = some target) := by
  obtain ⟨names, calls, ht, hsub, hpath⟩ := hr.isRun.exists_trail hp
  have hnames : ∀ name ∈ names ++ [target], EntryName name := by
    refine ht.forall_names (fun dir all hm => ?_) nofun
    obtain ⟨s', hl⟩ := hr.isRun.dialogue.exists_list (hsub.subset hm)
    exact hfs dir s' all hl
  have hraw : p.raw = start.raw ++ start.separator ++ ['/'].intercalate (names ++ [target]) := by
    rw [hpath]
    exact Path.raw_below hnames (by simp)
  refine ⟨⟨names, calls, ht, hsub, hraw⟩, ?_, ?_, fun ho => ?_⟩
  · rw [hpath]
    exact Path.components_prefix_below fun name hn => (hnames name hn).head?_ne
  · rw [List.append_assoc] at hraw
    rw [Path.below?, List.isPrefixOf?_eq_some_iff_append_eq.2 hraw.symm]
    rfl
  · rw [hpath, Path.below, List.foldl_append]
    exact Path.getLast?_components_join ho

/-- A start with a slash at its end, a link that would have led to the name, and a way down through
the directory above. -/
theorem search_found_below_dots :
    let p (s : String) : Path := ⟨s.toList⟩
    let a : Answers :=
      ⟨fun q => if q = p "/r/" then some ["l".toList, "..".toList]
          else if q = p "/r/.." then some [".".toList, "t".toList] else none,
        fun q => if q = p "/r/l" then some ⟨true, true⟩ else some .directory⟩
    a.fileSystem.ListsEntries ∧ OrdinaryName "t".toList ∧
      ∃ r, Probe.new.Ends a.fileSystem "t".toList (p "/r/") () r ∧
        r.status = .found (p "/r/../t") ∧
        (∃ names calls, Trail .new "t".toList (.directory (p "/r/")) names calls ∧
          calls.Sublist r.log ∧ (p "/r/../t").raw = "/r/".toList ++ (p "/r/").separator ++
            ['/'].intercalate (names ++ ["t".toList])) ∧
        (p "/r/").components <+: (p "/r/../t").components ∧
        (p "/r/../t").components.getLast? = some "t".toList := by
  intro p a
  have hfs : a.fileSystem.ListsEntries := by
    intro q _ all h
    change (if q = p "/r/" then some ["l".toList, "..".toList]
      else if q = p "/r/.." then some [".".toList, "t".toList] else none) = some all at h
    split at h
    · cases h
      decide
    · split at h
      · cases h
        decide
      · cases h
  have ho : OrdinaryName "t".toList := by decide
  have hst : (Probe.new.search a.fileSystem "t".toList 3 (p "/r/") ()).status =
      .found (p "/r/../t") := by decide
  have hends := (Probe.new.isRun_search a.fileSystem "t".toList 3 (p "/r/") ()).ends
    (by rw [hst]; exact nofun)
  obtain ⟨htrail, hbelow, -, hlast⟩ := search_found_below a.fileSystem hfs .new (p "/r/")
    "t".toList () _ hends _ hst
  exact ⟨hfs, ho, _, hends, hst, htrail, hbelow, hlast ho⟩

end Termkit.Files
