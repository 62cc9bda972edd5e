import Mathlib.Data.List.Nodup
import Termkit.Proofs.Files.Tree

/-!
# What a log asks about

A log lists some paths and examines others. In a tree these are the paths of places, and `Visits`
says that the places differ from one another: directories that are listed, entries that are
examined. It holds of a log that is put together as a search does (`Visits.list`, `Visits.entry`),
because two entries of a directory have different names. Then no path of the tree comes twice, in
whatever spelling (`Distinct.timesAt_le`).
-/

namespace Termkit.Files

def pathsListed (log : List Call) : List Path :=
  log.filterMap fun
    | .list p _ => some p
    | .kind _ _ => none

def pathsExamined (log : List Call) : List Path :=
  log.filterMap fun
    | .list _ _ => none
    | .kind p _ => some p

section

variable (p : Path) (log log' : List Call)

@[simp] theorem pathsListed_nil : pathsListed [] = [] := rfl

@[simp] theorem pathsListed_list (answer : Option (List Text)) :
    pathsListed (.list p answer :: log) = p :: pathsListed log := rfl

@[simp] theorem pathsListed_kind (answer : Option Kind) :
    pathsListed (.kind p answer :: log) = pathsListed log := rfl

@[simp] theorem pathsListed_append :
    pathsListed (log ++ log') = pathsListed log ++ pathsListed log' :=
  List.filterMap_append

@[simp] theorem pathsExamined_nil : pathsExamined [] = [] := rfl

@[simp] theorem pathsExamined_list (answer : Option (List Text)) :
    pathsExamined (.list p answer :: log) = pathsExamined log := rfl

@[simp] theorem pathsExamined_kind (answer : Option Kind) :
    pathsExamined (.kind p answer :: log) = p :: pathsExamined log := rfl

@[simp] theorem pathsExamined_append :
    pathsExamined (log ++ log') = pathsExamined log ++ pathsExamined log' :=
  List.filterMap_append

end

/-- How often a path is among others, in whatever spelling. -/
def timesAt (p : Path) (paths : List Path) : Nat := paths.countP (·.same p)

/-! ## Places in a tree -/

namespace Tree

variable {p : Path} {name : Text} {t sub : Tree} {entries : List (Text × Tree)} {P : Tree → Prop}
  {place : List Text} {places places' : List (List Text)}

/-- A place in the entries begins with one of their names. -/
theorem At.mem_names (h : (directory entries).At (name :: place) t) :
    name ∈ entries.map (·.1) := by
  cases h with
  | inside he _ => exact List.mem_map_of_mem he

theorem At.cons_of_ne_nil (h : (directory entries).At place t) (hp : place ≠ [])
    (e : Text × Tree) : (directory (e :: entries)).At place t := by
  cases h with
  | here => exact (hp rfl).elim
  | inside he h => exact .inside (List.mem_cons_of_mem _ he) h

/-- Different places of the tree, at each of which stands what `P` says. -/
structure Distinct (t : Tree) (P : Tree → Prop) (places : List (List Text)) : Prop where
  nodup : places.Nodup
  at_place : ∀ place ∈ places, ∃ sub, t.At place sub ∧ P sub

theorem Distinct.nil (t : Tree) (P : Tree → Prop) : t.Distinct P [] := ⟨.nil, by simp⟩

theorem Distinct.root (d : t.Distinct P places) (h : [] ∉ places) (ht : P t) :
    t.Distinct P ([] :: places) where
  nodup := List.nodup_cons.2 ⟨h, d.nodup⟩
  at_place := List.forall_mem_cons.2 ⟨⟨t, .here t, ht⟩, d.at_place⟩

/-- Places in the first entry differ from places in the entries behind it. -/
theorem Distinct.append (d : sub.Distinct P places) (d' : (directory entries).Distinct P places')
    (hn : name ∉ entries.map (·.1)) (h : [] ∉ places') :
    (directory ((name, sub) :: entries)).Distinct P (places.map (name :: ·) ++ places') where
  nodup := by
    refine List.Nodup.append (d.nodup.map fun _ _ e => (List.cons.inj e).2) d'.nodup ?_
    intro place hp hp'
    obtain ⟨place, -, rfl⟩ := List.mem_map.1 hp
    obtain ⟨_, ht, -⟩ := d'.at_place _ hp'
    exact hn ht.mem_names
  at_place := by
    refine List.forall_mem_append.2 ⟨?_, fun place hp => ?_⟩
    · rw [List.forall_mem_map]
      intro place hp
      obtain ⟨t, ht, hP⟩ := d.at_place place hp
      exact ⟨t, .inside List.mem_cons_self ht, hP⟩
    · obtain ⟨t, ht, hP⟩ := d'.at_place place hp
      exact ⟨t, ht.cons_of_ne_nil (ne_of_mem_of_not_mem hp h) _, hP⟩

theorem Distinct.ordinaryName (d : t.Distinct P places) (hw : t.WellNamed) :
    ∀ place ∈ places, ∀ name ∈ place, OrdinaryName name := by
  intro place hp
  obtain ⟨sub, ht, -⟩ := d.at_place place hp
  exact ht.ordinaryName hw

theorem Distinct.timesAt_eq (d : t.Distinct P places) (hw : t.WellNamed)
    (h : ∀ name ∈ place, OrdinaryName name) :
    timesAt (p.below place) (places.map p.below) = places.count place := by
  rw [timesAt, List.countP_map, List.count]
  refine List.countP_congr fun l hl => ?_
  rw [Function.comp_apply, Path.same_below (d.ordinaryName hw l hl) h, beq_iff_eq]

/-- A path of the tree is among those of different places at most once. -/
theorem Distinct.timesAt_le (d : t.Distinct P places) (hw : t.WellNamed) (h : t.At place sub) :
    timesAt (p.below place) (places.map p.below) ≤ 1 := by
  rw [d.timesAt_eq hw (h.ordinaryName hw)]
  exact List.nodup_iff_count_le_one.1 d.nodup place

theorem Distinct.timesAt_eq_one (d : t.Distinct P places) (hw : t.WellNamed) (h : t.At place sub)
    (hp : p.below place ∈ places.map p.below) :
    timesAt (p.below place) (places.map p.below) = 1 := by
  have hpos : 0 < timesAt (p.below place) (places.map p.below) :=
    List.countP_pos_iff.2 ⟨_, hp, by simp [Path.same]⟩
  have := d.timesAt_le (p := p) hw h
  omega

/-- Where something else stands in the tree than at the places, its path is not among theirs. -/
theorem Distinct.timesAt_eq_zero (d : t.Distinct P places) (hw : t.WellNamed) (h : t.At place sub)
    (hP : ¬ P sub) : timesAt (p.below place) (places.map p.below) = 0 := by
  rw [d.timesAt_eq hw (h.ordinaryName hw)]
  refine List.count_eq_zero.2 fun hm => ?_
  obtain ⟨sub', h', hP'⟩ := d.at_place place hm
  exact hP (h.unique hw h' ▸ hP')

/-! ## The places of a log -/

/-- The log lists the first places and examines the second: directories and entries of the tree,
each once. -/
structure Visits (t : Tree) (p : Path) (dirs seen : List (List Text)) (log : List Call) : Prop where
  listed_eq : pathsListed log = dirs.map p.below
  examined_eq : pathsExamined log = seen.map p.below
  distinct_dirs : t.Distinct IsDirectory dirs
  distinct_seen : t.Distinct (fun _ => True) seen
  nil_not_mem : [] ∉ seen

variable {dirs seen dirs' seen' : List (List Text)} {log log' : List Call}

theorem Visits.nil (t : Tree) (p : Path) : t.Visits p [] [] [] :=
  ⟨rfl, rfl, .nil t _, .nil t _, by simp⟩

/-- A directory is listed before its entries are gone through. -/
theorem Visits.list (v : (directory entries).Visits p dirs seen log) (h : [] ∉ dirs)
    (answer : Option (List Text)) :
    (directory entries).Visits p ([] :: dirs) seen (.list p answer :: log) where
  listed_eq := by simp [v.listed_eq]
  examined_eq := by simp [v.examined_eq]
  distinct_dirs := v.distinct_dirs.root h ⟨entries, rfl⟩
  distinct_seen := v.distinct_seen
  nil_not_mem := v.nil_not_mem

/-- An entry is examined, what is in it is gone through, and then the entries behind it. -/
theorem Visits.entry (hn : name ∉ entries.map (·.1)) (v : sub.Visits (p.join name) dirs seen log)
    (v' : (directory entries).Visits p dirs' seen' log') (h : [] ∉ dirs')
    (answer : Option Kind) :
    (directory ((name, sub) :: entries)).Visits p (dirs.map (name :: ·) ++ dirs')
      (([] :: seen).map (name :: ·) ++ seen') (.kind (p.join name) answer :: (log ++ log')) where
  listed_eq := by simp [v.listed_eq, v'.listed_eq, Function.comp_def]
  examined_eq := by simp [v.examined_eq, v'.examined_eq, Function.comp_def]
  distinct_dirs := v.distinct_dirs.append v'.distinct_dirs hn h
  distinct_seen := (v.distinct_seen.root v.nil_not_mem trivial).append v'.distinct_seen hn
    v'.nil_not_mem
  nil_not_mem := by simpa using v'.nil_not_mem

end Tree

end Termkit.Files
