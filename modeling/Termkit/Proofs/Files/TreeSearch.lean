import Termkit.Proofs.Files.Visits

/-!
# Searching a tree

A search of a tree that is shown ends, whatever links the tree has: it asks about places of the
tree only, about each at most once (`IsRun.visits`), and if it finds nothing, it has listed every
directory that can be reached without a skipped one (`IsRun.mem_pathsListed`).
-/

namespace Termkit.Files

/-! ## Tasks in a tree -/

/-- The task is to search the directory with these entries, or to go through them. -/
inductive Task.Over (a : Answers) : Task → List (Text × Tree) → Prop where
  | directory {p : Path} {entries : List (Text × Tree)} : a.Shows p (.directory entries) →
      (Tree.directory entries).WellNamed → Over a (.directory p) entries
  | names {p : Path} {entries : List (Text × Tree)} {names : List Text} :
      names = entries.map (·.1) → (∀ e ∈ entries, e.2.HasKind (a.kind? (p.join e.1))) →
      (∀ e ∈ entries, a.Shows (p.join e.1) e.2) → (Tree.directory entries).WellNamed →
      Over a (.names p names) entries

variable {σ : Type} {fs : FileSystem σ} {a : Answers} {b : Probe} {target name : Text} {p : Path}
  {entries : List (Text × Tree)} {names rest : List Text} {s s' : σ}

theorem FileSystem.Gives.kind_eq (hf : fs.Gives a) {k : Option Kind}
    (hk : fs.kind? p s = (k, s')) : a.kind? p = k := by
  rw [← hf.kind p s, hk]

/-- What is listed are the names of the entries. -/
theorem Task.Over.listed (hf : fs.Gives a) (h : Task.Over a (.directory p) entries)
    (hl : fs.list? p s = (some names, s')) : Task.Over a (.names p names) entries := by
  cases h with
  | directory hs hw =>
    cases hs with
    | directory ha hk hsub =>
      have he : some names = some (entries.map (·.1)) := by
        rw [← ha, ← hf.list p s, hl]
      exact .names (Option.some.inj he) hk hsub hw

theorem Task.Over.list?_ne_none (hf : fs.Gives a) (h : Task.Over a (.directory p) entries)
    (s : σ) : (fs.list? p s).1 ≠ none := by
  cases h with
  | directory hs hw =>
    cases hs with
    | directory ha _ _ =>
      rw [hf.list, ha]
      exact nofun

/-- The next name is that of the next entry. -/
theorem Task.Over.next (h : Task.Over a (.names p (name :: rest)) entries) :
    ∃ sub others, entries = (name, sub) :: others ∧ name ∉ others.map (·.1) ∧
      sub.HasKind (a.kind? (p.join name)) ∧
      (∀ es, sub = .directory es → Task.Over a (.directory (p.join name)) es) ∧
      Task.Over a (.names p rest) others := by
  cases h with
  | names he hk hsub hw =>
    cases entries with
    | nil => cases he
    | cons e others =>
      obtain ⟨name, sub⟩ := e
      obtain ⟨rfl, rfl⟩ := List.cons.inj he
      obtain ⟨hk, hks⟩ := List.forall_mem_cons.1 hk
      obtain ⟨hsub, hsubs⟩ := List.forall_mem_cons.1 hsub
      cases hw with
      | directory hn ho hw =>
        obtain ⟨hnot, hn⟩ := List.nodup_cons.1 hn
        obtain ⟨hw, hws⟩ := List.forall_mem_cons.1 hw
        refine ⟨sub, others, rfl, hnot, hk, ?_, .names rfl hks hsubs (.directory hn ?_ hws)⟩
        · rintro es rfl
          exact .directory hsub hw
        · exact (List.forall_mem_cons.1 ho).2

/-! ## What a search asks about -/

/-- A search asks about places of the tree, about each at most once. -/
theorem IsRun.visits (hf : fs.Gives a) {task : Task} {r : Run σ}
    (h : IsRun fs b target task s r) (ht : task.Over a entries) :
    ∃ dirs seen, (Tree.directory entries).Visits task.dir dirs seen r.log ∧
      ((∃ p names, task = .names p names) → [] ∉ dirs) := by
  -- the directory itself is listed by the task that searches it, not by those that go through its
  -- names, so that its listing can come in front of theirs
  induction h generalizing entries with
  | cut | skipped | done | found => exact ⟨[], [], .nil _ _, by simp⟩
  | @unlisted p s s' _ hl =>
    exact ⟨_, _, (Tree.Visits.nil _ _).list (by simp) none, nofun⟩
  | listed _ hl _ ih =>
    obtain ⟨dirs, seen, v, hnil⟩ := ih (ht.listed hf hl)
    exact ⟨_, _, v.list (hnil ⟨_, _, rfl⟩) _, nofun⟩
  | passed _ _ _ _ ih =>
    obtain ⟨sub, others, rfl, hn, -, -, ho⟩ := ht.next
    obtain ⟨dirs, seen, v, hnil⟩ := ih ho
    have hnil := hnil ⟨_, _, rfl⟩
    exact ⟨_, _, (Tree.Visits.nil sub _).entry hn v hnil _, fun _ => by simpa using hnil⟩
  | returned _ hk he _ _ _ ihb ih =>
    obtain ⟨sub, others, rfl, hn, hkind, hdir, ho⟩ := ht.next
    rw [hf.kind_eq hk] at hkind
    obtain ⟨es, rfl⟩ := hkind.canEnter_iff.1 he
    obtain ⟨dirs, seen, v, -⟩ := ihb (hdir es rfl)
    obtain ⟨dirs', seen', v', hnil⟩ := ih ho
    have hnil := hnil ⟨_, _, rfl⟩
    exact ⟨_, _, v.entry hn v' hnil _, fun _ => by simpa using hnil⟩
  | @stopped _ _ _ _ _ k _ _ hk he _ _ ihb =>
    obtain ⟨sub, others, rfl, hn, hkind, hdir, ho⟩ := ht.next
    rw [hf.kind_eq hk] at hkind
    obtain ⟨es, rfl⟩ := hkind.canEnter_iff.1 he
    obtain ⟨dirs, seen, v, -⟩ := ihb (hdir es rfl)
    have v' := v.entry hn (Tree.Visits.nil (.directory others) _) (by simp) k
    simp only [List.append_nil] at v'
    exact ⟨_, _, v', fun _ => by simp⟩

/-! ## What a search that finds nothing has listed -/

/-- The place is reached by the task: by searching a directory, or by going through names in it. -/
inductive Task.Leads (b : Probe) : Task → List (Text × Tree) → List Text → Prop where
  | directory {p : Path} {entries : List (Text × Tree)} {place : List Text} :
      Tree.Reaches b p (.directory entries) place → Leads b (.directory p) entries place
  | names {p : Path} {entries : List (Text × Tree)} {names : List Text} {name : Text} {sub : Tree}
      {place : List Text} : (name, sub) ∈ entries → Tree.Reaches b (p.join name) sub place →
      Leads b (.names p names) entries (name :: place)

theorem Tree.Reaches.isDirectory {t : Tree} {place : List Text} (h : t.Reaches b p place) :
    t.IsDirectory := by
  cases h <;> exact ⟨_, rfl⟩

theorem Tree.Reaches.exists_at {t : Tree} {place : List Text} (h : t.Reaches b p place) :
    ∃ sub, t.At place sub := by
  induction h with
  | here => exact ⟨_, .here _⟩
  | inside _ he _ ih =>
    obtain ⟨sub, ht⟩ := ih
    exact ⟨sub, .inside he ht⟩

theorem Tree.Reaches.skips {t : Tree} {place : List Text} (h : t.Reaches b p place) :
    b.skips p = false := by
  cases h <;> assumption

/-- A search that finds nothing lists every directory that its task leads to. -/
theorem IsRun.mem_pathsListed (hf : fs.Gives a) {task : Task} {r : Run σ}
    (h : IsRun fs b target task s r) (ht : task.Over a entries) (hr : r.status = .absent)
    {place : List Text} (hp : task.Leads b entries place) :
    task.dir.below place ∈ pathsListed r.log := by
  induction h generalizing entries place with
  | cut | found => cases hr
  | skipped hs =>
    cases hp with
    | directory hp =>
      rw [hp.skips] at hs
      cases hs
  | @unlisted p s s' _ hl => exact (ht.list?_ne_none hf s (by rw [hl])).elim
  | listed _ hl _ ih =>
    cases hp with
    | directory hp =>
      cases hp with
      | here => exact List.mem_cons_self
      | inside _ he hp =>
        exact List.mem_cons_of_mem _ (ih (ht.listed hf hl) hr (.names he hp))
  | done =>
    cases ht with
    | names he =>
      cases hp with
      | names hmem => simp [List.map_eq_nil_iff.1 he.symm] at hmem
  | passed _ hk he _ ih =>
    obtain ⟨sub, others, rfl, -, hkind, -, ho⟩ := ht.next
    cases hp with
    | names hmem hp =>
      rcases List.mem_cons.1 hmem with hmem | hmem
      · cases hmem
        rw [hf.kind_eq hk] at hkind
        rw [hkind.canEnter_iff.2 hp.isDirectory] at he
        cases he
      · exact ih ho hr (.names hmem hp)
  | returned _ hk he _ hb _ ihb ih =>
    obtain ⟨sub, others, rfl, -, hkind, hdir, ho⟩ := ht.next
    cases hp with
    | names hmem hp =>
      rw [pathsListed_kind, pathsListed_append]
      rcases List.mem_cons.1 hmem with hmem | hmem
      · cases hmem
        obtain ⟨es, rfl⟩ := hp.isDirectory
        exact List.mem_append_left _ (ihb (hdir es rfl) hb (.directory hp))
      · exact List.mem_append_right _ (ih ho hr (.names hmem hp))
  | stopped _ _ _ _ hb => exact (hb hr).elim

/-! ## The search of a tree -/

/-- The search of a tree ends. It lists nothing but directories of the tree, no link, and none
twice, it examines nothing but entries, and none twice, and if it finds nothing, it has listed every
directory that can be reached through directories that are not skipped, once. -/
theorem search_tree (fs : FileSystem σ) (a : Answers) (hf : fs.Gives a) (b : Probe) (root : Path)
    (entries : List (Text × Tree)) (hw : (Tree.directory entries).WellNamed)
    (ha : a.Shows root (.directory entries)) (target : Text) (s : σ) :
    let tree := Tree.directory entries
    ∃ r, b.Ends fs target root s r ∧
      (∀ p ∈ pathsListed r.log, ∃ place es, tree.At place (.directory es) ∧ p = root.below place) ∧
      (∀ place es, tree.At place (.directory es) →
        timesAt (root.below place) (pathsListed r.log) ≤ 1) ∧
      (∀ place, tree.At place .link → timesAt (root.below place) (pathsListed r.log) = 0) ∧
      (∀ p ∈ pathsExamined r.log, ∃ place sub, place ≠ [] ∧ tree.At place sub ∧
        p = root.below place) ∧
      (∀ place sub, tree.At place sub →
        timesAt (root.below place) (pathsExamined r.log) ≤ 1) ∧
      (r.status = .absent → ∀ place, tree.Reaches b root place →
        timesAt (root.below place) (pathsListed r.log) = 1) := by
  intro tree
  obtain ⟨w, hwalk⟩ := ha.exists_walk b ⟨entries, rfl⟩
  obtain ⟨r, hr, hst⟩ := hwalk.exists_isRun hf target s
  have hover : Task.Over a (.directory root) entries := .directory ha hw
  obtain ⟨dirs, seen, v, -⟩ := hr.visits hf hover
  refine ⟨r, hr.ends (by rw [hst]; exact firstIn_ne_tooDeep), ?_, ?_, ?_, ?_, ?_, ?_⟩
  · rw [v.listed_eq, List.forall_mem_map]
    intro place hp
    obtain ⟨_, ht, es, rfl⟩ := v.distinct_dirs.at_place place hp
    exact ⟨place, es, ht, rfl⟩
  · intro place es ht
    rw [v.listed_eq]
    exact v.distinct_dirs.timesAt_le hw ht
  · intro place ht
    rw [v.listed_eq]
    exact v.distinct_dirs.timesAt_eq_zero hw ht nofun
  · rw [v.examined_eq, List.forall_mem_map]
    intro place hp
    obtain ⟨sub, ht, -⟩ := v.distinct_seen.at_place place hp
    exact ⟨place, sub, ne_of_mem_of_not_mem hp v.nil_not_mem, ht, rfl⟩
  · intro place sub ht
    rw [v.examined_eq]
    exact v.distinct_seen.timesAt_le hw ht
  · intro ha place hp
    have hmem := hr.mem_pathsListed hf hover ha (.directory hp)
    obtain ⟨sub, ht⟩ := hp.exists_at
    rw [v.listed_eq] at hmem ⊢
    exact v.distinct_dirs.timesAt_eq_one hw ht hmem

/-- A link in a directory lists what the root lists, and so do all links behind it. The directory is
listed once all the same. -/
theorem search_tree_cycle :
    let p (s : String) : Path := ⟨s.toList⟩
    let entries : List (Text × Tree) :=
      [("sub".toList, .directory [("loop".toList, .link)]), ("f".toList, .file)]
    let a : Answers :=
      ⟨fun q => if "/sub".toList <:+ q.raw then some ["loop".toList]
          else some ["sub".toList, "f".toList],
        fun q => if "/loop".toList <:+ q.raw then some .link
          else if "/f".toList <:+ q.raw then some .file else some .directory⟩
    (Tree.directory entries).WellNamed ∧ a.Shows (p "/r") (.directory entries) ∧
      a.list? (p "/r/sub/loop") = a.list? (p "/r") ∧
      ∃ r, Probe.new.Ends a.fileSystem "never".toList (p "/r") () r ∧ r.status = .absent ∧
        timesAt (p "/r/sub") (pathsListed r.log) = 1 := by
  intro p entries a
  have hw : (Tree.directory entries).WellNamed := by
    refine .directory (by decide) (by decide) ?_
    simp only [entries, List.forall_mem_cons, List.not_mem_nil, false_implies, implies_true,
      and_true]
    refine ⟨.directory (by decide) (by decide) ?_, .file⟩
    simp only [List.forall_mem_singleton]
    exact .link
  have hsub : a.Shows (p "/r/sub") (.directory [("loop".toList, .link)]) := by
    refine .directory rfl ?_ ?_ <;> rw [List.forall_mem_singleton]
    · exact ⟨.link, rfl, rfl⟩
    · exact .link _
  have ha : a.Shows (p "/r") (.directory entries) := by
    refine .directory rfl ?_ ?_ <;> rw [List.forall_mem_cons, List.forall_mem_singleton]
    · exact ⟨rfl, rfl⟩
    · exact ⟨hsub, .file _⟩
  obtain ⟨r, hr, -, -, -, -, -, hall⟩ :=
    search_tree a.fileSystem a a.gives .new (p "/r") entries hw ha "never".toList ()
  have habsent : r.status = .absent := by
    have hdeep : (Probe.new.search a.fileSystem "never".toList 3 (p "/r") ()).status = .absent := by
      decide
    have hends := (Probe.new.isRun_search a.fileSystem "never".toList 3 (p "/r") ()).ends
      (by rw [hdeep]; exact nofun)
    rw [hr.unique hends, hdeep]
  have hreach : (Tree.directory entries).Reaches .new (p "/r") ["sub".toList] :=
    .inside (by decide) List.mem_cons_self (.here (by decide))
  exact ⟨hw, ha, by decide, r, hr, habsent, hall habsent _ hreach⟩

end Termkit.Files
