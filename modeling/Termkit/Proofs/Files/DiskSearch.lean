import Termkit.Proofs.Files.Depth
import Termkit.Proofs.Files.Resolution

/-!
# Searching a disk

Each directory that a search enters lies one name below the one that lists it, because it is real
and its name is ordinary. So the levels of a search are no more than the deepest place has, and the
search ends as it would without a limit (`search_ends`), with links that lead back up or without.
All names are ordinary on a disk that is made from nothing (`wellNamed_mk_nil`,
`WellNamed.makeDirectories`, `WellNamed.makeAt`).
-/

namespace Termkit.Files

namespace Disk

/-- The names that lead to a place are ordinary. -/
def WellNamed (d : Disk) : Prop := ∀ e ∈ d.nodes, ∀ name ∈ e.1, OrdinaryName name

variable {d : Disk} {p : Place} {name : Text} {path : Path}

/-! ## Making disks -/

theorem wellNamed_mk_nil : WellNamed ⟨[]⟩ := fun _ h => nomatch h

theorem WellNamed.make (h : d.WellNamed) (p : Place) (n : Node) : (d.make p n).WellNamed := by
  unfold Disk.make
  split
  · next hp =>
    obtain ⟨-, hall⟩ := (Bool.and_eq_true _ _).mp hp
    have hnames : ∀ name ∈ p, OrdinaryName name := fun name hn =>
      of_decide_eq_true (List.all_eq_true.1 hall name hn)
    exact List.forall_mem_append.2 ⟨h, List.forall_mem_singleton.2 hnames⟩
  · exact h

theorem WellNamed.makeDirectories (h : d.WellNamed) (path : Path) :
    (d.makeDirectories path).WellNamed := by
  unfold Disk.makeDirectories
  refine List.foldlRecOn (motive := fun e : Disk × Place => e.1.WellNamed) (steps path) _ h ?_
  rintro ⟨d', here⟩ h' name -
  dsimp only
  split
  · exact h'
  · exact h'.make _ _

theorem WellNamed.makeAt (h : d.WellNamed) (path : Path) (n : Node) :
    (d.makeAt path n).WellNamed := by
  unfold Disk.makeAt
  dsimp only
  split
  · exact h
  · split
    · exact h.make _ _
    · exact h

/-! ## Listing and examining -/

theorem exists_of_bind {α β : Type} {x : Except DiskFault α} {f : α → Except DiskFault β} {b : β}
    (h : (x >>= f).toOption = some b) : ∃ a, x = .ok a ∧ (f a).toOption = some b := by
  cases x with
  | error e => cases h
  | ok a => exact ⟨a, rfl, h⟩

theorem exists_of_list {names : List Text} (h : (d.list path).toOption = some names) :
    ∃ p, d.resolve true path = .ok p ∧ names = d.names p := by
  obtain ⟨p, hp, h⟩ := exists_of_bind h
  refine ⟨p, hp, ?_⟩
  rcases hn : d.node? p with _ | _ | _ | target
  all_goals
    rw [hn] at h
    cases h
  -- only the names of a directory are listed
  rfl

theorem canEnter_kind_iff {n : Node} : n.kind.canEnter = true ↔ n = .directory := by
  cases n with
  | file | link => exact ⟨nofun, nofun⟩
  | directory => exact ⟨fun _ => rfl, fun _ => rfl⟩

theorem exists_of_kind {k : Kind} (h : (d.kind path).toOption = some k)
    (he : k.canEnter = true) :
    ∃ p, d.resolve false path = .ok p ∧ d.node? p = some .directory := by
  obtain ⟨p, hp, h⟩ := exists_of_bind h
  refine ⟨p, hp, ?_⟩
  cases hn : d.node? p with
  | none =>
    rw [hn] at h
    cases h
  | some n =>
    rw [hn] at h
    cases h
    rw [canEnter_kind_iff.1 he]

theorem exists_of_mem_names (h : name ∈ d.names p) : ∃ n, (p ++ [name], n) ∈ d.nodes := by
  unfold names at h
  obtain ⟨⟨q, n⟩, hmem, hq⟩ := List.mem_filterMap.1 h
  refine ⟨n, ?_⟩
  cases hlast : q.getLast? with
  | none => simp [hlast] at hq
  | some last =>
    obtain ⟨rfl, rfl⟩ : q.dropLast = p ∧ last = name := by simpa [hlast] using hq
    rwa [List.dropLast_append_getLast? last hlast]

theorem length_le_height {n : Node} (h : (p, n) ∈ d.nodes) : p.length ≤ d.height :=
  List.le_max?_getD_of_mem (List.mem_map_of_mem h)

/-! ## Searching -/

/-- A path that leads nowhere needs one level, and one that leads to a place needs more levels than
the disk goes down from there. -/
theorem WellNamed.enoughDepth (hd : d.WellNamed) :
    EnoughDepth d.fileSystem fun depth path _ =>
      0 < depth ∧ ∀ p, d.resolve true path = .ok p → d.height < depth + p.length where
  pos h := h.1
  next := by
    intro depth path _ _ _ _ names _ name k hf hl hm _ hk he
    obtain ⟨-, hf⟩ := hf
    obtain ⟨p, hp, rfl⟩ := exists_of_list (Prod.mk.inj hl).1
    obtain ⟨k, rfl, hreal⟩ := exists_of_canEnter he
    obtain ⟨q, hq, hnode⟩ := exists_of_kind (Prod.mk.inj hk).1 (Kind.canEnter_iff.2 hreal)
    obtain ⟨n, hmem⟩ := exists_of_mem_names hm
    have hname : OrdinaryName name := hd _ hmem name (by simp)
    have hlevels : d.height < depth + 1 + p.length := hf p hp
    have hheight : p.length + 1 ≤ d.height := by simpa using length_le_height hmem
    refine ⟨by omega, fun q' hq' => ?_⟩
    rw [resolve_join hname hp hq hnode hq', List.length_append, List.length_singleton]
    omega

variable {b : Probe} {start : Path} {target : Text}

/-- A search of a disk ends as it would without a limit. -/
theorem search_ends (hd : d.WellNamed) (b : Probe) (start : Path) (target : Text) :
    b.Ends d.fileSystem target start () (d.search b start target) :=
  hd.enoughDepth.ends ⟨Nat.succ_pos _, fun p _ => by omega⟩

theorem find_of_ends (hd : d.WellNamed) {r : Run Unit}
    (h : b.Ends d.fileSystem target start () r) : d.find b start target = r.status.path? := by
  rw [h.unique (search_ends hd b start target)]
  rfl

/-- Where nothing is found, the search has come to its end. -/
theorem find_eq_none_iff (hd : d.WellNamed) :
    d.find b start target = none ↔ (d.search b start target).status = .absent := by
  have hne := (search_ends hd b start target).1
  unfold find
  cases hst : (d.search b start target).status with
  | found p => exact ⟨nofun, nofun⟩
  | absent => exact ⟨fun _ => rfl, fun _ => rfl⟩
  | tooDeep => exact absurd hst hne

end Disk

end Termkit.Files
