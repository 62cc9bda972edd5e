import Termkit.Proofs.Files.Runs

/-!
# The walk through a directory tree

`Walk a b task w` lists in pre-order what there is to see with fixed answers `a`: each name in a
listing with its path, and behind it what the directory of that name holds, unless it is skipped,
cannot be listed or examined, or is a link. A walk that is finite is searched to its end, and the
search finds the first entry in it with the name (`search_first_in_walk`).
-/

namespace Termkit.Files

/-- Answers that depend on nothing but the path. -/
structure Answers where
  list? : Path → Option (List Text)
  kind? : Path → Option Kind

def Answers.fileSystem (a : Answers) : FileSystem Unit :=
  ⟨fun p s => (a.list? p, s), fun p s => (a.kind? p, s)⟩

variable {σ : Type}

/-- A file system that always gives the same answers. -/
structure FileSystem.Gives (fs : FileSystem σ) (a : Answers) : Prop where
  list : ∀ p s, (fs.list? p s).1 = a.list? p
  kind : ∀ p s, (fs.kind? p s).1 = a.kind? p

theorem Answers.gives (a : Answers) : a.fileSystem.Gives a := ⟨fun _ _ => rfl, fun _ _ => rfl⟩

/-- What a walk sees, in pre-order: paths with the names that were listed. -/
inductive Walk (a : Answers) (b : Probe) : Task → List (Path × Text) → Prop where
  | skipped {dir : Path} : b.skips dir = true → Walk a b (.directory dir) []
  | unlisted {dir : Path} : b.skips dir = false → a.list? dir = none → Walk a b (.directory dir) []
  | listed {dir : Path} {all : List Text} {w : List (Path × Text)} : b.skips dir = false →
      a.list? dir = some all → Walk a b (.names dir all) w → Walk a b (.directory dir) w
  | done {dir : Path} : Walk a b (.names dir []) []
  | passed {dir : Path} {name : Text} {rest : List Text} {after : List (Path × Text)} :
      (a.kind? (dir.join name)).any (·.canEnter) = false → Walk a b (.names dir rest) after →
      Walk a b (.names dir (name :: rest)) ((dir.join name, name) :: after)
  | entered {dir : Path} {name : Text} {rest : List Text} {below after : List (Path × Text)} :
      (a.kind? (dir.join name)).any (·.canEnter) = true →
      Walk a b (.directory (dir.join name)) below → Walk a b (.names dir rest) after →
      Walk a b (.names dir (name :: rest)) ((dir.join name, name) :: (below ++ after))

/-! ## The first entry with a name -/

/-- How a search ends that finds the first entry with a name. -/
def firstIn (target : Text) (w : List (Path × Text)) : Status :=
  match w.find? (·.2 = target) with
  | some q => .found q.1
  | none => .absent

variable {target name : Text} {w below after : List (Path × Text)}

theorem firstIn_cons_self (p : Path) : firstIn target ((p, target) :: w) = .found p := by
  simp [firstIn]

theorem firstIn_cons_of_ne (h : name ≠ target) (p : Path) :
    firstIn target ((p, name) :: w) = firstIn target w := by
  simp [firstIn, h]

theorem firstIn_ne_tooDeep : firstIn target w ≠ .tooDeep := by
  unfold firstIn
  split <;> exact nofun

theorem firstIn_eq_absent : firstIn target w = .absent ↔ ∀ q ∈ w, q.2 ≠ target := by
  unfold firstIn
  split
  · next q h =>
    have hq : q.2 = target := by simpa using List.find?_some h
    exact ⟨nofun, fun hn => (hn q (List.mem_of_find?_eq_some h) hq).elim⟩
  · next h => simpa using h

theorem firstIn_append_of_absent (h : firstIn target below = .absent) :
    firstIn target (below ++ after) = firstIn target after := by
  have hn : below.find? (·.2 = target) = none := by
    rw [firstIn_eq_absent] at h
    simpa using h
  simp [firstIn, hn]

theorem firstIn_append_of_ne_absent (h : firstIn target below ≠ .absent) :
    firstIn target (below ++ after) = firstIn target below := by
  unfold firstIn at h ⊢
  cases e : below.find? (·.2 = target) with
  | none => simp [e] at h
  | some q => simp [e]

theorem firstIn_eq_found {p : Path} : firstIn target w = .found p ↔
    (w.find? (·.2 = target)).map (·.1) = some p := by
  unfold firstIn
  split
  · next h => simp [h]
  · next h => simp [h]

/-! ## Searching a walk -/

variable {fs : FileSystem σ} {a : Answers} {b : Probe} {task : Task}

/-- The search follows the walk and stops at the first entry with the name. -/
theorem Walk.exists_isRun (hf : fs.Gives a) (h : Walk a b task w) (target : Text) (s : σ) :
    ∃ r, IsRun fs b target task s r ∧ r.status = firstIn target w := by
  induction h generalizing s with
  | skipped hs => exact ⟨_, .skipped hs, rfl⟩
  | @unlisted dir hs hl =>
    exact ⟨_, .unlisted hs (Prod.ext ((hf.list dir s).trans hl) rfl), rfl⟩
  | @listed dir all w hs hl _ ih =>
    obtain ⟨r, hr, hst⟩ := ih (fs.list? dir s).2
    exact ⟨_, .listed hs (Prod.ext ((hf.list dir s).trans hl) rfl) hr, hst⟩
  | done => exact ⟨_, .done, rfl⟩
  | @passed dir name rest after he _ ih =>
    by_cases hn : name = target
    · subst hn
      exact ⟨_, .found, (firstIn_cons_self _).symm⟩
    · obtain ⟨r, hr, hst⟩ := ih (fs.kind? (dir.join name) s).2
      refine ⟨_, .passed hn rfl (by rw [hf.kind, he]) hr, ?_⟩
      rw [firstIn_cons_of_ne hn, ← hst]
  | @entered dir name rest below after he _ _ ihb ih =>
    by_cases hn : name = target
    · subst hn
      exact ⟨_, .found, (firstIn_cons_self _).symm⟩
    · have he' : (fs.kind? (dir.join name) s).1.any (·.canEnter) = true := by rw [hf.kind, he]
      obtain ⟨rb, hrb, hstb⟩ := ihb (fs.kind? (dir.join name) s).2
      by_cases hb : rb.status = .absent
      · obtain ⟨r, hr, hst⟩ := ih rb.state
        refine ⟨_, .returned hn rfl he' hrb hb hr, ?_⟩
        rw [firstIn_cons_of_ne hn, firstIn_append_of_absent (by rw [← hstb, hb]), ← hst]
      · refine ⟨_, .stopped hn rfl he' hrb hb, ?_⟩
        rw [firstIn_cons_of_ne hn, firstIn_append_of_ne_absent (by rw [← hstb]; exact hb), ← hstb]

/-- Where the walk from a directory is finite, the search ends, with the path of the first entry in
the walk that has the name, or without one if there is none. -/
theorem search_first_in_walk (fs : FileSystem σ) (a : Answers) (hf : fs.Gives a) (b : Probe)
    (start : Path) (w : List (Path × Text)) (hw : Walk a b (.directory start) w) (target : Text)
    (s : σ) :
    ∃ r, b.Ends fs target start s r ∧
      (∀ p, r.status = .found p ↔ (w.find? (·.2 = target)).map (·.1) = some p) ∧
      (r.status = .absent ↔ ∀ q ∈ w, q.2 ≠ target) := by
  obtain ⟨r, hr, hst⟩ := hw.exists_isRun hf target s
  refine ⟨r, hr.ends (by rw [hst]; exact firstIn_ne_tooDeep), fun p => ?_, ?_⟩
  · rw [hst]
    exact firstIn_eq_found
  · rw [hst]
    exact firstIn_eq_absent

/-- A tree in which a directory that cannot be listed and a link come before the directory that
holds the name, and the name itself comes later once more. -/
theorem search_first_in_walk_nested :
    let p (s : String) : Path := ⟨s.toList⟩
    let a : Answers :=
      ⟨fun q => if q = p "/r" then some ["x".toList, "l".toList, "d".toList, "t".toList]
          else if q = p "/r/d" then some ["u".toList, "t".toList] else none,
        fun q => if q = p "/r/l" then some ⟨true, true⟩ else if q = p "/r/d/u" then none
          else some .directory⟩
    let w : List (Path × Text) :=
      [(p "/r/x", "x".toList), (p "/r/l", "l".toList), (p "/r/d", "d".toList),
        (p "/r/d/u", "u".toList), (p "/r/d/t", "t".toList), (p "/r/t", "t".toList)]
    a.fileSystem.Gives a ∧ Walk a .new (.directory (p "/r")) w ∧
      ∃ r, Probe.new.Ends a.fileSystem "t".toList (p "/r") () r ∧
        r.status = .found (p "/r/d/t") := by
  intro p a w
  have hw : Walk a .new (.directory (p "/r")) w := by
    have hx : Walk a .new (.directory (p "/r/x")) [] := .unlisted (by decide) rfl
    have hdt : Walk a .new (.directory (p "/r/d/t")) [] := .unlisted (by decide) rfl
    have hdu : Walk a .new (.names (p "/r/d") ["t".toList]) _ := .entered rfl hdt .done
    have hd : Walk a .new (.directory (p "/r/d")) _ := .listed (by decide) rfl (.passed rfl hdu)
    have ht : Walk a .new (.directory (p "/r/t")) [] := .unlisted (by decide) rfl
    have hrest : Walk a .new (.names (p "/r") ["d".toList, "t".toList]) _ :=
      .entered rfl hd (.entered rfl ht .done)
    have hall : Walk a .new
        (.names (p "/r") ["x".toList, "l".toList, "d".toList, "t".toList]) _ :=
      .entered rfl hx (.passed rfl hrest)
    exact .listed (by decide) rfl hall
  obtain ⟨r, hr, hfound, -⟩ :=
    search_first_in_walk a.fileSystem a a.gives .new (p "/r") w hw "t".toList ()
  exact ⟨a.gives, hw, r, hr, (hfound _).2 (by decide)⟩

end Termkit.Files
