import Termkit.Proofs.Files.Lockstep
import Termkit.Proofs.Files.Walk

/-!
# Skipped directories

A directory that is skipped might as well be one that cannot be listed: the search for the one and
the search for the other keep in step but for the listings that fail (`lockstep_skip`), and end
alike (`search_skip`). Which directories are skipped is a set: their order, number and spelling
change nothing (`search_congr`).
-/

namespace Termkit.Files

def Call.lists (d : Path) : Call → Bool
  | .list p _ => d.same p
  | .kind _ _ => false

/-- The calls but for the listings of a directory. -/
def callsApartFrom (d : Path) (log : List Call) : List Call := log.filter fun c => !c.lists d

/-- The answers after the directory can no longer be listed. -/
def Answers.unlisting (a : Answers) (d : Path) : Answers where
  list? p := if d.same p then none else a.list? p
  kind? := a.kind?

variable {σ τ : Type}

/-! ## A directory more to skip -/

theorem Probe.skips_skip (b : Probe) (d p : Path) :
    (b.skip d).skips p = (b.skips p || d.same p) := by
  simp [skips, skip]

/-- The same paths after the same calls, but for listings of the directory in the second log. -/
def apartFrom (σ τ : Type) (d : Path) : Correspondence σ τ where
  path p q := p = q
  state _ _ := True
  log l l' := l = callsApartFrom d l'

/-- Where the one search skips the directory, the other fails to list it. -/
theorem lockstep_skip {fs : FileSystem σ} {fs' : FileSystem τ} {a : Answers} {d : Path}
    (hf : fs.Gives a) (hf' : fs'.Gives (a.unlisting d)) (b : Probe) :
    Lockstep (apartFrom σ τ d) fs (b.skip d) fs' b where
  join name hp := congrArg (Path.join · name) hp
  nil := rfl
  append {l l' m m'} (hl : l = callsApartFrom d l') (hm : m = callsApartFrom d m') := by
    subst hl hm
    exact (List.filter_append ..).symm
  read := by
    rintro p _ s t rfl -
    have hskip := b.skips_skip d p
    cases hb : b.skips p with
    | true =>
      rw [Probe.read_of_skips (by rw [hskip, hb]; rfl), Probe.read_of_skips hb]
      exact ⟨rfl, rfl, trivial⟩
    | false =>
      rw [Probe.read_of_not_skips hb, hf'.list]
      cases hd : d.same p with
      | true =>
        have hnone : (a.unlisting d).list? p = none := if_pos hd
        rw [Probe.read_of_skips (by rw [hskip, hd, Bool.or_true]), hnone]
        exact ⟨rfl, by simp [apartFrom, callsApartFrom, Call.lists, hd], trivial⟩
      | false =>
        have hall : (a.unlisting d).list? p = a.list? p := if_neg (by simp [hd])
        rw [Probe.read_of_not_skips (by rw [hskip, hb, hd]; rfl), hf.list, hall]
        exact ⟨rfl, by simp [apartFrom, callsApartFrom, Call.lists, hd], trivial⟩
  canEnter := by
    rintro p _ s t rfl -
    rw [hf.kind, hf'.kind]
    rfl
  kind := by
    rintro p _ s t rfl -
    rw [hf.kind, hf'.kind]
    exact ⟨rfl, trivial⟩

/-! ## Skipped directories as a set -/

namespace Probe

/-- The same directories are skipped, in whatever order, number and spelling. -/
def SameSkips (b b' : Probe) : Prop :=
  (∀ p ∈ b.skipped, ∃ q ∈ b'.skipped, p.same q = true) ∧
    ∀ q ∈ b'.skipped, ∃ p ∈ b.skipped, q.same p = true

instance (b b' : Probe) : Decidable (b.SameSkips b') := inferInstanceAs (Decidable (_ ∧ _))

variable {b b' : Probe}

theorem skips_of_forall (h : ∀ p ∈ b.skipped, ∃ q ∈ b'.skipped, p.same q = true) {dir : Path}
    (hs : b.skips dir = true) : b'.skips dir = true := by
  obtain ⟨p, hp, hdir⟩ := List.any_eq_true.1 hs
  obtain ⟨q, hq, hpq⟩ := h p hp
  refine List.any_eq_true.2 ⟨q, hq, ?_⟩
  rw [← Path.same_congr hdir q]
  exact Path.same_symm hpq

theorem SameSkips.skips_eq (h : b.SameSkips b') (dir : Path) : b.skips dir = b'.skips dir :=
  Bool.eq_iff_iff.2 ⟨skips_of_forall h.1, skips_of_forall h.2⟩

/-- A search takes no other notice of its probe than to ask what it skips. -/
theorem search_congr (fs : FileSystem σ) (h : ∀ dir, b.skips dir = b'.skips dir) (target : Text)
    (depth : Nat) : b.search fs target depth = b'.search fs target depth := by
  induction depth with
  | zero => rfl
  | succ depth ih =>
    funext dir s
    have hread : b.read fs dir s = b'.read fs dir s := by rw [read, read, h]
    rw [search_succ, search_succ, ih, hread]

end Probe

/-! ## The search -/

/-- A search that skips a directory ends as it does where the directory cannot be listed, after the
same calls but for those that fail to list it; and probes that skip the same directories make the
same searches. -/
theorem search_skip (fs : FileSystem σ) (fs' : FileSystem τ) (a : Answers) (d : Path)
    (hf : fs.Gives a) (hf' : fs'.Gives (a.unlisting d)) (b : Probe) (start : Path) (target : Text)
    (s : σ) (t : τ) :
    (∀ depth, ((b.skip d).search fs target depth start s).status =
        (b.search fs' target depth start t).status) ∧
      (∀ w, Walk a (b.skip d) (.directory start) w →
        ∃ r r', (b.skip d).Ends fs target start s r ∧ b.Ends fs' target start t r' ∧
          r.status = r'.status ∧ r.log = callsApartFrom d r'.log) ∧
      ∀ b₁ b₂ : Probe, b₁.SameSkips b₂ → ∀ target depth start s,
        b₁.search fs target depth start s = b₂.search fs target depth start s := by
  have hstep := lockstep_skip hf hf' b
  refine ⟨fun depth => ?_, fun w hw => ?_, fun b₁ b₂ h target depth start s => ?_⟩
  · exact (hstep.search target depth rfl trivial).status.eq fun _ _ => id
  · obtain ⟨r, hr, hst⟩ := hw.exists_isRun hf target s
    have hne : r.status ≠ .tooDeep := by
      rw [hst]
      exact firstIn_ne_tooDeep
    obtain ⟨r', hr', hm⟩ := hstep.ends rfl trivial (hr.ends hne)
    exact ⟨r, r', hr.ends hne, hr', hm.status.eq fun _ _ => id, hm.log⟩
  · rw [Probe.search_congr fs h.skips_eq]

/-- A directory that holds the name is skipped, in a spelling of its own, and the name that comes
later is found. -/
theorem search_skip_earlier :
    let p (s : String) : Path := ⟨s.toList⟩
    let d : Path := p "//r/./d/"
    let a : Answers :=
      ⟨fun q => if q = p "/r" then some ["d".toList, "e".toList] else some ["t".toList],
        fun q => if q = p "/r/d/t" ∨ q = p "/r/e/t" then some .file else some .directory⟩
    let w : List (Path × Text) :=
      [(p "/r/d", "d".toList), (p "/r/e", "e".toList), (p "/r/e/t", "t".toList)]
    let b₁ : Probe := ⟨[p "/a/", p "/b"]⟩
    let b₂ : Probe := ⟨[p "//b/.", p "/a", p "/b//"]⟩
    a.fileSystem.Gives a ∧ (a.unlisting d).fileSystem.Gives (a.unlisting d) ∧
      Walk a (Probe.new.skip d) (.directory (p "/r")) w ∧ b₁.SameSkips b₂ ∧
      (∃ r r', (Probe.new.skip d).Ends a.fileSystem "t".toList (p "/r") () r ∧
        Probe.new.Ends (a.unlisting d).fileSystem "t".toList (p "/r") () r' ∧
        r.status = .found (p "/r/e/t") ∧ r'.status = .found (p "/r/e/t")) ∧
      b₁.search a.fileSystem "t".toList 3 (p "/r") () =
        b₂.search a.fileSystem "t".toList 3 (p "/r") () := by
  intro p d a w b₁ b₂
  have hw : Walk a (Probe.new.skip d) (.directory (p "/r")) w := by
    have hd : Walk a (Probe.new.skip d) (.directory (p "/r/d")) [] := .skipped (by decide)
    have he : Walk a (Probe.new.skip d) (.directory (p "/r/e")) _ :=
      .listed (by decide) rfl (.passed rfl .done)
    have hrest : Walk a (Probe.new.skip d) (.names (p "/r") ["e".toList]) _ :=
      .entered rfl he .done
    have hall : Walk a (Probe.new.skip d) (.names (p "/r") ["d".toList, "e".toList]) _ :=
      .entered rfl hd hrest
    exact .listed (by decide) rfl hall
  have hs : b₁.SameSkips b₂ := by decide
  obtain ⟨-, hends, hset⟩ := search_skip a.fileSystem (a.unlisting d).fileSystem a d a.gives
    (a.unlisting d).gives .new (p "/r") "t".toList () ()
  obtain ⟨r, r', hr, hr', hst, -⟩ := hends w hw
  have hthree : ((Probe.new.skip d).search a.fileSystem "t".toList 3 (p "/r") ()).status =
      .found (p "/r/e/t") := by decide
  have hfound : r.status = .found (p "/r/e/t") := hr.status_eq hthree nofun
  exact ⟨a.gives, (a.unlisting d).gives, hw, hs, ⟨r, r', hr, hr', hfound, hst ▸ hfound⟩,
    hset b₁ b₂ hs _ _ _ _⟩

end Termkit.Files
