import Termkit.Proofs.Files.Runs

/-!
# Which calls a search makes, and when

`MayAsk` says what a search may ask after the calls before: a listing only of a directory that is
not skipped, and only first of all or right after the answer that the path is a directory and no
link; a kind only of a name in a listing that it was given, and not of the name that it looks for.
Every run keeps to it, whatever the file system answers (`IsRun.inOrder`): what a task needs of
the calls before it, `Task.Ready`, is there when the task begins, and stays there while the search
goes deeper and returns.
-/

namespace Termkit.Files

/-- The last of the calls found the path to be a directory and no link. -/
def JustEntered (before : List Call) (p : Path) : Prop :=
  ∃ earlier k, before = earlier ++ [.kind p (some k)] ∧ k.isDirectory = true ∧ k.isLink = false

/-- The calls that a search from `start` may make after those before. -/
def MayAsk (b : Probe) (target : Text) (start : Path) (before : List Call) : Call → Prop
  | .list p _ => b.skips p = false ∧ (before = [] ∧ p = start ∨ JustEntered before p)
  | .kind p _ => ∃ dir all name, .list dir (some all) ∈ before ∧ name ∈ all ∧ name ≠ target ∧
      p = dir.join name

/-- Each call of the log may be made after those before the log and those earlier in it. -/
def InOrder (b : Probe) (target : Text) (start : Path) (before log : List Call) : Prop :=
  ∀ earlier c later, log = earlier ++ c :: later → MayAsk b target start (before ++ earlier) c

section

variable {b : Probe} {target : Text} {start : Path} {before log log' : List Call} {c : Call}

theorem InOrder.nil : InOrder b target start before [] := by
  intro earlier c later h
  simp at h

theorem InOrder.cons (hc : MayAsk b target start before c)
    (h : InOrder b target start (before ++ [c]) log) :
    InOrder b target start before (c :: log) := by
  rintro (_ | ⟨d, earlier⟩) c' later e
  · obtain ⟨rfl, -⟩ := List.cons.inj e
    rwa [List.append_nil]
  · obtain ⟨rfl, e'⟩ := List.cons.inj e
    simpa using h earlier c' later e'

theorem InOrder.append (h : InOrder b target start before log)
    (h' : InOrder b target start (before ++ log) log') :
    InOrder b target start before (log ++ log') := by
  intro earlier c later e
  rcases List.append_eq_append_iff.1 e with ⟨mid, rfl, e'⟩ | ⟨mid, rfl, e'⟩
  · simpa using h' mid c later e'
  · cases mid with
    | nil => simpa using h' [] c later e'.symm
    | cons d mid =>
      obtain ⟨rfl, -⟩ := List.cons.inj e'
      exact h earlier c mid rfl

end

/-- What a task needs of the calls before it. -/
def Task.Ready (start : Path) (before : List Call) : Task → Prop
  | .directory dir => before = [] ∧ dir = start ∨ JustEntered before dir
  | .names dir rest => ∃ all, .list dir (some all) ∈ before ∧ ∀ name ∈ rest, name ∈ all

theorem Task.Ready.rest {start dir : Path} {before : List Call} {name : Text} {rest : List Text}
    (h : Task.Ready start before (.names dir (name :: rest))) (more : List Call) :
    Task.Ready start (before ++ more) (.names dir rest) := by
  obtain ⟨all, hl, hn⟩ := h
  exact ⟨all, List.mem_append_left _ hl, fun n hm => hn n (List.mem_cons_of_mem _ hm)⟩

/-- The next name of a listing may be examined, unless it is the one that is looked for. -/
theorem Task.Ready.mayAsk {b : Probe} {target : Text} {start dir : Path} {before : List Call}
    {name : Text} {rest : List Text} (h : Task.Ready start before (.names dir (name :: rest)))
    (hn : name ≠ target) (answer : Option Kind) :
    MayAsk b target start before (.kind (dir.join name) answer) := by
  obtain ⟨all, hl, hall⟩ := h
  exact ⟨dir, all, name, hl, hall name List.mem_cons_self, hn, rfl⟩

theorem justEntered_of_canEnter {k : Option Kind} (h : k.any (·.canEnter) = true)
    (before : List Call) (p : Path) : JustEntered (before ++ [.kind p k]) p := by
  obtain ⟨k, rfl, hd, hl⟩ := exists_of_canEnter h
  exact ⟨before, k, rfl, hd, hl⟩

variable {σ : Type} {fs : FileSystem σ} {b : Probe} {target : Text}

/-- Every run keeps the order of calls, from whatever calls it began after. -/
theorem IsRun.inOrder {task : Task} {s : σ} {r : Run σ} (h : IsRun fs b target task s r)
    {start : Path} {before : List Call} (ht : task.Ready start before) :
    InOrder b target start before r.log := by
  induction h generalizing before with
  | cut | skipped | done | found => exact .nil
  | unlisted hs _ => exact .cons ⟨hs, ht⟩ .nil
  | @listed dir _ _ all _ hs _ _ ih =>
    exact .cons ⟨hs, ht⟩ (ih ⟨all, by simp, fun _ hn => hn⟩)
  | passed hn _ _ _ ih => exact .cons (ht.mayAsk hn _) (ih (ht.rest _))
  | returned hn _ he _ _ _ ihb ih =>
    refine .cons (ht.mayAsk hn _) (.append (ihb (.inr (justEntered_of_canEnter he _ _))) (ih ?_))
    rw [List.append_assoc]
    exact ht.rest _
  | stopped hn _ he _ _ ihb =>
    exact .cons (ht.mayAsk hn _) (ihb (.inr (justEntered_of_canEnter he _ _)))

theorem Probe.skipped_foldl_skip (dirs : List Path) (b : Probe) :
    (dirs.foldl skip b).skipped = b.skipped ++ dirs := by
  induction dirs generalizing b with
  | nil => simp
  | cons dir rest ih => rw [List.foldl_cons, ih, skip, List.append_assoc, List.singleton_append]

/-- Whatever the file system answers, a search lists no skipped directory, lists the start first
and any other directory right after it was found to be one and no link, and examines only names
other than the target from listings that it was given. -/
theorem search_calls_inOrder (fs : FileSystem σ) (dirs : List Path) (target : Text) (depth : Nat)
    (start : Path) (s : σ) :
    let b := dirs.foldl Probe.skip .new
    let r := b.search fs target depth start s
    Dialogue fs s r.log r.state ∧
      (∀ before p answer after, r.log = before ++ .list p answer :: after →
        (∀ q ∈ virtualRoots ++ dirs, q.same p = false) ∧
        (before = [] ∧ p = start ∨ ∃ earlier k, before = earlier ++ [.kind p (some k)] ∧
          k.isDirectory = true ∧ k.isLink = false)) ∧
      (∀ before p answer after, r.log = before ++ .kind p answer :: after →
        ∃ dir all name, .list dir (some all) ∈ before ∧ name ∈ all ∧ name ≠ target ∧
          p = dir.join name) ∧
      ∀ depth', depth ≤ depth' → r.log <+: (b.search fs target depth' start s).log := by
  intro b r
  have hr : IsRun fs b target (.directory start) s r := b.isRun_search fs target depth start s
  have ho : InOrder b target start [] r.log := hr.inOrder (.inl ⟨rfl, rfl⟩)
  refine ⟨hr.dialogue, fun before p answer after h => ?_, fun before p answer after h => ?_,
    fun depth' hd => (b.search_cutOf hd start s).log_isPrefix⟩
  · obtain ⟨hs, hp⟩ := ho before _ after h
    have hb : b.skipped = virtualRoots ++ dirs := Probe.skipped_foldl_skip dirs .new
    refine ⟨fun q hq => ?_, hp⟩
    simp only [Probe.skips, hb, List.any_eq_false] at hs
    simpa using hs q hq
  · exact ho before _ after h

end Termkit.Files
