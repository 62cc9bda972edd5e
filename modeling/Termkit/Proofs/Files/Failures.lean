import Termkit.Proofs.Files.Walk

/-!
# Failures count as nothing there

`Answers.absorbing` answers where the given answers fail: a directory that cannot be listed is
empty, and what cannot be examined is a thing that no search enters. A search cannot tell the two
apart: every run with the one is a run with the other that asks the same questions and ends alike
(`IsRun.absorbing`). So no failure cuts a search short, wherever it stands and however many there
are (`search_absorbing`).
-/

namespace Termkit.Files

inductive Question where
  | list (p : Path)
  | kind (p : Path)
  deriving DecidableEq, Repr

def Call.question : Call → Question
  | list p _ => .list p
  | kind p _ => .kind p

def Run.questions {σ : Type} (r : Run σ) : List Question := r.log.map Call.question

/-- The answers with an empty listing and the kinds `instead` in place of failures. -/
def Answers.absorbing (a : Answers) (instead : Path → Kind) : Answers where
  list? p := some ((a.list? p).getD [])
  kind? p := some ((a.kind? p).getD (instead p))

/-- The runs end alike and ask the same questions. -/
structure Run.Alike {σ τ : Type} (r : Run σ) (r' : Run τ) : Prop where
  status : r'.status = r.status
  questions : r'.questions = r.questions

namespace Run.Alike

variable {σ τ : Type} {r below : Run σ} {r' below' : Run τ}

theorem empty (status : Status) (s : σ) (s' : τ) :
    Run.Alike ⟨status, [], s⟩ ⟨status, [], s'⟩ := ⟨rfl, rfl⟩

/-- Behind two calls that ask the same. -/
theorem after (h : r.Alike r') {c c' : Call} (hc : c'.question = c.question) :
    Run.Alike ⟨r.status, c :: r.log, r.state⟩ ⟨r'.status, c' :: r'.log, r'.state⟩ := by
  refine ⟨h.status, ?_⟩
  rw [Run.questions, Run.questions, List.map_cons, List.map_cons, hc]
  exact congrArg _ h.questions

theorem append (hb : below.Alike below') (h : r.Alike r') :
    Run.Alike ⟨r.status, below.log ++ r.log, r.state⟩
      ⟨r'.status, below'.log ++ r'.log, r'.state⟩ := by
  refine ⟨h.status, ?_⟩
  have hq : below'.questions ++ r'.questions = below.questions ++ r.questions := by
    rw [hb.questions, h.questions]
  simpa [Run.questions] using hq

end Run.Alike

section

variable {σ τ : Type} {fs : FileSystem σ} {fs' : FileSystem τ} {a : Answers}
  {instead : Path → Kind} (hf : fs.Gives a) (hf' : fs'.Gives (a.absorbing instead))

include hf hf'

theorem list?_absorbing {p : Path} {s t : σ} {names : Option (List Text)}
    (hl : fs.list? p s = (names, t)) (s' : τ) :
    ∃ t', fs'.list? p s' = (some (names.getD []), t') := by
  have ha : a.list? p = names := by rw [← hf.list p s, hl]
  have hl' : (fs'.list? p s').1 = some ((a.list? p).getD []) := hf'.list p s'
  rw [ha] at hl'
  exact ⟨_, Prod.ext hl' rfl⟩

/-- A search may enter the same things. -/
theorem kind?_absorbing (hi : ∀ p, (instead p).canEnter = false) {p : Path} {s t : σ}
    {k : Option Kind} (hk : fs.kind? p s = (k, t)) (s' : τ) :
    ∃ k' t', fs'.kind? p s' = (k', t') ∧ k'.any (·.canEnter) = k.any (·.canEnter) := by
  have ha : a.kind? p = k := by rw [← hf.kind p s, hk]
  have hk' : (fs'.kind? p s').1 = some ((a.kind? p).getD (instead p)) := hf'.kind p s'
  rw [ha] at hk'
  refine ⟨_, _, Prod.ext hk' rfl, ?_⟩
  cases k with
  | none => exact hi p
  | some k => rfl

/-- Whatever a search does where there are failures, it does in the same way without them. -/
theorem IsRun.absorbing (hi : ∀ p, (instead p).canEnter = false) {b : Probe} {target : Text}
    {task : Task} {s : σ} {r : Run σ} (h : IsRun fs b target task s r) (s' : τ) :
    ∃ r', IsRun fs' b target task s' r' ∧ r.Alike r' := by
  induction h generalizing s' with
  | cut => exact ⟨_, .cut, .empty ..⟩
  | skipped hs => exact ⟨_, .skipped hs, .empty ..⟩
  | unlisted hs hl =>
    -- the listing in its place is empty, and gone through at once
    obtain ⟨t', hl'⟩ := list?_absorbing hf hf' hl s'
    exact ⟨_, .listed hs hl' .done, (Run.Alike.empty .absent _ t').after rfl⟩
  | listed hs hl _ ih =>
    obtain ⟨t', hl'⟩ := list?_absorbing hf hf' hl s'
    obtain ⟨r', hr', ha⟩ := ih t'
    exact ⟨_, .listed hs hl' hr', ha.after rfl⟩
  | done => exact ⟨_, .done, .empty ..⟩
  | found => exact ⟨_, .found, .empty ..⟩
  | passed hn hk he _ ih =>
    obtain ⟨k', t', hk', he'⟩ := kind?_absorbing hf hf' hi hk s'
    obtain ⟨r', hr', ha⟩ := ih t'
    exact ⟨_, .passed hn hk' (he'.trans he) hr', ha.after rfl⟩
  | returned hn hk he _ hb _ ihb ih =>
    obtain ⟨k', t', hk', he'⟩ := kind?_absorbing hf hf' hi hk s'
    obtain ⟨below', hrb, hab⟩ := ihb t'
    obtain ⟨r', hr', ha⟩ := ih below'.state
    exact ⟨_, .returned hn hk' (he'.trans he) hrb (hab.status.trans hb) hr',
      (hab.append ha).after rfl⟩
  | stopped hn hk he _ hb ihb =>
    obtain ⟨k', t', hk', he'⟩ := kind?_absorbing hf hf' hi hk s'
    obtain ⟨below', hrb, hab⟩ := ihb t'
    exact ⟨_, .stopped hn hk' (he'.trans he) hrb (hab.status ▸ hb), hab.after rfl⟩

end

variable {σ τ : Type}

/-- Where the walk is finite, a search among failures asks what it asks where each directory that
cannot be listed is empty and each thing that cannot be examined is none to enter, and it ends in
the same way. -/
theorem search_absorbing (fs : FileSystem σ) (fs' : FileSystem τ) (a : Answers) (hf : fs.Gives a)
    (instead : Path → Kind) (hi : ∀ p, (instead p).canEnter = false)
    (hf' : fs'.Gives (a.absorbing instead)) (b : Probe) (start : Path) (w : List (Path × Text))
    (hw : Walk a b (.directory start) w) (target : Text) (s : σ) (s' : τ) :
    ∃ r r', b.Ends fs target start s r ∧ b.Ends fs' target start s' r' ∧ r'.status = r.status ∧
      r'.questions = r.questions := by
  obtain ⟨r, hr, hst⟩ := hw.exists_isRun hf target s
  obtain ⟨r', hr', ha⟩ := hr.absorbing hf hf' hi s'
  have hne : r.status ≠ .tooDeep := by
    rw [hst]
    exact firstIn_ne_tooDeep
  exact ⟨r, r', hr.ends hne, hr'.ends (ha.status ▸ hne), ha.status, ha.questions⟩

/-- Failures to list and to examine, on two levels, before the name that is looked for; a link is
put in for what cannot be examined. -/
theorem search_absorbing_levels :
    let p (s : String) : Path := ⟨s.toList⟩
    let a : Answers :=
      ⟨fun q => if q = p "/r" then some ["x".toList, "u".toList, "d".toList, "t".toList]
          else if q = p "/r/d" then some ["y".toList, "z".toList] else none,
        fun q => if q = p "/r/u" ∨ q = p "/r/d/y" then none else some .directory⟩
    let instead : Path → Kind := fun _ => ⟨true, true⟩
    let w : List (Path × Text) :=
      [(p "/r/x", "x".toList), (p "/r/u", "u".toList), (p "/r/d", "d".toList),
        (p "/r/d/y", "y".toList), (p "/r/d/z", "z".toList), (p "/r/t", "t".toList)]
    a.fileSystem.Gives a ∧ (a.absorbing instead).fileSystem.Gives (a.absorbing instead) ∧
      (∀ q, (instead q).canEnter = false) ∧ Walk a .new (.directory (p "/r")) w ∧
      ∃ r r', Probe.new.Ends a.fileSystem "t".toList (p "/r") () r ∧
        Probe.new.Ends (a.absorbing instead).fileSystem "t".toList (p "/r") () r' ∧
        r'.status = r.status ∧ r'.questions = r.questions := by
  intro p a instead w
  have hi : ∀ q, (instead q).canEnter = false := fun _ => rfl
  have hw : Walk a .new (.directory (p "/r")) w := by
    have hx : Walk a .new (.directory (p "/r/x")) [] := .unlisted (by decide) rfl
    have hz : Walk a .new (.directory (p "/r/d/z")) [] := .unlisted (by decide) rfl
    have hd : Walk a .new (.directory (p "/r/d")) _ :=
      .listed (by decide) rfl (.passed rfl (.entered rfl hz .done))
    have ht : Walk a .new (.directory (p "/r/t")) [] := .unlisted (by decide) rfl
    have hrest : Walk a .new (.names (p "/r") ["d".toList, "t".toList]) _ :=
      .entered rfl hd (.entered rfl ht .done)
    have hu : Walk a .new (.names (p "/r") ["u".toList, "d".toList, "t".toList]) _ :=
      .passed rfl hrest
    have hall : Walk a .new
        (.names (p "/r") ["x".toList, "u".toList, "d".toList, "t".toList]) _ := .entered rfl hx hu
    exact .listed (by decide) rfl hall
  exact ⟨a.gives, (a.absorbing instead).gives, hi, hw,
    search_absorbing a.fileSystem (a.absorbing instead).fileSystem a a.gives instead hi
      (a.absorbing instead).gives .new (p "/r") w hw "t".toList () ()⟩

end Termkit.Files
