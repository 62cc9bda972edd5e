import Mathlib.Data.List.Forall2
import Termkit.Files.Table
import Termkit.Proofs.Files.Lockstep
import Termkit.Proofs.Files.Places
import Termkit.Proofs.Files.Walk

/-!
# The spelling of the start

Where answers take no notice of how a path is spelled, as those of a table do not, neither does a
search: started at the same path in another spelling it asks about the same paths in the same
order, and finds the same path or none (`search_spelling`). The two runs carry different spellings
all the way down, and may have to join any name to them.
-/

namespace Termkit.Files

/-- The same question about the same path, with the same answer. -/
inductive Call.Same : Call → Call → Prop where
  | list {p q : Path} {answer : Option (List Text)} : p.same q = true →
      Same (.list p answer) (.list q answer)
  | kind {p q : Path} {answer : Option Kind} : p.same q = true →
      Same (.kind p answer) (.kind q answer)

variable {σ : Type}

/-- The same run in another spelling: it found the same path or none, after the same calls. -/
structure Run.Respelled (r r' : Run σ) : Prop where
  status : r.status = .absent ∧ r'.status = .absent ∨
    ∃ p q, r.status = .found p ∧ r'.status = .found q ∧ p.same q = true
  log : List.Forall₂ Call.Same r.log r'.log

/-- Answers take no notice of how a path is spelled. `R` relates the states that such answers do
not tell apart. -/
structure FileSystem.IgnoresSpelling (fs : FileSystem σ) (R : σ → σ → Prop) : Prop where
  list {p q : Path} {s t : σ} : p.same q = true → R s t →
    (fs.list? p s).1 = (fs.list? q t).1 ∧ R (fs.list? p s).2 (fs.list? q t).2
  kind {p q : Path} {s t : σ} : p.same q = true → R s t →
    (fs.kind? p s).1 = (fs.kind? q t).1 ∧ R (fs.kind? p s).2 (fs.kind? q t).2

/-! ## Tables -/

namespace Table

variable {p q : Path}

theorem last?_congr {α : Type} (h : p.same q = true) (entries : List (Path × α)) :
    last? entries p = last? entries q := by
  have hkey : (fun e : Path × α => e.1.same p) = fun e => e.1.same q :=
    funext fun e => Path.same_congr h e.1
  rw [last?, last?, hkey]

/-- A table is looked up by the path and not by its spelling. -/
theorem ignoresSpelling (t : Table) : t.fileSystem.IgnoresSpelling Eq where
  list := by
    rintro p q n _ h rfl
    have he : t.fileSystem.list? p n = t.fileSystem.list? q n := by
      simp only [fileSystem, last?_congr h]
    exact ⟨congrArg (·.1) he, congrArg (·.2) he⟩
  kind := by
    rintro p q n _ h rfl
    exact ⟨last?_congr h _, rfl⟩

end Table

/-! ## Two spellings in step -/

def respelled (R : σ → σ → Prop) : Correspondence σ σ where
  path p q := p.same q = true
  state := R
  log := List.Forall₂ Call.Same

theorem Probe.skips_congr {p q : Path} (h : p.same q = true) (b : Probe) :
    b.skips p = b.skips q := by
  unfold skips
  exact congrArg b.skipped.any (funext (Path.same_congr h))

variable {fs : FileSystem σ} {R : σ → σ → Prop}

theorem lockstep_respelled (hf : fs.IgnoresSpelling R) (b : Probe) :
    Lockstep (respelled R) fs b fs b where
  join name h := Path.same_join h name
  nil := .nil
  append h k := List.rel_append h k
  read := by
    intro p q s t hp hst
    have hskip := b.skips_congr hp
    cases hs : b.skips p with
    | true =>
      rw [Probe.read_of_skips hs, Probe.read_of_skips (hskip ▸ hs)]
      exact ⟨rfl, .nil, hst⟩
    | false =>
      obtain ⟨hl, hst'⟩ := hf.list hp hst
      rw [Probe.read_of_not_skips hs, Probe.read_of_not_skips (hskip ▸ hs), hl]
      exact ⟨rfl, .cons (.list hp) .nil, hst'⟩
  canEnter := by
    intro p q s t hp hst
    rw [(hf.kind hp hst).1]
  kind := by
    intro p q s t hp hst
    obtain ⟨hk, hst'⟩ := hf.kind hp hst
    rw [hk]
    exact ⟨.cons (.kind hp) .nil, hst'⟩

theorem Run.Matches.respelled {r r' : Run σ} (h : r.Matches (respelled R) r')
    (hr : r.status ≠ .tooDeep) : r.Respelled r' := by
  refine ⟨?_, h.log⟩
  have hst := h.status
  generalize r.status = st at hst hr
  generalize r'.status = st' at hst
  cases hst with
  | found hp => exact .inr ⟨_, _, rfl, rfl, hp⟩
  | absent => exact .inl ⟨rfl, rfl⟩
  | tooDeep => exact (hr rfl).elim

/-- A search from the same start in another spelling ends if the search from the start does, as it
does where the walk is finite; it asks the same questions and finds the same path or none. -/
theorem search_spelling (fs : FileSystem σ) (R : σ → σ → Prop) (hf : fs.IgnoresSpelling R)
    (b : Probe) (target : Text) (start start' : Path) (h : start.same start' = true) (s t : σ)
    (hst : R s t) :
    (∀ r, b.Ends fs target start s r →
      ∃ r', b.Ends fs target start' t r' ∧ r.Respelled r') ∧
      ∀ a w, fs.Gives a → Walk a b (.directory start) w →
        ∃ r r', b.Ends fs target start s r ∧ b.Ends fs target start' t r' ∧ r.Respelled r' := by
  have hends : ∀ r, b.Ends fs target start s r →
      ∃ r', b.Ends fs target start' t r' ∧ r.Respelled r' := by
    intro r hr
    obtain ⟨r', hr', hm⟩ := (lockstep_respelled hf b).ends h hst hr
    exact ⟨r', hr', hm.respelled hr.1⟩
  refine ⟨hends, fun a w ha hw => ?_⟩
  obtain ⟨r, hr, hwalk⟩ := hw.exists_isRun ha target s
  have hr := hr.ends (by rw [hwalk]; exact firstIn_ne_tooDeep)
  obtain ⟨r', hr', hm⟩ := hends r hr
  exact ⟨r, r', hr, hr', hm⟩

/-- Names that are empty, a dot, absolute, and of two parts, below a start that is written with
slashes and a dot too many. -/
theorem search_spelling_slashes :
    let p (s : String) : Path := ⟨s.toList⟩
    let listings : List (Path × List Text) :=
      [(p "/r", [[], ".".toList, "/abs".toList, "d".toList]), (p "/abs/", ["a/x".toList]),
        (p "/r/./d", ["t".toList])]
    let a : Answers :=
      ⟨Table.last? listings, Table.last? [(p "//abs", .directory), (p "/r/d", .directory)]⟩
    let w : List (Path × Text) :=
      [(p "/r/", []), (p "/r/.", ".".toList), (p "/abs", "/abs".toList),
        (p "/abs/a/x", "a/x".toList), (p "/r/d", "d".toList), (p "/r/d/t", "t".toList)]
    a.fileSystem.IgnoresSpelling (fun _ _ => True) ∧ (p "/r").same (p "//r/./") = true ∧
      a.fileSystem.Gives a ∧ Walk a .new (.directory (p "/r")) w ∧
      ∃ r r', Probe.new.Ends a.fileSystem "t".toList (p "/r") () r ∧
        Probe.new.Ends a.fileSystem "t".toList (p "//r/./") () r' ∧
        r.status = .found (p "/r/d/t") ∧ r'.status = .found (p "//r/./d/t") ∧
        List.Forall₂ Call.Same r.log r'.log := by
  intro p listings a w
  have hf : a.fileSystem.IgnoresSpelling (fun _ _ => True) :=
    ⟨fun h _ => ⟨Table.last?_congr h _, trivial⟩, fun h _ => ⟨Table.last?_congr h _, trivial⟩⟩
  have hw : Walk a .new (.directory (p "/r")) w := by
    have hd : Walk a .new (.directory (p "/r/d")) _ := .listed (by decide) rfl (.passed rfl .done)
    have habs : Walk a .new (.directory (p "/abs")) _ :=
      .listed (by decide) rfl (.passed rfl .done)
    have hlast : Walk a .new (.names (p "/r") ["d".toList]) _ := .entered rfl hd .done
    have hrest : Walk a .new (.names (p "/r") ["/abs".toList, "d".toList]) _ :=
      .entered rfl habs hlast
    have hall : Walk a .new (.names (p "/r") [[], ".".toList, "/abs".toList, "d".toList]) _ :=
      .passed rfl (.passed rfl hrest)
    exact .listed (by decide) rfl hall
  obtain ⟨-, hends⟩ := search_spelling a.fileSystem _ hf .new "t".toList (p "/r") (p "//r/./")
    (by decide) () () trivial
  obtain ⟨r, r', hr, hr', hm⟩ := hends a w a.gives hw
  have hst : (Probe.new.search a.fileSystem "t".toList 3 (p "/r") ()).status =
      .found (p "/r/d/t") := by decide
  have hst' : (Probe.new.search a.fileSystem "t".toList 3 (p "//r/./") ()).status =
      .found (p "//r/./d/t") := by decide
  exact ⟨hf, by decide, a.gives, hw, r, r', hr, hr', hr.status_eq hst nofun,
    hr'.status_eq hst' nofun, hm.log⟩

end Termkit.Files
