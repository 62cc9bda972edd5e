import Termkit.Files.Search

/-!
# What a search can do

`IsRun fs b target task s r` says that `r` is a run of the search from state `s`, one rule for each
thing that a search does; a run may be cut short anywhere, with the status `tooDeep`. Every search
of limited depth is such a run (`isRun_search`), and a run that was not cut is what the search does
as soon as it may go deep enough (`IsRun.ends`). Properties of searches are then inductions over
the rules. A limit only cuts: deeper searches do the same and go on (`search_cutOf`), so that the
logs of all depths together are the calls of a search without a limit.
-/

namespace Termkit.Files

/-- What a search is about to do: to search a directory, or to go through names in it. -/
inductive Task where
  | directory (dir : Path)
  | names (dir : Path) (names : List Text)
  deriving DecidableEq, Repr

def Task.dir : Task → Path
  | directory p => p
  | names p _ => p

theorem exists_of_canEnter {k : Option Kind} (h : k.any (·.canEnter) = true) :
    ∃ k', k = some k' ∧ k'.isDirectory = true ∧ k'.isLink = false := by
  cases k with
  | none => cases h
  | some k => exact ⟨k, rfl, Kind.canEnter_iff.1 h⟩

variable {σ : Type}

/-- Runs of the search, complete or cut short. -/
inductive IsRun (fs : FileSystem σ) (b : Probe) (target : Text) : Task → σ → Run σ → Prop where
  | cut {dir : Path} {s : σ} : IsRun fs b target (.directory dir) s ⟨.tooDeep, [], s⟩
  | skipped {dir : Path} {s : σ} : b.skips dir = true →
      IsRun fs b target (.directory dir) s ⟨.absent, [], s⟩
  | unlisted {dir : Path} {s s' : σ} : b.skips dir = false → fs.list? dir s = (none, s') →
      IsRun fs b target (.directory dir) s ⟨.absent, [.list dir none], s'⟩
  | listed {dir : Path} {s s' : σ} {all : List Text} {r : Run σ} : b.skips dir = false →
      fs.list? dir s = (some all, s') → IsRun fs b target (.names dir all) s' r →
      IsRun fs b target (.directory dir) s ⟨r.status, .list dir (some all) :: r.log, r.state⟩
  | done {dir : Path} {s : σ} : IsRun fs b target (.names dir []) s ⟨.absent, [], s⟩
  | found {dir : Path} {rest : List Text} {s : σ} :
      IsRun fs b target (.names dir (target :: rest)) s ⟨.found (dir.join target), [], s⟩
  | passed {dir : Path} {name : Text} {rest : List Text} {s s' : σ} {k : Option Kind} {r : Run σ} :
      name ≠ target → fs.kind? (dir.join name) s = (k, s') → k.any (·.canEnter) = false →
      IsRun fs b target (.names dir rest) s' r →
      IsRun fs b target (.names dir (name :: rest)) s
        ⟨r.status, .kind (dir.join name) k :: r.log, r.state⟩
  | returned {dir : Path} {name : Text} {rest : List Text} {s s' : σ} {k : Option Kind}
      {below r : Run σ} :
      name ≠ target → fs.kind? (dir.join name) s = (k, s') → k.any (·.canEnter) = true →
      IsRun fs b target (.directory (dir.join name)) s' below → below.status = .absent →
      IsRun fs b target (.names dir rest) below.state r →
      IsRun fs b target (.names dir (name :: rest)) s
        ⟨r.status, .kind (dir.join name) k :: (below.log ++ r.log), r.state⟩
  | stopped {dir : Path} {name : Text} {rest : List Text} {s s' : σ} {k : Option Kind}
      {below : Run σ} :
      name ≠ target → fs.kind? (dir.join name) s = (k, s') → k.any (·.canEnter) = true →
      IsRun fs b target (.directory (dir.join name)) s' below → below.status ≠ .absent →
      IsRun fs b target (.names dir (name :: rest)) s
        ⟨below.status, .kind (dir.join name) k :: below.log, below.state⟩

/-- The run is the other one, or was cut short on the way to it. -/
def Run.CutOf (r r' : Run σ) : Prop := r = r' ∨ r.status = .tooDeep ∧ r.log <+: r'.log

theorem Run.CutOf.log_isPrefix {r r' : Run σ} (h : r.CutOf r') : r.log <+: r'.log := by
  rcases h with rfl | ⟨-, h⟩
  · exact List.prefix_refl _
  · exact h

theorem Run.CutOf.after {r r' : Run σ} (h : r.CutOf r') (calls : List Call) :
    Run.CutOf ⟨r.status, calls ++ r.log, r.state⟩ ⟨r'.status, calls ++ r'.log, r'.state⟩ := by
  rcases h with rfl | ⟨hs, hp⟩
  · exact .inl rfl
  · exact .inr ⟨hs, (List.prefix_append_right_inj calls).2 hp⟩

namespace Probe

variable {fs : FileSystem σ} {b : Probe} {target : Text}

/-! ## One name -/

section Scan

variable {descend : Path → σ → Run σ} {dir : Path} {name : Text} {rest : List Text} {s s' : σ}
  {k : Option Kind} {below r : Run σ}

theorem scan_found : scan fs target descend dir (target :: rest) s =
    ⟨.found (dir.join target), [], s⟩ := by
  simp [scan]

theorem scan_passed (hn : name ≠ target) (hk : fs.kind? (dir.join name) s = (k, s'))
    (he : k.any (·.canEnter) = false) (hr : scan fs target descend dir rest s' = r) :
    scan fs target descend dir (name :: rest) s =
      ⟨r.status, .kind (dir.join name) k :: r.log, r.state⟩ := by
  simp [scan, hn, hk, he, hr]

theorem scan_returned (hn : name ≠ target) (hk : fs.kind? (dir.join name) s = (k, s'))
    (he : k.any (·.canEnter) = true) (hb : descend (dir.join name) s' = below)
    (ha : below.status = .absent) (hr : scan fs target descend dir rest below.state = r) :
    scan fs target descend dir (name :: rest) s =
      ⟨r.status, .kind (dir.join name) k :: (below.log ++ r.log), r.state⟩ := by
  simp [scan, hn, hk, he, hb, ha, hr]

theorem scan_stopped (hn : name ≠ target) (hk : fs.kind? (dir.join name) s = (k, s'))
    (he : k.any (·.canEnter) = true) (hb : descend (dir.join name) s' = below)
    (ha : below.status ≠ .absent) : scan fs target descend dir (name :: rest) s =
      ⟨below.status, .kind (dir.join name) k :: below.log, below.state⟩ := by
  simp only [scan, if_neg hn, hk, he, if_true, hb]

end Scan

/-! ## One directory -/

section Search

variable {depth : Nat} {dir : Path} {s s' : σ} {names : List Text} {r : Run σ}

theorem search_skipped (hs : b.skips dir = true) :
    b.search fs target (depth + 1) dir s = ⟨.absent, [], s⟩ := if_pos hs

theorem search_unlisted (hs : b.skips dir = false) (hl : fs.list? dir s = (none, s')) :
    b.search fs target (depth + 1) dir s = ⟨.absent, [.list dir none], s'⟩ := by
  simp [search, hs, hl]

theorem search_listed (hs : b.skips dir = false) (hl : fs.list? dir s = (some names, s'))
    (hr : scan fs target (b.search fs target depth) dir names s' = r) :
    b.search fs target (depth + 1) dir s =
      ⟨r.status, .list dir (some names) :: r.log, r.state⟩ := by
  simp [search, hs, hl, hr]

end Search

/-! ## Searches of limited depth are runs -/

theorem isRun_scan {descend : Path → σ → Run σ}
    (hd : ∀ p s, IsRun fs b target (.directory p) s (descend p s)) (dir : Path)
    (names : List Text) (s : σ) :
    IsRun fs b target (.names dir names) s (scan fs target descend dir names s) := by
  induction names generalizing s with
  | nil => exact .done
  | cons name rest ih =>
    by_cases hn : name = target
    · subst hn
      rw [scan_found]
      exact .found
    · obtain ⟨k, s', hk⟩ : ∃ k s', fs.kind? (dir.join name) s = (k, s') := ⟨_, _, rfl⟩
      cases he : k.any (·.canEnter) with
      | false =>
        rw [scan_passed hn hk he rfl]
        exact .passed hn hk he (ih s')
      | true =>
        by_cases hb : (descend (dir.join name) s').status = .absent
        · rw [scan_returned hn hk he rfl hb rfl]
          exact .returned hn hk he (hd _ s') hb (ih _)
        · rw [scan_stopped hn hk he rfl hb]
          exact .stopped hn hk he (hd _ s') hb

theorem isRun_search (fs : FileSystem σ) (b : Probe) (target : Text) (depth : Nat) (dir : Path)
    (s : σ) : IsRun fs b target (.directory dir) s (b.search fs target depth dir s) := by
  induction depth generalizing dir s with
  | zero => exact .cut
  | succ depth ih =>
    cases hs : b.skips dir with
    | true =>
      rw [search_skipped hs]
      exact .skipped hs
    | false =>
      obtain ⟨answer, s', hl⟩ : ∃ answer s', fs.list? dir s = (answer, s') := ⟨_, _, rfl⟩
      cases answer with
      | none =>
        rw [search_unlisted hs hl]
        exact .unlisted hs hl
      | some names =>
        rw [search_listed hs hl rfl]
        exact .listed hs hl (isRun_scan ih dir names s')

/-! ## A limit only cuts -/

theorem scan_cutOf {descend descend' : Path → σ → Run σ}
    (hd : ∀ p s, (descend p s).CutOf (descend' p s)) (dir : Path) (names : List Text) (s : σ) :
    (scan fs target descend dir names s).CutOf (scan fs target descend' dir names s) := by
  induction names generalizing s with
  | nil => exact .inl rfl
  | cons name rest ih =>
    by_cases hn : name = target
    · subst hn
      rw [scan_found, scan_found]
      exact .inl rfl
    · obtain ⟨k, s', hk⟩ : ∃ k s', fs.kind? (dir.join name) s = (k, s') := ⟨_, _, rfl⟩
      cases he : k.any (·.canEnter) with
      | false =>
        rw [scan_passed hn hk he rfl, scan_passed hn hk he rfl]
        exact (ih s').after [_]
      | true =>
        rcases hd (dir.join name) s' with e | ⟨hs, hp⟩
        · by_cases ha : (descend' (dir.join name) s').status = .absent
          · rw [scan_returned hn hk he e ha rfl, scan_returned hn hk he rfl ha rfl]
            exact (ih _).after (_ :: _)
          · rw [scan_stopped hn hk he e ha, scan_stopped hn hk he rfl ha]
            exact .inl rfl
        · -- cut below: the other search may go on behind what was cut
          rw [scan_stopped hn hk he rfl (by rw [hs]; exact nofun)]
          refine .inr ⟨hs, ?_⟩
          by_cases ha : (descend' (dir.join name) s').status = .absent
          · rw [scan_returned hn hk he rfl ha rfl]
            exact List.cons_prefix_cons.2 ⟨rfl, hp.trans (List.prefix_append _ _)⟩
          · rw [scan_stopped hn hk he rfl ha]
            exact List.cons_prefix_cons.2 ⟨rfl, hp⟩

theorem search_cutOf {depth depth' : Nat} (h : depth ≤ depth') (dir : Path) (s : σ) :
    (b.search fs target depth dir s).CutOf (b.search fs target depth' dir s) := by
  induction depth generalizing depth' dir s with
  | zero => exact .inr ⟨rfl, List.nil_prefix⟩
  | succ depth ih =>
    obtain ⟨depth', rfl⟩ : ∃ e, depth' = e + 1 := ⟨depth' - 1, by omega⟩
    have hle : depth ≤ depth' := by omega
    cases hs : b.skips dir with
    | true =>
      rw [search_skipped hs, search_skipped hs]
      exact .inl rfl
    | false =>
      obtain ⟨answer, s', hl⟩ : ∃ answer s', fs.list? dir s = (answer, s') := ⟨_, _, rfl⟩
      cases answer with
      | none =>
        rw [search_unlisted hs hl, search_unlisted hs hl]
        exact .inl rfl
      | some names =>
        rw [search_listed hs hl rfl, search_listed hs hl rfl]
        exact (scan_cutOf (ih hle) dir names s').after [_]

/-! ## Searches without a limit -/

/-- What a search of limited depth does with a task. -/
def perform (fs : FileSystem σ) (b : Probe) (target : Text) (depth : Nat) : Task → σ → Run σ
  | .directory dir, s => b.search fs target depth dir s
  | .names dir names, s => scan fs target (b.search fs target depth) dir names s

/-- Without a limit on its depth, the search ends with the run `r`. -/
def Ends (fs : FileSystem σ) (b : Probe) (target : Text) (start : Path) (s : σ) (r : Run σ) :
    Prop :=
  r.status ≠ .tooDeep ∧ ∃ depth, ∀ d, depth ≤ d → b.search fs target d start s = r

end Probe

variable {fs : FileSystem σ} {b : Probe} {target : Text}

/-- A run that was not cut is what the search does with any depth that is large enough. -/
theorem IsRun.perform_eq {task : Task} {s : σ} {r : Run σ} (h : IsRun fs b target task s r)
    (hr : r.status ≠ .tooDeep) :
    ∃ depth, ∀ d, depth ≤ d → Probe.perform fs b target d task s = r := by
  induction h with
  | cut => exact (hr rfl).elim
  | skipped hs =>
    refine ⟨1, fun d hd => ?_⟩
    obtain ⟨d, rfl⟩ := Nat.exists_eq_add_of_le' hd
    exact Probe.search_skipped hs
  | unlisted hs hl =>
    refine ⟨1, fun d hd => ?_⟩
    obtain ⟨d, rfl⟩ := Nat.exists_eq_add_of_le' hd
    exact Probe.search_unlisted hs hl
  | listed hs hl _ ih =>
    obtain ⟨depth, hdepth⟩ := ih hr
    refine ⟨depth + 1, fun d hd => ?_⟩
    obtain ⟨d, rfl⟩ : ∃ e, d = e + 1 := ⟨d - 1, by omega⟩
    exact Probe.search_listed hs hl (hdepth d (by omega))
  | done => exact ⟨0, fun _ _ => rfl⟩
  | found => exact ⟨0, fun _ _ => Probe.scan_found⟩
  | passed hn hk he _ ih =>
    obtain ⟨depth, hdepth⟩ := ih hr
    exact ⟨depth, fun d hd => Probe.scan_passed hn hk he (hdepth d hd)⟩
  | returned hn hk he _ ha _ ihb ih =>
    obtain ⟨depthB, hdepthB⟩ := ihb (by rw [ha]; exact nofun)
    obtain ⟨depth, hdepth⟩ := ih hr
    refine ⟨max depth depthB, fun d hd => ?_⟩
    exact Probe.scan_returned hn hk he (hdepthB d (by omega)) ha (hdepth d (by omega))
  | stopped hn hk he _ ha ihb =>
    obtain ⟨depth, hdepth⟩ := ihb hr
    exact ⟨depth, fun d hd => Probe.scan_stopped hn hk he (hdepth d hd) ha⟩

theorem IsRun.ends {start : Path} {s : σ} {r : Run σ}
    (h : IsRun fs b target (.directory start) s r) (hr : r.status ≠ .tooDeep) :
    b.Ends fs target start s r := ⟨hr, h.perform_eq hr⟩

theorem Probe.Ends.isRun {start : Path} {s : σ} {r : Run σ} (h : b.Ends fs target start s r) :
    IsRun fs b target (.directory start) s r := by
  obtain ⟨-, depth, hdepth⟩ := h
  rw [← hdepth depth (Nat.le_refl _)]
  exact b.isRun_search fs target depth start s

/-- Two searches that end do so within one depth. -/
theorem Probe.Ends.exists_depth {t u : Text} {start : Path} {s : σ} {r r' : Run σ}
    (h : b.Ends fs t start s r) (h' : b.Ends fs u start s r') :
    ∃ depth, b.search fs t depth start s = r ∧ b.search fs u depth start s = r' := by
  obtain ⟨-, depth, hdepth⟩ := h
  obtain ⟨-, depth', hdepth'⟩ := h'
  exact ⟨max depth depth', hdepth _ (Nat.le_max_left ..), hdepth' _ (Nat.le_max_right ..)⟩

/-- There is one way for a search to end. -/
theorem Probe.Ends.unique {start : Path} {s : σ} {r r' : Run σ} (h : b.Ends fs target start s r)
    (h' : b.Ends fs target start s r') : r = r' := by
  obtain ⟨depth, hr, hr'⟩ := h.exists_depth h'
  exact hr.symm.trans hr'

/-- A search that ends within some depth ends so without a limit. -/
theorem Probe.Ends.status_eq {start : Path} {s : σ} {r : Run σ} (h : b.Ends fs target start s r)
    {depth : Nat} {st : Status} (hst : (b.search fs target depth start s).status = st)
    (hne : st ≠ .tooDeep) : r.status = st := by
  have hends := (b.isRun_search fs target depth start s).ends (hst ▸ hne)
  rw [h.unique hends, hst]

/-! ## The log -/

/-- Asked the questions of the log one after another from the first state, the file system gives
these answers and comes to the second state. -/
inductive Dialogue (fs : FileSystem σ) : σ → List Call → σ → Prop where
  | nil {s : σ} : Dialogue fs s [] s
  | list {s s' t : σ} {p : Path} {answer : Option (List Text)} {log : List Call} :
      fs.list? p s = (answer, s') → Dialogue fs s' log t → Dialogue fs s (.list p answer :: log) t
  | kind {s s' t : σ} {p : Path} {answer : Option Kind} {log : List Call} :
      fs.kind? p s = (answer, s') → Dialogue fs s' log t → Dialogue fs s (.kind p answer :: log) t

theorem Dialogue.exists_list {s t : σ} {log : List Call} (h : Dialogue fs s log t) {p : Path}
    {answer : Option (List Text)} (hm : .list p answer ∈ log) : ∃ s', (fs.list? p s').1 = answer := by
  induction h with
  | nil => cases hm
  | @list s _ _ q a _ ha _ ih =>
    rcases List.mem_cons.1 hm with hm | hm
    · cases hm
      exact ⟨s, by rw [ha]⟩
    · exact ih hm
  | kind _ _ ih =>
    rcases List.mem_cons.1 hm with hm | hm
    · cases hm
    · exact ih hm

theorem Dialogue.append {s s' t : σ} {log log' : List Call} (h : Dialogue fs s log s')
    (h' : Dialogue fs s' log' t) : Dialogue fs s (log ++ log') t := by
  induction h with
  | nil => exact h'
  | list ha _ ih => exact .list ha (ih h')
  | kind ha _ ih => exact .kind ha (ih h')

/-- The log of a run is what it asked and was told. -/
theorem IsRun.dialogue {task : Task} {s : σ} {r : Run σ} (h : IsRun fs b target task s r) :
    Dialogue fs s r.log r.state := by
  induction h with
  | cut | skipped | done | found => exact .nil
  | unlisted _ hl => exact .list hl .nil
  | listed _ hl _ ih => exact .list hl ih
  | passed _ hk _ _ ih => exact .kind hk ih
  | returned _ hk _ _ _ _ ihb ih => exact .kind hk (ihb.append ih)
  | stopped _ hk _ _ _ ihb => exact .kind hk ihb

end Termkit.Files
