import Termkit.Proofs.Files.Lockstep

/-!
# Searches for different names

The name that is looked for decides where a search stops, and nothing else. Two searches of one file
system from the same directory and state do the same to their ends, or one of them stops at a path
that the other, after the same calls, goes on to examine (`search_sameWalk`). The depth may be
limited, and the answers may change from call to call, as long as the same calls bring the same
answers.
-/

namespace Termkit.Files

variable {σ : Type}

namespace Run

/-- The first run ends with a path that the second, after the same calls, goes on to examine. -/
def StopsBefore (r r' : Run σ) : Prop :=
  ∃ p answer rest, r.status = .found p ∧ r'.log = r.log ++ .kind p answer :: rest

/-- The runs are the same, but that one may stop before the other. -/
inductive SameWalk (r r' : Run σ) : Prop where
  | same : r = r' → SameWalk r r'
  | first : r.StopsBefore r' → SameWalk r r'
  | second : r'.StopsBefore r → SameWalk r r'

variable {r r' : Run σ}

theorem StopsBefore.log_isPrefix (h : r.StopsBefore r') : r.log <+: r'.log := by
  obtain ⟨p, answer, rest, -, hl⟩ := h
  rw [hl]
  exact List.prefix_append _ _

theorem StopsBefore.ne_absent (h : r.StopsBefore r') : r.status ≠ .absent := by
  obtain ⟨p, answer, rest, hs, -⟩ := h
  rw [hs]
  exact nofun

/-- The other run may go on. -/
theorem StopsBefore.extend (h : r.StopsBefore r') {r'' : Run σ} (he : r'.log <+: r''.log) :
    r.StopsBefore r'' := by
  obtain ⟨p, answer, rest, hs, hl⟩ := h
  obtain ⟨more, hm⟩ := he
  exact ⟨p, answer, rest ++ more, hs, by rw [← hm, hl, List.append_assoc, List.cons_append]⟩

/-- Behind the same calls. -/
theorem StopsBefore.after (h : r.StopsBefore r') (calls : List Call) :
    StopsBefore ⟨r.status, calls ++ r.log, r.state⟩ ⟨r'.status, calls ++ r'.log, r'.state⟩ := by
  obtain ⟨p, answer, rest, hs, hl⟩ := h
  exact ⟨p, answer, rest, hs, by rw [hl, List.append_assoc]⟩

theorem SameWalk.after (h : r.SameWalk r') (calls : List Call) :
    SameWalk ⟨r.status, calls ++ r.log, r.state⟩ ⟨r'.status, calls ++ r'.log, r'.state⟩ := by
  rcases h with rfl | h | h
  · exact .same rfl
  · exact .first (h.after calls)
  · exact .second (h.after calls)

end Run

namespace Probe

variable {fs : FileSystem σ} {b : Probe} {t u : Text}

section Scan

variable {descend descend' : Path → σ → Run σ} {dir : Path} {name : Text} {rest : List Text}
  {s s' : σ} {k : Option Kind}

/-- What the one looks for, the other examines. -/
theorem scan_stopsBefore (hu : name ≠ u) :
    (scan fs name descend dir (name :: rest) s).StopsBefore
      (scan fs u descend' dir (name :: rest) s) := by
  obtain ⟨k, s', hk⟩ : ∃ k s', fs.kind? (dir.join name) s = (k, s') := ⟨_, _, rfl⟩
  rw [scan_found]
  cases he : k.any (·.canEnter) with
  | false =>
    rw [scan_passed hu hk he rfl]
    exact ⟨_, _, _, rfl, rfl⟩
  | true =>
    by_cases ha : (descend' (dir.join name) s').status = .absent
    · rw [scan_returned hu hk he rfl ha rfl]
      exact ⟨_, _, _, rfl, rfl⟩
    · rw [scan_stopped hu hk he rfl ha]
      exact ⟨_, _, _, rfl, rfl⟩

/-- What stops below a name stops all, whether or not the other one comes back from there. -/
theorem scan_stopsBefore_below (ht : name ≠ t) (hu : name ≠ u)
    (hk : fs.kind? (dir.join name) s = (k, s')) (he : k.any (·.canEnter) = true)
    (h : (descend (dir.join name) s').StopsBefore (descend' (dir.join name) s')) :
    (scan fs t descend dir (name :: rest) s).StopsBefore
      (scan fs u descend' dir (name :: rest) s) := by
  have hbelow := h.after [.kind (dir.join name) k]
  rw [scan_stopped ht hk he rfl h.ne_absent]
  by_cases ha : (descend' (dir.join name) s').status = .absent
  · rw [scan_returned hu hk he rfl ha rfl]
    exact hbelow.extend ((List.prefix_cons_inj _).2 (List.prefix_append _ _))
  · rw [scan_stopped hu hk he rfl ha]
    exact hbelow

end Scan

/-- Going through the same names is the same walk if searching below them is. -/
theorem scan_sameWalk {descend descend' : Path → σ → Run σ}
    (hd : ∀ p s, (descend p s).SameWalk (descend' p s)) (dir : Path) (names : List Text) (s : σ) :
    (scan fs t descend dir names s).SameWalk (scan fs u descend' dir names s) := by
  induction names generalizing s with
  | nil => exact .same rfl
  | cons name rest ih =>
    by_cases ht : name = t <;> by_cases hu : name = u
    · rw [← ht, ← hu, scan_found, scan_found]
      exact .same rfl
    · subst ht
      exact .first (scan_stopsBefore hu)
    · subst hu
      exact .second (scan_stopsBefore ht)
    · obtain ⟨k, s', hk⟩ : ∃ k s', fs.kind? (dir.join name) s = (k, s') := ⟨_, _, rfl⟩
      cases he : k.any (·.canEnter) with
      | false =>
        rw [scan_passed ht hk he rfl, scan_passed hu hk he rfl]
        exact (ih s').after [_]
      | true =>
        rcases hd (dir.join name) s' with e | h | h
        · by_cases ha : (descend' (dir.join name) s').status = .absent
          · rw [scan_returned ht hk he e ha rfl, scan_returned hu hk he rfl ha rfl]
            exact (ih _).after (_ :: _)
          · rw [scan_stopped ht hk he e ha, scan_stopped hu hk he rfl ha]
            exact .same rfl
        · exact .first (scan_stopsBefore_below ht hu hk he h)
        · exact .second (scan_stopsBefore_below hu ht hk he h)

/-- Searches for any two names to the same depth are the same walk. -/
theorem search_sameWalk (fs : FileSystem σ) (b : Probe) (t u : Text) (depth : Nat) (dir : Path)
    (s : σ) : (b.search fs t depth dir s).SameWalk (b.search fs u depth dir s) := by
  induction depth generalizing dir s with
  | zero => exact .same rfl
  | succ depth ih =>
    rw [search_succ, search_succ]
    exact (scan_sameWalk ih dir _ _).after _

end Probe

theorem Probe.Ends.sameWalk {fs : FileSystem σ} {b : Probe} {start : Path} {s : σ} {t u : Text}
    {r r' : Run σ} (hr : b.Ends fs t start s r) (hr' : b.Ends fs u start s r') :
    r.SameWalk r' := by
  obtain ⟨depth, rfl, rfl⟩ := hr.exists_depth hr'
  exact b.search_sameWalk fs t u depth start s

/-- Of two searches that end, for any two names, one makes the calls of the other and perhaps more,
with the same answers. If neither finds its name they are the same; and if only one does, the other
goes on from there by examining the path that was found. -/
theorem search_until_found (fs : FileSystem σ) (b : Probe) (start : Path) (s : σ) (t u : Text)
    (r r' : Run σ) (hr : b.Ends fs t start s r) (hr' : b.Ends fs u start s r') :
    (r.log <+: r'.log ∨ r'.log <+: r.log) ∧
      (r.status = .absent → r'.status = .absent → r = r') ∧
      ∀ p, r.status = .found p → r'.status = .absent →
        ∃ answer rest, r'.log = r.log ++ .kind p answer :: rest := by
  rcases hr.sameWalk hr' with rfl | h | h
  · refine ⟨.inl (List.prefix_refl _), fun _ _ => rfl, fun p hp ha => ?_⟩
    rw [hp] at ha
    cases ha
  · refine ⟨.inl h.log_isPrefix, fun ha _ => (h.ne_absent ha).elim, fun p hp _ => ?_⟩
    obtain ⟨q, answer, rest, hq, hl⟩ := h
    obtain rfl : p = q := Status.found.inj (hp.symm.trans hq)
    exact ⟨answer, rest, hl⟩
  · exact ⟨.inr h.log_isPrefix, fun _ ha => (h.ne_absent ha).elim,
      fun _ _ ha => (h.ne_absent ha).elim⟩

/-- Answers that change from call to call: the name is found below the second directory, after the
search came back from the first one. -/
theorem search_until_found_below :
    let p (s : String) : Path := ⟨s.toList⟩
    let fs : FileSystem Nat :=
      ⟨fun q n => (if n = 0 then some ["c".toList, "d".toList] else
          if q = p "/r/d" ∧ n = 4 then some ["x".toList, "t".toList] else none, n + 1),
        fun _ n => (if n < 5 then some .directory else none, n + 1)⟩
    ∃ r r', Probe.new.Ends fs "t".toList (p "/r") 0 r ∧ Probe.new.Ends fs "u".toList (p "/r") 0 r' ∧
      r.status = .found (p "/r/d/t") ∧ r'.status = .absent ∧
      ∃ answer rest, r'.log = r.log ++ .kind (p "/r/d/t") answer :: rest := by
  intro p fs
  have hst : (Probe.new.search fs "t".toList 3 (p "/r") 0).status = .found (p "/r/d/t") := by decide
  have hst' : (Probe.new.search fs "u".toList 3 (p "/r") 0).status = .absent := by decide
  have hr := (Probe.new.isRun_search fs "t".toList 3 (p "/r") 0).ends (by rw [hst]; exact nofun)
  have hr' := (Probe.new.isRun_search fs "u".toList 3 (p "/r") 0).ends (by rw [hst']; exact nofun)
  obtain ⟨-, -, hfound⟩ := search_until_found fs .new (p "/r") 0 _ _ _ _ hr hr'
  exact ⟨_, _, hr, hr', hst, hst', hfound _ hst hst'⟩

end Termkit.Files
