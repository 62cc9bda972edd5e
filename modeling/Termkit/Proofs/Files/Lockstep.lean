import Termkit.Proofs.Files.Runs

/-!
# Searches in lockstep

Two searches, of two file systems and with two probes, go in lockstep if from corresponding
directories they read the same names, and enter one of two corresponding things just if they enter
the other. What is asked of them is what one question does (`Lockstep`); from it follows that whole
searches to the same depth end alike, after corresponding calls (`Lockstep.search`), and that they
end together (`Lockstep.ends`). Which paths, states and logs correspond is left open.
-/

namespace Termkit.Files

/-! ## Reading a directory -/

/-- What a search gets from a directory: the names to go through, and the calls for them. -/
structure Reading (σ : Type) where
  names : List Text
  log : List Call
  state : σ

variable {σ τ : Type}

namespace Probe

/-- Reads a directory. One that is skipped is not listed, and one that cannot be listed has no
names. -/
def read (fs : FileSystem σ) (b : Probe) (dir : Path) (s : σ) : Reading σ :=
  if b.skips dir then ⟨[], [], s⟩
  else ⟨(fs.list? dir s).1.getD [], [.list dir (fs.list? dir s).1], (fs.list? dir s).2⟩

variable {fs : FileSystem σ} {b : Probe} {dir : Path}

theorem read_of_skips (h : b.skips dir = true) (s : σ) : b.read fs dir s = ⟨[], [], s⟩ := if_pos h

theorem read_of_not_skips (h : b.skips dir = false) (s : σ) :
    b.read fs dir s =
      ⟨(fs.list? dir s).1.getD [], [.list dir (fs.list? dir s).1], (fs.list? dir s).2⟩ :=
  if_neg (by simp [h])

/-- A search goes through the names that it reads. -/
theorem search_succ (fs : FileSystem σ) (b : Probe) (target : Text) (depth : Nat) (dir : Path)
    (s : σ) :
    b.search fs target (depth + 1) dir s =
      let reading := b.read fs dir s
      let r := scan fs target (b.search fs target depth) dir reading.names reading.state
      ⟨r.status, reading.log ++ r.log, r.state⟩ := by
  cases hs : b.skips dir with
  | true =>
    rw [search_skipped hs, read_of_skips hs]
    rfl
  | false =>
    obtain ⟨answer, s', hl⟩ : ∃ answer s', fs.list? dir s = (answer, s') := ⟨_, _, rfl⟩
    rw [read_of_not_skips hs, hl]
    cases answer with
    | none => exact search_unlisted hs hl
    | some names => exact search_listed hs hl rfl

end Probe

/-! ## What corresponds -/

/-- Which paths, states and logs of two searches correspond. -/
structure Correspondence (σ τ : Type) where
  path : Path → Path → Prop
  state : σ → τ → Prop
  log : List Call → List Call → Prop

/-- The searches ended alike, with corresponding paths if they found one. -/
inductive Status.Matches (c : Correspondence σ τ) : Status → Status → Prop where
  | found {p q : Path} : c.path p q → Matches c (.found p) (.found q)
  | absent : Matches c .absent .absent
  | tooDeep : Matches c .tooDeep .tooDeep

structure Run.Matches (c : Correspondence σ τ) (r : Run σ) (r' : Run τ) : Prop where
  status : r.status.Matches c r'.status
  log : c.log r.log r'.log
  state : c.state r.state r'.state

structure Reading.Matches (c : Correspondence σ τ) (r : Reading σ) (r' : Reading τ) : Prop where
  names : r'.names = r.names
  log : c.log r.log r'.log
  state : c.state r.state r'.state

/-- Corresponding questions do corresponding things. -/
structure Lockstep (c : Correspondence σ τ) (fs : FileSystem σ) (b : Probe) (fs' : FileSystem τ)
    (b' : Probe) : Prop where
  join {p q : Path} (name : Text) : c.path p q → c.path (p.join name) (q.join name)
  nil : c.log [] []
  append {l l' m m' : List Call} : c.log l l' → c.log m m' → c.log (l ++ m) (l' ++ m')
  read {p q : Path} {s : σ} {t : τ} : c.path p q → c.state s t →
    (b.read fs p s).Matches c (b'.read fs' q t)
  canEnter {p q : Path} {s : σ} {t : τ} : c.path p q → c.state s t →
    (fs'.kind? q t).1.any (·.canEnter) = (fs.kind? p s).1.any (·.canEnter)
  kind {p q : Path} {s : σ} {t : τ} : c.path p q → c.state s t →
    c.log [.kind p (fs.kind? p s).1] [.kind q (fs'.kind? q t).1] ∧
      c.state (fs.kind? p s).2 (fs'.kind? q t).2

variable {c : Correspondence σ τ}

namespace Status.Matches

variable {st st' : Status}

theorem absent_iff (h : st.Matches c st') : st = .absent ↔ st' = .absent := by
  cases h <;> simp

theorem tooDeep_iff (h : st.Matches c st') : st = .tooDeep ↔ st' = .tooDeep := by
  cases h <;> simp

theorem eq (h : st.Matches c st') (hc : ∀ p q, c.path p q → p = q) : st = st' := by
  cases h with
  | found hp => rw [hc _ _ hp]
  | absent => rfl
  | tooDeep => rfl

end Status.Matches

/-! ## Whole searches -/

namespace Lockstep

variable {fs : FileSystem σ} {b : Probe} {fs' : FileSystem τ} {b' : Probe} {target : Text}
  {dir dir' : Path} {s : σ} {t : τ}

/-- Going through the same names keeps in step if searching below them does. -/
theorem scan (h : Lockstep c fs b fs' b') (target : Text) {descend : Path → σ → Run σ}
    {descend' : Path → τ → Run τ}
    (hd : ∀ {p q s t}, c.path p q → c.state s t → (descend p s).Matches c (descend' q t))
    (hp : c.path dir dir') (names : List Text) (hst : c.state s t) :
    (Probe.scan fs target descend dir names s).Matches c
      (Probe.scan fs' target descend' dir' names t) := by
  induction names generalizing s t with
  | nil => exact ⟨.absent, h.nil, hst⟩
  | cons name rest ih =>
    have hj : c.path (dir.join name) (dir'.join name) := h.join name hp
    by_cases hn : name = target
    · subst hn
      rw [Probe.scan_found, Probe.scan_found]
      exact ⟨.found hj, h.nil, hst⟩
    · obtain ⟨hl, hk⟩ := h.kind hj hst
      have he := h.canEnter hj hst
      cases hc : (fs.kind? (dir.join name) s).1.any (·.canEnter) with
      | false =>
        have hr := ih hk
        rw [Probe.scan_passed hn rfl hc rfl, Probe.scan_passed hn rfl (he.trans hc) rfl]
        exact ⟨hr.status, h.append hl hr.log, hr.state⟩
      | true =>
        have hb := hd hj hk
        by_cases ha : (descend (dir.join name) (fs.kind? (dir.join name) s).2).status = .absent
        · have hr := ih hb.state
          rw [Probe.scan_returned hn rfl hc rfl ha rfl,
            Probe.scan_returned hn rfl (he.trans hc) rfl (hb.status.absent_iff.1 ha) rfl]
          exact ⟨hr.status, h.append hl (h.append hb.log hr.log), hr.state⟩
        · rw [Probe.scan_stopped hn rfl hc rfl ha,
            Probe.scan_stopped hn rfl (he.trans hc) rfl (mt hb.status.absent_iff.2 ha)]
          exact ⟨hb.status, h.append hl hb.log, hb.state⟩

/-- Searches to the same depth keep in step. -/
theorem search (h : Lockstep c fs b fs' b') (target : Text) (depth : Nat) (hp : c.path dir dir')
    (hst : c.state s t) :
    (b.search fs target depth dir s).Matches c (b'.search fs' target depth dir' t) := by
  induction depth generalizing dir dir' s t with
  | zero => exact ⟨.tooDeep, h.nil, hst⟩
  | succ depth ih =>
    have hread := h.read hp hst
    have hr := h.scan target ih hp (b.read fs dir s).names hread.state
    rw [Probe.search_succ, Probe.search_succ]
    dsimp only
    rw [hread.names]
    exact ⟨hr.status, h.append hread.log hr.log, hr.state⟩

/-- Where one search ends, the other one does. -/
theorem ends (h : Lockstep c fs b fs' b') (hp : c.path dir dir') (hst : c.state s t) {r : Run σ}
    (hr : b.Ends fs target dir s r) : ∃ r', b'.Ends fs' target dir' t r' ∧ r.Matches c r' := by
  obtain ⟨hne, depth, hdepth⟩ := hr
  have hm := h.search target depth hp hst
  rw [hdepth depth (Nat.le_refl _)] at hm
  exact ⟨_, (b'.isRun_search fs' target depth dir' t).ends (mt hm.status.tooDeep_iff.2 hne), hm⟩

end Lockstep

end Termkit.Files
