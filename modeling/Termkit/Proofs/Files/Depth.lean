import Termkit.Files.Table
import Termkit.Proofs.Files.Runs

/-!
# Depths that are enough

A search is cut short only where it comes to a directory with no level left. `EnoughDepth` says of
a relation between the levels left, a directory and a state that it excludes this and passes from a
listed directory to each directory in it. A search that starts in such a relation is not cut, and
ends as it would without a limit (`EnoughDepth.ends`). A table answers requests for a listing only
so often, and each level makes one: that bounds the levels of a search in it (`Table.find_ends`).
-/

namespace Termkit.Files

variable {σ : Type}

/-- While it holds of the levels left, a directory and a state, a search has a level left, in the
directory and in what it enters below. -/
structure EnoughDepth (fs : FileSystem σ) (Fits : Nat → Path → σ → Prop) : Prop where
  pos {depth : Nat} {dir : Path} {s : σ} : Fits depth dir s → 0 < depth
  next {depth : Nat} {dir : Path} {s s' s₁ s₂ : σ} {names : List Text} {log : List Call}
      {name : Text} {k : Option Kind} : Fits (depth + 1) dir s →
    fs.list? dir s = (some names, s') → name ∈ names → Dialogue fs s' log s₁ →
    fs.kind? (dir.join name) s₁ = (k, s₂) → k.any (·.canEnter) = true →
    Fits depth (dir.join name) s₂

variable {fs : FileSystem σ} {b : Probe} {target : Text}

/-- Going through names is cut short only below one of them. -/
theorem scan_status_ne_tooDeep {descend : Path → σ → Run σ}
    (hd : ∀ p s, IsRun fs b target (.directory p) s (descend p s)) {dir : Path}
    {names : List Text} {s : σ}
    (hb : ∀ name ∈ names, ∀ log s₁ k s₂, Dialogue fs s log s₁ →
      fs.kind? (dir.join name) s₁ = (k, s₂) → k.any (·.canEnter) = true →
      (descend (dir.join name) s₂).status ≠ .tooDeep) :
    (Probe.scan fs target descend dir names s).status ≠ .tooDeep := by
  induction names generalizing s with
  | nil => exact nofun
  | cons name rest ih =>
    obtain ⟨hname, hrest⟩ := List.forall_mem_cons.1 hb
    by_cases hn : name = target
    · subst hn
      rw [Probe.scan_found]
      exact nofun
    · obtain ⟨k, s₁, hk⟩ : ∃ k s₁, fs.kind? (dir.join name) s = (k, s₁) := ⟨_, _, rfl⟩
      cases he : k.any (·.canEnter) with
      | false =>
        rw [Probe.scan_passed hn hk he rfl]
        exact ih fun later hm log s' k' s'' hlog =>
          hrest later hm _ s' k' s'' (.kind hk hlog)
      | true =>
        have hbelow := hname [] s k s₁ .nil hk he
        by_cases ha : (descend (dir.join name) s₁).status = .absent
        · rw [Probe.scan_returned hn hk he rfl ha rfl]
          exact ih fun later hm log s' k' s'' hlog =>
            hrest later hm _ s' k' s'' (.kind hk ((hd _ s₁).dialogue.append hlog))
        · rw [Probe.scan_stopped hn hk he rfl ha]
          exact hbelow

namespace EnoughDepth

variable {Fits : Nat → Path → σ → Prop} {depth : Nat} {dir : Path} {s : σ}

theorem status_ne_tooDeep (h : EnoughDepth fs Fits) (hf : Fits depth dir s) :
    (b.search fs target depth dir s).status ≠ .tooDeep := by
  induction depth generalizing dir s with
  | zero => exact absurd (h.pos hf) (Nat.lt_irrefl 0)
  | succ depth ih =>
    cases hs : b.skips dir with
    | true =>
      rw [Probe.search_skipped hs]
      exact nofun
    | false =>
      obtain ⟨answer, s', hl⟩ : ∃ answer s', fs.list? dir s = (answer, s') := ⟨_, _, rfl⟩
      cases answer with
      | none =>
        rw [Probe.search_unlisted hs hl]
        exact nofun
      | some names =>
        rw [Probe.search_listed hs hl rfl]
        exact scan_status_ne_tooDeep (b.isRun_search fs target depth)
          fun name hm log s₁ k s₂ hlog hk he => ih (h.next hf hl hm hlog hk he)

theorem ends (h : EnoughDepth fs Fits) (hf : Fits depth dir s) :
    b.Ends fs target dir s (b.search fs target depth dir s) :=
  (b.isRun_search fs target depth dir s).ends (h.status_ne_tooDeep hf)

end EnoughDepth

/-! ## Tables -/

namespace Table

variable {t : Table}

/-- The count of the listings that were asked for never falls. -/
theorem le_of_dialogue {asked asked' : Nat} {log : List Call}
    (h : Dialogue t.fileSystem asked log asked') : asked ≤ asked' := by
  induction h with
  | nil => exact Nat.le_refl _
  | list ha _ ih =>
    simp only [fileSystem] at ha
    split at ha <;> cases ha <;> omega
  | kind ha _ ih =>
    cases ha
    exact ih

/-- One level for each listing that is still answered, and one for a listing that is not. -/
theorem enoughDepth (t : Table) :
    EnoughDepth t.fileSystem fun depth _ asked => 0 < depth ∧ t.maxListings < depth + asked where
  pos h := h.1
  next := by
    intro depth dir asked asked' asked₁ asked₂ names log name k hf hl _ hlog hk _
    obtain ⟨-, hf⟩ := hf
    have hle : asked' ≤ asked₁ := le_of_dialogue hlog
    simp only [fileSystem] at hl hk
    split at hl
    · cases hl
    · obtain ⟨-, rfl⟩ := Prod.mk.inj hl
      cases hk
      omega

/-- A search in a table ends as it would without a limit. -/
theorem find_ends (t : Table) (b : Probe) (start : Path) (target : Text) (asked : Nat) :
    b.Ends t.fileSystem target start asked (t.find b start target asked) :=
  t.enoughDepth.ends ⟨Nat.succ_pos _, by omega⟩

end Table

end Termkit.Files
