import Termkit.Yaml.Scanner

/-!
# Rounds of the scanner

A round scans one token and gives up the keys that are stale. Where no token must be a key and no
block collection is open (`Scanner.Calm`), nothing else happens between two tokens
(`Scanner.Calm.next_eq`), and at the end of the text the stream ends (`Scanner.Calm.next_end`).
`Rounds` is any number of rounds; each passes a part of the text, so that what they scan is what is
scanned of the text as a whole (`Tokens.scan_of_rounds`).
-/

namespace Termkit.Yaml

namespace Scanner

/-! ## Keys that may be given up -/

/-- No token must be a key here. -/
def IsFree (k : Option KeyStart) : Prop := ∀ k' ∈ k, k'.required = false

theorem IsFree.none : IsFree none := fun _ h => nomatch h

theorem IsFree.some {k : KeyStart} (h : k.required = false) : IsFree (some k) := by
  rintro _ ⟨⟩
  exact h

def fresh (m : Mark) (k : Option KeyStart) : Option KeyStart := k.filter (!isStale m ·)

theorem IsFree.fresh {k : Option KeyStart} (h : IsFree k) (m : Mark) : IsFree (fresh m k) :=
  fun k' hk => h k' (Option.mem_filter_iff.1 hk).1

theorem refresh_eq {k : Option KeyStart} (h : IsFree k) (m : Mark) :
    refresh m k = .ok (fresh m k) := by
  cases k with
  | none => rfl
  | some k =>
    have hk : k.required = false := h k rfl
    cases hs : isStale m k <;> simp [refresh, Scanner.fresh, Option.filter, giveUp, hs, hk]

theorem mapM_refresh {ks : List (Option KeyStart)} (h : ∀ k ∈ ks, IsFree k) (m : Mark) :
    ks.mapM (refresh m) = .ok (ks.map (fresh m)) := by
  induction ks with
  | nil => rfl
  | cons k ks ih =>
    obtain ⟨hk, hks⟩ := List.forall_mem_cons.1 h
    rw [List.mapM_cons, refresh_eq hk, ih hks]
    rfl

variable {s : Scanner}

theorem dropKey_eq (h : IsFree s.keyStart) : s.dropKey = .ok { s with keyStart := none } := by
  obtain ⟨c, read, indent, outer, keyAllowed, keyStart, outerKeys, ended⟩ := s
  cases keyStart with
  | none => rfl
  | some k =>
    have hk : k.required = false := h k rfl
    simp only [dropKey, giveUp, hk]
    rfl

/-! ## Between two tokens -/

/-- No block collection is open, and no token must be a key. -/
structure Calm (s : Scanner) : Prop where
  outer : s.outer = []
  keyStart : IsFree s.keyStart
  outerKeys : ∀ k ∈ s.outerKeys, IsFree k

def refreshed (s : Scanner) : Scanner :=
  { s with keyStart := fresh s.mark s.keyStart, outerKeys := s.outerKeys.map (fresh s.mark) }

theorem Calm.refreshed (h : s.Calm) : s.refreshed.Calm where
  outer := h.outer
  keyStart := h.keyStart.fresh _
  outerKeys := List.forall_mem_map.2 fun k hk => (h.outerKeys k hk).fresh _

theorem Calm.dropStale_eq (h : s.Calm) : s.dropStale = .ok s.refreshed := by
  simp only [dropStale, mapM_refresh h.outerKeys, refresh_eq h.keyStart]
  rfl

theorem closeBlocks_eq (h : s.outer = []) (column : Int) : s.closeBlocks column = s := by
  obtain ⟨c, read, indent, outer, keyAllowed, keyStart, outerKeys, ended⟩ := s
  cases h
  simp [closeBlocks, closeBlocks.go]

/-- A token begins with the character, wherever that stands. -/
def BeginsToken (x : Char) : Prop :=
  x ≠ ' ' ∧ x ≠ '\t' ∧ x ≠ '#' ∧ x ≠ '\ufeff' ∧ isBreak x = false

instance (x : Char) : Decidable (BeginsToken x) := inferInstanceAs (Decidable (_ ∧ _))

/-- The text ends, or a token begins with its first character. -/
def AtToken (t : Text) : Prop := ∀ x ∈ t.head?, BeginsToken x

theorem atToken_nil : AtToken [] := fun _ h => nomatch h

theorem atToken_cons {x : Char} (h : BeginsToken x) (r : Text) : AtToken (x :: r) := by
  rintro _ ⟨⟩
  exact h

theorem skipTrivia_eq (h : AtToken s.cursor.rest) (fuel : Nat) : s.skipTrivia fuel = s := by
  cases fuel with
  | zero => rfl
  | succ fuel =>
    obtain ⟨⟨rest, m⟩, read, indent, outer, keyAllowed, keyStart, outerKeys, ended⟩ := s
    cases rest with
    | nil =>
      simp [skipTrivia, Cursor.skipByteOrderMark, Cursor.skipRun, Cursor.run, Cursor.skipComment]
      rfl
    | cons x r =>
      obtain ⟨hspace, htab, hcomment, hmark, hbreak⟩ := h x rfl
      simp [skipTrivia, Cursor.skipByteOrderMark, Cursor.skipRun, Cursor.run, Cursor.skipComment,
        Cursor.skip, Mark.right, hspace, htab, hcomment, hmark, hbreak]

/-- Where a token begins, it is scanned at once. -/
theorem Calm.next_eq (h : s.Calm) (ht : AtToken s.cursor.rest) :
    s.next = s.refreshed.scanToken := by
  have hc : s.refreshed.closeBlocks s.refreshed.mark.column = s.refreshed :=
    closeBlocks_eq h.refreshed.outer _
  simp only [next, skipTrivia_eq ht, h.dropStale_eq]
  exact congrArg scanToken hc

theorem Calm.scanEnd_eq (h : s.Calm) : ∃ c m, s.scanEnd =
    .ok { s with
      cursor := c, keyStart := none, keyAllowed := false, ended := true
      read := ⟨.streamEnd, m, m⟩ :: s.read } := by
  generalize hc :
    (if s.mark.column = 0 then s.cursor else { s.cursor with mark := s.mark.down 0 }) = c
  have hb : Scanner.closeBlocks { s with cursor := c } (-1) = { s with cursor := c } :=
    closeBlocks_eq (s := { s with cursor := c }) h.outer _
  have hk : Scanner.dropKey { s with cursor := c } =
      .ok { s with cursor := c, keyStart := none } := dropKey_eq h.keyStart
  refine ⟨c, c.mark, ?_⟩
  simp only [scanEnd, hc, hb, hk]
  rfl

/-- At the end of the text one more token is added. -/
theorem Calm.next_end (h : s.Calm) (hr : s.cursor.rest = []) : ∃ t t' m, s.next = .ok t ∧
    t.dropStale = .ok t' ∧ t'.ended = true ∧ t'.read = ⟨.streamEnd, m, m⟩ :: s.read := by
  obtain ⟨c, m, he⟩ := h.refreshed.scanEnd_eq
  have hn : s.next = s.refreshed.scanEnd := by
    rw [h.next_eq (by rw [hr]; exact atToken_nil)]
    change s.refreshed.cursor.rest = [] at hr
    simp only [scanToken, hr]
  rw [he] at hn
  exact ⟨_, _, m, hn, Calm.dropStale_eq ⟨h.outer, .none, h.refreshed.outerKeys⟩, rfl, rfl⟩

/-! ## Rounds -/

/-- The second scanner is the first after some rounds, each of which passes a part of the text. -/
inductive Rounds : Scanner → Scanner → Prop where
  | refl (s : Scanner) : Rounds s s
  | step {s t t' u : Scanner} : s.next = .ok t → t.dropStale = .ok t' → t'.ended = false →
      t'.cursor.rest.length < s.cursor.rest.length → Rounds t' u → Rounds s u

theorem Rounds.trans {s t u : Scanner} (h : Rounds s t) (k : Rounds t u) : Rounds s u := by
  induction h with
  | refl => exact k
  | step hn hd he hl _ ih => exact .step hn hd he hl (ih k)

/-- A token that begins here is scanned in one round. -/
theorem Calm.rounds {t : Scanner} (h : s.Calm) (ha : AtToken s.cursor.rest)
    (hs : s.refreshed.scanToken = .ok t) (ht : t.Calm) (he : t.ended = false)
    (hl : t.cursor.rest.length < s.cursor.rest.length) : Rounds s t.refreshed :=
  .step ((h.next_eq ha).trans hs) ht.dropStale_eq he hl (.refl _)

end Scanner

open Scanner

/-- What is scanned from the end of some rounds on, to the end of the text, is scanned from their
start. -/
theorem Tokens.scan_of_rounds {s t : Scanner} (h : Rounds s t) (ht : t.Calm)
    (hr : t.cursor.rest = []) {fuel : Nat} (hf : s.cursor.rest.length < fuel) (settled : Nat) :
    ∃ m, Tokens.scan fuel settled s = ⟨t.read.reverse ++ [⟨.streamEnd, m, m⟩], none⟩ := by
  induction h generalizing fuel settled with
  | refl =>
    obtain ⟨fuel, rfl⟩ := Nat.exists_eq_add_of_le' (Nat.zero_lt_of_lt hf)
    obtain ⟨u, u', m, hn, hd, he, hread⟩ := ht.next_end hr
    exact ⟨m, by simp [Tokens.scan, hn, hd, he, hread]⟩
  | step hn hd he hl _ ih =>
    obtain ⟨fuel, rfl⟩ := Nat.exists_eq_add_of_le' (Nat.zero_lt_of_lt hf)
    simp only [Tokens.scan, hn, hd, he]
    exact ih ht hr (by omega) _

end Termkit.Yaml
