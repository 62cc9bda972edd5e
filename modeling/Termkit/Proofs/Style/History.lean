import Mathlib.Data.List.Induction
import Termkit.Proofs.Style.Entries
import Termkit.Proofs.Style.OrderedMap

/-!
# The history of a style

What is done to a style is a list of changes: an attribute is set or removed, or all are cleared.
The history alone says which value an attribute has, the one of its last set unless it was dropped
since (`Holds`), and when the attribute was introduced, by the set since which it was never absent
(`IntroducedAt`). `Tracks h s` says that the style `s` is as the history `h` has it. Every change
keeps this (`Tracks.step`), and so does every operation, since collections and documents are
changes too (`Op.apply_eq`): after any operations the style is the map that their history describes,
in the order in which its names were introduced (`run_tracks_history`).
-/

namespace Termkit.Style

/-! ## Changes -/

/-- One thing that is done to a style. -/
inductive Change where
  | clear
  | set (key : Text) (v : Value)
  | remove (key : Text)
  deriving DecidableEq, Repr

namespace Change

def apply (s : Style) : Change → Style
  | clear => empty
  | set key v => s.set key v
  | remove key => (s.remove key).2

def Drops (key : Text) : Change → Prop
  | clear => True
  | set _ _ => False
  | remove k => k = key

/-- The change sets or drops the attribute of this name. -/
def Concerns (key : Text) : Change → Prop
  | clear => True
  | set k _ => k = key
  | remove k => k = key

end Change

/-- The last change that concerns the name sets it to the value. -/
def Holds (h : List Change) (key : Text) (v : Value) : Prop :=
  ∃ before after, h = before ++ .set key v :: after ∧ ∀ c ∈ after, ¬ c.Concerns key

/-- The name was absent before the change number `i`, which sets it, and was not dropped since. -/
def IntroducedAt (h : List Change) (key : Text) (i : Nat) : Prop :=
  ∃ before v after, h = before ++ .set key v :: after ∧ before.length = i ∧
    (∀ w, ¬ Holds before key w) ∧ ∀ c ∈ after, ¬ c.Drops key

section

variable {h : List Change} {c : Change} {key : Text} {v : Value} {i : Nat}

theorem not_holds_nil : ¬ Holds [] key v := by
  rintro ⟨before, after, e, -⟩
  simp at e

theorem not_introducedAt_nil : ¬ IntroducedAt [] key i := by
  rintro ⟨before, v, after, e, -⟩
  simp at e

/-- In a list with one more change at its end, a change is that one or one of those before. -/
theorem concat_eq_append_cons {before after : List Change} {x : Change} :
    h ++ [c] = before ++ x :: after ↔
      (h = before ∧ c = x ∧ after = []) ∨ ∃ mid, after = mid ++ [c] ∧ h = before ++ x :: mid := by
  constructor
  · intro e
    rcases List.eq_nil_or_concat after with rfl | ⟨mid, d, rfl⟩
    · obtain ⟨rfl, hx⟩ := List.append_inj' e rfl
      exact .inl ⟨rfl, (List.cons.inj hx).1, rfl⟩
    · rw [List.concat_eq_append, ← List.cons_append, ← List.append_assoc] at e
      obtain ⟨rfl, hd⟩ := List.append_inj' e rfl
      obtain ⟨rfl, -⟩ := List.cons.inj hd
      exact .inr ⟨mid, List.concat_eq_append, rfl⟩
  · rintro (⟨rfl, rfl, rfl⟩ | ⟨mid, rfl, rfl⟩)
    · rfl
    · simp

theorem holds_concat :
    Holds (h ++ [c]) key v ↔ c = .set key v ∨ ¬ c.Concerns key ∧ Holds h key v := by
  constructor
  · rintro ⟨before, after, e, ha⟩
    rcases concat_eq_append_cons.1 e with ⟨-, hc, -⟩ | ⟨mid, rfl, rfl⟩
    · exact .inl hc
    · obtain ⟨hmid, hc⟩ := List.forall_mem_append.1 ha
      exact .inr ⟨hc c (by simp), before, mid, rfl, hmid⟩
  · rintro (rfl | ⟨hc, before, after, rfl, ha⟩)
    · exact ⟨h, [], rfl, by simp⟩
    · refine ⟨before, after ++ [c], by simp, List.forall_mem_append.2 ⟨ha, ?_⟩⟩
      exact List.forall_mem_singleton.2 hc

theorem introducedAt_concat : IntroducedAt (h ++ [c]) key i ↔
    (i = h.length ∧ (∃ v, c = .set key v) ∧ ∀ w, ¬ Holds h key w) ∨
      ¬ c.Drops key ∧ IntroducedAt h key i := by
  constructor
  · rintro ⟨before, v, after, e, rfl, hb, ha⟩
    rcases concat_eq_append_cons.1 e with ⟨rfl, hc, -⟩ | ⟨mid, rfl, rfl⟩
    · exact .inl ⟨rfl, ⟨v, hc⟩, hb⟩
    · obtain ⟨hmid, hc⟩ := List.forall_mem_append.1 ha
      exact .inr ⟨hc c (by simp), before, v, mid, rfl, rfl, hb, hmid⟩
  · rintro (⟨rfl, ⟨v, rfl⟩, hb⟩ | ⟨hc, before, v, after, rfl, hi, hb, ha⟩)
    · exact ⟨h, v, [], rfl, rfl, hb, by simp⟩
    · refine ⟨before, v, after ++ [c], by simp, hi, hb, List.forall_mem_append.2 ⟨ha, ?_⟩⟩
      exact List.forall_mem_singleton.2 hc

theorem IntroducedAt.lt_length (hi : IntroducedAt h key i) : i < h.length := by
  obtain ⟨before, v, after, rfl, rfl, -⟩ := hi
  simp

/-- A change that does not set an absent name introduces none. -/
theorem IntroducedAt.of_concat (hi : IntroducedAt (h ++ [c]) key i)
    (hc : ∀ v, c = .set key v → ∃ w, Holds h key w) : IntroducedAt h key i := by
  rcases introducedAt_concat.1 hi with ⟨-, ⟨v, hv⟩, ha⟩ | ⟨-, hi⟩
  · obtain ⟨w, hw⟩ := hc v hv
    exact (ha w hw).elim
  · exact hi

end

/-! ## A change to a style -/

section

variable {s : Style} {c : Change} {key : Text} {v : Value}

theorem nodup_keys_apply (h : s.keys.Nodup) (c : Change) : (c.apply s).keys.Nodup := by
  cases c with
  | clear => exact List.nodup_nil
  | set key v => exact nodup_keys_set h key v
  | remove key => exact nodup_keys_remove h key

theorem get?_apply (h : s.keys.Nodup) : (c.apply s).get? key = some v ↔
    c = .set key v ∨ ¬ c.Concerns key ∧ s.get? key = some v := by
  cases c with
  | clear => simp [Change.apply, Change.Concerns, get?]
  | set k w =>
    rw [Change.apply, get?_set]
    by_cases hk : key = k
    · simp [hk, Change.Concerns]
    · simp [hk, Change.Concerns, Ne.symm hk]
  | remove k =>
    by_cases hk : key = k
    · subst hk
      simp [Change.apply, Change.Concerns, get?_remove_self h]
    · simp [Change.apply, Change.Concerns, get?_remove_of_ne s hk, Ne.symm hk]

theorem mem_keys_apply (h : s.keys.Nodup) : key ∈ (c.apply s).keys ↔
    (∃ v, c = .set key v) ∨ ¬ c.Drops key ∧ key ∈ s.keys := by
  cases c with
  | clear => simp [Change.apply, Change.Drops]
  | set k w =>
    rw [Change.apply, mem_keys_set]
    simp [Change.Drops, eq_comm]
  | remove k =>
    rw [Change.apply, keys_remove, h.mem_erase_iff]
    simp [Change.Drops, eq_comm]

end

/-! ## The style that a history leads to -/

/-- The style is as the history has it: the names are distinct, each has the value of its last set,
and they stand in the order in which they were introduced. -/
structure Tracks (h : List Change) (s : Style) : Prop where
  nodup : s.keys.Nodup
  get? : ∀ key v, s.get? key = some v ↔ Holds h key v
  introduced : ∀ key, key ∈ s.keys ↔ ∃ i, IntroducedAt h key i
  sorted : s.keys.Pairwise fun a b => ∀ i j, IntroducedAt h a i → IntroducedAt h b j → i < j

theorem Tracks.nil : Tracks [] empty where
  nodup := List.nodup_nil
  get? key v := by simp [Style.get?, not_holds_nil]
  introduced key := by simp [not_introducedAt_nil]
  sorted := .nil

section

variable {h : List Change} {s : Style}

theorem Tracks.mem_keys (t : Tracks h s) {key : Text} : key ∈ s.keys ↔ ∃ v, Holds h key v := by
  rw [Style.mem_keys]
  exact exists_congr (t.get? key)

/-- Names that were there keep their order under a change that introduces none of them. -/
theorem Tracks.sorted_of_concat (t : Tracks h s) {c : Change} {keys : List Text}
    (hs : keys.Sublist s.keys) : keys.Pairwise fun a b =>
      ∀ i j, IntroducedAt (h ++ [c]) a i → IntroducedAt (h ++ [c]) b j → i < j := by
  have hold : ∀ a ∈ keys, ∀ i, IntroducedAt (h ++ [c]) a i → IntroducedAt h a i :=
    fun a ha i hi => hi.of_concat fun _ _ => t.mem_keys.1 (hs.subset ha)
  refine (t.sorted.sublist hs).imp_of_mem fun {a b} ha hb hab i j hi hj => ?_
  exact hab i j (hold a ha i hi) (hold b hb j hj)

theorem Tracks.step (t : Tracks h s) (c : Change) : Tracks (h ++ [c]) (c.apply s) where
  nodup := nodup_keys_apply t.nodup c
  get? key v := by rw [get?_apply t.nodup, holds_concat, t.get?]
  introduced key := by
    rw [mem_keys_apply t.nodup, t.introduced]
    constructor
    · rintro (hc | ⟨hc, i, hi⟩)
      · by_cases hk : ∃ i, IntroducedAt h key i
        · obtain ⟨i, hi⟩ := hk
          obtain ⟨v, rfl⟩ := hc
          exact ⟨i, introducedAt_concat.2 (.inr ⟨id, hi⟩)⟩
        · have ha : ∀ w, ¬ Holds h key w := fun w hw =>
            hk ((t.introduced key).1 (t.mem_keys.2 ⟨w, hw⟩))
          exact ⟨h.length, introducedAt_concat.2 (.inl ⟨rfl, hc, ha⟩)⟩
      · exact ⟨i, introducedAt_concat.2 (.inr ⟨hc, hi⟩)⟩
    · rintro ⟨i, hi⟩
      rcases introducedAt_concat.1 hi with ⟨-, hc, -⟩ | ⟨hc, hi⟩
      · exact .inl hc
      · exact .inr ⟨hc, i, hi⟩
  sorted := by
    cases c with
    | clear => exact .nil
    | remove k =>
      rw [Change.apply, keys_remove]
      exact t.sorted_of_concat List.erase_sublist
    | set k v =>
      by_cases hk : k ∈ s.keys
      · rw [Change.apply, keys_set_of_mem hk]
        exact t.sorted_of_concat (List.Sublist.refl _)
      · rw [Change.apply, keys_set_of_not_mem hk, List.pairwise_append]
        refine ⟨t.sorted_of_concat (List.Sublist.refl _), List.pairwise_singleton _ _, ?_⟩
        -- the new name comes last, and it was introduced by the last change
        intro a ha b hb i j hi hj
        obtain rfl := List.mem_singleton.1 hb
        have hi' : IntroducedAt h a i := hi.of_concat fun _ _ => t.mem_keys.1 ha
        rcases introducedAt_concat.1 hj with ⟨rfl, -⟩ | ⟨-, hj'⟩
        · exact hi'.lt_length
        · exact (hk ((t.introduced b).2 ⟨j, hj'⟩)).elim

end

theorem tracks_replay (h : List Change) : Tracks h (h.foldl Change.apply empty) := by
  induction h using List.reverseRecOn with
  | nil => exact .nil
  | append_singleton h c ih =>
    rw [List.foldl_append]
    exact ih.step c

/-! ## Operations -/

/-- What a program does with a style. A document that cannot be loaded leaves the style as it is. -/
inductive Op where
  | set (key : Text) (v : Value)
  | remove (key : Text)
  | collect (pairs : List (Text × Value))
  | loadJson (t : Text)
  | loadYaml (t : Text)
  deriving DecidableEq, Repr

def Op.apply (s : Style) : Op → Style
  | set key v => s.set key v
  | remove key => (s.remove key).2
  | collect pairs => ofList pairs
  | loadJson t => (Style.loadJson t).toOption.getD s
  | loadYaml t => (Style.loadYaml t).toOption.getD s

/-- The style after some operations, from the empty one. -/
def run (ops : List Op) : Style := ops.foldl Op.apply empty

/-- Pairs that replace the style are set one after another, once it is cleared. -/
def replacement (pairs : List (Text × Value)) : List Change :=
  .clear :: pairs.map fun p => .set p.1 p.2

def Op.changes : Op → List Change
  | set key v => [.set key v]
  | remove key => [.remove key]
  | collect pairs => replacement pairs
  | loadJson t => (jsonEntries t).toOption.elim [] replacement
  | loadYaml t => (yamlEntries t).toOption.elim [] replacement

def history (ops : List Op) : List Change := ops.flatMap Op.changes

theorem foldl_replacement (s : Style) (pairs : List (Text × Value)) :
    (replacement pairs).foldl Change.apply s = ofList pairs := by
  rw [replacement, List.foldl_cons, List.foldl_map]
  rfl

theorem Op.apply_eq (s : Style) (op : Op) : op.apply s = op.changes.foldl Change.apply s := by
  cases op with
  | set key v => rfl
  | remove key => rfl
  | collect pairs => exact (foldl_replacement s pairs).symm
  | loadJson t =>
    rw [apply, changes, Style.loadJson, ofJson_eq]
    cases jsonEntries t with
    | error e => rfl
    | ok pairs => exact (foldl_replacement s pairs).symm
  | loadYaml t =>
    rw [apply, changes, Style.loadYaml, ofYaml_eq]
    cases yamlEntries t with
    | error e => rfl
    | ok pairs => exact (foldl_replacement s pairs).symm

theorem run_eq (ops : List Op) : run ops = (history ops).foldl Change.apply empty := by
  rw [run, history, List.foldl_flatMap]
  exact congrArg (fun f => ops.foldl f empty) (funext fun s => funext fun op => op.apply_eq s)

theorem tracks_run (ops : List Op) : Tracks (history ops) (run ops) := by
  rw [run_eq]
  exact tracks_replay (history ops)

/-- After any operations the names of a style are distinct and stand in the order in which they
were introduced, and each has the value of its last set. Removing gives that value and leaves the
other names as they are, and the entries, collected, give the same style. -/
theorem run_tracks_history (ops : List Op) :
    let s := run ops
    let h := history ops
    s.keys.Nodup ∧
      (∀ key v, s.get? key = some v ↔ Holds h key v) ∧
      (∀ key, s.get? key = none ↔ key ∉ s.keys) ∧
      (∀ key, key ∈ s.keys ↔ ∃ i, IntroducedAt h key i) ∧
      (s.keys.Pairwise fun a b => ∀ i j, IntroducedAt h a i → IntroducedAt h b j → i < j) ∧
      (∀ key, (s.remove key).1 = s.get? key ∧ (s.remove key).2.get? key = none ∧
        (∀ k, k ≠ key → (s.remove key).2.get? k = s.get? k) ∧
        (s.remove key).2.keys = s.keys.filter (· != key)) ∧
      ofList s.entries = s := by
  intro s h
  have t : Tracks h s := tracks_run ops
  refine ⟨t.nodup, t.get?, fun key => get?_eq_none, t.introduced, t.sorted, fun key => ?_,
    ofList_entries t.nodup⟩
  refine ⟨fst_remove s key, get?_remove_self t.nodup key, fun k hk => get?_remove_of_ne s hk, ?_⟩
  rw [keys_remove, t.nodup.erase_eq_filter]

example : (run [.set ['a'] .null, .set ['b'] .null, .set ['a'] (.flag true)]).keys =
    [['a'], ['b']] := by decide

example : (run [.set ['a'] .null, .set ['b'] .null, .remove ['a'], .set ['a'] .null]).keys =
    [['b'], ['a']] := by decide

end Termkit.Style
