import Mathlib.Data.List.Nodup
import Termkit.Style.Basic

/-!
# Styles as maps

What setting and removing do to the names of a style and to the value of each name. The list of
entries holds a name once if the names were distinct before (`nodup_keys_set`,
`nodup_keys_remove`); then it is a map in which removing leaves no value behind
(`get?_remove_self`), and collecting its entries gives the style again (`ofList_entries`).
-/

namespace Termkit.Style

variable {s : Style} {key k : Text} {v : Value}

/-! ## Names -/

@[simp] theorem keys_empty : empty.keys = [] := rfl

theorem keys_set (s : Style) (key : Text) (v : Value) :
    (s.set key v).keys = if key ∈ s.keys then s.keys else s.keys ++ [key] :=
  keys_setEntry key v s.entries

theorem keys_set_of_mem (h : key ∈ s.keys) (v : Value) : (s.set key v).keys = s.keys := by
  rw [keys_set, if_pos h]

theorem keys_set_of_not_mem (h : key ∉ s.keys) (v : Value) :
    (s.set key v).keys = s.keys ++ [key] := by
  rw [keys_set, if_neg h]

theorem mem_keys_set : k ∈ (s.set key v).keys ↔ k = key ∨ k ∈ s.keys := by
  by_cases h : key ∈ s.keys
  · rw [keys_set_of_mem h]
    exact ⟨.inr, fun hk => hk.elim (fun e => e ▸ h) id⟩
  · rw [keys_set_of_not_mem h, List.mem_append, List.mem_singleton, or_comm]

theorem keys_takeEntry (key : Text) (es : List (Text × Value)) :
    (takeEntry key es).2.map (·.1) = (es.map (·.1)).erase key := by
  induction es with
  | nil => rfl
  | cons e rest ih =>
    obtain ⟨k, w⟩ := e
    by_cases h : k = key
    · simp [takeEntry, h]
    · simp [takeEntry, h, ih]

theorem keys_remove (s : Style) (key : Text) : (s.remove key).2.keys = s.keys.erase key :=
  keys_takeEntry key s.entries

theorem nodup_keys_set (h : s.keys.Nodup) (key : Text) (v : Value) : (s.set key v).keys.Nodup := by
  by_cases hk : key ∈ s.keys
  · rwa [keys_set_of_mem hk]
  · rw [keys_set_of_not_mem hk]
    exact List.nodup_append_comm.1 (List.nodup_cons.2 ⟨hk, h⟩)

theorem nodup_keys_remove (h : s.keys.Nodup) (key : Text) : (s.remove key).2.keys.Nodup := by
  rw [keys_remove]
  exact h.erase key

/-! ## Values -/

theorem get?_eq_none : s.get? k = none ↔ k ∉ s.keys := by
  rw [get?, List.lookup_eq_none_iff, keys, List.mem_map]
  constructor
  · rintro h ⟨e, he, rfl⟩
    simpa using h e he
  · intro h e he
    rw [bne_iff_ne]
    rintro rfl
    exact h ⟨e, he, rfl⟩

theorem mem_keys : k ∈ s.keys ↔ ∃ v, s.get? k = some v := by
  rw [← Option.ne_none_iff_exists', ne_eq, get?_eq_none, not_not]

theorem lookup_entry (k k' : Text) (w : Value) (es : List (Text × Value)) :
    List.lookup k ((k', w) :: es) = if k = k' then some w else es.lookup k := by
  by_cases h : k = k'
  · rw [h, List.lookup_cons_self, if_pos rfl]
  · rw [List.lookup_cons, beq_false_of_ne h, if_neg h]

theorem lookup_setEntry (key : Text) (v : Value) (es : List (Text × Value)) (k : Text) :
    (setEntry key v es).lookup k = if k = key then some v else es.lookup k := by
  induction es with
  | nil => exact lookup_entry k key v []
  | cons e rest ih =>
    obtain ⟨k', w⟩ := e
    by_cases hk : k' = key
    · rw [setEntry, if_pos hk, lookup_entry, lookup_entry, hk]
      split <;> rfl
    · rw [setEntry, if_neg hk, lookup_entry, lookup_entry, ih]
      by_cases h : k = k'
      · rw [if_pos h, if_neg (h ▸ hk), if_pos h]
      · rw [if_neg h, if_neg h]

theorem get?_set (s : Style) (key : Text) (v : Value) (k : Text) :
    (s.set key v).get? k = if k = key then some v else s.get? k :=
  lookup_setEntry key v s.entries k

theorem fst_takeEntry (key : Text) (es : List (Text × Value)) :
    (takeEntry key es).1 = es.lookup key := by
  induction es with
  | nil => rfl
  | cons e rest ih =>
    obtain ⟨k, w⟩ := e
    rw [lookup_entry, takeEntry]
    by_cases h : k = key
    · rw [if_pos h, if_pos h.symm]
    · rw [if_neg h, if_neg (Ne.symm h), ← ih]
      rfl

/-- What is removed is the value that the attribute had. -/
theorem fst_remove (s : Style) (key : Text) : (s.remove key).1 = s.get? key :=
  fst_takeEntry key s.entries

theorem lookup_takeEntry_of_ne (h : k ≠ key) (es : List (Text × Value)) :
    (takeEntry key es).2.lookup k = es.lookup k := by
  induction es with
  | nil => rfl
  | cons e rest ih =>
    obtain ⟨k', w⟩ := e
    by_cases hk : k' = key
    · rw [takeEntry, if_pos hk, lookup_entry, if_neg (hk ▸ h)]
    · rw [takeEntry, if_neg hk, Prod.map_snd, lookup_entry, lookup_entry, ih]

theorem get?_remove_of_ne (s : Style) (h : k ≠ key) : (s.remove key).2.get? k = s.get? k :=
  lookup_takeEntry_of_ne h s.entries

/-- Only where names are distinct: an entry behind the removed one would show. -/
theorem get?_remove_self (h : s.keys.Nodup) (key : Text) : (s.remove key).2.get? key = none := by
  rw [get?_eq_none, keys_remove]
  exact h.not_mem_erase

/-! ## Collecting -/

theorem setEntry_of_not_mem {es : List (Text × Value)} (h : key ∉ es.map (·.1)) :
    setEntry key v es = es ++ [(key, v)] := by
  induction es with
  | nil => rfl
  | cons e rest ih =>
    obtain ⟨k', w⟩ := e
    rw [List.map_cons] at h
    have hk : k' ≠ key := (List.ne_of_not_mem_cons h).symm
    rw [setEntry, if_neg hk, ih (List.not_mem_of_not_mem_cons h), List.cons_append]

/-- Setting distinct new names one after another appends their entries. -/
theorem foldl_set_entries (s : Style) (es : List (Text × Value))
    (h : (s.keys ++ es.map (·.1)).Nodup) :
    (es.foldl (fun s e => s.set e.1 e.2) s).entries = s.entries ++ es := by
  induction es generalizing s with
  | nil => simp
  | cons e rest ih =>
    have hk : e.1 ∉ s.keys := fun hm => by
      simpa using (List.nodup_append.1 h).2.2 e.1 hm e.1 (by simp)
    have hset : (s.set e.1 e.2).entries = s.entries ++ [e] := setEntry_of_not_mem hk
    have h' : ((s.set e.1 e.2).keys ++ rest.map (·.1)).Nodup := by
      rw [keys_set_of_not_mem hk]
      simpa using h
    rw [List.foldl_cons, ih _ h', hset, List.append_assoc, List.singleton_append]

/-- Collecting the entries of a style with distinct names gives the style again. -/
theorem ofList_entries (h : s.keys.Nodup) : ofList s.entries = s := by
  have he : (ofList s.entries).entries = s.entries := foldl_set_entries empty s.entries h
  cases hs : ofList s.entries
  cases s
  simp_all

end Termkit.Style
