import Termkit.Proofs.Binary64.WholeNumber
import Termkit.Proofs.Json.MemberReading
import Termkit.Proofs.Style.History

/-!
# Loading styles from JSON

The compact text of a flat object is loaded as the collection of its members; every other value is
refused (`loadJson_compact`). The members are taken in their order until one is a list or an
object, which is refused whatever it holds (`takeMember_container`).
-/

namespace Termkit.Style

/-- The value that a scalar stands for. A whole number is kept without rounding. -/
inductive Denotes : Json.Value → Value → Prop where
  | null : Denotes .null .null
  | bool (b : Bool) : Denotes (.bool b) (.flag b)
  | int {n : Int} : (Binary64.ofInt n).HasValue n →
      Denotes (.int n) (.number (Binary64.ofInt n))
  | string (t : Text) : Denotes (.string t) (.color t)

/-- The pair holds the name of the member and the value that the member's value stands for. -/
def MemberDenotes (m : Text × Json.Value) (p : Text × Value) : Prop :=
  p.1 = m.1 ∧ Denotes m.2 p.2

theorem names_eq {ms : List (Text × Json.Value)} {pairs : List (Text × Value)}
    (h : List.Forall₂ MemberDenotes ms pairs) : pairs.map (·.1) = ms.map (·.1) := by
  induction h with
  | nil => rfl
  | cons h _ ih => rw [List.map_cons, List.map_cons, h.1, ih]

/-! ## One value -/

theorem exists_denotes {v : Json.Value} (hv : v.IsExact) (hc : v.isContainer = false) :
    ∃ w, Denotes v w := by
  cases hv with
  | null => exact ⟨_, .null⟩
  | bool b => exact ⟨_, .bool b⟩
  | int h => exact ⟨_, .int (Binary64.hasValue_ofInt h)⟩
  | string t => exact ⟨_, .string t⟩
  | array => cases hc
  | object => cases hc

theorem Denotes.isContainer {v : Json.Value} {w : Value} (h : Denotes v w) :
    v.isContainer = false := by
  cases h <;> rfl

theorem Denotes.ofJson? {v : Json.Value} {w : Value} (h : Denotes v w) :
    Value.ofJson? v = some w := by
  cases h <;> rfl

theorem ofJson?_container {v : Json.Value} (hc : v.isContainer = true) :
    Value.ofJson? v = none := by
  cases v with
  | array | object => rfl
  | null | bool | int | float | string => cases hc

section

variable {α : Type} {set : α → Text → Value → α}

section

variable {key : Text} {acc : α} {c c' : Json.Cursor} {v : Json.Value}
  (h : Json.readValue (Json.maxDepth - 1) c = .ok (v, c'))

include h

theorem takeMember_of_some {w : Value} (hw : Value.ofJson? v = some w) :
    takeMember set key acc c = .ok (set acc key w, c') := by
  unfold takeMember
  rw [h]
  simp only [Except.mapError, bind, Except.bind, hw]
  rfl

theorem takeMember_of_none (hv : Value.ofJson? v = none) :
    takeMember set key acc c = .error ⟨.notScalar, refusalPlace c'⟩ := by
  unfold takeMember
  rw [h]
  simp only [Except.mapError, bind, Except.bind, hv]

end

theorem takeMember_scalar {v : Json.Value} {w : Value} (hv : v.IsExact) (hw : Denotes v w)
    (key : Text) (acc : α) {r : Text} (hr : Json.EndsNumber r) (p : Json.Place) :
    takeMember set key acc ⟨v.compact ++ r, p⟩ =
      .ok (set acc key w, ⟨r, p.afterText v.compact⟩) :=
  takeMember_of_some (Json.readValue_compact hv hw.isContainer _ hr p) hw.ofJson?

/-- A list or an object is refused, be it for what it is or for something inside. -/
theorem takeMember_container {v : Json.Value} (hc : v.isContainer = true) (key : Text) (acc : α)
    (r : Text) (p : Json.Place) :
    ∃ e, takeMember set key acc ⟨v.compact ++ r, p⟩ = .error e := by
  obtain ⟨x, t, ht, hx⟩ := Json.compact_container hc
  rw [ht, List.cons_append]
  cases h : Json.readValue (Json.maxDepth - 1) ⟨x :: (t ++ r), p⟩ with
  | error e =>
    unfold takeMember
    rw [h]
    exact ⟨.ofSyntax e, rfl⟩
  | ok found =>
    have hu := ofJson?_container (Json.isContainer_of_readValue hx h)
    exact ⟨_, takeMember_of_none h hu⟩

/-! ## The members of an object -/

/-- What is read of an object from a member on. -/
def membersFrom (set : α → Text → Value → α) (fuel : Nat) (first : Bool) (acc : α)
    (ms : List (Text × Json.Value)) (r : Text) (p : Json.Place) :
    Except JsonError (α × Json.Cursor) :=
  Json.members JsonError.ofSyntax (takeMember set) fuel first acc
    ⟨Json.memberTexts first ms ++ '}' :: r, p⟩

variable {fuel : Nat} {first : Bool} {acc : α} {ms : List (Text × Json.Value)} {r : Text}
  {p : Json.Place}

theorem membersFrom_scalar {m : Text × Json.Value} {e : Text × Value} (hv : m.2.IsExact)
    (h : MemberDenotes m e) : ∃ q, membersFrom set (fuel + 1) first acc (m :: ms) r p =
      membersFrom set fuel false (set acc e.1 e.2) ms r q := by
  obtain ⟨key, v⟩ := m
  obtain ⟨key', w⟩ := e
  obtain ⟨rfl, hw⟩ := h
  obtain ⟨q, hq⟩ := Json.members_member acc key' v ms ('}' :: r) p
  refine ⟨q.afterText v.compact, hq.trans ?_⟩
  rw [takeMember_scalar hv hw key' acc (Json.endsNumber_memberTexts ms r)]
  rfl

theorem membersFrom_container {m : Text × Json.Value} (hc : m.2.isContainer = true) :
    ∃ e, membersFrom set (fuel + 1) first acc (m :: ms) r p = .error e := by
  obtain ⟨key, v⟩ := m
  obtain ⟨q, hq⟩ := Json.members_member acc key v ms ('}' :: r) p
  obtain ⟨e, he⟩ := takeMember_container hc key acc (Json.memberTexts false ms ++ '}' :: r) q
  refine ⟨e, hq.trans ?_⟩
  rw [he]
  rfl

/-- The members of a flat object are set one after another. -/
theorem membersFrom_flat (hms : ∀ m ∈ ms, m.2.IsExact) {pairs : List (Text × Value)}
    (h : List.Forall₂ MemberDenotes ms pairs) (hf : ms.length < fuel) :
    ∃ q, membersFrom set fuel first acc ms r p =
      .ok (pairs.foldl (fun acc e => set acc e.1 e.2) acc, ⟨r, q⟩) := by
  induction h generalizing fuel first acc p with
  | nil =>
    obtain ⟨fuel, rfl⟩ := Nat.exists_eq_add_of_le' hf
    exact ⟨p.after '}', Json.members_end acc r p⟩
  | @cons m e ms pairs h _ ih =>
    obtain ⟨fuel, rfl⟩ := Nat.exists_eq_add_of_le' (Nat.zero_lt_of_lt hf)
    obtain ⟨hv, hms⟩ := List.forall_mem_cons.1 hms
    obtain ⟨q, hq⟩ := membersFrom_scalar hv h
    rw [hq]
    exact ih hms (Nat.lt_of_succ_lt_succ hf)

/-- A list or an object among the members makes them all be refused. -/
theorem membersFrom_nested (hms : ∀ m ∈ ms, m.2.IsExact) (h : ∃ m ∈ ms, m.2.isContainer = true) :
    ∃ e, membersFrom set fuel first acc ms r p = .error e := by
  induction ms generalizing fuel first acc p with
  | nil => simp at h
  | cons m ms ih =>
    cases fuel with
    | zero => exact ⟨_, rfl⟩
    | succ fuel =>
      obtain ⟨hv, hms⟩ := List.forall_mem_cons.1 hms
      cases hc : m.2.isContainer with
      | true => exact membersFrom_container hc
      | false =>
        obtain ⟨w, hw⟩ := exists_denotes hv hc
        obtain ⟨q, hq⟩ := membersFrom_scalar (e := (m.1, w)) hv ⟨rfl, hw⟩
        rw [hq]
        refine ih hms ?_
        simpa [hc] using h

end

/-! ## Documents -/

section

variable {α : Type} {set : α → Text → Value → α} {init : α}

theorem readJson_object (set : α → Text → Value → α) (init : α) (ms : List (Text × Json.Value)) :
    ∃ fuel p, ms.length < fuel ∧ readJson set init (Json.Value.object ms).compact = (do
      let (acc, c) ← membersFrom set fuel true init ms [] p
      let _ ← (Json.passEnd c).mapError JsonError.ofSyntax
      return acc) := by
  refine ⟨((Json.Value.object ms).compact).length, Json.Place.after ⟨1, 0⟩ '{', ?_, ?_⟩
  · have := Json.length_le_memberTexts true ms
    rw [Json.compact_object, List.length_cons, List.length_append]
    omega
  · rw [Json.compact_object]
    rfl

theorem readJson_flat {ms : List (Text × Json.Value)} (hms : ∀ m ∈ ms, m.2.IsExact)
    {pairs : List (Text × Value)} (h : List.Forall₂ MemberDenotes ms pairs) :
    readJson set init (Json.Value.object ms).compact =
      .ok (pairs.foldl (fun acc e => set acc e.1 e.2) init) := by
  obtain ⟨fuel, p, hf, e⟩ := readJson_object set init ms
  obtain ⟨q, hq⟩ := membersFrom_flat hms h hf
  rw [e, hq]
  rfl

theorem readJson_nested {ms : List (Text × Json.Value)} (hms : ∀ m ∈ ms, m.2.IsExact)
    (h : ∃ m ∈ ms, m.2.isContainer = true) :
    ∃ e, readJson set init (Json.Value.object ms).compact = .error e := by
  obtain ⟨fuel, p, -, he⟩ := readJson_object set init ms
  obtain ⟨e, hm⟩ := membersFrom_nested hms h
  refine ⟨e, ?_⟩
  rw [he, hm]
  rfl

/-- A text that does not begin with a brace is refused. -/
theorem readJson_of_ne {x : Char} (hs : Json.Cursor.isSpace x = false) (hx : x ≠ '{') (t : Text) :
    ∃ e, readJson set init (x :: t) = .error e := by
  rw [readJson, Json.Cursor.start, Json.skipSpace_of_not_isSpace hs]
  dsimp only
  split
  · next e => exact (hx (List.cons.inj e).1).elim
  · exact ⟨_, rfl⟩
  · cases Json.readScalar ⟨x :: t, ⟨1, 0⟩⟩ with
    | error e => exact ⟨_, rfl⟩
    | ok v => exact ⟨_, rfl⟩

theorem readJson_other {v : Json.Value} (hv : v.IsExact) (h : ∀ ms, v ≠ .object ms) :
    ∃ e, readJson set init v.compact = .error e := by
  cases hc : v.isContainer with
  | false =>
    obtain ⟨x, t, ht, hs, -, hx⟩ := Json.compact_scalar hv hc
    rw [ht]
    exact readJson_of_ne hs hx t
  | true =>
    cases v with
    | array items =>
      rw [Json.Value.compact]
      exact readJson_of_ne rfl (by decide) _
    | object ms => exact (h ms rfl).elim
    | null | bool | int | float | string => cases hc

end

/-! ## What a collection holds -/

theorem ofList_concat (pairs : List (Text × Value)) (e : Text × Value) :
    ofList (pairs ++ [e]) = (ofList pairs).set e.1 e.2 := List.foldl_append

/-- A name stands where it came first. -/
theorem keys_ofList (pairs : List (Text × Value)) :
    (ofList pairs).keys = (pairs.map (·.1)).eraseDups := by
  induction pairs using List.reverseRecOn with
  | nil => rfl
  | append_singleton pairs e ih =>
    rw [ofList_concat, keys_set, ih, List.map_append, List.eraseDups_append]
    by_cases h : e.1 ∈ pairs.map (·.1)
    · rw [if_pos (List.mem_eraseDups.2 h)]
      simp [List.removeAll, h]
    · rw [if_neg (mt List.mem_eraseDups.1 h)]
      simp [List.removeAll, h, List.eraseDups_cons]

/-- A name has the value that came last. -/
theorem get?_ofList (pairs : List (Text × Value)) (key : Text) :
    (ofList pairs).get? key = pairs.reverse.lookup key := by
  induction pairs using List.reverseRecOn with
  | nil => rfl
  | append_singleton pairs e ih =>
    rw [ofList_concat, get?_set, ih, List.reverse_concat]
    exact (lookup_entry key e.1 e.2 pairs.reverse).symm

/-! ## Loading -/

def NumberFree (s : Style) : Prop := ∀ e ∈ s.entries, ∀ x, e.2 ≠ .number x

theorem toJson_denotes {v : Value} (h : ∀ x, v ≠ .number x) :
    v.toJson.IsExact ∧ Denotes v.toJson v := by
  cases v with
  | flag on => exact ⟨.bool on, .bool on⟩
  | number x => exact (h x rfl).elim
  | color name => exact ⟨.string name, .string name⟩
  | null => exact ⟨.null, .null⟩

theorem exists_pairs {ms : List (Text × Json.Value)} (hms : ∀ m ∈ ms, m.2.IsExact)
    (h : ∀ m ∈ ms, m.2.isContainer = false) : ∃ pairs, List.Forall₂ MemberDenotes ms pairs := by
  induction ms with
  | nil => exact ⟨[], .nil⟩
  | cons m ms ih =>
    obtain ⟨hv, hms⟩ := List.forall_mem_cons.1 hms
    obtain ⟨hc, h⟩ := List.forall_mem_cons.1 h
    obtain ⟨w, hw⟩ := exists_denotes hv hc
    obtain ⟨pairs, hp⟩ := ih hms h
    exact ⟨(m.1, w) :: pairs, .cons ⟨rfl, hw⟩ hp⟩

theorem loadJson_flat {ms : List (Text × Json.Value)} (hms : ∀ m ∈ ms, m.2.IsExact)
    {pairs : List (Text × Value)} (h : List.Forall₂ MemberDenotes ms pairs) :
    loadJson (Json.Value.object ms).compact = .ok (ofList pairs) := by
  rw [loadJson, ofJson, readJson_flat hms h]
  rfl

/-- A value is a flat object and loaded, or it is refused as a JSON document. -/
theorem loadJson_cases {v : Json.Value} (hv : v.IsExact) :
    (∃ ms pairs, v = .object ms ∧ List.Forall₂ MemberDenotes ms pairs ∧
      loadJson v.compact = .ok (ofList pairs)) ∨
    ∃ e, loadJson v.compact = .error (.json e) := by
  have hrefused (h : ∃ e, readJson set empty v.compact = .error e) :
      ∃ e, loadJson v.compact = .error (.json e) := by
    obtain ⟨e, he⟩ := h
    exact ⟨e, by rw [loadJson, ofJson, he]; rfl⟩
  by_cases h : ∃ ms, v = .object ms
  · obtain ⟨ms, rfl⟩ := h
    have hms : ∀ m ∈ ms, m.2.IsExact := by
      cases hv with
      | object hms => exact hms
    by_cases hn : ∃ m ∈ ms, m.2.isContainer = true
    · exact .inr (hrefused (readJson_nested hms hn))
    · obtain ⟨pairs, hp⟩ := exists_pairs hms fun m hm => by
        simpa using fun hc => hn ⟨m, hm, hc⟩
      exact .inl ⟨ms, pairs, rfl, hp, loadJson_flat hms hp⟩
  · exact .inr (hrefused (readJson_other hv (not_exists.1 h)))

theorem toJson_eq (s : Style) : s.toJson =
    (Json.Value.object (s.entries.map fun e => (e.1, e.2.toJson))).compact := rfl

theorem NumberFree.memberDenotes {s : Style} (hn : s.NumberFree) :
    List.Forall₂ MemberDenotes (s.entries.map fun e => (e.1, e.2.toJson)) s.entries := by
  rw [List.forall₂_map_left_iff, List.forall₂_same]
  exact fun e he => ⟨rfl, (toJson_denotes (hn e he)).2⟩

/-- What was written is loaded, if no name has a number. -/
theorem loadJson_toJson {s : Style} (hs : s.keys.Nodup) (hn : s.NumberFree) :
    loadJson s.toJson = .ok s := by
  have hms : ∀ m ∈ s.entries.map fun e => (e.1, e.2.toJson), m.2.IsExact := by
    rw [List.forall_mem_map]
    exact fun e he => (toJson_denotes (hn e he)).1
  rw [toJson_eq, loadJson_flat hms hn.memberDenotes, ofList_entries hs]

/-- A value is loaded from its compact text just if it is an object that holds no list and no
object. What is loaded is the collection of its members, in which each name stands where it came
first and has the value that came last. A style without numbers is loaded as it was written. -/
theorem loadJson_compact {v : Json.Value} (hv : v.IsExact) :
    (∀ s, loadJson v.compact = .ok s ↔ ∃ members pairs, v = .object members ∧
      List.Forall₂ MemberDenotes members pairs ∧ s = ofList pairs ∧
      s.keys = (members.map (·.1)).eraseDups ∧
      ∀ key, s.get? key = pairs.reverse.lookup key) ∧
    ((∀ s, loadJson v.compact ≠ .ok s) → ∃ e, loadJson v.compact = .error (.json e)) ∧
    ∀ ops, (run ops).NumberFree → loadJson (run ops).toJson = .ok (run ops) := by
  refine ⟨fun s => ⟨fun h => ?_, ?_⟩, fun h => ?_, fun ops => loadJson_toJson (tracks_run ops).nodup⟩
  · rcases loadJson_cases hv with ⟨ms, pairs, rfl, hp, hl⟩ | ⟨e, he⟩
    · obtain rfl : ofList pairs = s := Except.ok.inj (hl.symm.trans h)
      exact ⟨ms, pairs, rfl, hp, rfl, by rw [keys_ofList, names_eq hp], get?_ofList pairs⟩
    · rw [he] at h
      cases h
  · rintro ⟨ms, pairs, rfl, hp, rfl, -, -⟩
    cases hv with
    | object hms => exact loadJson_flat hms hp
  · rcases loadJson_cases hv with ⟨ms, pairs, -, -, hl⟩ | he
    · exact (h _ hl).elim
    · exact he

/-- A name that is repeated keeps its place. Its last value has a quotation mark, a control and a
character beyond ASCII. -/
theorem loadJson_compact_repeated :
    let members : List (Text × Json.Value) := [(['b'], .int (-3)), (['a'], .null),
      (['b'], .string ['"', '\n', 'é']), ([], .bool true)]
    (Json.Value.object members).IsExact ∧ loadJson (Json.Value.object members).compact =
      .ok ⟨[(['b'], .color ['"', '\n', 'é']), (['a'], .null), ([], .flag true)]⟩ := by
  intro members
  have hv : (Json.Value.object members).IsExact := by
    refine .object ?_
    simp only [members, List.forall_mem_cons, List.not_mem_nil, false_implies, implies_true,
      and_true]
    exact ⟨.int (by decide), .null, .string _, .bool true⟩
  let pairs : List (Text × Value) := [(['b'], .number (Binary64.ofInt (-3))), (['a'], .null),
    (['b'], .color ['"', '\n', 'é']), ([], .flag true)]
  have hp : List.Forall₂ MemberDenotes members pairs :=
    .cons ⟨rfl, .int (Binary64.hasValue_ofInt (by decide))⟩ <| .cons ⟨rfl, .null⟩ <|
      .cons ⟨rfl, .string _⟩ <| .cons ⟨rfl, .bool true⟩ .nil
  exact ⟨hv, ((loadJson_compact hv).1 _).2 ⟨members, pairs, rfl, hp, rfl, rfl, get?_ofList pairs⟩⟩

end Termkit.Style
