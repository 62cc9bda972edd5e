import Termkit.Style.Document

/-!
# The entries of a document

A document says one pair of name and value after another. Reading it does something with each of
them, and what that is changes nothing in what is read: `readJson_map`, `readYaml_map`. So a loaded
style is the collection of the document's entries in their order (`ofJson_eq`, `ofYaml_eq`).
-/

namespace Termkit

/-! ## Reading members -/

theorem Json.members_map {ε α β : Type} {lift : Error → ε} {f : α → β}
    {take : Text → α → Cursor → Except ε (α × Cursor)}
    {take' : Text → β → Cursor → Except ε (β × Cursor)}
    (h : ∀ key acc c, take' key (f acc) c = Prod.map f id <$> take key acc c) (fuel : Nat)
    (first : Bool) (acc : α) (c : Cursor) :
    members lift take' fuel first (f acc) c =
      Prod.map f id <$> members lift take fuel first acc c := by
  induction fuel generalizing first acc c with
  | zero => rfl
  | succ fuel ih =>
    unfold members
    rw [map_bind]
    refine bind_congr fun (more, c) => ?_
    cases more with
    | false => rfl
    | true =>
      simp only [if_true, map_bind]
      refine bind_congr fun (key, c) => bind_congr fun c => ?_
      rw [h, bind_map_left]
      exact bind_congr fun (acc, c) => ih false acc c

namespace Style

variable {α β : Type} {f : α → β} {set : α → Text → Value → α} {set' : β → Text → Value → β}

theorem takeMember_map (h : ∀ acc key v, set' (f acc) key v = f (set acc key v)) (key : Text)
    (acc : α) (c : Json.Cursor) :
    takeMember set' key (f acc) c = Prod.map f id <$> takeMember set key acc c := by
  unfold takeMember
  rw [map_bind]
  refine bind_congr fun (v, c) => ?_
  cases hv : Value.ofJson? v with
  | none => simp only [hv]; rfl
  | some v => simp only [hv]; rw [h]; rfl

/-- What is done with the entries of a JSON text changes nothing in what is read. -/
theorem readJson_map (h : ∀ acc key v, set' (f acc) key v = f (set acc key v)) (init : α)
    (t : Text) : readJson set' (f init) t = f <$> readJson set init t := by
  unfold readJson
  dsimp only
  split
  · rw [Json.members_map (takeMember_map h), map_bind, bind_map_left]
    refine bind_congr fun (acc, c) => ?_
    rw [map_bind]
    rfl
  · rfl
  · rw [map_bind]
    rfl

theorem readEntries_map (h : ∀ acc key v, set' (f acc) key v = f (set acc key v))
    (d : Yaml.Document) (root : Yaml.Mark) (entries : List (Yaml.Node × Yaml.Node)) (acc : α) :
    readEntries set' d root entries (f acc) = f <$> readEntries set d root entries acc := by
  induction entries generalizing acc with
  | nil => simp [readEntries]
  | cons e rest ih =>
    obtain ⟨k, v⟩ := e
    simp only [readEntries, map_bind]
    refine bind_congr fun key => bind_congr fun v => ?_
    cases v with
    | none => rfl
    | some v => simp only [h, ih]

theorem readRoot_map (h : ∀ acc key v, set' (f acc) key v = f (set acc key v)) (init : α)
    (d : Yaml.Document) : readRoot set' (f init) d = f <$> readRoot set init d := by
  unfold readRoot
  rw [map_bind]
  refine bind_congr fun n => ?_
  cases n with
  | missing => rfl
  | aliasTo m slot => rfl
  | mapping m tag entries => exact readEntries_map h d m entries init
  | sequence m tag items => rfl
  | scalar m tag isPlain t =>
    dsimp only
    split
    · rw [map_pure]
    · rw [map_bind]
      rfl

/-- What is done with the entries of a YAML text changes nothing in what is read. -/
theorem readYaml_map (h : ∀ acc key v, set' (f acc) key v = f (set acc key v)) (init : α)
    (t : Text) : readYaml set' (f init) t = f <$> readYaml set init t := by
  unfold readYaml
  dsimp only
  rw [readRoot_map h, StateT.run_map, map_bind, bind_map_left]
  refine bind_congr fun (acc, n) => ?_
  dsimp only
  split
  · rfl
  · split <;> rfl

/-! ## Entries -/

def pushEntry (entries : List (Text × Value)) (key : Text) (v : Value) : List (Text × Value) :=
  entries ++ [(key, v)]

def jsonEntries (t : Text) : Except JsonError (List (Text × Value)) := readJson pushEntry [] t

def yamlEntries (t : Text) : Except YamlError (List (Text × Value)) := readYaml pushEntry [] t

theorem ofList_pushEntry (entries : List (Text × Value)) (key : Text) (v : Value) :
    ofList (pushEntry entries key v) = (ofList entries).set key v := by
  simp [ofList, pushEntry, List.foldl_append]

/-- A style that was loaded collects the entries of its document. -/
theorem ofJson_eq (t : Text) : ofJson t = ofList <$> jsonEntries t :=
  readJson_map (fun acc key v => (ofList_pushEntry acc key v).symm) [] t

theorem ofYaml_eq (t : Text) : ofYaml t = ofList <$> yamlEntries t :=
  readYaml_map (fun acc key v => (ofList_pushEntry acc key v).symm) [] t

end Style

end Termkit
