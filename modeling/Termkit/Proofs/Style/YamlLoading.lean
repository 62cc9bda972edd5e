import Termkit.Proofs.Style.JsonLoading
import Termkit.Proofs.Yaml.FlowNodes

/-!
# Loading styles from YAML

A flat object is a YAML document too. Its names are read as texts, its words and quoted strings as
what they are in JSON, so the members are set in their order (`readYaml_object`). A style without
numbers whose text fits a line is loaded as it was written, from either format (`load_toJson`).
-/

namespace Termkit.Style

open Text (Printable)
open Yaml (Document Mark Node HoldsScalar HoldsMember)
open Yaml.Scanner (scalarKind IsLineScalar IsLineMember)

section

variable {α : Type} {set : α → Text → Value → α} {d : Document}

/-! ## Nodes -/

theorem readKey_name {key : Text} {n : Node} (h : HoldsScalar (.scalar false key) n) :
    readKey d n = return key := by
  cases h
  rfl

/-- A scalar without a tag: quoted it is a string, whatever it spells. -/
theorem readValue_untagged {isPlain : Bool} {t : Text} {n : Node} {v : Value}
    (h : HoldsScalar (.scalar isPlain t) n)
    (hv : Value.ofScalar? (if isPlain then Yaml.Scalar.ofPlain t else .string t) = some v)
    (room : Nat) (way : Way) : readValue d room way n = return some v := by
  cases h
  unfold readValue
  simp only [follow, pure_bind, refuseVariant, readScalar, Yaml.Scalar.resolve, Option.any, hv]
  rfl

theorem readValue_scalar {v : Json.Value} {n : Node} {w : Value} (h : HoldsScalar (scalarKind v) n)
    (hv : IsLineScalar v) (hw : Denotes v w) (room : Nat) (way : Way) :
    readValue d room way n = return some w := by
  cases hw with
  | null => exact readValue_untagged h (by decide) room way
  | bool b =>
    cases b with
    | true => exact readValue_untagged h (by decide) room way
    | false => exact readValue_untagged h (by decide) room way
  | int => cases hv
  | string => exact readValue_untagged h rfl room way

/-! ## Documents -/

theorem readEntries_members {ms : List (Text × Json.Value)} (hl : ∀ e ∈ ms, IsLineMember e)
    {entries : List (Node × Node)} (hn : List.Forall₂ HoldsMember ms entries)
    {pairs : List (Text × Value)} (hp : List.Forall₂ MemberDenotes ms pairs) (root : Mark)
    (acc : α) : readEntries set d root entries acc =
      return pairs.foldl (fun acc e => set acc e.1 e.2) acc := by
  induction hn generalizing pairs acc with
  | nil =>
    cases hp
    rfl
  | @cons e entry ms entries hentry _ ih =>
    cases hp with
    | @cons _ pair _ pairs hpair hp =>
      obtain ⟨k, n⟩ := entry
      obtain ⟨hk, hn⟩ := hentry
      obtain ⟨hkey, hw⟩ := hpair
      obtain ⟨⟨-, -, hv⟩, hl⟩ := List.forall_mem_cons.1 hl
      unfold readEntries
      rw [readKey_name hk, pure_bind]
      dsimp only
      rw [readValue_scalar hn hv hw, pure_bind, ← hkey]
      exact ih hl hp (set acc pair.1 pair.2)

/-- The members of a flat object on one line are set one after another. -/
theorem readYaml_object {ms : List (Text × Json.Value)} (hl : ∀ e ∈ ms, IsLineMember e)
    {pairs : List (Text × Value)} (hp : List.Forall₂ MemberDenotes ms pairs) (init : α) :
    readYaml set init (Json.Value.object ms).compact =
      .ok (pairs.foldl (fun acc e => set acc e.1 e.2) init) := by
  obtain ⟨m, entries, size, hn, hd⟩ := Yaml.document_object hl
  have hroot : readRoot set init ⟨.mapping m none entries, [], size, none, false⟩ =
      return pairs.foldl (fun acc e => set acc e.1 e.2) init :=
    readEntries_members hl hn hp m init
  rw [readYaml, hd]
  dsimp only
  rw [hroot]
  rfl

end

/-! ## Styles -/

def Value.isNumber : Value → Bool
  | flag _ => false
  | number _ => true
  | color _ => false
  | null => false

theorem Value.isNumber_eq_false (v : Value) : v.isNumber = false ↔ ∀ x, v ≠ number x := by
  cases v <;> simp [isNumber]

instance (v : Value) : Decidable (∀ x, v ≠ .number x) := decidable_of_iff _ v.isNumber_eq_false

instance (s : Style) : Decidable s.NumberFree := List.decidableBAll _ s.entries

/-- The names and colours are printable, and the names are short enough for keys: the limit of 1024
characters holds with every character escaped. -/
def FitsLine (s : Style) : Prop :=
  ∀ e ∈ s.entries, Printable e.1 ∧ e.1.length ≤ 500 ∧ ∀ name ∈ e.2.color?, Printable name

instance (s : Style) : Decidable s.FitsLine := List.decidableBAll _ s.entries

theorem isLineScalar_toJson {v : Value} (hn : ∀ x, v ≠ .number x)
    (hc : ∀ name ∈ v.color?, Printable name) : IsLineScalar v.toJson := by
  cases v with
  | flag on => exact .bool on
  | number x => exact (hn x rfl).elim
  | color name => exact .string (hc name rfl)
  | null => exact .null

theorem loadYaml_toJson {s : Style} (hs : s.keys.Nodup) (hn : s.NumberFree) (hl : s.FitsLine) :
    loadYaml s.toJson = .ok s := by
  have hms : ∀ m ∈ s.entries.map fun e => (e.1, e.2.toJson), IsLineMember m := by
    rw [List.forall_mem_map]
    intro e he
    obtain ⟨hk, hlen, hc⟩ := hl e he
    exact ⟨hk, hlen, isLineScalar_toJson (hn e he) hc⟩
  rw [toJson_eq, loadYaml, ofYaml, readYaml_object hms hn.memberDenotes]
  exact congrArg Except.ok (ofList_entries hs)

/-- What is saved of a style is loaded from it, as YAML and as JSON alike: if no name has a number
and the text fits a line, the style comes back with its names in their order. -/
theorem load_toJson (ops : List Op) (hn : (run ops).NumberFree) (hl : (run ops).FitsLine) :
    loadYaml (run ops).toJson = .ok (run ops) ∧ loadJson (run ops).toJson = .ok (run ops) :=
  have hs := (tracks_run ops).nodup
  ⟨loadYaml_toJson hs hn hl, loadJson_toJson hs hn⟩

/-- Colours that spell other values in YAML, and names of punctuation and of nothing. -/
theorem load_toJson_spelled :
    let ops : List Op := [
      .collect [(['"', '\\'], .null), (['a', ':', ' ', '{'], .color ['t', 'r', 'u', 'e']),
        ([], .color ['~']), (['"', '\\'], .color ['n', 'u', 'l', 'l'])],
      .set ['n'] (.color ['1', '.', '5']), .set ['t', 'r', 'u', 'e'] (.flag true), .set [' '] .null]
    let s : Style := ⟨[(['"', '\\'], .color ['n', 'u', 'l', 'l']),
      (['a', ':', ' ', '{'], .color ['t', 'r', 'u', 'e']), ([], .color ['~']),
      (['n'], .color ['1', '.', '5']), (['t', 'r', 'u', 'e'], .flag true), ([' '], .null)]⟩
    ((run ops).NumberFree ∧ (run ops).FitsLine) ∧
      loadYaml s.toJson = .ok s ∧ loadJson s.toJson = .ok s := by
  intro ops s
  have hn : (run ops).NumberFree := by decide
  have hl : (run ops).FitsLine := by decide
  have hs : run ops = s := by decide
  exact ⟨⟨hn, hl⟩, hs ▸ load_toJson ops hn hl⟩

end Termkit.Style
