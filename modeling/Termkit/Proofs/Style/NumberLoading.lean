import Termkit.Proofs.Json.FractionReading
import Termkit.Proofs.Style.JsonLoading

/-!
# Loading numbers from JSON

A whole number is written with a point, and so it is not read exactly: what is loaded is a tenth of
its tenfold, both rounded (`loadJson_toJson_tenth`). Up to `2^53` that is the number or one of its
neighbours (`loadJson_toJson_whole`).
-/

namespace Termkit.Style

section

variable {α : Type} {set : α → Text → Value → α} {acc : α} {fuel : Nat} {first : Bool} {key : Text}
  {n : Int} (h : n.natAbs ≤ twoTo 53) {ms : List (Text × Json.Value)} {r : Text}
  {p : Json.Place}

include h

theorem takeMember_tenth (hr : Json.EndsNumber r) :
    takeMember set key acc ⟨(Json.Value.float (.ofInt n)).compact ++ r, p⟩ =
      .ok (set acc key (.number (Json.readTenth n)),
        ⟨r, p.afterText (Json.writeInt n ++ ['.', '0'])⟩) := by
  have h64 : 10 * n.natAbs < twoTo 64 :=
    Nat.lt_of_le_of_lt (Nat.mul_le_mul_left 10 h) (by decide)
  rw [Json.Value.compact, Json.writeFloat_ofInt h, List.append_assoc]
  exact takeMember_of_some (Json.readValue_tenth h64 hr p _) rfl

theorem membersFrom_tenth : ∃ q,
    membersFrom set (fuel + 1) first acc ((key, .float (.ofInt n)) :: ms) r p =
      membersFrom set fuel false (set acc key (.number (Json.readTenth n))) ms r q := by
  obtain ⟨q, hq⟩ := Json.members_member acc key (.float (.ofInt n)) ms ('}' :: r) p
  refine ⟨q.afterText (Json.writeInt n ++ ['.', '0']), hq.trans ?_⟩
  rw [takeMember_tenth h (Json.endsNumber_memberTexts ms r)]
  rfl

theorem readJson_tenth : readJson set acc (Json.Value.object [(key, .float (.ofInt n))]).compact =
    .ok (set acc key (.number (Json.readTenth n))) := by
  obtain ⟨fuel, p, hf, e⟩ := readJson_object set acc [(key, .float (.ofInt n))]
  obtain ⟨fuel, rfl⟩ : ∃ k, fuel = k + 2 := Nat.exists_eq_add_of_le' hf
  obtain ⟨q, hq⟩ : ∃ q, membersFrom set (fuel + 2) true acc [(key, .float (.ofInt n))] [] p = _ :=
    membersFrom_tenth h
  rw [e, hq]
  rfl

end

/-- A whole number is loaded as a tenth of its tenfold. -/
theorem loadJson_toJson_tenth (key : Text) {n : Int} (h : n.natAbs ≤ twoTo 53) :
    loadJson (empty.set key (.number (.ofInt n))).toJson =
      .ok (empty.set key (.number (Json.readTenth n))) := by
  have htext : (empty.set key (.number (.ofInt n))).toJson =
      (Json.Value.object [(key, .float (.ofInt n))]).compact := rfl
  rw [htext, loadJson, ofJson, readJson_tenth h]
  rfl

/-- A style of one whole number up to `2^53` is loaded under the same name. The number has the same
sign and is the one that was written or next to it; it is the same just if the number comes back
from both roundings. -/
theorem loadJson_toJson_whole (key : Text) {n : Int} (h : n.natAbs ≤ twoTo 53) :
    (Binary64.ofInt n).HasValue n ∧ ∃ x,
      loadJson (empty.set key (.number (.ofInt n))).toJson = .ok (empty.set key (.number x)) ∧
      x.isNegative = (Binary64.ofInt n).isNegative ∧
      Binary64.Adjacent x.code (Binary64.ofInt n).code ∧
      (x = .ofInt n ↔ Binary64.ComesBack n.natAbs) :=
  ⟨Binary64.hasValue_ofInt h, _, loadJson_toJson_tenth key h, Json.readTenth_adjacent h⟩

/-- The tenfold is rounded here, but not by too much. -/
theorem loadJson_toJson_whole_rounded : (-9007199254740990 : Int).natAbs ≤ twoTo 53 ∧
    loadJson (empty.set ['k'] (.number (.ofInt (-9007199254740990)))).toJson =
      .ok (empty.set ['k'] (.number (.ofInt (-9007199254740990)))) := by
  have h : (-9007199254740990 : Int).natAbs ≤ twoTo 53 := by decide
  obtain ⟨-, x, hload, -, -, hback⟩ := loadJson_toJson_whole ['k'] h
  rw [hback.2 (by decide)] at hload
  exact ⟨h, hload⟩

/-- The least positive number that is not loaded as it was written: a quarter is added to it. -/
theorem not_loadJson_toJson_same : ¬ ∀ (key : Text) (n : Int), n.natAbs ≤ twoTo 53 →
    loadJson (empty.set key (.number (.ofInt n))).toJson =
      .ok (empty.set key (.number (.ofInt n))) := by
  intro h
  have hsame := h ['k'] 1801439850948199 (by decide)
  revert hsame
  decide +kernel

end Termkit.Style
