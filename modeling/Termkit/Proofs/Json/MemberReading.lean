import Termkit.Proofs.Json.ValueReading

/-!
# Reading what was written: members

The members of an object that was written are taken one after another, each from behind its colon
(`members_member`), and behind the last one the object ends (`members_end`). What follows a member
never continues a number (`endsNumber_memberTexts`).
-/

namespace Termkit.Json

/-- The members as they are written, each but the `first` behind a comma. -/
def memberTexts : (first : Bool) → List (Text × Value) → Text
  | _, [] => []
  | first, (key, v) :: rest =>
    (if first then [] else [',']) ++ (writeString key ++ ':' :: (v.compact ++ memberTexts false rest))

theorem intercalate_compactMembers (ms : List (Text × Value)) :
    List.intercalate [','] (compactMembers ms) = memberTexts true ms := by
  have hcons : ∀ m (ms : List (Text × Value)), List.intercalate [','] (compactMembers (m :: ms)) =
      writeString m.1 ++ ':' :: (m.2.compact ++ memberTexts false ms) := by
    intro m ms
    induction ms generalizing m with
    | nil => simp [compactMembers, memberTexts]
    | cons m' ms ih =>
      have := ih m'
      rw [compactMembers] at this
      rw [compactMembers, compactMembers, List.intercalate_cons_cons, this]
      simp [memberTexts]
  cases ms with
  | nil => rfl
  | cons m ms => exact hcons m ms

theorem compact_object (ms : List (Text × Value)) :
    (Value.object ms).compact = '{' :: (memberTexts true ms ++ ['}']) := by
  rw [Value.compact, intercalate_compactMembers]

theorem length_le_memberTexts (first : Bool) (ms : List (Text × Value)) :
    ms.length ≤ (memberTexts first ms).length := by
  induction ms generalizing first with
  | nil => exact Nat.zero_le _
  | cons m ms ih =>
    have := ih false
    simp only [memberTexts, List.length_append, List.length_cons]
    omega

/-- A member is followed by a comma or by the brace that closes the object. -/
theorem endsNumber_memberTexts (ms : List (Text × Value)) (r : Text) :
    EndsNumber (memberTexts false ms ++ '}' :: r) := by
  intro c hc
  cases ms with
  | nil =>
    obtain rfl : '}' = c := Option.some.inj hc
    decide
  | cons m ms =>
    obtain rfl : ',' = c := Option.some.inj hc
    decide

section

variable {ε α : Type} {lift : Error → ε} {take : Text → α → Cursor → Except ε (α × Cursor)}
  {first : Bool} {fuel : Nat}

/-- A member is taken from behind its colon, and the walk goes on from where `take` stops. -/
theorem members_member (acc : α) (key : Text) (v : Value) (ms : List (Text × Value)) (r : Text)
    (p : Place) : ∃ p', members lift take (fuel + 1) first acc
      ⟨memberTexts first ((key, v) :: ms) ++ r, p⟩ = (do
        let (acc, c) ← take key acc ⟨v.compact ++ (memberTexts false ms ++ r), p'⟩
        members lift take fuel false acc c) := by
  generalize hrest : v.compact ++ (memberTexts false ms ++ r) = rest
  have ht : memberTexts first ((key, v) :: ms) ++ r =
      (if first then [] else [',']) ++ (writeString key ++ ':' :: rest) := by
    simp [memberTexts, ← hrest]
  obtain ⟨q, hq⟩ : ∃ q, nextKey first ⟨memberTexts first ((key, v) :: ms) ++ r, p⟩ =
      .ok (true, Cursor.next ⟨writeString key ++ ':' :: rest, q⟩) := by
    rw [ht]
    cases first
    · exact ⟨p.after ',', rfl⟩
    · exact ⟨p, rfl⟩
  refine ⟨(q.afterText (writeString key)).after ':', ?_⟩
  rw [members, hq]
  change ((readString (Cursor.next ⟨writeString key ++ ':' :: rest, q⟩)).mapError lift >>= _) = _
  rw [readString_writeString]
  rfl

/-- Behind the last member the object ends. -/
theorem members_end (acc : α) (r : Text) (p : Place) :
    members lift take (fuel + 1) first acc ⟨'}' :: r, p⟩ = .ok (acc, ⟨r, p.after '}'⟩) := rfl

end

end Termkit.Json
