import Mathlib.Data.List.Forall2
import Termkit.Yaml.Compose
import Termkit.Proofs.Yaml.FlowTokens

/-!
# Nodes of a flat JSON object

The composer makes an entry of each member, a node for the name and one for the value, and leaves
the tokens behind the closing brace (`flowEntries_members`). So the text of the object is a
document of one mapping (`document_object`).
-/

namespace Termkit.Yaml

open Scanner (memberKinds scalarKind IsLineMember)

/-- The node holds the scalar of a token and has no tag. -/
inductive HoldsScalar : TokenKind → Node → Prop where
  | mk (m : Mark) (isPlain : Bool) (t : Text) :
    HoldsScalar (.scalar isPlain t) (.scalar m none isPlain t)

/-- The entry holds the name and the value of a member. -/
def HoldsMember (e : Text × Json.Value) (n : Node × Node) : Prop :=
  HoldsScalar (.scalar false e.1) n.1 ∧ HoldsScalar (scalarKind e.2) n.2

theorem map_kind_eq_cons {toks : List Token} {k : TokenKind} {ks : List TokenKind}
    (h : toks.map (·.kind) = k :: ks) :
    ∃ start stop rest, toks = ⟨k, start, stop⟩ :: rest ∧ rest.map (·.kind) = ks := by
  obtain ⟨⟨_, start, stop⟩, rest, rfl, rfl, rfl⟩ := List.map_eq_cons_iff.1 h
  exact ⟨start, stop, rest, rfl, rfl⟩

theorem exists_scalarKind (v : Json.Value) : ∃ p t, scalarKind v = .scalar p t := by
  cases v <;> exact ⟨_, _, rfl⟩

namespace Composer

variable {s : Composer} {first : Bool} {kinds : List TokenKind}

theorem flowEntries_end (since : Mark) (h : s.tokens.map (·.kind) = .flowMappingEnd :: kinds) :
    ∃ rest, rest.map (·.kind) = kinds ∧ ∀ fuel, (flowEntries (fuel + 1) since first).run s =
      ([], { s with tokens := rest, size := s.size + 1 }) := by
  obtain ⟨tokens, _, _, _, _, _⟩ := s
  obtain ⟨_, _, rest, rfl, hrest⟩ := map_kind_eq_cons h
  refine ⟨rest, hrest, fun fuel => ?_⟩
  cases first <;> rfl

/-- One member, with the comma in front of it unless it is the first. The calls for the value go
four deep below the one for the member. -/
theorem flowEntries_member (since : Mark) {e : Text × Json.Value}
    (h : s.tokens.map (·.kind) = (if first then [] else [.flowEntry]) ++
      .key :: .scalar false e.1 :: .value :: scalarKind e.2 :: kinds) :
    ∃ entry rest, HoldsMember e entry ∧ rest.map (·.kind) = kinds ∧
      ∀ fuel, (flowEntries (fuel + 5) since first).run s =
        ((entry :: ·) <$> flowEntries (fuel + 4) since false).run
          { s with tokens := rest, size := s.size + 2 } := by
  obtain ⟨tokens, _, _, _, _, _⟩ := s
  obtain ⟨key, v⟩ := e
  obtain ⟨p, t, hv⟩ := exists_scalarKind v
  rw [hv] at h
  obtain ⟨commas, member, rfl, hc, h⟩ := List.map_eq_append_iff.1 h
  obtain ⟨_, _, _, rfl, h₁⟩ := map_kind_eq_cons h
  obtain ⟨m, _, _, rfl, h₂⟩ := map_kind_eq_cons h₁
  obtain ⟨_, _, _, rfl, h₃⟩ := map_kind_eq_cons h₂
  obtain ⟨m', _, rest, rfl, hrest⟩ := map_kind_eq_cons h₃
  refine ⟨(.scalar m none false key, .scalar m' none p t), rest, ⟨.mk .., hv ▸ .mk ..⟩, hrest,
    fun fuel => ?_⟩
  cases first with
  | true =>
    obtain rfl := List.map_eq_nil_iff.1 hc
    rfl
  | false =>
    obtain ⟨_, _, _, rfl, hn⟩ := map_kind_eq_cons hc
    obtain rfl := List.map_eq_nil_iff.1 hn
    rfl

/-- All members and the closing brace. -/
theorem flowEntries_members (since : Mark) {ms : List (Text × Json.Value)}
    (h : s.tokens.map (·.kind) = memberKinds first ms ++ .flowMappingEnd :: kinds) {fuel : Nat}
    (hf : ms.length + 4 < fuel) :
    ∃ entries rest size, List.Forall₂ HoldsMember ms entries ∧ rest.map (·.kind) = kinds ∧
      (flowEntries fuel since first).run s = (entries, { s with tokens := rest, size }) := by
  induction ms generalizing s first fuel with
  | nil =>
    obtain ⟨fuel, rfl⟩ := Nat.exists_eq_add_of_le' (Nat.zero_lt_of_lt hf)
    obtain ⟨rest, hrest, hrun⟩ := flowEntries_end since h
    exact ⟨[], rest, s.size + 1, .nil, hrest, hrun fuel⟩
  | cons e ms ih =>
    rw [List.length_cons] at hf
    have hfive : 5 ≤ fuel := by omega
    obtain ⟨fuel, rfl⟩ := Nat.exists_eq_add_of_le' hfive
    have hfuel : ms.length + 4 < fuel + 4 := by omega
    rw [memberKinds, List.append_assoc] at h
    obtain ⟨entry, rest, he, hrest, hrun⟩ := flowEntries_member since h
    obtain ⟨entries, rest', size, hes, hrest', hrun'⟩ :=
      ih (s := { s with tokens := rest, size := s.size + 2 }) hrest hfuel
    refine ⟨entry :: entries, rest', size, .cons he hes, hrest', ?_⟩
    rw [hrun, StateT.run_map, hrun']
    rfl

/-- A mapping that begins the text, without anchor and tag. -/
theorem firstDocument_mapping (fuel : Nat) (m n : Mark) (toks : List Token) :
    (firstDocument (fuel + 2)).run (start ⟨⟨.flowMappingStart, m, n⟩ :: toks, none⟩) =
      (Node.mapping m none <$> flowEntries fuel m true).run
        { start ⟨toks, none⟩ with size := 1 } := rfl

end Composer

theorem length_le_memberKinds (first : Bool) (ms : List (Text × Json.Value)) :
    ms.length ≤ (memberKinds first ms).length := by
  induction ms generalizing first with
  | nil => exact Nat.zero_le _
  | cons e ms ih =>
    have := ih false
    simp only [memberKinds, List.length_append, List.length_cons]
    omega

/-- The text of a flat object is one mapping, without anchors. -/
theorem document_object {ms : List (Text × Json.Value)} (h : ∀ e ∈ ms, IsLineMember e) :
    ∃ m entries size, List.Forall₂ HoldsMember ms entries ∧
      Document.ofText (Json.Value.object ms).compact =
        ⟨.mapping m none entries, [], size, none, false⟩ := by
  obtain ⟨toks, htoks, hkinds⟩ := ofText_object h
  obtain ⟨m, n, toks, rfl, hmembers⟩ := map_kind_eq_cons hkinds
  have hfuel : ms.length + 4 < 4 * toks.length + 6 := by
    have := length_le_memberKinds true ms
    have := congrArg List.length hmembers
    simp only [List.length_map, List.length_append, List.length_cons] at this
    omega
  obtain ⟨entries, rest, size, hentries, hrest, hrun⟩ :=
    Composer.flowEntries_members m hmembers hfuel
      (s := { Composer.start ⟨toks, none⟩ with size := 1 })
  obtain ⟨_, _, _, rfl, hnil⟩ := map_kind_eq_cons hrest
  obtain rfl := List.map_eq_nil_iff.1 hnil
  refine ⟨m, entries, size, hentries, ?_⟩
  have hdocument := Composer.firstDocument_mapping (4 * toks.length + 6) m n toks
  rw [StateT.run_map, hrun] at hdocument
  rw [Document.ofText, htoks]
  dsimp only
  rw [List.length_cons, Nat.mul_succ, hdocument]
  rfl

end Termkit.Yaml
