import Mathlib.Data.List.TakeWhile
import Termkit.Proofs.Json.MemberReading
import Termkit.Proofs.Yaml.Rounds
import Termkit.Proofs.Yaml.ScalarReading

/-!
# Tokens of a flat JSON object

A JSON object without lists, objects and numbers is a flow mapping on one line. `Scans` says which
tokens lie between two places within its braces, and runs of tokens follow one another
(`Scans.trans`): a name with its colon, a value, a comma, and so all members. The text of the object
has their tokens, and those of the braces around them (`ofText_object`).
-/

namespace Termkit.Yaml

open Text (Printable)

namespace Scanner

/-! ## Within the braces -/

/-- The scanner between two tokens within the braces of a mapping, which may itself be a key. -/
def withinBraces (outerKey : Option KeyStart) (keyAllowed : Bool) (keyStart : Option KeyStart)
    (read : List Token) (c : Cursor) : Scanner :=
  { cursor := c
    read
    indent := -1
    outer := []
    keyAllowed
    keyStart
    outerKeys := [outerKey]
    ended := false }

def behindBraces (keyStart : Option KeyStart) (read : List Token) (c : Cursor) : Scanner :=
  { cursor := c
    read
    indent := -1
    outer := []
    keyAllowed := false
    keyStart
    outerKeys := []
    ended := false }

section

variable {k : Option KeyStart} {a : Bool} {read : List Token} {r t : Text} {m : Mark}

theorem calm_withinBraces {ks : Option KeyStart} (hk : IsFree k) (hks : IsFree ks) (c : Cursor) :
    (withinBraces k a ks read c).Calm := ⟨rfl, hks, List.forall_mem_singleton.2 hk⟩

theorem calm_behindBraces (hk : IsFree k) (c : Cursor) : (behindBraces k read c).Calm :=
  ⟨rfl, hk, List.forall_mem_nil _⟩

theorem saveKey_of_not_keyAllowed {s : Scanner} (h : s.keyAllowed = false) :
    s.saveKey = .ok s := by
  simp [saveKey, h]

/-- Within braces nothing must be a key. -/
theorem saveKey_withinBraces (c : Cursor) : (withinBraces k true none read c).saveKey =
    .ok (withinBraces k true (some ⟨read.length, c.mark, false⟩) read c) := rfl

/-! ## One token -/

theorem scanToken_open : (Scanner.start ('{' :: r)).scanToken =
    .ok (withinBraces (some ⟨0, .start, false⟩) true none
      [⟨.flowMappingStart, .start, Mark.start.right 1⟩] ⟨r, Mark.start.right 1⟩) := by
  simp [scanToken, Scanner.start, Cursor.atMarker]
  rfl

theorem scanToken_close : (withinBraces k a none read ⟨'}' :: r, m⟩).scanToken =
    .ok (behindBraces k (⟨.flowMappingEnd, m, m.right 1⟩ :: read) ⟨r, m.right 1⟩) := by
  simp [scanToken, withinBraces, Cursor.atMarker]
  rfl

theorem scanToken_comma : (withinBraces k a none read ⟨',' :: r, m⟩).scanToken =
    .ok (withinBraces k true none (⟨.flowEntry, m, m.right 1⟩ :: read) ⟨r, m.right 1⟩) := by
  simp [scanToken, withinBraces, Cursor.atMarker]
  rfl

/-- The colon shows that the token in front of it is a key. -/
theorem scanToken_colon {k' : KeyStart} (hk : k'.position = read.length) (key : Token) :
    (withinBraces k a (some k') (key :: read) ⟨':' :: r, m⟩).scanToken =
      .ok (withinBraces k false none
        (⟨.value, m, m.right 1⟩ :: key :: ⟨.key, k'.mark, k'.mark⟩ :: read) ⟨r, m.right 1⟩) := by
  simp [scanToken, withinBraces, Cursor.atMarker, scanValue, insert, openBlock, pass, emit, inFlow,
    mark, Cursor.skip, hk]

theorem scanToken_quote {s : Scanner} (h : s.cursor.rest = '"' :: r) :
    s.scanToken = s.scanQuoted '"' := by
  simp [scanToken, Cursor.atMarker, h]

theorem scanQuoted_eq {s s' : Scanner} (hs : s.saveKey = .ok s') {quote : Char} {c : Cursor}
    (hq : readQuoted quote s'.cursor = .ok (t, c)) : s.scanQuoted quote =
      .ok ({ s' with keyAllowed := false, cursor := c }.emit (.scalar false t) s'.mark) := by
  simp only [scanQuoted, hs, bind, Except.bind, hq]
  rfl

theorem scanToken_string (ht : Printable t) :
    (withinBraces k false none read ⟨Json.writeString t ++ r, m⟩).scanToken =
      .ok (withinBraces k false none
        (⟨.scalar false t, m, m.right (Json.writeString t).length⟩ :: read)
        ⟨r, m.right (Json.writeString t).length⟩) :=
  (scanToken_quote rfl).trans
    (scanQuoted_eq (saveKey_of_not_keyAllowed rfl) (readQuoted_writeString ht r m))

/-- Where a key may begin, the string is kept as a possible key. -/
theorem scanToken_name (ht : Printable t) :
    (withinBraces k true none read ⟨Json.writeString t ++ r, m⟩).scanToken =
      .ok (withinBraces k false (some ⟨read.length, m, false⟩)
        (⟨.scalar false t, m, m.right (Json.writeString t).length⟩ :: read)
        ⟨r, m.right (Json.writeString t).length⟩) :=
  (scanToken_quote rfl).trans
    (scanQuoted_eq (saveKey_withinBraces _) (readQuoted_writeString ht r m))

/-- The first letters of the words for null and the truth values. -/
def BeginsWord (x : Char) : Prop := x = 'n' ∨ x = 't' ∨ x = 'f'

instance (x : Char) : Decidable (BeginsWord x) := inferInstanceAs (Decidable (_ ∨ _ ∨ _))

theorem scanToken_word {x y : Char} (hx : BeginsWord x)
    (ht : ∀ c ∈ x :: t, Text.isLetter c = true) (hy : isFlowMark y = true) :
    (withinBraces k false none read ⟨x :: t ++ y :: r, m⟩).scanToken =
      .ok (withinBraces k false none
        (⟨.scalar true (x :: t), m, m.right (x :: t).length⟩ :: read)
        ⟨y :: r, m.right (x :: t).length⟩) := by
  have hs : (withinBraces k false none read ⟨x :: t ++ y :: r, m⟩).scanToken =
      (withinBraces k false none read ⟨x :: t ++ y :: r, m⟩).scanPlain := by
    rcases hx with rfl | rfl | rfl <;>
      simp [scanToken, withinBraces, Cursor.atMarker, startsPlain, isBlank, isBreak, isIndicator]
  have hp := readPlain_letters ht hy (-1) r m
  rw [hs, scanPlain, saveKey_of_not_keyAllowed rfl]
  change (readPlain true (-1) ⟨x :: t ++ y :: r, m⟩ >>= _) = _
  rw [hp]
  rfl

/-! ## Tokens in a row -/

theorem rounds_withinBraces {k' ks ks' : Option KeyStart} {a' : Bool} {read' : List Token}
    {c c' : Cursor} (hk : IsFree k) (hks : IsFree ks) (ha : AtToken c.rest)
    (hs : (withinBraces (fresh c.mark k) a (fresh c.mark ks) read c).scanToken =
      .ok (withinBraces k' a' ks' read' c'))
    (hk' : IsFree k') (hks' : IsFree ks') (hl : c'.rest.length < c.rest.length) :
    Rounds (withinBraces k a ks read c)
      (withinBraces (fresh c'.mark k') a' (fresh c'.mark ks') read' c') :=
  (calm_withinBraces hk hks c).rounds ha hs (calm_withinBraces hk' hks' c') rfl hl

end

/-- Within braces the scanner comes from one place to another over tokens of these kinds. At each
of the places a key may begin or not, and no key is under way. -/
def Scans (a : Bool) (t : Text) (kinds : List TokenKind) (a' : Bool) (t' : Text) : Prop :=
  ∀ k read m, IsFree k → ∃ k', ∃ toks : List Token, ∃ m', IsFree k' ∧ toks.map (·.kind) = kinds ∧
    Rounds (withinBraces k a none read ⟨t, m⟩)
      (withinBraces k' a' none (toks.reverse ++ read) ⟨t', m'⟩)

theorem Scans.refl (a : Bool) (t : Text) : Scans a t [] a t :=
  fun k _ m hk => ⟨k, [], m, hk, rfl, .refl _⟩

theorem Scans.trans {a a' a'' : Bool} {t t' t'' : Text} {kinds kinds' : List TokenKind}
    (h : Scans a t kinds a' t') (h' : Scans a' t' kinds' a'' t'') :
    Scans a t (kinds ++ kinds') a'' t'' := by
  intro k read m hk
  obtain ⟨k₁, toks, m₁, hk₁, rfl, hr⟩ := h k read m hk
  obtain ⟨k₂, toks', m₂, hk₂, rfl, hr'⟩ := h' k₁ (toks.reverse ++ read) m₁ hk₁
  refine ⟨k₂, toks ++ toks', m₂, hk₂, List.map_append, ?_⟩
  rw [List.reverse_append, List.append_assoc]
  exact hr.trans hr'

/-- One token, in whatever place it is scanned. -/
theorem Scans.token {a a' : Bool} {t t' : Text} {kind : TokenKind} (ha : AtToken t)
    (hl : t'.length < t.length) (h : ∀ k read m, ∃ start stop m',
      (withinBraces k a none read ⟨t, m⟩).scanToken =
        .ok (withinBraces k a' none (⟨kind, start, stop⟩ :: read) ⟨t', m'⟩)) :
    Scans a t [kind] a' t' := by
  intro k read m hk
  obtain ⟨start, stop, m', hs⟩ := h (fresh m k) read m
  exact ⟨_, [⟨kind, start, stop⟩], m', (hk.fresh m).fresh m', rfl,
    rounds_withinBraces hk .none ha hs (hk.fresh m) .none hl⟩

section

variable {t : Text}

theorem scans_comma (a : Bool) (r : Text) : Scans a (',' :: r) [.flowEntry] true r :=
  .token (atToken_cons (by decide) r) (Nat.lt_succ_self _) fun _ _ _ => ⟨_, _, _, scanToken_comma⟩

theorem length_lt_writeString (t r : Text) : r.length < (Json.writeString t ++ r).length := by
  rw [Json.writeString, List.cons_append, List.length_cons, List.length_append]
  omega

theorem scans_string (ht : Printable t) (r : Text) :
    Scans false (Json.writeString t ++ r) [.scalar false t] false r :=
  .token (atToken_cons (by decide) _) (length_lt_writeString t r)
    fun _ _ _ => ⟨_, _, _, scanToken_string ht⟩

theorem scans_word {x y : Char} (hx : BeginsWord x) (ht : ∀ c ∈ x :: t, Text.isLetter c = true)
    (hy : isFlowMark y = true) (r : Text) :
    Scans false (x :: t ++ y :: r) [.scalar true (x :: t)] false (y :: r) := by
  have hb : BeginsToken x := by rcases hx with rfl | rfl | rfl <;> decide
  have hl : (y :: r).length < (x :: t ++ y :: r).length := by
    rw [List.length_append]
    exact Nat.lt_add_of_pos_left (Nat.succ_pos _)
  exact .token (atToken_cons hb _) hl fun _ _ _ => ⟨_, _, _, scanToken_word hx ht hy⟩

/-- A key of five hundred characters is not stale behind its closing quotation mark, even if each
of them is escaped. -/
theorem fresh_name (ht : Printable t) (hl : t.length ≤ 500) (position : Nat) (m : Mark) :
    fresh (m.right (Json.writeString t).length) (some ⟨position, m, false⟩) =
      some ⟨position, m, false⟩ := by
  have hw := Json.length_writeString_le ht
  have hi : ¬ m.index + 1024 < m.index + (Json.writeString t).length := by omega
  simp [fresh, isStale, Mark.right, Option.filter, hi]

/-- A name with its colon. The token for the key is put in front of it when the colon is met. -/
theorem scans_name (ht : Printable t) (hl : t.length ≤ 500) (r : Text) :
    Scans true (Json.writeString t ++ ':' :: r) [.key, .scalar false t, .value] false r := by
  intro k read m hk
  let m' := m.right (Json.writeString t).length
  let start : KeyStart := ⟨read.length, m, false⟩
  let name : Token := ⟨.scalar false t, m, m'⟩
  have hfree : IsFree (some start) := .some rfl
  have hfresh : fresh m' (some start) = some start := fresh_name ht hl read.length m
  have hk' : IsFree (fresh m' (fresh m k)) := (hk.fresh m).fresh m'
  have hname : Rounds (withinBraces k true none read ⟨Json.writeString t ++ ':' :: r, m⟩)
      (withinBraces (fresh m' (fresh m k)) false (fresh m' (some start)) (name :: read)
        ⟨':' :: r, m'⟩) :=
    rounds_withinBraces hk .none (atToken_cons (by decide) _) (scanToken_name ht) (hk.fresh m) hfree
      (length_lt_writeString t _)
  rw [hfresh] at hname
  have hcolon : Rounds (withinBraces (fresh m' (fresh m k)) false (some start) (name :: read)
        ⟨':' :: r, m'⟩)
      (withinBraces (fresh (m'.right 1) (fresh m' (fresh m' (fresh m k)))) false none
        (⟨.value, m', m'.right 1⟩ :: name :: ⟨.key, m, m⟩ :: read) ⟨r, m'.right 1⟩) := by
    refine rounds_withinBraces hk' hfree (atToken_cons (by decide) r) ?_ (hk'.fresh m') .none
      (Nat.lt_succ_self _)
    rw [hfresh]
    exact scanToken_colon rfl name
  exact ⟨_, [⟨.key, m, m⟩, name, ⟨.value, m', m'.right 1⟩], m'.right 1,
    (hk'.fresh m').fresh (m'.right 1), rfl, hname.trans hcolon⟩

end

/-! ## Members -/

/-- The token of a JSON scalar: strings are quoted, and the words are plain. -/
def scalarKind : Json.Value → TokenKind
  | .string t => .scalar false t
  | v => .scalar true v.compact

/-- A word, or a string of printable characters. -/
inductive IsLineScalar : Json.Value → Prop where
  | null : IsLineScalar .null
  | bool (b : Bool) : IsLineScalar (.bool b)
  | string {t : Text} : Printable t → IsLineScalar (.string t)

theorem IsLineScalar.printable_compact {v : Json.Value} (h : IsLineScalar v) :
    Printable v.compact := by
  cases h with
  | null => decide
  | bool b => cases b <;> decide
  | string ht =>
    rw [Json.Value.compact]
    exact Json.printable_writeString ht

/-- A member whose name can be a key. -/
def IsLineMember (e : Text × Json.Value) : Prop :=
  Printable e.1 ∧ e.1.length ≤ 500 ∧ IsLineScalar e.2

/-- The tokens of members, of which each but the `first` stands behind a comma. -/
def memberKinds : (first : Bool) → List (Text × Json.Value) → List TokenKind
  | _, [] => []
  | first, (key, v) :: rest =>
    (if first then [] else [.flowEntry]) ++
      .key :: .scalar false key :: .value :: scalarKind v :: memberKinds false rest

theorem scans_scalar {v : Json.Value} (hv : IsLineScalar v) {y : Char} (hy : isFlowMark y = true)
    (r : Text) : Scans false (v.compact ++ y :: r) [scalarKind v] false (y :: r) := by
  cases hv with
  | null =>
    exact scans_word (x := 'n') (t := ['u', 'l', 'l']) (by decide) (List.all_eq_true.1 rfl) hy r
  | bool b =>
    cases b with
    | true =>
      exact scans_word (x := 't') (t := ['r', 'u', 'e']) (by decide) (List.all_eq_true.1 rfl) hy r
    | false =>
      exact scans_word (x := 'f') (t := ['a', 'l', 's', 'e']) (by decide) (List.all_eq_true.1 rfl)
        hy r
  | @string t ht =>
    rw [Json.Value.compact]
    exact scans_string ht (y :: r)

/-- A member is followed by the comma in front of the next one or by the closing brace. -/
theorem exists_flowMark (ms : List (Text × Json.Value)) (r : Text) : ∃ y r',
    Json.memberTexts false ms ++ '}' :: r = y :: r' ∧ isFlowMark y = true := by
  cases ms with
  | nil => exact ⟨'}', r, rfl, rfl⟩
  | cons e ms => exact ⟨',', _, rfl, rfl⟩

theorem scans_members {ms : List (Text × Json.Value)} (h : ∀ e ∈ ms, IsLineMember e)
    (first : Bool) (r : Text) :
    ∃ a, Scans first (Json.memberTexts first ms ++ '}' :: r) (memberKinds first ms) a
      ('}' :: r) := by
  induction ms generalizing first with
  | nil => exact ⟨first, .refl first _⟩
  | cons e ms ih =>
    obtain ⟨key, v⟩ := e
    obtain ⟨⟨hk, hl, hv⟩, hms⟩ := List.forall_mem_cons.1 h
    obtain ⟨a, hrest⟩ := ih hms false
    obtain ⟨y, r', he, hy⟩ := exists_flowMark ms r
    rw [he] at hrest
    have hvalue := (scans_scalar hv hy r').trans hrest
    have hmember := (scans_name hk hl (v.compact ++ y :: r')).trans hvalue
    refine ⟨a, ?_⟩
    cases first with
    | true => simpa [Json.memberTexts, memberKinds, he] using hmember
    | false => simpa [Json.memberTexts, memberKinds, he] using (scans_comma false _).trans hmember

end Scanner

/-! ## The object -/

open Scanner

/-- A printable character may stand in a YAML text. -/
theorem isAllowed_of_isPrintable {c : Char} (h : Text.IsPrintable c) : isAllowed c = true := by
  simp [isAllowed, h.1, h.2]

section

variable {ms : List (Text × Json.Value)} (h : ∀ e ∈ ms, IsLineMember e)

include h

theorem rounds_object : ∃ k, ∃ toks : List Token, ∃ m, IsFree k ∧
    toks.map (·.kind) = .flowMappingStart :: (memberKinds true ms ++ [.flowMappingEnd]) ∧
    Rounds (.start (Json.Value.object ms).compact) (behindBraces k toks.reverse ⟨[], m⟩) := by
  let first : Token := ⟨.flowMappingStart, .start, Mark.start.right 1⟩
  let key : Option KeyStart := some ⟨0, .start, false⟩
  have hkey : IsFree key := .some rfl
  have hstart : (Scanner.start (Json.Value.object ms).compact).Calm :=
    ⟨rfl, .none, List.forall_mem_nil _⟩
  have hopen : Rounds (.start (Json.Value.object ms).compact)
      (withinBraces (fresh (Mark.start.right 1) key) true none [first]
        ⟨Json.memberTexts true ms ++ ['}'], Mark.start.right 1⟩) := by
    rw [Json.compact_object] at hstart ⊢
    exact hstart.rounds (atToken_cons (by decide) _) scanToken_open
      (calm_withinBraces hkey .none _) rfl (Nat.lt_succ_self _)
  obtain ⟨a, hmembers⟩ := scans_members h true []
  obtain ⟨k, toks, m, hk, hkinds, hr⟩ := hmembers _ [first] (Mark.start.right 1) (hkey.fresh _)
  let last : Token := ⟨.flowMappingEnd, m, m.right 1⟩
  have hclose : Rounds (withinBraces k a none (toks.reverse ++ [first]) ⟨['}'], m⟩)
      (behindBraces (fresh (m.right 1) (fresh m k)) (last :: (toks.reverse ++ [first]))
        ⟨[], m.right 1⟩) :=
    (calm_withinBraces hk .none ⟨['}'], m⟩).rounds (atToken_cons (by decide) []) scanToken_close
      (calm_behindBraces (hk.fresh m) _) rfl Nat.zero_lt_one
  refine ⟨_, first :: (toks ++ [last]), m.right 1, (hk.fresh m).fresh (m.right 1), ?_, ?_⟩
  · rw [List.map_cons, List.map_append, hkinds]
    rfl
  · have hread : (first :: (toks ++ [last])).reverse = last :: (toks.reverse ++ [first]) := by simp
    rw [hread]
    exact (hopen.trans hr).trans hclose

theorem printable_memberTexts (first : Bool) : Printable (Json.memberTexts first ms) := by
  induction ms generalizing first with
  | nil => exact List.forall_mem_nil _
  | cons e ms ih =>
    obtain ⟨key, v⟩ := e
    obtain ⟨⟨hk, -, hv⟩, hms⟩ := List.forall_mem_cons.1 h
    have hc : Printable (if first then [] else [',']) := by cases first <;> decide
    have hv := List.forall_mem_append.2 ⟨hv.printable_compact, ih hms false⟩
    have hm := List.forall_mem_cons.2 ⟨(by decide : Text.IsPrintable ':'), hv⟩
    exact List.forall_mem_append.2
      ⟨hc, List.forall_mem_append.2 ⟨Json.printable_writeString hk, hm⟩⟩

theorem printable_object : Printable (Json.Value.object ms).compact := by
  rw [Json.compact_object]
  have hopen : Text.IsPrintable '{' := by decide
  have hclose : Printable ['}'] := by decide
  exact List.forall_mem_cons.2
    ⟨hopen, List.forall_mem_append.2 ⟨printable_memberTexts h true, hclose⟩⟩

/-- The tokens of an object are those of its members within those of its braces. -/
theorem ofText_object : ∃ toks : List Token,
    Tokens.ofText (Json.Value.object ms).compact = ⟨toks, none⟩ ∧
    toks.map (·.kind) =
      .flowMappingStart :: (memberKinds true ms ++ [.flowMappingEnd, .streamEnd]) := by
  obtain ⟨k, toks, m, hk, hkinds, hr⟩ := rounds_object h
  obtain ⟨m', hscan⟩ : ∃ m', Tokens.scan ((Json.Value.object ms).compact.length + 2) 0
      (.start (Json.Value.object ms).compact) =
        ⟨toks.reverse.reverse ++ [⟨.streamEnd, m', m'⟩], none⟩ :=
    Tokens.scan_of_rounds hr (calm_behindBraces hk _) rfl (Nat.lt_add_of_pos_right Nat.two_pos) 0
  rw [List.reverse_reverse] at hscan
  have hallowed : (Json.Value.object ms).compact.takeWhile isAllowed =
      (Json.Value.object ms).compact :=
    List.takeWhile_eq_self_iff.2 fun c hc => isAllowed_of_isPrintable (printable_object h c hc)
  refine ⟨toks ++ [⟨.streamEnd, m', m'⟩], ?_, ?_⟩
  · rw [Tokens.ofText, hallowed, if_neg (Nat.lt_irrefl _)]
    exact hscan
  · rw [List.map_append, hkinds]
    simp

end

end Termkit.Yaml
