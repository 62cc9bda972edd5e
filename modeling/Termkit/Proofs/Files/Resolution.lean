import Mathlib.Data.List.Basic
import Termkit.Files.Disk
import Termkit.Proofs.Files.Places

/-!
# Where paths lead on a disk

A path is resolved in turns. A turn takes one segment: it goes down to an entry, up, or puts the
segments of a link's target in front of the rest. `Leads` is a row of turns to the last segment;
what a walk finds is where the segments lead (`leads_of_walk`), and its fuel does for all the turns
that its links allow (`resolve_eq_walk`). One turn is possible at each place (`Turn.unique`), and it
takes no notice of the segments behind the first (`Turn.split`), so that segments lead to one place,
by way of the places that their front parts lead to. Hence what is examined as a directory in a
listed directory is listed as the place one name below (`resolve_join`).
-/

namespace Termkit.Files

namespace Disk

/-! ## Turns -/

/-- The directory at the place has an entry, which no dots name. -/
structure HasEntry (d : Disk) (p : Place) (name : Text) (n : Node) : Prop where
  directory : d.node? p = some .directory
  ne_dot : name ≠ ['.']
  ne_dots : name ≠ ['.', '.']
  node : d.node? (p ++ [name]) = some n

/-- The first of some segments is taken at a place, and leaves another place and segments. -/
inductive Turn (d : Disk) (follow : Bool) : Place → List Text → Place → List Text → Prop where
  | dot {p : Place} {rest : List Text} : d.node? p = some .directory →
      Turn d follow p (['.'] :: rest) p rest
  | up {p : Place} {rest : List Text} : d.node? p = some .directory →
      Turn d follow p (['.', '.'] :: rest) p.dropLast rest
  | link {p : Place} {name : Text} {target : Path} {rest : List Text} :
      d.HasEntry p name (.link target) → (rest = [] → follow = true) →
      Turn d follow p (name :: rest) (if target.isAbsolute then [] else p) (steps target ++ rest)
  | last {p : Place} {name : Text} {target : Path} : d.HasEntry p name (.link target) →
      follow = false → Turn d follow p [name] (p ++ [name]) []
  | enter {p : Place} {name : Text} {n : Node} {rest : List Text} : d.HasEntry p name n →
      (∀ target, n ≠ .link target) → Turn d follow p (name :: rest) (p ++ [name]) rest

/-- The segments lead from one place to the other. -/
inductive Leads (d : Disk) (follow : Bool) : Place → List Text → Place → Prop where
  | here {p : Place} : Leads d follow p [] p
  | turn {p p' q : Place} {segments segments' : List Text} :
      Turn d follow p segments p' segments' → Leads d follow p' segments' q →
      Leads d follow p segments q

variable {d : Disk} {follow : Bool} {p p' q q' : Place} {name : Text}

theorem HasEntry.unique {n n' : Node} (h : d.HasEntry p name n) (h' : d.HasEntry p name n') :
    n = n' := Option.some.inj (h.node.symm.trans h'.node)

theorem Turn.unique {xs ys ys' : List Text} (h : d.Turn follow p xs q ys)
    (h' : d.Turn follow p xs q' ys') : q = q' ∧ ys = ys' := by
  cases h with
  | dot _ =>
    cases h' with
    | dot _ => exact ⟨rfl, rfl⟩
    | link he _ | last he _ | enter he _ => exact absurd rfl he.ne_dot
  | up _ =>
    cases h' with
    | up _ => exact ⟨rfl, rfl⟩
    | link he _ | last he _ | enter he _ => exact absurd rfl he.ne_dots
  | link he hfollow =>
    cases h' with
    | dot _ => exact absurd rfl he.ne_dot
    | up _ => exact absurd rfl he.ne_dots
    | link he' _ =>
      cases he.unique he'
      exact ⟨rfl, rfl⟩
    | last _ hno => rw [hfollow rfl] at hno; cases hno
    | enter he' hn => exact absurd (he'.unique he) (hn _)
  | last he hno =>
    cases h' with
    | dot _ => exact absurd rfl he.ne_dot
    | up _ => exact absurd rfl he.ne_dots
    | link _ hfollow => rw [hfollow rfl] at hno; cases hno
    | last _ _ => exact ⟨rfl, rfl⟩
    | enter he' hn => exact absurd (he'.unique he) (hn _)
  | enter he hn =>
    cases h' with
    | dot _ => exact absurd rfl he.ne_dot
    | up _ => exact absurd rfl he.ne_dots
    | link he' _ | last he' _ => exact absurd (he.unique he') (hn _)
    | enter _ _ => exact ⟨rfl, rfl⟩

/-- A turn with more segments behind it is one without them, which follows a link. -/
theorem Turn.split {x : Text} {xs ys zs : List Text} (h : d.Turn follow p (x :: xs ++ ys) q zs)
    (hy : ys ≠ []) : ∃ xs', zs = xs' ++ ys ∧ d.Turn true p (x :: xs) q xs' := by
  generalize hall : x :: xs ++ ys = all at h
  cases h with
  | dot hd =>
    obtain ⟨rfl, rfl⟩ := List.cons.inj hall
    exact ⟨xs, rfl, .dot hd⟩
  | up hd =>
    obtain ⟨rfl, rfl⟩ := List.cons.inj hall
    exact ⟨xs, rfl, .up hd⟩
  | link he _ =>
    obtain ⟨rfl, rfl⟩ := List.cons.inj hall
    exact ⟨_, (List.append_assoc ..).symm, .link he fun _ => rfl⟩
  | last _ _ => exact absurd (List.append_eq_nil_iff.1 (List.cons.inj hall).2).2 hy
  | enter he hn =>
    obtain ⟨rfl, rfl⟩ := List.cons.inj hall
    exact ⟨xs, rfl, .enter he hn⟩

/-! ## Rows of turns -/

theorem Leads.unique {xs : List Text} (h : d.Leads follow p xs q) (h' : d.Leads follow p xs q') :
    q = q' := by
  induction h with
  | here =>
    cases h' with
    | here => rfl
    | turn ht _ => cases ht
  | turn ht _ ih =>
    cases h' with
    | here => cases ht
    | turn ht' h' =>
      obtain ⟨rfl, rfl⟩ := ht.unique ht'
      exact ih h'

/-- Segments lead by the place that those in front lead to. -/
theorem Leads.split {xs ys : List Text} (h : d.Leads follow p (xs ++ ys) q) (hy : ys ≠ []) :
    ∃ m, d.Leads true p xs m ∧ d.Leads follow m ys q := by
  generalize hall : xs ++ ys = all at h
  induction h generalizing xs with
  | here => exact absurd (List.append_eq_nil_iff.1 hall).2 hy
  | @turn p p' q _ _ ht h ih =>
    subst hall
    cases xs with
    | nil => exact ⟨p, .here, .turn ht h⟩
    | cons x xs =>
      obtain ⟨xs', rfl, ht'⟩ := ht.split hy
      obtain ⟨m, hm, hq⟩ := ih rfl
      exact ⟨m, .turn ht' hm, hq⟩

/-- A name that no dots are leads down to an entry of a directory, where links are not followed. -/
theorem Leads.exists_entry (h : d.Leads false p [name] q) (hname : OrdinaryName name) :
    ∃ n, d.HasEntry p name n ∧ q = p ++ [name] := by
  obtain ⟨-, -, hdot, hdots⟩ := hname
  cases h with
  | turn ht h =>
    cases ht with
    | dot _ => exact absurd rfl hdot
    | up _ => exact absurd rfl hdots
    | link _ hfollow => exact nomatch hfollow rfl
    | last he _ | enter he _ =>
      obtain rfl := h.unique .here
      exact ⟨_, he, rfl⟩

/-- The name of an entry that is no link leads down to it. -/
theorem HasEntry.leads_eq {n : Node} (he : d.HasEntry p name n) (hn : ∀ target, n ≠ .link target)
    (h : d.Leads follow p [name] q) : q = p ++ [name] :=
  h.unique (.turn (.enter he hn) .here)

/-! ## Walks -/

theorem leads_of_walk {fuel links : Nat} {xs : List Text}
    (h : d.walk follow fuel links p xs = .ok q) : d.Leads follow p xs q := by
  fun_induction d.walk follow fuel links p xs with
  | case1 | case5 | case7 | case10 | case11 => cases h
  | case2 =>
    cases h
    exact .here
  | case3 _ _ _ _ hd ih => exact .turn (.dot hd) (ih h)
  | case4 _ _ _ _ hd _ ih => exact .turn (.up hd) (ih h)
  | case6 _ _ p name rest hd hdot hdots next target hn hlast =>
    obtain ⟨rfl, hfollow⟩ := hlast
    rw [← Except.ok.inj h]
    exact .turn (.last ⟨hd, hdot, hdots, hn⟩ (by simpa using hfollow)) .here
  | case8 _ _ p name rest hd hdot hdots next target hn hlast _ base ih =>
    refine .turn (.link ⟨hd, hdot, hdots, hn⟩ fun hrest => ?_) (ih h)
    simpa [hrest] using hlast
  | case9 _ _ p name rest hd hdot hdots next n hlink hn ih =>
    exact .turn (.enter ⟨hd, hdot, hdots, hn⟩ hlink) (ih h)

theorem leads_of_resolve {path : Path} (h : d.resolve follow path = .ok q) :
    path.raw ≠ [] ∧ d.Leads follow [] (steps path) q := by
  unfold resolve at h
  split at h
  · cases h
  · next hp => exact ⟨hp, leads_of_walk h⟩

/-! ## Fuel -/

theorem length_segments_le (t : Text) :
    ((Path.segments t).filter (· ≠ [])).length ≤ t.length := by
  induction t with
  | nil => exact Nat.le_refl _
  | cons c t ih =>
    by_cases hc : c = '/'
    · subst hc
      rw [Path.segments, List.filter_cons_of_neg (by simp)]
      exact Nat.le_succ_of_le ih
    · obtain ⟨s, rest, hs⟩ := List.exists_cons_of_ne_nil (Path.segments_ne_nil t)
      rw [Path.segments_cons hc hs, List.filter_cons_of_pos (by simp), List.length_cons,
        List.length_cons]
      have htail : (rest.filter (· ≠ [])).length ≤ ((s :: rest).filter (· ≠ [])).length :=
        ((List.sublist_cons_self s rest).filter _).length_le
      rw [hs] at ih
      omega

theorem length_steps_le (path : Path) : (steps path).length ≤ path.raw.length := by
  unfold steps
  by_cases hslash : path.raw.getLast? = some '/'
  · obtain ⟨s, hs⟩ := List.getLast?_eq_some_iff.1 hslash
    have := length_segments_le s
    rw [if_pos hslash, hs, Path.segments_append_slash]
    simpa [Path.segments] using this
  · rw [if_neg hslash, List.append_nil]
    exact length_segments_le path.raw

theorem mem_of_node? {n : Node} (hp : p ≠ []) (h : d.node? p = some n) : (p, n) ∈ d.nodes := by
  unfold node? at h
  rw [if_neg hp] at h
  obtain ⟨front, rest, e, -⟩ := List.lookup_eq_some_iff.1 h
  rw [e]
  exact List.mem_append_right _ List.mem_cons_self

theorem targetLength_le {n : Node} (h : (p, n) ∈ d.nodes) : n.targetLength ≤ d.longestTarget :=
  List.le_max?_getD_of_mem (List.mem_map_of_mem h)

/-- The turns that are left at most: one for each segment, and for each link that may still be
followed one for each segment of its target. -/
def turnsLeft (d : Disk) (links : Nat) (xs : List Text) : Nat :=
  xs.length + (maxLinks - links) * (d.longestTarget + 1)

theorem turnsLeft_cons (d : Disk) (links : Nat) (name : Text) (rest : List Text) :
    d.turnsLeft links (name :: rest) = d.turnsLeft links rest + 1 := by
  unfold turnsLeft
  rw [List.length_cons]
  omega

/-- A link that is followed takes more turns than its target's segments. -/
theorem turnsLeft_link {links : Nat} {target : Path} {rest : List Text}
    (hn : d.node? (p ++ [name]) = some (.link target)) (hlinks : ¬ maxLinks ≤ links) :
    d.turnsLeft (links + 1) (steps target ++ rest) < d.turnsLeft links (name :: rest) := by
  have htarget : (steps target).length ≤ d.longestTarget :=
    Nat.le_trans (length_steps_le target) (targetLength_le (mem_of_node? (by simp) hn))
  obtain ⟨more, hmore⟩ : ∃ more, maxLinks - links = more + 1 := ⟨maxLinks - links - 1, by omega⟩
  have hmore' : maxLinks - (links + 1) = more := by omega
  unfold turnsLeft
  rw [hmore, hmore', Nat.succ_mul, List.length_append, List.length_cons]
  omega

/-- A walk goes on alike where what is left of it, with fewer turns, does. -/
theorem walk_succ_congr {fuel fuel' links : Nat} {xs : List Text}
    (h : ∀ more p ys, d.turnsLeft more ys < d.turnsLeft links xs →
      d.walk follow fuel more p ys = d.walk follow fuel' more p ys) :
    d.walk follow (fuel + 1) links p xs = d.walk follow (fuel' + 1) links p xs := by
  have hrest (name : Text) (rest : List Text) :
      d.turnsLeft links rest < d.turnsLeft links (name :: rest) :=
    turnsLeft_cons d links name rest ▸ Nat.lt_succ_self _
  generalize hfuel : fuel + 1 = f
  fun_cases d.walk follow f links p xs with
  | case1 => cases hfuel
  | case2 => rfl
  | case3 f _ _ rest hd =>
    cases hfuel
    simp only [walk, hd, if_true]
    exact h links p rest (hrest _ rest)
  | case4 f _ _ rest hd hdot =>
    cases hfuel
    simp only [walk, hd, if_neg hdot, if_true]
    exact h links p.dropLast rest (hrest _ rest)
  | case5 f _ _ name rest hd hdot hdots next hn =>
    simp only [walk, hd, if_neg hdot, if_neg hdots, next, hn]
  | case6 f _ _ name rest hd hdot hdots next target hn hlast =>
    simp only [walk, hd, if_neg hdot, if_neg hdots, next, hn, if_pos hlast]
  | case7 f _ _ name rest hd hdot hdots next target hn hlast hlinks =>
    simp only [walk, hd, if_neg hdot, if_neg hdots, next, hn, if_neg hlast, if_pos hlinks]
  | case8 f _ _ name rest hd hdot hdots next target hn hlast hlinks base =>
    cases hfuel
    simp only [walk, hd, if_neg hdot, if_neg hdots, next, hn, if_neg hlast, if_neg hlinks]
    exact h (links + 1) base _ (turnsLeft_link hn hlinks)
  | case9 f _ _ name rest hd hdot hdots next n hlink hn =>
    cases hfuel
    simp only [walk, hd, if_neg hdot, if_neg hdots, next, hn]
    exact h links next rest (hrest name rest)
  | case10 f _ _ name rest n hfile hn => simp only [walk, hn]
  | case11 f _ _ name rest hn => simp only [walk, hn]

/-- With as much fuel as turns are left, more of it changes nothing. -/
theorem walk_fuel {fuel fuel' links : Nat} {xs : List Text} (h : d.turnsLeft links xs < fuel)
    (h' : d.turnsLeft links xs < fuel') :
    d.walk follow fuel links p xs = d.walk follow fuel' links p xs := by
  induction fuel generalizing fuel' links p xs with
  | zero => exact absurd h (Nat.not_lt_zero _)
  | succ fuel ih =>
    obtain ⟨fuel', rfl⟩ : ∃ f, fuel' = f + 1 := ⟨fuel' - 1, by omega⟩
    exact walk_succ_congr fun more p ys hlt => ih (by omega) (by omega)

/-- From the reach of a path on, any fuel resolves it alike. -/
theorem resolve_eq_walk {path : Path} {fuel : Nat} (hp : path.raw ≠ []) (h : d.reach path ≤ fuel) :
    d.resolve follow path = d.walk follow fuel 0 [] (steps path) := by
  have hturns : d.turnsLeft 0 (steps path) < d.reach path := by
    have := length_steps_le path
    unfold turnsLeft reach
    rw [Nat.sub_zero]
    omega
  unfold resolve
  rw [if_neg hp]
  exact walk_fuel hturns (by omega)

/-! ## Joining a name -/

theorem steps_slash (s : Text) (hname : OrdinaryName name) :
    steps ⟨s ++ '/' :: name⟩ = (Path.segments s).filter (· ≠ []) ++ [name] := by
  have hlast : (s ++ '/' :: name).getLast? ≠ some '/' := by
    rw [List.append_cons, List.getLast?_append_of_ne_nil _ hname.1]
    exact fun e => hname.2.1 (List.mem_of_getLast? e)
  unfold steps
  rw [Path.segments_append_slash, hname.segments_eq, List.filter_append, if_neg hlast,
    List.append_nil]
  simp [hname.1]

/-- A name is one more segment, in place of the dot that a slash at the end of the path is. -/
theorem steps_join {path : Path} (hp : path.raw ≠ []) (hname : OrdinaryName name) :
    ∃ front, (steps path = front ∨ steps path = front ++ [['.']]) ∧
      steps (path.join name) = front ++ [name] := by
  unfold Path.join
  rw [if_neg hname.head?_ne]
  by_cases hslash : path.raw.getLast? = some '/'
  · obtain ⟨s, hs⟩ := List.getLast?_eq_some_iff.1 hslash
    refine ⟨(Path.segments s).filter (· ≠ []), .inr ?_, ?_⟩
    · unfold steps
      rw [if_pos hslash, hs, Path.segments_append_slash]
      simp [Path.segments]
    · rw [if_pos (.inr hslash), hs, List.append_assoc]
      exact steps_slash s hname
  · refine ⟨(Path.segments path.raw).filter (· ≠ []), .inl ?_, ?_⟩
    · unfold steps
      rw [if_neg hslash, List.append_nil]
    · rw [if_neg (not_or.2 ⟨hp, hslash⟩)]
      exact steps_slash path.raw hname

/-- What a path with a name joined to it leads to is what the name leads to from the place of the
path. -/
theorem Leads.of_join {path : Path} (hp : path.raw ≠ []) (hname : OrdinaryName name)
    (h : d.Leads true [] (steps path) p) (h' : d.Leads follow [] (steps (path.join name)) q) :
    d.Leads follow p [name] q := by
  obtain ⟨front, hpath, hjoin⟩ := steps_join hp hname
  have hfront : d.Leads true [] front p := by
    rcases hpath with e | e
    · rwa [e] at h
    · rw [e] at h
      obtain ⟨m, hm, hdot⟩ := h.split (List.cons_ne_nil _ _)
      cases hdot with
      | turn ht hdot =>
        cases ht with
        | dot _ =>
          obtain rfl := hdot.unique .here
          exact hm
        | link he _ | last he _ | enter he _ => exact absurd rfl he.ne_dot
  rw [hjoin] at h'
  obtain ⟨m, hm, hq⟩ := h'.split (List.cons_ne_nil _ _)
  obtain rfl := hm.unique hfront
  exact hq

/-- What is examined in a listed directory and is a directory itself is listed one name below. -/
theorem resolve_join {path : Path} (hname : OrdinaryName name) (hp : d.resolve true path = .ok p)
    (hq : d.resolve false (path.join name) = .ok q) (hd : d.node? q = some .directory)
    (hq' : d.resolve true (path.join name) = .ok q') : q' = p ++ [name] := by
  obtain ⟨hne, hleads⟩ := leads_of_resolve hp
  have hjoin := Leads.of_join hne hname hleads (leads_of_resolve hq).2
  have hjoin' := Leads.of_join hne hname hleads (leads_of_resolve hq').2
  obtain ⟨n, he, rfl⟩ := hjoin.exists_entry hname
  obtain rfl : n = .directory := Option.some.inj (he.node.symm.trans hd)
  exact he.leads_eq nofun hjoin'

end Disk

end Termkit.Files
