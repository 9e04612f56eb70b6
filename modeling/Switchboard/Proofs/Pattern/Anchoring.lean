import Switchboard.Proofs.Pattern.Pieces
/-!
# Patterns that are written for whole texts

A pattern is written into a group, between the places where a text starts and ends. Either the group
holds just what the pattern says, or the group is not closed at all: the pattern ends in a note,
which takes in what is behind it (`readWhole_anchored`).
-/

namespace Switchboard

namespace Pattern

open Reading

variable {text : List Char} {node : Node} {i i' : Input} {e : Fault}

/-! ## Whole patterns -/

/-- Nothing has been read. -/
def Progress.empty : Progress := ⟨.opened .start, [], 0, []⟩

/-- The whole of a text, in front of which nothing has been read. -/
def Input.ofText (text : List Char) : Input := ⟨text, .start, false⟩

/-- The pattern that has been read, unless a group is open. -/
def endWhole (p : Progress) : Reading Node := do
  match p.groups with
  | [] => return p.level.close (← here)
  | group :: _ => refuse .groupUnclosed group.parenthesis

theorem readWhole_run (i : Input) :
    readWhole i = (readFrom (i.rest.length + 1) .empty >>= endWhole) i := rfl

theorem readWhole_of_closed {p : Progress}
    (h : readFrom (i.rest.length + 1) .empty i = .ok (p, i')) (hp : p.groups = []) :
    readWhole i = .ok (p.level.close i'.place, i') := by
  rw [readWhole_run, run_bind_ok i h, endWhole, hp]
  rfl

theorem readWhole_of_open {p : Progress}
    (h : readFrom (i.rest.length + 1) .empty i = .ok (p, i')) (hp : p.groups ≠ []) :
    ∃ e, readWhole i = .error e := by
  rw [readWhole_run, run_bind_ok i h, endWhole]
  cases hgroups : p.groups with
  | nil => exact absurd hgroups hp
  | cons group groups => exact ⟨_, rfl⟩

theorem readWhole_of_error (h : readFrom (i.rest.length + 1) .empty i = .error e) :
    readWhole i = .error e := by
  rw [readWhole_run, run_bind_error i h]

theorem readWhole_of_leavesOpen {y : Except Fault (Progress × Input)}
    (h : readFrom (i.rest.length + 1) .empty i = y) (hy : LeavesOpen y) :
    ∃ e, readWhole i = .error e := by
  cases y with
  | error e => exact ⟨e, readWhole_of_error h⟩
  | ok r => exact readWhole_of_open h (hy r.1 r.2 rfl)

theorem of_readWhole (h : readWhole i = .ok (node, i')) :
    ∃ p, readFrom (i.rest.length + 1) .empty i = .ok (p, i') ∧ p.groups = [] ∧
      node = p.level.close i'.place := by
  cases hread : readFrom (i.rest.length + 1) .empty i with
  | error e =>
    rw [readWhole_of_error hread] at h
    cases h
  | ok r =>
    obtain ⟨p, i₁⟩ := r
    by_cases hp : p.groups = []
    · rw [readWhole_of_closed hread hp] at h
      cases h
      exact ⟨p, rfl, hp, rfl⟩
    · obtain ⟨e, he⟩ := readWhole_of_open hread hp
      rw [he] at h
      cases h

/-! ## What is around a pattern -/

/-- What is written in front of a pattern so that it matches from the start of a text. -/
def opening : List Char := ['\\', 'A', '(', '?', ':']

/-- The group around the pattern. -/
def aroundGroup (s t : Span) : OpenGroup :=
  ⟨s, .plain ⟨[], []⟩, false, ⟨.start, [], .start, [.anchor t .textStart]⟩⟩

theorem runs_opening (rest : List Char) :
    ∃ s t place, Runs .empty (.ofText (opening ++ rest))
      ⟨.opened place, [aroundGroup s t], 0, []⟩ ⟨rest, place, false⟩ := by
  refine ⟨_, _, _, .step (rfl : _ = '\\' :: 'A' :: '(' :: '?' :: ':' :: rest) rfl
    (.step (rfl : _ = '(' :: '?' :: ':' :: rest) rfl (.refl _ _))⟩

theorem over_opening (s t : Span) (place : Place) :
    Progress.empty.Over [aroundGroup s t] ⟨.opened place, [aroundGroup s t], 0, []⟩ :=
  ⟨.opened _ _, ⟨[], rfl, .nil⟩, rfl, rfl⟩

/-- Behind the pattern the group is closed, and the place where a text ends is asked for. -/
theorem runs_closing {s t : Span} {q : Progress} {j : Input} (h : j.skipBlanks.rest = closing)
    (hq : q.groups = [aroundGroup s t]) :
    ∃ u v place q' j', Runs q j q' j' ∧ j'.skipBlanks.rest = [] ∧ q'.groups = [] ∧
      q'.level = ⟨.start, [], .start, [.anchor v .textEnd,
        .group u (.plain ⟨[], []⟩) (q.level.close place), .anchor t .textStart]⟩ := by
  obtain ⟨u, j₁, hclose, hj₁⟩ := closeGroup_cons hq j.skipBlanks
  have hpiece := hclose
  rw [← readPiece_close] at hpiece
  generalize j.skipBlanks.place = place at hpiece
  obtain ⟨rest, place', spaced⟩ := j₁
  have hrest : rest = ['\\', 'z'] :=
    (congrArg Input.rest hj₁).trans ((Input.rest_next _).trans (congrArg List.tail h))
  have hspaced : spaced = false := (congrArg Input.spaced hj₁).trans (Input.spaced_next _)
  subst hrest hspaced
  exact ⟨u, _, place, _, _, .step h hpiece
    (.step (rfl : _ = '\\' :: ['z']) rfl (.refl _ _)), rfl, rfl, rfl⟩

/-! ## Patterns within -/

/-- The pattern is read with its group around it, between the places where a text starts and
ends. -/
def AnchoredAs (text : List Char) (node : Node) : Prop :=
  ∃ s t u v body i, readWhole (.ofText (opening ++ (text ++ closing))) =
      .ok (.sequence s [.anchor t .textStart, .group u (.plain ⟨[], []⟩) body,
        .anchor v .textEnd], i) ∧ node.Same body

/-- The pattern takes in what is written behind it. -/
def TakesInClosing (text : List Char) (node : Node) : Prop :=
  ∃ node' i, readWhole (.ofText (text ++ closing)) = .ok (node', i) ∧ node.Same node'

theorem joined_ofText (text : List Char) :
    Joined true (.ofText text) (.ofText (text ++ closing)) :=
  Joined.of_rest true text .start .start false

theorem over_empty : Progress.empty.Over [] Progress.empty :=
  ⟨.opened _ _, ⟨[], rfl, .nil⟩, rfl, rfl⟩

/-- The same is left to be read at another place. -/
theorem Joined.rest_eq (h : Joined false i i') : i'.rest = i.rest := by
  cases h with
  | inside c cs p q spaced => exact congrArg (c :: ·) (List.append_nil cs)
  | ended p q spaced => rfl
  | behind hclosed p q spaced => cases hclosed

theorem readWhole_of_runs {p : Progress} (h : Runs .empty i p i') (hend : i'.skipBlanks.rest = [])
    (hp : p.groups = []) :
    readWhole i = .ok (p.level.close i'.skipBlanks.place, i'.skipBlanks) := by
  obtain ⟨n, hn, hread⟩ := h.readFrom_eq (Nat.lt_succ_self _)
  obtain ⟨n, rfl⟩ : ∃ k, n = k + 1 := Nat.exists_eq_succ_of_ne_zero (by omega)
  exact readWhole_of_closed (hread.trans (readFrom_of_end hend)) hp

theorem readWhole_of_runs_open {p : Progress} (h : Runs .empty i p i')
    (hend : i'.skipBlanks.rest = []) (hp : p.groups ≠ []) : ∃ e, readWhole i = .error e := by
  obtain ⟨n, hn, hread⟩ := h.readFrom_eq (Nat.lt_succ_self _)
  obtain ⟨n, rfl⟩ : ∃ k, n = k + 1 := Nat.exists_eq_succ_of_ne_zero (by omega)
  exact readWhole_of_open (hread.trans (readFrom_of_end hend)) hp

/-- Where no group is open, none can be closed. -/
theorem readWhole_of_runs_unopened {p : Progress} {cs : List Char} (h : Runs .empty i p i')
    (hrest : i'.skipBlanks.rest = ')' :: cs) (hp : p.groups = []) :
    ∃ e, readWhole i = .error e := by
  obtain ⟨n, hn, hread⟩ := h.readFrom_eq (Nat.lt_succ_self _)
  obtain ⟨n, rfl⟩ : ∃ k, n = k + 1 := Nat.exists_eq_succ_of_ne_zero (by omega)
  have hpiece : ∃ e, readPiece p ')' i'.skipBlanks = .error e := by
    rw [readPiece_close, closeGroup, hp]
    exact ⟨_, rfl⟩
  obtain ⟨e, he⟩ := hpiece
  rw [readFrom_of_char hrest, he] at hread
  exact ⟨e, readWhole_of_error hread⟩

/-- **A pattern is read within its group as it is by itself,** unless it takes in what is behind it.
Then the group is not closed. -/
theorem readWhole_anchored (h : readWhole (.ofText text) = .ok (node, i')) :
    AnchoredAs text node ∧ (∃ e, readWhole (.ofText (text ++ closing)) = .error e) ∨
      TakesInClosing text node ∧
        ∃ e, readWhole (.ofText (opening ++ (text ++ closing))) = .error e := by
  obtain ⟨p, hread, hp, rfl⟩ := of_readWhole h
  obtain ⟨i, hruns, rfl, hend⟩ := Runs.of_readFrom hread (Nat.lt_succ_self _)
  -- The pattern with what is behind it, by itself and within the group.
  obtain ⟨q, j, halone, hpq, hij⟩ := hruns.joined over_empty (joined_ofText text)
  obtain ⟨s, t, place, hopening⟩ := runs_opening (text ++ closing)
  have hplaced : Joined false (.ofText (text ++ closing)) ⟨text ++ closing, place, false⟩ := by
    have h := Joined.of_rest false (text ++ closing) .start place false
    rwa [behind, List.append_nil] at h
  obtain ⟨r, k, hwithin, hqr, hjk⟩ := halone.joined (over_opening s t place) hplaced
  have hanchored := hopening.trans hwithin
  have hq : q.groups = [] := by
    obtain ⟨within, hgroups, hsame⟩ := hpq.groups
    rw [hp] at hsame
    cases hsame
    exact hgroups
  have hr : r.groups = [aroundGroup s t] := by
    obtain ⟨within, hgroups, hsame⟩ := hqr.groups
    rw [hq] at hsame
    cases hsame
    exact hgroups
  have hrest : k.skipBlanks.rest = j.skipBlanks.rest := hjk.skipBlanks.rest_eq
  rcases hij.skipBlanks.rest_nil hend with hnil | ⟨-, hclosing⟩
  · refine .inr ⟨⟨_, _, readWhole_of_runs halone hnil hq, hpq.level.close _ _⟩, ?_⟩
    exact readWhole_of_runs_open hanchored (hrest.trans hnil) (hr ▸ List.cons_ne_nil _ _)
  · refine .inl ⟨?_, readWhole_of_runs_unopened halone hclosing hq⟩
    obtain ⟨u, v, place', r', k', hend, hend', hr', hlevel⟩ :=
      runs_closing (hrest.trans hclosing) hr
    have hwhole := readWhole_of_runs (hanchored.trans hend) hend' hr'
    rw [hlevel] at hwhole
    exact ⟨_, t, u, v, _, _, hwhole,
      (hpq.level.close i.skipBlanks.place j.place).trans (hqr.level.close j.place place')⟩

/-- **A pattern that is faulty by itself is faulty within its group,** unless it closes the group. -/
theorem readWhole_anchored_of_error (h : readWhole (.ofText text) = .error e)
    (hcause : e.cause ≠ .groupUnopened) :
    ∃ e, readWhole (.ofText (opening ++ (text ++ closing))) = .error e := by
  obtain ⟨s, t, place, hopening⟩ := runs_opening (text ++ closing)
  obtain ⟨m, hm, hwhole⟩ := hopening.readFrom_eq (Nat.lt_succ_self _)
  have hover := over_opening s t place
  have hij : Joined true (.ofText text) ⟨text ++ closing, place, false⟩ :=
    Joined.of_rest true text .start place false
  have haround : [aroundGroup s t] ≠ [] := List.cons_ne_nil _ _
  refine readWhole_of_leavesOpen hwhole ?_
  cases hread : readFrom ((Input.ofText text).rest.length + 1) .empty (.ofText text) with
  | error e' =>
    rw [readWhole_of_error hread] at h
    cases h
    exact leavesOpen_of_error haround hread hcause hover hij
  | ok r =>
    -- A group of the pattern is open at its end: then it is closed, and the one around it is not.
    obtain ⟨p, i'⟩ := r
    have hp : p.groups ≠ [] := by
      intro hp
      rw [readWhole_of_closed hread hp] at h
      cases h
    obtain ⟨i, hruns, rfl, hend⟩ := Runs.of_readFrom hread (Nat.lt_succ_self _)
    obtain ⟨q, j, hruns', hpq, hij'⟩ := hruns.joined hover hij
    obtain ⟨n, hn, hread'⟩ := hruns'.readFrom_eq hm
    obtain ⟨n, rfl⟩ : ∃ k, n = k + 1 := Nat.exists_eq_succ_of_ne_zero (by omega)
    rw [hread']
    rcases hij'.skipBlanks.rest_nil hend with hnil | ⟨-, hclosing⟩
    · rw [readFrom_of_end hnil]
      intro q' j' hq
      cases hq
      exact hpq.groups_ne_nil haround
    · obtain ⟨within, hgroups, hsame⟩ := hpq.groups
      generalize p.groups = groups at hsame hp
      cases hsame with
      | nil => exact absurd rfl hp
      | cons hgroup hrest =>
        obtain ⟨u, j₁, hclose, hj₁⟩ := closeGroup_cons hgroups j.skipBlanks
        have hnot : ')' ∉ j₁.rest := by
          rw [hj₁, Input.rest_next, hclosing]
          decide
        rw [readFrom_of_char hclosing, readPiece_close, hclose]
        exact leavesOpen_of_not_mem hnot (List.append_ne_nil_of_right_ne_nil _ haround) n

end Pattern

end Switchboard
