import Switchboard.Pattern.Basic
import Switchboard.Proofs.Pattern.Anchoring
import Switchboard.Proofs.Pattern.Language
import Switchboard.Proofs.Pattern.Sizes
/-!
# What a pattern means that is written for whole texts

Written into its group a pattern means what it means by itself, between the places where a text
starts and ends (`meaning_around`). It is nested two levels deeper there, and what it means takes a
little more room.
-/

namespace Switchboard

namespace Pattern

variable {text : List Char} {node body : Node} {core : Core} {i : Input} {e : Fault}

/-! ## From a text to its meaning -/

/-- The meaning of a pattern that is nested below so many levels. -/
def Node.meaningAt (depth : Nat) (node : Node) : Except Fault Core := do
  node.checkNesting depth
  return (← node.core {}).1

theorem Node.Same.sameValue_meaningAt (h : node.Same body) (depth : Nat) :
    SameValue (node.meaningAt depth) (body.meaningAt depth) := by
  have hnesting := node.sameValue_checkNesting depth
  have hcore := node.sameValue_core {}
  rw [show node.unplaced = body.unplaced from h] at hnesting hcore
  exact (hnesting.symm.trans (body.sameValue_checkNesting depth)).bind fun _ =>
    (hcore.symm.trans (body.sameValue_core {})).bind fun _ => .refl _

theorem meaning_of_readWhole (h : readWhole (.ofText text) = .ok (node, i)) :
    meaning text = node.meaningAt 0 := by
  unfold meaning Node.ofText Node.meaningAt
  rw [show readWhole.run ⟨text, .start, false⟩ = .ok (node, i) from h]
  dsimp only [bind, Except.bind]
  cases node.checkNesting 0 <;> rfl

theorem meaning_of_readWhole_error (h : readWhole (.ofText text) = .error e) :
    meaning text = .error e := by
  unfold meaning Node.ofText
  rw [show readWhole.run ⟨text, .start, false⟩ = .error e from h]
  rfl

/-! ## Nesting -/

theorem checkDepth_eq_ok_iff (depth : Nat) (s : Span) :
    checkDepth depth s = .ok () ↔ depth ≤ nestingLimit := by
  unfold checkDepth
  split
  · next h => exact iff_of_false (fun h' => by cases h') (Nat.not_le.2 h)
  · next h => exact iff_of_true rfl (Nat.not_lt.1 h)

theorem checkDepth_ok_of_le {depth depth' : Nat} {s : Span} (hle : depth ≤ depth')
    (h : checkDepth depth' s = .ok ()) : checkDepth depth s = .ok () :=
  (checkDepth_eq_ok_iff _ _).2 (Nat.le_trans hle ((checkDepth_eq_ok_iff _ _).1 h))

mutual

/-- What is not nested too deep below some levels is not nested too deep below fewer. -/
theorem ClassItem.checkNesting_ok_of_le {depth depth' : Nat} (hle : depth ≤ depth')
    (item : ClassItem) (h : item.checkNesting depth' = .ok ()) : item.checkNesting depth = .ok () := by
  have hle' : depth + 1 ≤ depth' + 1 := Nat.succ_le_succ hle
  cases item with
  | bracketed s negated items =>
    obtain ⟨⟨⟩, hdepth, hitems⟩ := bind_eq_ok_iff.1 h
    exact bind_eq_ok_iff.2
      ⟨(), checkDepth_ok_of_le hle' hdepth, items.checkNesting_ok_of_le hle' hitems⟩
  | union s items =>
    obtain ⟨⟨⟩, hdepth, hitems⟩ := bind_eq_ok_iff.1 h
    exact bind_eq_ok_iff.2 ⟨(), checkDepth_ok_of_le hle' hdepth,
      ClassItem.checkAllNesting_ok_of_le hle' items hitems⟩
  | combined s operation left right =>
    obtain ⟨⟨⟩, hdepth, hsides⟩ := bind_eq_ok_iff.1 h
    obtain ⟨⟨⟩, hleft, hright⟩ := bind_eq_ok_iff.1 hsides
    exact bind_eq_ok_iff.2 ⟨(), checkDepth_ok_of_le hle' hdepth, bind_eq_ok_iff.2
      ⟨(), left.checkNesting_ok_of_le hle' hleft, right.checkNesting_ok_of_le hle' hright⟩⟩
  | _ => rfl

theorem ClassItem.checkAllNesting_ok_of_le {depth depth' : Nat} (hle : depth ≤ depth')
    (items : List ClassItem) (h : ClassItem.checkAllNesting depth' items = .ok ()) :
    ClassItem.checkAllNesting depth items = .ok () := by
  cases items with
  | nil => rfl
  | cons item rest =>
    rw [checkAllNesting_cons] at h ⊢
    obtain ⟨⟨⟩, hitem, hrest⟩ := bind_eq_ok_iff.1 h
    exact bind_eq_ok_iff.2 ⟨(), item.checkNesting_ok_of_le hle hitem,
      ClassItem.checkAllNesting_ok_of_le hle rest hrest⟩

end

mutual

theorem Node.checkNesting_ok_of_le {depth depth' : Nat} (hle : depth ≤ depth') (node : Node)
    (h : node.checkNesting depth' = .ok ()) : node.checkNesting depth = .ok () := by
  have hle' : depth + 1 ≤ depth' + 1 := Nat.succ_le_succ hle
  cases node with
  | bracketed s negated items =>
    obtain ⟨⟨⟩, hdepth, hitems⟩ := bind_eq_ok_iff.1 h
    exact bind_eq_ok_iff.2
      ⟨(), checkDepth_ok_of_le hle' hdepth, items.checkNesting_ok_of_le hle' hitems⟩
  | repetition s body min max greedy =>
    obtain ⟨⟨⟩, hdepth, hbody⟩ := bind_eq_ok_iff.1 h
    exact bind_eq_ok_iff.2
      ⟨(), checkDepth_ok_of_le hle' hdepth, body.checkNesting_ok_of_le hle' hbody⟩
  | group s kind body =>
    obtain ⟨⟨⟩, hdepth, hbody⟩ := bind_eq_ok_iff.1 h
    exact bind_eq_ok_iff.2
      ⟨(), checkDepth_ok_of_le hle' hdepth, body.checkNesting_ok_of_le hle' hbody⟩
  | choice s branches =>
    obtain ⟨⟨⟩, hdepth, hbranches⟩ := bind_eq_ok_iff.1 h
    exact bind_eq_ok_iff.2 ⟨(), checkDepth_ok_of_le hle' hdepth,
      Node.checkAllNesting_ok_of_le hle' branches hbranches⟩
  | sequence s parts =>
    obtain ⟨⟨⟩, hdepth, hparts⟩ := bind_eq_ok_iff.1 h
    exact bind_eq_ok_iff.2 ⟨(), checkDepth_ok_of_le hle' hdepth,
      Node.checkAllNesting_ok_of_le hle' parts hparts⟩
  | _ => rfl

theorem Node.checkAllNesting_ok_of_le {depth depth' : Nat} (hle : depth ≤ depth')
    (parts : List Node) (h : Node.checkAllNesting depth' parts = .ok ()) :
    Node.checkAllNesting depth parts = .ok () := by
  cases parts with
  | nil => rfl
  | cons part rest =>
    rw [checkAllNesting_cons] at h ⊢
    obtain ⟨⟨⟩, hpart, hrest⟩ := bind_eq_ok_iff.1 h
    exact bind_eq_ok_iff.2 ⟨(), part.checkNesting_ok_of_le hle hpart,
      Node.checkAllNesting_ok_of_le hle rest hrest⟩

end

/-- What has no meaning has none below more levels. -/
theorem Node.meaningAt_error_of_le {depth depth' : Nat} (hle : depth ≤ depth') {node : Node}
    (h : node.meaningAt depth = .error e) : ∃ e, node.meaningAt depth' = .error e := by
  cases h' : node.meaningAt depth' with
  | error e => exact ⟨e, rfl⟩
  | ok core =>
    obtain ⟨⟨⟩, hnesting, hcore⟩ := bind_eq_ok_iff.1 h'
    have hok : node.meaningAt depth = .ok core :=
      bind_eq_ok_iff.2 ⟨(), node.checkNesting_ok_of_le hle hnesting, hcore⟩
    rw [h] at hok
    cases hok

/-! ## Between the places where a text starts and ends -/

/-- What stands between conditions in a pattern means what it means by itself, two levels up. -/
theorem meaningAt_between (s t u v : Span) (body : Node) :
    (Node.sequence s [.anchor t .textStart, .group u (.plain ⟨[], []⟩) body,
      .anchor v .textEnd]).meaningAt 0 =
        (Core.between .textStart .textEnd ·) <$> body.meaningAt 2 := by
  have hnesting : (Node.sequence s [.anchor t .textStart, .group u (.plain ⟨[], []⟩) body,
      .anchor v .textEnd]).checkNesting 0 = body.checkNesting 2 := by
    change _ = body.checkNesting (0 + 1 + 1)
    rw [Node.checkNesting, Node.checkAllNesting_cons, Node.checkAllNesting_cons]
    change (Except.ok () >>= fun _ => Except.ok () >>= fun _ =>
      (Except.ok () >>= fun _ => body.checkNesting (0 + 1 + 1)) >>= fun _ => _) = _
    cases body.checkNesting (0 + 1 + 1) <;> rfl
  have hcore : (Node.sequence s [.anchor t .textStart, .group u (.plain ⟨[], []⟩) body,
      .anchor v .textEnd]).core {} =
        (fun r => (Core.between .textStart .textEnd r.1, {})) <$> body.core {} := by
    rw [Node.core, Node.cores_cons, Node.core]
    change (Node.cores {} [.require .textStart] [.group u (.plain ⟨[], []⟩) body,
      .anchor v .textEnd] >>= _) = _
    rw [Node.cores_cons, Node.core]
    change (((body.core {} >>= _) >>= _) >>= _) = _
    cases body.core {} <;> rfl
  unfold Node.meaningAt
  rw [hnesting, hcore]
  cases body.checkNesting 2 with
  | error e => rfl
  | ok _ => cases body.core {} <;> rfl

/-- The text from its start to its end. -/
def Core.ReadsWhole (core : Core) (text : List Char) : Prop :=
  ∃ t, core.Reads (.start text) t ∧ t.rest = []

theorem Core.reads_between (core : Core) (s t : Spot) :
    (Core.between .textStart .textEnd core).Reads s t ↔
      s.before = none ∧ core.Reads s t ∧ t.rest = [] := by
  unfold between
  rw [reads_ofParts]
  constructor
  · rintro ⟨r, ⟨hstart, rfl⟩, q, hcore, p, ⟨hend, rfl⟩, rfl⟩
    exact ⟨Option.isNone_iff_eq_none.1 hstart, hcore,
      List.head?_eq_none_iff.1 (Option.isNone_iff_eq_none.1 hend)⟩
  · rintro ⟨hstart, hcore, hend⟩
    refine ⟨s, ⟨Option.isNone_iff_eq_none.2 hstart, rfl⟩, t, hcore, t, ⟨?_, rfl⟩, rfl⟩
    exact Option.isNone_iff_eq_none.2 (List.head?_eq_none_iff.2 hend)

/-- Behind the start of a text there is a character in front of each place. -/
theorem Spot.eq_of_ahead_of_before {s t : Spot} (h : s.Ahead t) (hbefore : t.before = none) :
    t = s := by
  obtain ⟨n, h⟩ := h
  cases n with
  | zero => exact h
  | succ n =>
    obtain ⟨r, -, c, cs, -, -, rfl⟩ := (iterates_succ n s t).1 h
    cases hbefore

/-- **A match between the start and the end of a text** is one of the whole text. -/
theorem Core.exists_reads_between_iff (core : Core) (text : List Char) :
    (∃ s t, (Spot.start text).Ahead s ∧ (Core.between .textStart .textEnd core).Reads s t) ↔
      core.ReadsWhole text := by
  constructor
  · rintro ⟨s, t, hahead, hreads⟩
    obtain ⟨hbefore, hcore, hend⟩ := (reads_between core s t).1 hreads
    obtain rfl := Spot.eq_of_ahead_of_before hahead hbefore
    exact ⟨t, hcore, hend⟩
  · rintro ⟨t, hcore, hend⟩
    exact ⟨_, t, .refl _, (reads_between core _ t).2 ⟨rfl, hcore, hend⟩⟩

/-! ## Meanings of whole texts -/

/-- A pattern with what is written around it. -/
def around (text : List Char) : List Char := opening ++ (text ++ closing)

/-- A pattern is not nested too deep below so many levels. -/
def NestedBelow (depth : Nat) (text : List Char) : Prop :=
  ∃ node i, readWhole (.ofText text) = .ok (node, i) ∧ node.checkNesting depth = .ok ()

theorem exists_readWhole_of_meaning (h : meaning text = .ok core) :
    ∃ node i, readWhole (.ofText text) = .ok (node, i) ∧ node.meaningAt 0 = .ok core := by
  cases hread : readWhole (.ofText text) with
  | error e =>
    rw [meaning_of_readWhole_error hread] at h
    cases h
  | ok r => exact ⟨r.1, r.2, rfl, (meaning_of_readWhole hread).symm.trans h⟩

/-- **A pattern means what it means by itself** when it is written into its group, if it is not
nested too deep there. A pattern that takes in what is written behind it has no meaning in the
group. -/
theorem meaning_around (h : meaning text = .ok core) :
    (∃ e, meaning (text ++ closing) = .error e) ∧
        (NestedBelow 2 text → meaning (around text) = .ok (.between .textStart .textEnd core)) ∧
          (¬NestedBelow 2 text → ∃ e, meaning (around text) = .error e) ∨
      meaning (text ++ closing) = .ok core ∧ ∃ e, meaning (around text) = .error e := by
  obtain ⟨node, i, hread, hmeaning⟩ := exists_readWhole_of_meaning h
  rcases readWhole_anchored hread with ⟨⟨s, t, u, v, body, i', haround, hsame⟩, e, hclosing⟩ |
    ⟨⟨node', i', hclosing, hsame⟩, e, haround⟩
  · refine .inl ⟨⟨e, meaning_of_readWhole_error hclosing⟩, fun hnested => ?_, fun hnested => ?_⟩
    · obtain ⟨node', i'', hread', hnesting⟩ := hnested
      obtain ⟨rfl, rfl⟩ := Prod.mk.inj (Except.ok.inj (hread.symm.trans hread'))
      obtain ⟨⟨⟩, -, hcore⟩ := bind_eq_ok_iff.1 hmeaning
      have hmeaning' : node.meaningAt 2 = .ok core := bind_eq_ok_iff.2 ⟨(), hnesting, hcore⟩
      have hbody := (hsame.sameValue_meaningAt 2).ok_of_ok hmeaning'
      rw [around, meaning_of_readWhole haround, meaningAt_between, hbody]
      rfl
    · rw [around, meaning_of_readWhole haround, meaningAt_between]
      cases hbody : body.meaningAt 2 with
      | error e => exact ⟨e, rfl⟩
      | ok core' =>
        obtain ⟨⟨⟩, hnesting, -⟩ := bind_eq_ok_iff.1
          ((hsame.sameValue_meaningAt 2).symm.ok_of_ok hbody)
        exact absurd ⟨node, i, hread, hnesting⟩ hnested
  · refine .inr ⟨?_, e, meaning_of_readWhole_error haround⟩
    rw [meaning_of_readWhole hclosing]
    exact (hsame.sameValue_meaningAt 0).ok_of_ok hmeaning

/-- **A pattern that has no meaning by itself has none within its group,** unless it closes the
group. -/
theorem meaning_around_of_error (h : meaning text = .error e) (hcause : e.cause ≠ .groupUnopened) :
    ∃ e, meaning (around text) = .error e := by
  cases hread : readWhole (.ofText text) with
  | error e' =>
    rw [meaning_of_readWhole_error hread] at h
    cases h
    obtain ⟨e, he⟩ := readWhole_anchored_of_error hread hcause
    exact ⟨e, meaning_of_readWhole_error he⟩
  | ok r =>
    obtain ⟨node, i⟩ := r
    rw [meaning_of_readWhole hread] at h
    rcases readWhole_anchored hread with ⟨⟨s, t, u, v, body, i', haround, hsame⟩, -⟩ | ⟨-, e, he⟩
    · obtain ⟨e', he'⟩ := Node.meaningAt_error_of_le (Nat.zero_le 2) h
      obtain ⟨e'', he''⟩ := (hsame.sameValue_meaningAt 2).error_of_error he'
      rw [around, meaning_of_readWhole haround, meaningAt_between, he'']
      exact ⟨e'', rfl⟩
    · exact ⟨e, meaning_of_readWhole_error he⟩

/-! ## Room -/

theorem neat_of_meaning (h : meaning text = .ok core) : core.Neat := by
  obtain ⟨node, i, -, hmeaning⟩ := exists_readWhole_of_meaning h
  obtain ⟨⟨⟩, -, hcore⟩ := bind_eq_ok_iff.1 hmeaning
  obtain ⟨⟨core, mode⟩, hnode, hcore⟩ := bind_eq_ok_iff.1 hcore
  cases hcore
  exact node.neat_core hnode

/-- There is room for a pattern in its group if and only if there is a little more than it takes by
itself. -/
theorem size_around_le_iff (h : meaning text = .ok core) :
    (Core.between .textStart .textEnd core).size ≤ sizeLimit ↔ core.size + 64 ≤ sizeLimit := by
  by_cases hne : core = .nothing
  · subst hne
    exact iff_of_true (by decide) (by decide)
  · rw [Core.size_between _ _ (neat_of_meaning h) hne]

end Pattern

end Switchboard
