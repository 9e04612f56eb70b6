import Switchboard.Proofs.Pattern.Groups
/-!
# Pieces with something behind the pattern

The second reader may stand within groups that are around the whole pattern (`Progress.Over`). Each
piece of the pattern is read alike (`readPiece_agrees`), unless it closes a group that the pattern
has not opened.
-/

namespace Switchboard

namespace Pattern

open Reading

variable {closed : Bool} {i j : Input}

/-! ## Levels -/

/-- The levels differ in spans only. -/
structure Level.Same (a b : Level) : Prop where
  branches : Node.AllSame a.branches b.branches
  parts : Node.AllSame a.parts b.parts

theorem Node.AllSame.cons {a b : Node} {as bs : List Node} (h : a.Same b)
    (hrest : Node.AllSame as bs) : Node.AllSame (a :: as) (b :: bs) := by
  change a.unplaced :: as.map Node.unplaced = b.unplaced :: bs.map Node.unplaced
  rw [show a.unplaced = b.unplaced from h,
    show as.map Node.unplaced = bs.map Node.unplaced from hrest]

theorem Node.AllSame.allUnplaced_reverse {as bs : List Node} (h : Node.AllSame as bs) :
    Node.allUnplaced as.reverse = Node.allUnplaced bs.reverse := by
  rw [Node.allUnplaced_eq_map, Node.allUnplaced_eq_map, List.map_reverse, List.map_reverse,
    show as.map Node.unplaced = bs.map Node.unplaced from h]

namespace Level.Same

variable {a b : Level}

theorem opened (p q : Place) : (Level.opened p).Same (Level.opened q) := ⟨rfl, rfl⟩

theorem add {part part' : Node} (h : a.Same b) (hpart : part.Same part') :
    (a.add part).Same (b.add part') :=
  ⟨h.branches, h.parts.cons hpart⟩

/-- A branch is its only part, or the sequence of its parts, and so for both. -/
theorem branch (h : a.Same b) (p q : Place) : (a.branch p).Same (b.branch q) := by
  have hparts := h.parts
  unfold Level.branch Node.Same
  generalize a.parts = parts at hparts ⊢
  generalize b.parts = parts' at hparts ⊢
  cases parts with
  | nil =>
    obtain rfl := List.map_eq_nil_iff.1 hparts.symm
    rfl
  | cons part rest =>
    cases parts' with
    | nil => cases hparts
    | cons part' rest' =>
      cases rest with
      | nil =>
        obtain rfl : rest' = [] := List.map_eq_nil_iff.1 (List.cons.inj hparts).2.symm
        exact (List.cons.inj hparts).1
      | cons second rest =>
        cases rest' with
        | nil => cases (List.cons.inj hparts).2
        | cons second' rest' => exact congrArg (Node.sequence .none) hparts.allUnplaced_reverse

theorem split (h : a.Same b) (p q p' q' : Place) : (a.split p q).Same (b.split p' q') :=
  ⟨h.branches.cons (h.branch _ _), rfl⟩

/-- A level that is closed is its only branch, or the choice between them. -/
theorem close (h : a.Same b) (p q : Place) : (a.close p).Same (b.close q) := by
  have hbranches := h.branches
  have hbranch := h.branch p q
  unfold Level.close
  generalize a.branches = branches at hbranches ⊢
  generalize b.branches = branches' at hbranches ⊢
  cases branches with
  | nil =>
    obtain rfl := List.map_eq_nil_iff.1 hbranches.symm
    exact hbranch
  | cons first rest =>
    cases branches' with
    | nil => cases hbranches
    | cons first' rest' =>
      exact congrArg (Node.choice .none) (hbranches.cons hbranch).allUnplaced_reverse

end Level.Same

/-! ## Progress -/

/-- The open groups differ in spans only. -/
structure OpenGroup.Same (a b : OpenGroup) : Prop where
  kind : a.kind = b.kind
  spaced : a.spaced = b.spaced
  outer : a.outer.Same b.outer

/-- The second reader has read the same, within groups that are around it all. -/
structure Progress.Over (around : List OpenGroup) (p q : Progress) : Prop where
  level : p.level.Same q.level
  groups : ∃ within, q.groups = within ++ around ∧ List.Forall₂ OpenGroup.Same p.groups within
  captures : p.captures = q.captures
  names : SameNames p.names q.names

section Over

variable {around : List OpenGroup} {p q : Progress}

theorem Progress.Over.add {part part' : Node} (h : p.Over around q) (hpart : part.Same part') :
    (p.add part).Over around (q.add part') :=
  ⟨h.level.add hpart, h.groups, h.captures, h.names⟩

/-- A group that is opened stands within those around. -/
theorem Progress.Over.enter (h : p.Over around q) (s t : Span) (kind : GroupKind) (spaced : Bool)
    (start start' : Place) :
    (p.enter s kind spaced start).Over around (q.enter t kind spaced start') := by
  obtain ⟨within, hgroups, hsame⟩ := h.groups
  refine ⟨.opened _ _, ⟨_ :: within, congrArg (_ :: ·) hgroups, .cons ⟨rfl, rfl, h.level⟩ hsame⟩,
    h.captures, h.names⟩

theorem Joined.setSpaced (h : Joined closed i j) (spaced : Bool) :
    Joined closed { i with spaced := spaced } { j with spaced := spaced } := by
  cases h with
  | inside c cs p q _ => exact .inside c cs p q spaced
  | ended p q _ => exact .ended p q spaced
  | behind hclosed p q _ => exact .behind hclosed p q spaced

/-- Flags set whether blanks count in both readers at once. -/
theorem setSpaced_agrees (h : Joined closed i j) (change : FlagChange) :
    Agrees closed (fun _ _ => True) (setSpaced change i) (setSpaced change j) := by
  unfold setSpaced
  cases change.state? .spaced with
  | some spaced => exact .joined trivial (h.setSpaced spaced)
  | none => exact .joined trivial h

/-- **A group is opened alike,** or flags are set, as the opening says. -/
theorem openGroup_agrees (h : Joined closed i j) (hne : i.rest ≠ []) (hover : p.Over around q) :
    Agrees closed (Progress.Over around) (openGroup p i) (openGroup q j) := by
  unfold openGroup
  rw [run_nextSpan_bind, run_get_bind, run_nextSpan_bind, run_get_bind]
  refine (readOpening_agrees h hne hover.names).bind ?_ ?_
  · intro opening
    cases opening with
    | flags change =>
      exact (advances_setSpaced _).bind fun _ => (advances_spanFrom _).bind fun _ => advances_pure _
    | plain change =>
      exact (advances_setSpaced _).bind fun _ => advances_here.bind fun _ => advances_pure _
    | capturing => exact advances_here.bind fun _ => advances_pure _
    | named names => exact advances_here.bind fun _ => advances_pure _
  · intro opening opening' i' j' hopening hij
    rw [h.spaced_eq]
    cases hopening with
    | flags change =>
      refine (setSpaced_agrees hij change).bind
        (fun _ => (advances_spanFrom _).bind fun _ => advances_pure _) fun _ _ i j _ hij => ?_
      exact .joined (hover.add rfl) hij
    | plain change =>
      refine (setSpaced_agrees hij change).bind
        (fun _ => advances_here.bind fun _ => advances_pure _) fun _ _ i j _ hij => ?_
      exact .joined (hover.enter _ _ _ _ _ _) hij
    | capturing =>
      refine .joined ?_ hij
      rw [hover.captures]
      have hcounted : Progress.Over around { p with captures := q.captures + 1 }
          { q with captures := q.captures + 1 } :=
        ⟨hover.level, hover.groups, rfl, hover.names⟩
      exact hcounted.enter _ _ _ _ _ _
    | named hnames =>
      refine .joined ?_ hij
      rename_i names names'
      rw [hover.captures]
      have hcounted : Progress.Over around { p with captures := q.captures + 1, names := names }
          { q with captures := q.captures + 1, names := names' } :=
        ⟨hover.level, hover.groups, rfl, hnames⟩
      exact hcounted.enter _ _ _ _ _ _

theorem closeGroup_cons {group : OpenGroup} {groups : List OpenGroup}
    (h : p.groups = group :: groups) (i : Input) :
    ∃ span i', closeGroup p i = .ok ({ p with
      level := group.outer.add (.group span group.kind (p.level.close i.place))
      groups := groups }, i') ∧ i' = Input.next { i with spaced := group.spaced } := by
  unfold closeGroup
  rw [h]
  exact ⟨_, _, rfl, rfl⟩

/-- **A group that the pattern has opened is closed alike.** One that is around it all is not
reached. -/
theorem closeGroup_agrees (h : Joined closed i j) (hne : i.rest ≠ []) (hover : p.Over around q)
    (hgroups : p.groups ≠ []) :
    Agrees closed (Progress.Over around) (closeGroup p i) (closeGroup q j) := by
  obtain ⟨within, hwithin, hsame⟩ := hover.groups
  generalize hp : p.groups = groups at hsame hgroups
  cases hsame with
  | nil => exact absurd rfl hgroups
  | cons hgroup hrest =>
    obtain ⟨span, i', hi, rfl⟩ := closeGroup_cons hp i
    obtain ⟨span', j', hj, rfl⟩ := closeGroup_cons hwithin j
    rw [hi, hj]
    refine .joined ⟨?_, ⟨_, rfl, hrest⟩, hover.captures, hover.names⟩ ?_
    · refine hgroup.outer.add ?_
      change Node.group .none _ _ = Node.group .none _ _
      rw [hgroup.kind, show (p.level.close _).unplaced = _ from hover.level.close i.place j.place]
    · rw [hgroup.spaced]
      exact (h.setSpaced _).next hne

theorem nextBranch_agrees (h : Joined closed i j) (hne : i.rest ≠ []) (hover : p.Over around q) :
    Agrees closed (Progress.Over around) (nextBranch p i) (nextBranch q j) :=
  .joined ⟨hover.level.split _ _ _ _, hover.groups, hover.captures, hover.names⟩ (h.next hne)

end Over

/-! ## Parts -/

/-- A part is read alike but for a word boundary with an open brace behind it. -/
theorem readPart_agrees (h : Joined closed i j) (hne : i.rest ≠ []) (c : Char) :
    AgreesOrDangles closed (readPart c i) (readPart c j) := by
  unfold readPart
  rw [run_nextSpan_bind, run_nextSpan_bind]
  by_cases hbracket : c = '['
  · rw [if_pos hbracket, if_pos hbracket]
    exact .inl (readBracket_agrees h hne)
  rw [if_neg hbracket, if_neg hbracket]
  by_cases hescape : c = '\\'
  · rw [if_pos hescape, if_pos hescape]
    exact readEscape_agrees h hne
  rw [if_neg hescape, if_neg hescape, run_advance_bind, run_advance_bind]
  refine .inl ?_
  have hnext := h.next hne
  exact .ite Iff.rfl (fun _ => .joined rfl hnext) fun _ => .ite Iff.rfl (fun _ => .joined rfl hnext)
    fun _ => .ite Iff.rfl (fun _ => .joined rfl hnext) fun _ => .joined rfl hnext

/-- The reader is at a word boundary behind which a brace is open at the end of the pattern. -/
structure Dangles (q : Progress) (j : Input) : Prop where
  part : ∃ span before, q.level.parts = .anchor span .wordBoundary :: before
  brace : j.rest.head? = some '\x7b'
  dangling : Dangling j

/-- Both read the piece, or the first one fails: then the second one fails, or is lost, or dangles,
or it has closed a group that the pattern has not opened. -/
def PieceAgrees (closed : Bool) (around : List OpenGroup) (q : Progress)
    (x y : Except Fault (Progress × Input)) : Prop :=
  Agrees closed (Progress.Over around) x y ∨
    (∃ e, x = .error e) ∧ ∃ q' j', y = .ok (q', j') ∧ q'.groups = q.groups ∧ Dangles q' j'

/-- The cases are those of the reader. Only the closing of a group needs one that the pattern has
opened. -/
theorem readPiece_agrees {around : List OpenGroup} {p q : Progress} (h : Joined closed i j) (c : Char)
    (hne : i.rest ≠ []) (hover : p.Over around q) (hclose : c = ')' → p.groups ≠ []) :
    PieceAgrees closed around q (readPiece p c i) (readPiece q c j) := by
  unfold readPiece
  by_cases hopens : c = '('
  · rw [if_pos hopens, if_pos hopens]
    exact .inl (openGroup_agrees h hne hover)
  rw [if_neg hopens, if_neg hopens]
  by_cases hcloses : c = ')'
  · rw [if_pos hcloses, if_pos hcloses]
    exact .inl (closeGroup_agrees h hne hover (hclose hcloses))
  rw [if_neg hcloses, if_neg hcloses]
  by_cases hbranch : c = '|'
  · rw [if_pos hbranch, if_pos hbranch]
    exact .inl (nextBranch_agrees h hne hover)
  rw [if_neg hbranch, if_neg hbranch]
  by_cases hrepeats : isRepetitionSign c = true
  · rw [if_pos hrepeats, if_pos hrepeats]
    refine .inl ((readRepetition_agrees h hne c hover.level.parts).bind
      (fun _ => advances_pure _) fun a b i j hab hij => ?_)
    exact .joined ⟨⟨hover.level.branches, hab⟩, hover.groups, hover.captures, hover.names⟩ hij
  rw [if_neg hrepeats, if_neg hrepeats]
  rcases readPart_agrees h hne c with hpart | ⟨⟨e, he⟩, span, j', hj', hbrace, hdangling⟩
  · exact .inl (hpart.bind (fun _ => advances_pure _) fun a b i j hab hij =>
      .joined (hover.add hab) hij)
  · refine .inr ⟨⟨e, run_bind_error _ he _⟩, _, j', run_bind_ok _ hj' _, rfl, ?_, hbrace,
      hdangling⟩
    exact ⟨span, _, rfl⟩

theorem readPiece_close (p : Progress) : readPiece p ')' = closeGroup p := by
  unfold readPiece
  rw [if_neg (by decide), if_pos rfl]

/-! ## Readers that cannot come to a good end -/

/-- Whatever the reader reads on to, some group is open there. -/
def LeavesOpen (y : Except Fault (Progress × Input)) : Prop :=
  ∀ q j, y = .ok (q, j) → q.groups ≠ []

theorem leavesOpen_error (e : Fault) : LeavesOpen (.error e) := fun _ _ h => by cases h

theorem LeavesOpen.bind {y : Reading Progress} {g : Progress → Reading Progress}
    (h : ∀ q j', y j = .ok (q, j') → LeavesOpen (g q j')) : LeavesOpen ((y >>= g) j) := by
  intro q j' hq
  obtain ⟨q₁, j₁, hy, hg⟩ := ok_of_bind_ok hq
  exact h q₁ j₁ hy q j' hg

/-- Opening a group closes none. -/
theorem groups_openGroup {q q' : Progress} {j' : Input} (h : openGroup q j = .ok (q', j'))
    (hq : q.groups ≠ []) : q'.groups ≠ [] := by
  unfold openGroup at h
  rw [run_nextSpan_bind, run_get_bind] at h
  obtain ⟨opening, j₁, -, h⟩ := ok_of_bind_ok h
  cases opening with
  | flags change =>
    obtain ⟨_, j₂, -, h⟩ := ok_of_bind_ok h
    cases h
    exact hq
  | plain change =>
    obtain ⟨_, j₂, -, h⟩ := ok_of_bind_ok h
    cases h
    exact List.cons_ne_nil _ _
  | capturing =>
    cases h
    exact List.cons_ne_nil _ _
  | named names =>
    cases h
    exact List.cons_ne_nil _ _

/-- Only a closing parenthesis closes a group. -/
theorem groups_readPiece {q q' : Progress} {j' : Input} {c : Char} (hc : c ≠ ')')
    (h : readPiece q c j = .ok (q', j')) (hq : q.groups ≠ []) : q'.groups ≠ [] := by
  unfold readPiece at h
  split at h
  · exact groups_openGroup h hq
  split at h
  · cases h
    exact hq
  split at h
  · obtain ⟨parts, j₁, -, h⟩ := ok_of_bind_ok h
    cases h
    exact hq
  · obtain ⟨part, j₁, -, h⟩ := ok_of_bind_ok h
    cases h
    exact hq

/-- Where no closing parenthesis is left, an open group stays open. -/
theorem leavesOpen_of_not_mem {q : Progress} (hj : ')' ∉ j.rest) (hq : q.groups ≠ []) (n : Nat) :
    LeavesOpen (readFrom n q j) := by
  induction n generalizing q j with
  | zero =>
    intro q' j' h
    cases h
    exact hq
  | succ n ih =>
    have hblanks : ')' ∉ j.skipBlanks.rest := fun hmem => hj (j.rest_skipBlanks_suffix.subset hmem)
    cases hrest : j.skipBlanks.rest with
    | nil =>
      rw [readFrom_of_end hrest]
      intro q' j' h
      cases h
      exact hq
    | cons c cs =>
      have hc : c ≠ ')' := by
        rintro rfl
        exact hblanks (hrest ▸ List.mem_cons_self)
      rw [readFrom_of_char hrest]
      refine LeavesOpen.bind (y := readPiece q c) (g := readFrom n) fun q' j' h => ?_
      refine ih (fun hmem => hblanks ?_) (groups_readPiece hc h hq)
      exact ((consumes_readPiece q c).advances _ _ _ h).subset hmem

/-- Nothing is skipped in front of a character that is neither blank nor the sign for a comment. -/
theorem skipBlanks_of_head {c : Char} (h : j.rest.head? = some c) (hblank : Text.isBlank c = false)
    (hsign : c ≠ '#') : j.skipBlanks = j := by
  obtain ⟨rest, place, spaced⟩ := j
  cases rest with
  | nil => cases h
  | cons d ds =>
    obtain rfl : d = c := Option.some.inj h
    cases spaced with
    | false => rfl
    | true =>
      have hafter : Input.afterBlanks false (d :: ds) place = (d :: ds, place) := by
        rw [Input.afterBlanks, if_neg (by decide), if_neg (by rw [hblank]; decide), if_neg hsign]
      unfold Input.skipBlanks
      rw [if_pos rfl]
      dsimp only
      rw [hafter]

/-- A brace that is open there is no repetition: what is behind the pattern does not close it. -/
theorem leavesOpen_of_dangles {q : Progress} (h : Dangles q j) (hq : q.groups ≠ []) (n : Nat) :
    LeavesOpen (readFrom n q j) := by
  cases n with
  | zero =>
    intro q' j' h
    cases h
    exact hq
  | succ n =>
    obtain ⟨⟨span, before, hparts⟩, hbrace, hdangling⟩ := h
    have hskip := skipBlanks_of_head hbrace (by decide) (by decide)
    obtain ⟨cs, hrest⟩ : ∃ cs, j.skipBlanks.rest = '\x7b' :: cs := by
      rw [hskip]
      exact ⟨_, List.eq_cons_of_mem_head? hbrace⟩
    have hcounts : ∃ e, countsOfSign '\x7b' j.place j = .error e := by
      unfold countsOfSign
      rw [if_neg (by decide), if_neg (by decide), if_neg (by decide), readCounts_eq,
        run_advanceOverBlanks_bind]
      unfold Dangling at hdangling
      generalize j.next.skipBlanks = i at hdangling ⊢
      obtain ⟨rest, place, spaced⟩ := i
      obtain rfl : rest = closing := hdangling
      exact readCountsFrom_closing _ _ _
    obtain ⟨e, he⟩ := hcounts
    have hpiece : readPiece q '\x7b' j = .error e := by
      unfold readPiece
      rw [if_neg (by decide), if_neg (by decide), if_neg (by decide), if_pos (by decide), hparts]
      refine run_bind_error _ ?_ _
      rw [readRepetition_cons,
        if_pos (show (Node.anchor span .wordBoundary).isRepeatable = true from rfl)]
      exact run_bind_error _ he _
    rw [readFrom_of_char hrest, hskip, hpiece]
    exact leavesOpen_error _

/-! ## Runs -/

/-- From one progress to another, piece by piece. -/
inductive Runs : Progress → Input → Progress → Input → Prop where
  | refl (p : Progress) (i : Input) : Runs p i p i
  | step {p p' p'' : Progress} {i i' i'' : Input} {c : Char} {cs : List Char}
      (hrest : i.skipBlanks.rest = c :: cs) (hpiece : readPiece p c i.skipBlanks = .ok (p', i'))
      (hruns : Runs p' i' p'' i'') : Runs p i p'' i''

namespace Runs

variable {p p' p'' q : Progress} {i' i'' : Input}

theorem trans (h : Runs p i p' i') (h' : Runs p' i' p'' i'') : Runs p i p'' i'' := by
  induction h with
  | refl p i => exact h'
  | step hrest hpiece _ ih => exact .step hrest hpiece (ih h')

theorem of_readFrom {n : Nat} (h : readFrom n p i = .ok (p', i')) (hn : i.rest.length < n) :
    ∃ i'', Runs p i p' i'' ∧ i''.skipBlanks = i' ∧ i'.rest = [] := by
  induction n generalizing p i with
  | zero => exact absurd hn (Nat.not_lt_zero _)
  | succ n ih =>
    cases hrest : i.skipBlanks.rest with
    | nil =>
      rw [readFrom_of_end hrest] at h
      cases h
      exact ⟨i, .refl _ _, rfl, hrest⟩
    | cons c cs =>
      rw [readFrom_of_char hrest] at h
      obtain ⟨p₁, i₁, hpiece, h⟩ := ok_of_bind_ok (x := readPiece p c) (f := readFrom n) h
      have hblanks := i.rest_skipBlanks_suffix.length_le
      have hlt := (consumes_readPiece p c).length_lt hpiece (hrest ▸ List.cons_ne_nil c cs)
      obtain ⟨i'', hruns, hskip, hend⟩ := ih h (by omega)
      exact ⟨i'', .step hrest hpiece hruns, hskip, hend⟩

theorem readFrom_eq (h : Runs p i p' i') {n : Nat} (hn : i.rest.length < n) :
    ∃ m, i'.rest.length < m ∧ readFrom n p i = readFrom m p' i' := by
  induction h generalizing n with
  | refl p i => exact ⟨n, hn, rfl⟩
  | @step p p' p'' i i' i'' c cs hrest hpiece _ ih =>
    obtain ⟨n, rfl⟩ : ∃ k, n = k + 1 := Nat.exists_eq_succ_of_ne_zero (by omega)
    have hblanks := i.rest_skipBlanks_suffix.length_le
    have hlt := (consumes_readPiece p c).length_lt hpiece (hrest ▸ List.cons_ne_nil c cs)
    rw [readFrom_of_char hrest, hpiece]
    exact ih (by omega)

theorem groups_ne_nil {c : Char} (h : readPiece p c i = .ok (p', i')) (hc : c = ')') :
    p.groups ≠ [] := by
  subst hc
  intro hnil
  rw [readPiece_close, closeGroup, hnil] at h
  cases h

/-- **What is read of the pattern, the second reader reads as well.** -/
theorem joined {around : List OpenGroup} (h : Runs p i p' i') (hover : p.Over around q)
    (hij : Joined closed i j) :
    ∃ q' j', Runs q j q' j' ∧ p'.Over around q' ∧ Joined closed i' j' := by
  induction h generalizing q j with
  | refl p i => exact ⟨q, j, .refl _ _, hover, hij⟩
  | @step p p' p'' i i' i'' c cs hrest hpiece _ ih =>
    have hblanks := hij.skipBlanks
    have hagrees := readPiece_agrees hblanks c (hrest ▸ List.cons_ne_nil c cs) hover
      (groups_ne_nil hpiece)
    rw [hpiece] at hagrees
    rcases hagrees with hagrees | ⟨⟨e, he⟩, -⟩
    · generalize hy : readPiece q c j.skipBlanks = y at hagrees
      cases hagrees with
      | joined hover' hij' =>
        obtain ⟨q', j', hruns, hover', hij'⟩ := ih hover' hij'
        exact ⟨q', j', .step (hblanks.rest_cons hrest) hy hruns, hover', hij'⟩
    · cases he

end Runs

theorem Progress.Over.groups_ne_nil {around : List OpenGroup} {p q : Progress}
    (h : p.Over around q) (haround : around ≠ []) : q.groups ≠ [] := by
  obtain ⟨within, hgroups, -⟩ := h.groups
  rw [hgroups]
  exact List.append_ne_nil_of_right_ne_nil _ haround

/-- A closing parenthesis that closes something is read without a fault. -/
theorem readPiece_close_ne_error {p : Progress} (h : p.groups ≠ []) (e : Fault) :
    readPiece p ')' i ≠ .error e := by
  rw [readPiece_close]
  cases hgroups : p.groups with
  | nil => exact absurd hgroups h
  | cons group groups =>
    obtain ⟨span, i', hi, -⟩ := closeGroup_cons hgroups i
    rw [hi]
    exact fun h => by cases h

/-- **Where the pattern is faulty, a group around it is not closed,** unless the fault is that the
pattern closes a group that it has not opened. -/
theorem leavesOpen_of_error {around : List OpenGroup} (haround : around ≠ []) {n m : Nat} {e : Fault}
    {p q : Progress} (hx : readFrom n p i = .error e) (hcause : e.cause ≠ .groupUnopened)
    (hover : p.Over around q) (h : Joined closed i j) : LeavesOpen (readFrom m q j) := by
  induction n generalizing m p q i j with
  | zero => cases hx
  | succ n ih =>
    have hblanks := h.skipBlanks
    cases hrest : i.skipBlanks.rest with
    | nil =>
      rw [readFrom_of_end hrest] at hx
      cases hx
    | cons c cs =>
      cases m with
      | zero =>
        intro q' j' hq
        cases hq
        exact hover.groups_ne_nil haround
      | succ m =>
        rw [readFrom_of_char hrest] at hx
        rw [readFrom_of_char (hblanks.rest_cons hrest)]
        have hclose : c = ')' → p.groups ≠ [] := by
          rintro rfl hnil
          refine hcause ?_
          have hpiece : readPiece p ')' i.skipBlanks =
              .error ⟨.groupUnopened, ⟨i.skipBlanks.place, i.skipBlanks.next.place⟩, none⟩ := by
            rw [readPiece_close, closeGroup, hnil]
            rfl
          rw [hpiece] at hx
          cases hx
          rfl
        have hq := hover.groups_ne_nil haround
        refine LeavesOpen.bind (y := readPiece q c) (g := readFrom m) fun q' j' hpiece' => ?_
        have hagrees := readPiece_agrees hblanks c (hrest ▸ List.cons_ne_nil c cs) hover hclose
        rw [hpiece'] at hagrees
        generalize hpiece : readPiece p c i.skipBlanks = x at hagrees hx
        rcases hagrees with hagrees | ⟨-, q'', j'', heq, hgroups, hdangles⟩
        · cases hagrees with
          | joined hover' hij' => exact ih hx hover' hij'
          | refused e' hlost =>
            have hc : c ≠ ')' := by
              rintro rfl
              exact readPiece_close_ne_error (hclose rfl) e' hpiece
            exact leavesOpen_of_not_mem (hlost q' j' rfl).2 (groups_readPiece hc hpiece' hq) m
        · cases heq
          exact leavesOpen_of_dangles hdangles (hgroups ▸ hq) m

end Pattern

end Switchboard
