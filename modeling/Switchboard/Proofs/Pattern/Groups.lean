import Switchboard.Proofs.Pattern.Repetitions
/-!
# Groups with something behind the pattern

The opening of a group is read alike, whatever is behind the pattern (`openGroup_agrees`). Where the
pattern ends in flags, a closing parenthesis ends them, and is lost for the group that it was to
close.
-/

namespace Switchboard

namespace Pattern

open Reading

variable {α β : Type} {closed : Bool} {i j : Input}

/-! ## Flags -/

/-- The flags differ in where they stand only. -/
def SameFlags (a b : WrittenFlags) : Prop := a.map Prod.fst = b.map Prod.fst

theorem FlagChange.ofWritten_eq {a b : WrittenFlags} (h : SameFlags a b) :
    FlagChange.ofWritten a = FlagChange.ofWritten b := by
  unfold ofWritten
  rw [show a.map Prod.fst = b.map Prod.fst from h]

/-- The second reader stops in front of the closing parenthesis. -/
def StopsAtClosing (closed : Bool) (y : Except Fault (α × Input)) : Prop :=
  ∀ b j, y = .ok (b, j) → closed = true ∧ j.rest = closing

/-- What is looked up by its key only is found, or not, in both. -/
theorem isSome_lookup_eq {κ ν : Type} [BEq κ] {a b : List (κ × ν)}
    (h : a.map Prod.fst = b.map Prod.fst) (k : κ) :
    (a.lookup k).isSome = (b.lookup k).isSome := by
  induction a generalizing b with
  | nil =>
    obtain rfl : b = [] := List.map_eq_nil_iff.1 h.symm
    rfl
  | cons s a ih =>
    cases b with
    | nil => cases h
    | cons t b =>
      obtain ⟨k', v⟩ := s
      obtain ⟨k'', w⟩ := t
      obtain ⟨hkey, htail⟩ := List.cons.inj h
      obtain rfl : k' = k'' := hkey
      rw [List.lookup_cons, List.lookup_cons]
      cases k == k' with
      | true => rfl
      | false => exact ih htail

/-- The flags that are read, unless a minus sign is the last of them. -/
def endFlags (written : WrittenFlags) : Reading WrittenFlags := do
  match written.getLast? with
  | some (none, span) => refuse .flagDanglingNegation span
  | _ => return written

/-- The flag that a character is for, or the minus sign. -/
def flag? (c : Char) : Option (Option Flag) :=
  if c = '-' then some none else (Flag.lettered.lookup c).map some

section ReadFlags

variable {n : Nat} {written : WrittenFlags} {c : Char} {cs : List Char} {flag : Option Flag}

theorem readFlags_of_stop (h : i.rest = c :: cs) (hc : c = ':' ∨ c = ')') :
    readFlags (n + 1) written i = endFlags written i := by
  rw [readFlags, run_peek_bind, h, List.head?_cons]
  dsimp only
  rw [if_pos hc]
  rfl

theorem readFlags_of_unknown (h : i.rest = c :: cs) (hc : ¬(c = ':' ∨ c = ')'))
    (hflag : flag? c = none) : ∃ e, readFlags (n + 1) written i = .error e := by
  rw [readFlags, run_peek_bind, h, List.head?_cons]
  dsimp only
  unfold flag? at hflag
  rw [if_neg hc, run_nextSpan_bind]
  split at hflag
  · cases hflag
  · next hminus =>
    rw [if_neg hminus, Option.map_eq_none_iff.1 hflag]
    exact ⟨_, rfl⟩

/-- What is read behind a flag. -/
def readFlagsBehind (n : Nat) (written : WrittenFlags) (span : Span) (flag : Option Flag) :
    Reading WrittenFlags := do
  match written.lookup flag with
  | some earlier =>
    throw ⟨if flag.isNone then .flagRepeatedNegation else .flagDuplicate, span, some earlier⟩
  | none =>
    if ← advance then readFlags n (written ++ [(flag, span)])
    else refuse .flagsEnd (← pointHere)

theorem readFlags_of_flag (h : i.rest = c :: cs) (hc : ¬(c = ':' ∨ c = ')'))
    (hflag : flag? c = some flag) :
    readFlags (n + 1) written i = readFlagsBehind n written ⟨i.place, i.next.place⟩ flag i := by
  rw [readFlags, run_peek_bind, h, List.head?_cons]
  dsimp only
  unfold flag? at hflag
  rw [if_neg hc, run_nextSpan_bind]
  split at hflag
  · next hminus =>
    cases hflag
    rw [if_pos hminus]
    rfl
  · next hminus =>
    obtain ⟨flag, hlookup, rfl⟩ := Option.map_eq_some_iff.1 hflag
    rw [if_neg hminus, hlookup]
    rfl

end ReadFlags

theorem of_endFlags {a b : WrittenFlags} {i' : Input} (h : endFlags a i = .ok (b, i')) : i' = i := by
  unfold endFlags at h
  generalize a.getLast? = last at h
  cases last with
  | none =>
    cases h
    rfl
  | some s =>
    obtain ⟨flag, span⟩ := s
    cases flag with
    | none => cases h
    | some flag =>
      cases h
      rfl

theorem endFlags_agrees {a b : WrittenFlags} (h : Joined closed i j) (hab : SameFlags a b) :
    Agrees closed SameFlags (endFlags a i) (endFlags b j) := by
  have hlast : a.getLast?.map Prod.fst = b.getLast?.map Prod.fst := by
    rw [← List.getLast?_map, ← List.getLast?_map, hab]
  unfold endFlags
  generalize a.getLast? = last at hlast ⊢
  generalize b.getLast? = last' at hlast ⊢
  cases last with
  | none =>
    cases last' with
    | none => exact .joined hab h
    | some t => cases hlast
  | some s =>
    cases last' with
    | none => cases hlast
    | some t =>
      obtain ⟨flag, span⟩ := s
      obtain ⟨flag', span'⟩ := t
      obtain rfl : flag = flag' := Option.some.inj hlast
      cases flag with
      | none => exact agrees_error _ _ _ _
      | some flag => exact .joined hab h

theorem stopsAtClosing_readFlags (n : Nat) (written : WrittenFlags) (q : Place) (spaced : Bool) :
    StopsAtClosing true (readFlags n written ⟨closing, q, spaced⟩) := by
  intro read j h
  cases n with
  | zero =>
    cases h
    exact ⟨rfl, rfl⟩
  | succ n =>
    have hclosing : (⟨closing, q, spaced⟩ : Input).rest = ')' :: ['\\', 'z'] := rfl
    rw [readFlags_of_stop hclosing (.inr rfl)] at h
    rw [of_endFlags h]
    exact ⟨rfl, rfl⟩

theorem readFlags_agrees {n m : Nat} {a b : WrittenFlags} (h : Joined closed i j)
    (hne : i.rest ≠ []) (hn : i.rest.length < n) (hm : j.rest.length < m) (hab : SameFlags a b) :
    Agrees closed SameFlags (readFlags n a i) (readFlags m b j) ∨
      (∃ e, readFlags n a i = .error e) ∧ StopsAtClosing closed (readFlags m b j) := by
  induction n generalizing m i j a b with
  | zero => exact absurd hn (Nat.not_lt_zero _)
  | succ n ih =>
    obtain ⟨m, rfl⟩ : ∃ k, m = k + 1 := Nat.exists_eq_succ_of_ne_zero (by omega)
    cases hrest : i.rest with
    | nil => exact absurd hrest hne
    | cons c cs =>
      have hrest' := h.rest_cons hrest
      by_cases hstop : c = ':' ∨ c = ')'
      · rw [readFlags_of_stop hrest hstop, readFlags_of_stop hrest' hstop]
        exact .inl (endFlags_agrees h hab)
      cases hflag : flag? c with
      | none =>
        obtain ⟨e, he⟩ : ∃ e, readFlags (n + 1) a i = .error e :=
          readFlags_of_unknown hrest hstop hflag
        obtain ⟨e', he'⟩ : ∃ e, readFlags (m + 1) b j = .error e :=
          readFlags_of_unknown hrest' hstop hflag
        rw [he, he']
        exact .inl (agrees_error _ _ _ _)
      | some flag =>
        rw [readFlags_of_flag hrest hstop hflag, readFlags_of_flag hrest' hstop hflag]
        unfold readFlagsBehind
        have hlookup := isSome_lookup_eq hab flag
        cases ha : a.lookup flag with
        | some earlier =>
          rw [ha] at hlookup
          obtain ⟨earlier', hb⟩ := Option.isSome_iff_exists.1 hlookup.symm
          rw [hb]
          exact .inl (agrees_error _ _ _ _)
        | none =>
          rw [ha] at hlookup
          rw [Option.isNone_iff_eq_none.1 (Option.isSome_eq_false_iff.1 hlookup.symm)]
          have hi := Input.length_next_lt hne
          have hj := Input.length_next_lt (h.rest_ne_nil hne)
          have hnext := h.next hne
          dsimp only
          rw [run_advance_bind, run_advance_bind]
          generalize ha' : a ++ [(flag, (⟨i.place, i.next.place⟩ : Span))] = a'
          generalize hb' : b ++ [(flag, (⟨j.place, j.next.place⟩ : Span))] = b'
          have hab' : SameFlags a' b' := by
            rw [SameFlags, ← ha', ← hb', List.map_append, List.map_append,
              show a.map Prod.fst = b.map Prod.fst from hab]
            rfl
          generalize i.next = i' at hnext hi ⊢
          generalize j.next = j' at hnext hj ⊢
          cases hnext with
          | inside d ds p q spaced =>
            exact ih (.inside d ds p q spaced) (List.cons_ne_nil d ds) (by omega) (by omega) hab'
          | ended p q spaced => exact .inl (agrees_error _ _ _ _)
          | behind hclosed p q spaced =>
            subst hclosed
            exact .inr ⟨⟨_, rfl⟩, stopsAtClosing_readFlags _ _ _ _⟩

/-! ## Names -/

/-- The names differ in where they stand only. -/
def SameNames (a b : GroupNames) : Prop := a.map Prod.fst = b.map Prod.fst

section GroupName

variable {n : Nat} {read : List Char} {c : Char} {cs : List Char}

theorem groupName_of_end (h : i.rest = []) :
    groupName (n + 1) read i = .error ⟨.groupNameUnclosed, .point i.place, none⟩ := by
  rw [groupName, run_peek_bind, h]
  rfl

theorem groupName_of_close (h : i.rest = '>' :: cs) :
    groupName (n + 1) read i = .ok (read.reverse, i) := by
  rw [groupName, run_peek_bind, h]
  rfl

theorem groupName_of_char (h : i.rest = c :: cs) (hc : c ≠ '>') :
    groupName (n + 1) read i =
      if isNameChar read.isEmpty c = true then groupName n (c :: read) i.next
      else .error ⟨.groupNameInvalid, ⟨i.place, i.next.place⟩, none⟩ := by
  rw [groupName, run_peek_bind, h, List.head?_cons]
  simp only
  cases isNameChar read.isEmpty c <;> rfl

/-- If the closing parenthesis were a part of a name, it would be lost. -/
theorem lost_groupName (hn : 0 < n) (read : List Char) (q : Place) (spaced : Bool) :
    Lost true (groupName n read ⟨closing, q, spaced⟩) := by
  obtain ⟨n, rfl⟩ := Nat.exists_eq_succ_of_ne_zero (Nat.ne_of_gt hn)
  have hclosing : (⟨closing, q, spaced⟩ : Input).rest = ')' :: ['\\', 'z'] := rfl
  rw [groupName_of_char hclosing (by decide)]
  split
  · exact (advances_groupName _ _).lost (not_mem_next_closing q spaced)
  · exact lost_error _ _

theorem groupName_agrees {m : Nat} (h : Joined closed i j) (hn : i.rest.length < n)
    (hm : j.rest.length < m) (read : List Char) :
    Agrees closed (fun a b => a = b) (groupName n read i) (groupName m read j) := by
  induction n generalizing m i j read with
  | zero => exact absurd hn (Nat.not_lt_zero _)
  | succ n ih =>
    obtain ⟨m, rfl⟩ : ∃ k, m = k + 1 := Nat.exists_eq_succ_of_ne_zero (by omega)
    cases hrest : i.rest with
    | nil =>
      rw [groupName_of_end hrest]
      rcases h.rest_nil hrest with hnil | ⟨hclosed, hclosing⟩
      · rw [groupName_of_end hnil]
        exact agrees_error _ _ _ _
      · subst hclosed
        obtain ⟨rest, q, spaced⟩ := j
        obtain rfl : rest = closing := hclosing
        exact .refused _ (lost_groupName (Nat.succ_pos m) _ _ _)
    | cons c cs =>
      have hne : i.rest ≠ [] := hrest ▸ List.cons_ne_nil c cs
      have hrest' := h.rest_cons hrest
      have hi := Input.length_next_lt hne
      have hj := Input.length_next_lt (h.rest_ne_nil hne)
      by_cases hc : c = '>'
      · subst hc
        rw [groupName_of_close hrest, groupName_of_close hrest']
        exact .joined rfl h
      · rw [groupName_of_char hrest hc, groupName_of_char hrest' hc]
        split
        · exact ih (h.next hne) (by omega) (by omega) _
        · exact agrees_error _ _ _ _

/-- The angle bracket stays next. -/
theorem head?_groupName {name : List Char} {i' : Input} (hn : i.rest.length < n)
    (h : groupName n read i = .ok (name, i')) : i'.rest.head? = some '>' := by
  induction n generalizing i read with
  | zero => exact absurd hn (Nat.not_lt_zero _)
  | succ n ih =>
    cases hrest : i.rest with
    | nil =>
      rw [groupName_of_end hrest] at h
      cases h
    | cons c cs =>
      by_cases hc : c = '>'
      · subst hc
        rw [groupName_of_close hrest] at h
        cases h
        rw [hrest]
        rfl
      · rw [groupName_of_char hrest hc] at h
        split at h
        · have hi := Input.length_next_lt (hrest ▸ List.cons_ne_nil c cs : i.rest ≠ [])
          exact ih (by omega) h
        · cases h

end GroupName

theorem readGroupName_agrees (h : Joined closed i j) {names names' : GroupNames}
    (hnames : SameNames names names') :
    Agrees closed SameNames (readGroupName names i) (readGroupName names' j) := by
  unfold readGroupName
  rw [run_here_bind, run_get_bind, run_here_bind, run_get_bind]
  refine (groupName_agrees h (Nat.lt_succ_self _) (Nat.lt_succ_self _) []).bind_of_run ?_ ?_
  · refine fun name => (advances_spanFrom _).bind fun span => advances_advance.bind fun _ =>
      .ite (advances_refuse_bind _ _ _) ?_
    split
    · exact advances_throw _
    · exact advances_pure _
  · rintro name _ i' j' hi' - rfl hij
    have hne : i'.rest ≠ [] := by
      intro hnil
      have hhead := head?_groupName (Nat.lt_succ_self _) hi'
      rw [hnil] at hhead
      cases hhead
    rw [run_spanFrom_bind, run_advance_bind, run_spanFrom_bind, run_advance_bind]
    refine .ite Iff.rfl (fun _ => agrees_error _ _ _ _) fun _ => ?_
    have hlookup := isSome_lookup_eq hnames name
    dsimp only
    cases ha : names.lookup name with
    | some earlier =>
      rw [ha] at hlookup
      obtain ⟨earlier', hb⟩ := Option.isSome_iff_exists.1 hlookup.symm
      rw [hb]
      exact agrees_error _ _ _ _
    | none =>
      rw [ha] at hlookup
      rw [Option.isNone_iff_eq_none.1 (Option.isSome_eq_false_iff.1 hlookup.symm)]
      refine .joined ?_ (hij.next hne)
      change name :: names.map Prod.fst = name :: names'.map Prod.fst
      rw [show names.map Prod.fst = names'.map Prod.fst from hnames]

/-! ## Openings -/

/-- The openings differ in where names stand only. -/
inductive Opening.Same : Opening → Opening → Prop where
  | flags (change : FlagChange) : Same (.flags change) (.flags change)
  | plain (change : FlagChange) : Same (.plain change) (.plain change)
  | capturing : Same .capturing .capturing
  | named {names names' : GroupNames} (h : SameNames names names') :
      Same (.named names) (.named names')

/-- What flags open, given the sign that ends them. -/
def flagsOpening (inside : Span) (written : WrittenFlags) (closes : Bool) : Reading Opening := do
  if !closes then return .plain (.ofWritten written)
  if written.isEmpty then refuse .repetitionMissing inside
  return .flags (.ofWritten written)

/-- What is read behind flags. -/
def endFlagsOpening (inside : Span) (written : WrittenFlags) : Reading Opening := do
  let closes := (← peek) = some ')'
  let _ ← advance
  flagsOpening inside written closes

/-- What is read of flags that are behind the question mark of a group. -/
def readFlagsOpening (whole inside : Span) : Reading Opening := do
  if ← atEnd then refuse .groupUnclosed whole
  endFlagsOpening inside (← readFlags ((← get).rest.length + 1) [])

/-- What is read behind the parenthesis of a group that does not look around. -/
def readOpeningFrom (whole : Span) (names : GroupNames) : Reading Opening := do
  let inside ← pointHere
  if ← accept ['?', 'P', '<'] then return .named (← readGroupName names)
  else if ← accept ['?', '<'] then return .named (← readGroupName names)
  else if ← accept ['?'] then readFlagsOpening whole inside
  else return .capturing

section ReadOpening

variable {names names' : GroupNames}

theorem readOpening_of_lookAround {beginning : List Char}
    (h : lookArounds.find? (·.isPrefixOf i.next.skipBlanks.rest) = some beginning) :
    ∃ e, readOpening names i = .error e := by
  unfold readOpening
  rw [run_nextSpan_bind, run_advance_bind, run_skipBlanks_bind, run_get_bind]
  dsimp only
  rw [h]
  dsimp only
  rw [run_accept_bind]
  exact ⟨_, rfl⟩

theorem readOpening_of_other
    (h : lookArounds.find? (·.isPrefixOf i.next.skipBlanks.rest) = none) :
    readOpening names i =
      readOpeningFrom ⟨i.place, i.next.place⟩ names i.next.skipBlanks := by
  unfold readOpening
  rw [run_nextSpan_bind, run_advance_bind, run_skipBlanks_bind, run_get_bind]
  dsimp only
  rw [h]
  rfl

theorem Joined.find?_lookArounds_eq (h : Joined closed i j) :
    lookArounds.find? (·.isPrefixOf j.rest) = lookArounds.find? (·.isPrefixOf i.rest) := by
  unfold lookArounds
  rw [List.find?_cons, List.find?_cons, List.find?_cons, List.find?_cons,
    h.isPrefixOf_eq (by decide), h.isPrefixOf_eq (by decide), h.isPrefixOf_eq (by decide),
    h.isPrefixOf_eq (by decide)]
  rfl

/-- A sign that ends flags stays next. -/
theorem rest_ne_nil_of_readFlags {n : Nat} {a b : WrittenFlags} {i' : Input}
    (hn : i.rest.length < n) (hne : i.rest ≠ []) (h : readFlags n a i = .ok (b, i')) :
    i'.rest ≠ [] := by
  induction n generalizing i a with
  | zero => exact absurd hn (Nat.not_lt_zero _)
  | succ n ih =>
    cases hrest : i.rest with
    | nil => exact absurd hrest hne
    | cons c cs =>
      by_cases hstop : c = ':' ∨ c = ')'
      · rw [readFlags_of_stop hrest hstop] at h
        rw [of_endFlags h]
        exact hne
      cases hflag : flag? c with
      | none =>
        obtain ⟨e, he⟩ : ∃ e, readFlags (n + 1) a i = .error e :=
          readFlags_of_unknown hrest hstop hflag
        rw [he] at h
        cases h
      | some flag =>
        rw [readFlags_of_flag hrest hstop hflag] at h
        unfold readFlagsBehind at h
        have hi := Input.length_next_lt hne
        cases ha : a.lookup flag with
        | some earlier =>
          rw [ha] at h
          cases h
        | none =>
          rw [ha] at h
          dsimp only at h
          rw [run_advance_bind] at h
          cases hnext : i.next.rest with
          | nil =>
            rw [hnext] at h
            cases h
          | cons d ds =>
            rw [hnext] at h
            exact ih (by omega) (hnext ▸ List.cons_ne_nil d ds) h

/-- What goes on from the closing parenthesis and loses it, does so behind a reader that stops in
front of it. -/
theorem StopsAtClosing.bind {y : Reading α} {g : α → Reading β} (h : StopsAtClosing closed (y j))
    (hg : ∀ b q spaced, Lost true (g b ⟨closing, q, spaced⟩)) : Lost closed ((y >>= g) j) := by
  rw [run_bind]
  cases hy : y j with
  | error e => exact lost_error _ _
  | ok r =>
    obtain ⟨b, rest, q, spaced⟩ := r
    obtain ⟨rfl, rfl : rest = closing⟩ := h _ _ hy
    exact hg b q spaced

theorem advances_flagsOpening (inside : Span) (written : WrittenFlags) (closes : Bool) :
    Advances (flagsOpening inside written closes) :=
  .ite (advances_pure _) (.ite (advances_refuse_bind _ _ _) (advances_pure _))

theorem advances_endFlagsOpening (inside : Span) (written : WrittenFlags) :
    Advances (endFlagsOpening inside written) :=
  advances_peek.bind fun _ => advances_advance.bind fun _ => advances_flagsOpening _ _ _

theorem lost_endFlagsOpening (inside : Span) (written : WrittenFlags) (q : Place) (spaced : Bool) :
    Lost true (endFlagsOpening inside written ⟨closing, q, spaced⟩) :=
  lost_advance (fun _ => advances_flagsOpening inside written true) q spaced

theorem endFlagsOpening_agrees (h : Joined closed i j) (hne : i.rest ≠ []) (inside inside' : Span)
    {a b : WrittenFlags} (hab : SameFlags a b) :
    Agrees closed Opening.Same (endFlagsOpening inside a i) (endFlagsOpening inside' b j) := by
  have hempty : a.isEmpty = b.isEmpty := by
    cases a with
    | nil => rw [List.map_eq_nil_iff.1 hab.symm]
    | cons s a =>
      cases b with
      | nil => cases hab
      | cons t b => rfl
  have hhead : j.rest.head? = i.rest.head? := by
    cases hrest : i.rest with
    | nil => exact absurd hrest hne
    | cons c cs => rw [h.rest_cons hrest, List.head?_cons, List.head?_cons]
  unfold endFlagsOpening flagsOpening
  rw [run_peek_bind, run_advance_bind, run_peek_bind, run_advance_bind, hhead, hempty,
    FlagChange.ofWritten_eq hab]
  refine .ite Iff.rfl (fun _ => .joined (.plain _) (h.next hne)) fun _ => ?_
  exact .ite Iff.rfl (fun _ => agrees_error _ _ _ _) fun _ => .joined (.flags _) (h.next hne)

theorem readFlagsOpening_agrees (h : Joined closed i j) (whole inside whole' inside' : Span) :
    Agrees closed Opening.Same (readFlagsOpening whole inside i)
      (readFlagsOpening whole' inside' j) := by
  unfold readFlagsOpening
  refine .unlessEnd h (fun _ => ⟨_, rfl⟩) (fun _ => ⟨_, rfl⟩) ?_ ?_
  · intro q spaced
    change Lost true (((get : Reading Input) >>= _) _)
    rw [run_get_bind]
    exact (stopsAtClosing_readFlags _ _ q spaced).bind fun _ => lost_endFlagsOpening _ _
  · intro c cs p q spaced
    have hhere : Joined closed ⟨c :: cs, p, spaced⟩ ⟨c :: (cs ++ behind closed), q, spaced⟩ :=
      .inside c cs p q spaced
    have hne := List.cons_ne_nil c cs
    change Agrees closed _ (((get : Reading Input) >>= _) _) (((get : Reading Input) >>= _) _)
    rw [run_get_bind, run_get_bind]
    rcases readFlags_agrees hhere hne (Nat.lt_succ_self _) (Nat.lt_succ_self _) rfl with
      hflags | ⟨⟨e, he⟩, hstops⟩
    · refine hflags.bind_of_run (advances_endFlagsOpening _) fun a b i' j' hi' hj' hab hij => ?_
      exact endFlagsOpening_agrees hij (rest_ne_nil_of_readFlags (Nat.lt_succ_self _) hne hi') _ _
        hab
    · rw [run_bind_error _ he]
      exact .refused e (hstops.bind fun _ => lost_endFlagsOpening _ _)

theorem readOpeningFrom_agrees (h : Joined closed i j) (whole whole' : Span)
    (hnames : SameNames names names') :
    Agrees closed Opening.Same (readOpeningFrom whole names i)
      (readOpeningFrom whole' names' j) := by
  have hnamed {i j : Input} (h : Joined closed i j) : Agrees closed Opening.Same
      ((do return .named (← readGroupName names) : Reading Opening) i)
      ((do return .named (← readGroupName names') : Reading Opening) j) :=
    (readGroupName_agrees h hnames).bind (fun _ => advances_pure _) fun _ _ _ _ hab hij =>
      .joined (.named hab) hij
  unfold readOpeningFrom
  rw [run_pointHere_bind, run_pointHere_bind]
  refine accept_bind_agrees h (by decide) fun b i j h => .ite Iff.rfl (fun _ => hnamed h) fun _ => ?_
  refine accept_bind_agrees h (by decide) fun b i j h => .ite Iff.rfl (fun _ => hnamed h) fun _ => ?_
  refine accept_bind_agrees h (by decide) fun b i j h => .ite Iff.rfl (fun _ => ?_) fun _ => ?_
  · exact readFlagsOpening_agrees h _ _ _ _
  · exact .joined .capturing h

theorem readOpening_agrees (h : Joined closed i j) (hne : i.rest ≠ [])
    (hnames : SameNames names names') :
    Agrees closed Opening.Same (readOpening names i) (readOpening names' j) := by
  have hblanks := (h.next hne).skipBlanks
  have hfind := hblanks.find?_lookArounds_eq
  cases hi : lookArounds.find? (·.isPrefixOf i.next.skipBlanks.rest) with
  | some beginning =>
    obtain ⟨e, he⟩ : ∃ e, readOpening names i = .error e := readOpening_of_lookAround hi
    obtain ⟨e', he'⟩ : ∃ e, readOpening names' j = .error e :=
      readOpening_of_lookAround (hfind.trans hi)
    rw [he, he']
    exact agrees_error _ _ _ _
  | none =>
    rw [readOpening_of_other hi, readOpening_of_other (hfind.trans hi)]
    exact readOpeningFrom_agrees hblanks _ _ hnames

end ReadOpening

end Pattern

end Switchboard
