import Switchboard.Proofs.Pattern.Brackets
/-!
# Repetitions with something behind the pattern

A sign that repeats a part, and the counts in braces behind it, are read alike, whatever is behind
the pattern (`readRepetition_agrees`). Counts that the pattern ends in are not closed by what is
behind it.
-/

namespace Switchboard

namespace Pattern

open Reading

variable {α β : Type} {closed : Bool} {i j : Input}

/-! ## Counts -/

theorem skipWhite_of_stop (h : i.rest.head?.any Text.isBlank = false) (n : Nat) :
    skipWhite n i = .ok (⟨⟩, i) := by
  cases n with
  | zero => rfl
  | succ n =>
    rw [skipWhite, run_peek_bind, h]
    rfl

theorem skipWhite_of_blank (h : i.rest.head?.any Text.isBlank = true) (n : Nat) :
    skipWhite (n + 1) i = skipWhite n i.next := by
  rw [skipWhite, run_peek_bind, h]
  rfl

/-- Blanks are skipped by both alike, as long as neither runs out of fuel. -/
theorem skipWhite_joined {n m : Nat} (h : Joined closed i j) (hn : i.rest.length ≤ n)
    (hm : j.rest.length ≤ m) :
    ∃ i' j', skipWhite n i = .ok (⟨⟩, i') ∧ skipWhite m j = .ok (⟨⟩, j') ∧ Joined closed i' j' := by
  induction n generalizing m i j with
  | zero =>
    have hi : i.rest.head?.any Text.isBlank = false := by
      rw [List.length_eq_zero_iff.1 (Nat.le_zero.1 hn)]
      rfl
    exact ⟨i, j, skipWhite_of_stop hi _,
      skipWhite_of_stop ((h.any_head? (by decide)).trans hi) _, h⟩
  | succ n ih =>
    cases hblank : i.rest.head?.any Text.isBlank with
    | false =>
      exact ⟨i, j, skipWhite_of_stop hblank _,
        skipWhite_of_stop ((h.any_head? (by decide)).trans hblank) _, h⟩
    | true =>
      have hne : i.rest ≠ [] := by
        intro hnil
        rw [hnil] at hblank
        cases hblank
      have hi := Input.length_next_lt hne
      have hj := Input.length_next_lt (h.rest_ne_nil hne)
      obtain ⟨m, rfl⟩ : ∃ k, m = k + 1 := Nat.exists_eq_succ_of_ne_zero (by omega)
      rw [skipWhite_of_blank hblank, skipWhite_of_blank ((h.any_head? (by decide)).trans hblank)]
      exact ih (h.next hne) (by omega) (by omega)

theorem readsWhile_digits : ReadsWhile Char.isDigit digits where
  stop n chars i h := by
    cases n with
    | zero => rfl
    | succ n =>
      rw [digits, run_peek_bind]
      cases hc : i.rest.head? with
      | none => rfl
      | some c =>
        rw [hc, Option.any_some] at h
        simp only [h]
        rfl
  char n chars i c h hc := by
    rw [digits, run_peek_bind, h]
    simp only [hc, if_true]
    rfl

/-- The count that digits make, which were written at a span. -/
def countOf (read : List Char) (span : Span) : Except Fault Nat :=
  let value := read.foldl (fun n c => n * 10 + (c.toNat - '0'.toNat)) 0
  if read.isEmpty then .error ⟨.repetitionCountEmpty, span, none⟩
  else if largestCount < value then .error ⟨.decimalInvalid, span, none⟩
  else .ok value

/-- A count is a matter of its digits; where they stand only matters for its error. -/
theorem sameValue_countOf (read : List Char) (s t : Span) :
    SameValue (countOf read s) (countOf read t) :=
  .ite (sameValue_error _ _) (.ite (sameValue_error _ _) (.refl _))

theorem readCount_eq {i₁ i₂ i₃ : Input} {read : List Char}
    (hbefore : skipWhite i.rest.length i = .ok (⟨⟩, i₁))
    (hread : digits i.rest.length [] i₁ = .ok (read, i₂))
    (hbehind : skipWhite i.rest.length i₂ = .ok (⟨⟩, i₃)) :
    readCount i = .ok (countOf read ⟨i₁.place, i₂.place⟩, i₃) := by
  unfold readCount
  rw [run_get_bind, run_bind_ok i hbefore, run_here_bind, run_bind_ok i₁ hread,
    run_spanFrom_bind, run_bind_ok i₂ hbehind]
  unfold countOf
  dsimp only
  split
  · rfl
  split
  · rfl
  · rfl

/-- A count is read to its end by both. Where it is wrong, that is said later, if at all. -/
theorem readCount_joined (h : Joined closed i j) :
    ∃ low low' i' j', readCount i = .ok (low, i') ∧ readCount j = .ok (low', j') ∧
      SameValue low low' ∧ Joined closed i' j' := by
  obtain ⟨i₁, j₁, hi₁, hj₁, h₁⟩ := skipWhite_joined h (Nat.le_refl _) (Nat.le_refl _)
  have hlen₁ := (advances_skipWhite _ _ _ _ hi₁).length_le
  have hlen₁' := (advances_skipWhite _ _ _ _ hj₁).length_le
  obtain ⟨read, i₂, j₂, hi₂, hj₂, h₂⟩ :=
    readsWhile_digits.joined (by decide) h₁ hlen₁ hlen₁' []
  have hlen₂ := (advances_digits _ _ _ _ _ hi₂).length_le
  have hlen₂' := (advances_digits _ _ _ _ _ hj₂).length_le
  obtain ⟨i₃, j₃, hi₃, hj₃, h₃⟩ := skipWhite_joined h₂ (Nat.le_trans hlen₂ hlen₁)
    (Nat.le_trans hlen₂' hlen₁')
  exact ⟨_, _, i₃, j₃, readCount_eq hi₁ hi₂ hi₃, readCount_eq hj₁ hj₂ hj₃,
    sameValue_countOf _ _ _, h₃⟩

/-- The closing parenthesis is no count. -/
theorem readCount_closing (q : Place) (spaced : Bool) :
    ∃ e, readCount ⟨closing, q, spaced⟩ = .ok (.error e, ⟨closing, q, spaced⟩) :=
  ⟨_, readCount_eq (skipWhite_of_stop (by rfl) _) (readsWhile_digits.stop _ _ _ (by rfl))
    (skipWhite_of_stop (by rfl) _)⟩

theorem lift_bind_agrees {γ : Type} {R : α → β → Prop} {low low' : Except Fault γ}
    {f : γ → Reading α} {g : γ → Reading β} (hlow : SameValue low low')
    (h : ∀ n, low = .ok n → Agrees closed R (f n i) (g n j)) :
    Agrees closed R (((liftM low : Reading γ) >>= f) i) (((liftM low' : Reading γ) >>= g) j) := by
  rw [run_lift_bind, run_lift_bind]
  cases low with
  | error e =>
    cases low' with
    | error e' => exact agrees_error _ _ _ _
    | ok n => cases hlow
  | ok n =>
    obtain rfl := hlow.ok_of_ok rfl
    exact h n rfl

/-- Behind the comma there may be another count, or none. -/
theorem readSecondCount_agrees (h : Joined closed i j) (hne : i.rest ≠ []) (start start' : Place)
    {low low' : Except Fault Nat} (hlow : SameValue low low') :
    Agrees closed (fun a b => a = b) (readSecondCount start low i)
      (readSecondCount start' low' j) := by
  unfold readSecondCount
  refine .goOn h hne (fun _ => ⟨_, rfl⟩) (fun _ => ⟨_, rfl⟩) ?_ ?_
  · -- There is no second count, and no brace, behind the pattern.
    intro q spaced
    obtain ⟨e, he⟩ := readCount_closing q spaced
    have hbrace : (Input.mk closing q spaced).rest.head? ≠ some '\x7d' := by
      change some ')' ≠ some '\x7d'
      decide
    change Lost true ((peek >>= _) _)
    rw [run_peek_bind, if_neg hbrace]
    cases low' with
    | error e' => exact lost_error _ _
    | ok min =>
      rw [run_lift_ok_bind, run_bind_ok _ he]
      exact lost_error _ _
  · intro c cs p q spaced
    have hhere : Joined closed ⟨c :: cs, p, spaced⟩ ⟨c :: (cs ++ behind closed), q, spaced⟩ :=
      .inside c cs p q spaced
    change Agrees closed _ ((peek >>= _) _) ((peek >>= _) _)
    rw [run_peek_bind, run_peek_bind]
    refine .ite Iff.rfl (fun _ => lift_bind_agrees hlow fun _ _ => .joined rfl hhere) fun _ => ?_
    refine lift_bind_agrees hlow fun min _ => ?_
    obtain ⟨max, max', i', j', hi, hj, hmax, hij⟩ := readCount_joined hhere
    rw [run_bind_ok _ hi, run_bind_ok _ hj]
    refine lift_bind_agrees hmax fun max _ => ?_
    rw [run_peek_bind, run_peek_bind]
    exact .ite (not_congr (hij.head?_eq_iff (by decide)).symm) (fun _ => agrees_error _ _ _ _)
      fun _ => .joined rfl hij

theorem readCountsFrom_agrees (h : Joined closed i j) (start start' : Place) :
    Agrees closed (fun a b => a = b) (readCountsFrom start i) (readCountsFrom start' j) := by
  unfold readCountsFrom
  obtain ⟨low, low', i', j', hi, hj, hlow, hij⟩ := readCount_joined h
  rw [run_bind_ok _ hi, run_bind_ok _ hj, run_peek_bind, run_peek_bind]
  cases hij with
  | inside c cs p q spaced =>
    have hhere : Joined closed ⟨c :: cs, p, spaced⟩ ⟨c :: (cs ++ behind closed), q, spaced⟩ :=
      .inside c cs p q spaced
    rw [List.head?_cons, List.head?_cons]
    by_cases hcomma : c = ','
    · subst hcomma
      exact readSecondCount_agrees hhere (List.cons_ne_nil _ _) _ _ hlow
    · simp only
      refine lift_bind_agrees hlow fun count _ => ?_
      exact .ite Iff.rfl (fun _ => agrees_error _ _ _ _) fun _ => .joined rfl hhere
  | ended p q spaced => exact agrees_error _ _ _ _
  | behind hclosed p q spaced =>
    refine .refused _ ?_
    cases low' with
    | error e => exact lost_error _ _
    | ok count => exact lost_error _ _

/-- What is behind the pattern holds no counts. -/
theorem readCountsFrom_closing (start q : Place) (spaced : Bool) :
    ∃ e, readCountsFrom start ⟨closing, q, spaced⟩ = .error e := by
  obtain ⟨e, he⟩ := readCount_closing q spaced
  exact ⟨e, run_bind_ok _ he _⟩

/-- **Counts in braces are read alike,** whatever is behind the pattern. -/
theorem readCounts_agrees (h : Joined closed i j) (hne : i.rest ≠ []) (start start' : Place) :
    Agrees closed (fun a b => a = b) (readCounts start i) (readCounts start' j) := by
  rw [readCounts_eq, readCounts_eq]
  refine .goOn h hne (fun _ => ⟨_, rfl⟩) (fun _ => ⟨_, rfl⟩) ?_ ?_
  · intro q spaced
    obtain ⟨e, he⟩ := readCountsFrom_closing start' q spaced
    change Lost true (readCountsFrom start' _)
    rw [he]
    exact lost_error _ _
  · exact fun c cs p q spaced => readCountsFrom_agrees (.inside c cs p q spaced) _ _

theorem head?_readSecondCount {start : Place} {low : Except Fault Nat} {counts : Nat × Option Nat}
    {i' : Input} (h : readSecondCount start low i = .ok (counts, i')) :
    i'.rest.head? = some '\x7d' := by
  unfold readSecondCount at h
  rw [run_advanceOverBlanks_bind] at h
  split at h
  · cases h
  change (peek >>= _) _ = _ at h
  rw [run_peek_bind] at h
  split at h
  · next hbrace =>
    obtain ⟨min, i₁, hlow, h⟩ := ok_of_bind_ok h
    cases low with
    | error e => cases hlow
    | ok low =>
      cases hlow
      cases h
      exact hbrace
  · obtain ⟨min, i₁, -, h⟩ := ok_of_bind_ok h
    obtain ⟨max, i₂, -, h⟩ := ok_of_bind_ok h
    obtain ⟨max, i₃, -, h⟩ := ok_of_bind_ok h
    rw [run_peek_bind] at h
    split at h
    · cases h
    · next hbrace =>
      cases h
      exact Decidable.not_not.1 hbrace

/-- The closing brace stays next. -/
theorem head?_readCounts {start : Place} {counts : Nat × Option Nat} {i' : Input}
    (h : readCounts start i = .ok (counts, i')) : i'.rest.head? = some '\x7d' := by
  rw [readCounts_eq, run_advanceOverBlanks_bind] at h
  split at h
  · cases h
  unfold readCountsFrom at h
  obtain ⟨low, i₁, -, h⟩ := ok_of_bind_ok h
  rw [run_peek_bind] at h
  obtain ⟨rest, p, spaced⟩ := i₁
  cases rest with
  | nil => cases h
  | cons c cs =>
    rw [List.head?_cons] at h
    by_cases hcomma : c = ','
    · subst hcomma
      exact head?_readSecondCount h
    · simp only at h
      rw [run_lift_bind] at h
      cases low with
      | error e => cases h
      | ok count =>
        change (if c ≠ '\x7d' then _ else _ : Reading _) _ = _ at h
        split at h
        · cases h
        · next hbrace =>
          cases h
          exact congrArg some (Decidable.not_not.1 hbrace)

/-! ## Repetitions -/

/-- What is read behind the counts of a repetition of a part, with the parts before it. -/
def readRepetitionFrom (sign : Char) (start : Place) (body : Node) (before : List Node)
    (counts : Nat × Option Nat) : Reading (List Node) := do
  if sign = '\x7b' then
    let _ ← advanceOverBlanks
  else
    let _ ← advance
  let isLazy ← readLazy
  let stop ← here
  if counts.2.any (· < counts.1) then refuse .repetitionCountInvalid ⟨start, stop⟩
  return .repetition ⟨body.span.start, stop⟩ body counts.1 counts.2 (!isLazy) :: before

/-- The counts that a sign asks for, or that are read. -/
def countsOfSign (sign : Char) (start : Place) : Reading (Nat × Option Nat) :=
  if sign = '?' then pure (0, some 1)
  else if sign = '*' then pure (0, none)
  else if sign = '+' then pure (1, none)
  else readCounts start

theorem readRepetition_cons (sign : Char) (body : Node) (before : List Node) (i : Input) :
    readRepetition sign (body :: before) i =
      if body.isRepeatable = true then
        (countsOfSign sign i.place >>= readRepetitionFrom sign i.place body before) i
      else .error ⟨.repetitionMissing, .point i.place, none⟩ := by
  unfold readRepetition countsOfSign
  rw [run_here_bind]
  dsimp only
  cases body.isRepeatable with
  | false => rfl
  | true =>
    rw [if_neg (by decide), if_pos rfl]
    by_cases hoptional : sign = '?'
    · rw [if_pos hoptional, if_pos hoptional]
      rfl
    by_cases hany : sign = '*'
    · rw [if_neg hoptional, if_neg hoptional, if_pos hany, if_pos hany]
      rfl
    by_cases hsome : sign = '+'
    · rw [if_neg hoptional, if_neg hoptional, if_neg hany, if_neg hany, if_pos hsome,
        if_pos hsome]
      rfl
    · rw [if_neg hoptional, if_neg hoptional, if_neg hany, if_neg hany, if_neg hsome,
        if_neg hsome]
      rfl

/-- The parts differ in spans only. -/
def Node.AllSame (parts parts' : List Node) : Prop :=
  parts.map Node.unplaced = parts'.map Node.unplaced

/-- The sign for laziness is stepped over if it is there. -/
theorem advances_readRepetitionFrom (sign : Char) (start : Place) (body : Node)
    (before : List Node) (counts : Nat × Option Nat) :
    Advances (readRepetitionFrom sign start body before counts) := by
  unfold readRepetitionFrom
  refine .ite (advances_advanceOverBlanks.bind fun _ => ?_) (advances_advance.bind fun _ => ?_)
  all_goals
    exact advances_readLazy.bind fun _ => advances_here.bind fun _ =>
      .ite (advances_refuse_bind _ _ _) (advances_pure _)

section Agree

variable {start start' : Place} {body body' : Node} {before before' : List Node}

theorem readRepetitionFrom_agrees (h : Joined closed i j) (hne : i.rest ≠ [])
    (hbody : body.Same body') (hbefore : Node.AllSame before before') (sign : Char)
    (counts : Nat × Option Nat) :
    Agrees closed Node.AllSame (readRepetitionFrom sign start body before counts i)
      (readRepetitionFrom sign start' body' before' counts j) := by
  obtain ⟨min, max⟩ := counts
  have hsame (isLazy : Bool) (stop stop' : Place) : Node.AllSame
      (.repetition ⟨body.span.start, stop⟩ body min max (!isLazy) :: before)
      (.repetition ⟨body'.span.start, stop'⟩ body' min max (!isLazy) :: before') := by
    change Node.repetition .none body.unplaced min max _ :: before.map Node.unplaced =
      Node.repetition .none body'.unplaced min max _ :: before'.map Node.unplaced
    rw [show body.unplaced = body'.unplaced from hbody,
      show before.map Node.unplaced = before'.map Node.unplaced from hbefore]
  unfold readRepetitionFrom readLazy
  refine .ite Iff.rfl (fun _ => ?_) fun _ => ?_
  · rw [run_advanceOverBlanks_bind, run_advanceOverBlanks_bind]
    refine accept_bind_agrees (h.next hne).skipBlanks (by decide) fun isLazy i j hij => ?_
    rw [run_here_bind, run_here_bind]
    exact .ite Iff.rfl (fun _ => agrees_error _ _ _ _) fun _ => .joined (hsame _ _ _) hij
  · rw [run_advance_bind, run_advance_bind]
    refine accept_bind_agrees (h.next hne) (by decide) fun isLazy i j hij => ?_
    rw [run_here_bind, run_here_bind]
    exact .ite Iff.rfl (fun _ => agrees_error _ _ _ _) fun _ => .joined (hsame _ _ _) hij

theorem countsOfSign_agrees (h : Joined closed i j) (hne : i.rest ≠ []) (sign : Char) :
    Agrees closed (fun a b => a = b) (countsOfSign sign start i) (countsOfSign sign start' j) :=
  .ite Iff.rfl (fun _ => .joined rfl h) fun _ => .ite Iff.rfl (fun _ => .joined rfl h) fun _ =>
    .ite Iff.rfl (fun _ => .joined rfl h) fun _ => readCounts_agrees h hne _ _

/-- Something is left for the repetition to step over. -/
theorem rest_ne_nil_of_countsOfSign {sign : Char} {counts : Nat × Option Nat} {i' : Input}
    (hne : i.rest ≠ []) (h : countsOfSign sign start i = .ok (counts, i')) : i'.rest ≠ [] := by
  unfold countsOfSign at h
  split at h
  · cases h
    exact hne
  split at h
  · cases h
    exact hne
  split at h
  · cases h
    exact hne
  · intro hnil
    have hbrace := head?_readCounts h
    rw [hnil] at hbrace
    cases hbrace

/-- **A repetition is read alike,** whatever is behind the pattern. -/
theorem readRepetition_agrees (h : Joined closed i j) (hne : i.rest ≠ []) (sign : Char)
    {parts parts' : List Node} (hparts : Node.AllSame parts parts') :
    Agrees closed Node.AllSame (readRepetition sign parts i) (readRepetition sign parts' j) := by
  cases parts with
  | nil =>
    obtain rfl : parts' = [] := List.map_eq_nil_iff.1 hparts.symm
    exact agrees_error _ _ _ _
  | cons body before =>
    cases parts' with
    | nil => cases hparts
    | cons body' before' =>
      obtain ⟨hbody, hbefore⟩ := List.cons.inj hparts
      have hrepeatable : body.isRepeatable = body'.isRepeatable := by
        rw [← body.isRepeatable_unplaced, hbody, body'.isRepeatable_unplaced]
      rw [readRepetition_cons, readRepetition_cons, hrepeatable]
      split
      · refine (countsOfSign_agrees h hne sign).bind_of_run
          (advances_readRepetitionFrom _ _ _ _) ?_
        rintro counts _ i' j' hi' hj' rfl hij
        exact readRepetitionFrom_agrees hij (rest_ne_nil_of_countsOfSign hne hi') hbody hbefore _ _
      · exact agrees_error _ _ _ _

end Agree

end Pattern

end Switchboard
