import Switchboard.Pattern.Reader
import Switchboard.Proofs.Pattern.Inputs
/-!
# Reading goes forward

What is left of the input behind any piece of a pattern ends what was left in front of it, and it
is less (`consumes_readPiece`).
-/

namespace Switchboard

namespace Pattern

open Reading

/-! ## Escapes -/

/-- A digit is only looked at here; whoever asked for it steps over it. -/
theorem advances_hexDigit (value : Nat) : Advances (hexDigit value) := by
  unfold hexDigit
  refine advances_peek.bind fun c => ?_
  split
  · exact advances_pure _
  · exact advances_nextSpan.bind fun _ => advances_refuse _ _

theorem advances_hexDigits (n value : Nat) : Advances (hexDigits n value) := by
  induction n generalizing value with
  | zero => exact advances_pure _
  | succ n ih =>
    rw [hexDigits]
    exact advances_advanceOverBlanks.bind fun more =>
      .ite ((advances_hexDigit value).bind ih) (advances_pointHere.bind fun _ => advances_refuse _ _)

/-- The closing brace is not stepped over, and no more digits are read than the fuel allows. -/
theorem advances_hexDigitsInBraces (fuel : Nat) (read : Nat × Nat) :
    Advances (hexDigitsInBraces fuel read) := by
  induction fuel generalizing read with
  | zero => exact advances_pure _
  | succ fuel ih =>
    rw [hexDigitsInBraces]
    exact advances_advanceOverBlanks.bind fun more => advances_peek.bind fun c =>
      .ite ((advances_hexDigit _).bind fun _ => ih _) (advances_pure _)

/-- A number that some character has is read as that character, -/
theorem charOfNumber_of_valid {value : Nat} (h : value.isValidChar) (span : Span) :
    charOfNumber value span = pure (Char.ofNatAux value h) :=
  dif_pos h

/-- and any other one is refused. -/
theorem charOfNumber_of_not_valid {value : Nat} (h : ¬ value.isValidChar) (span : Span) :
    charOfNumber value span = refuse .escapeHexInvalid span :=
  dif_neg h

theorem advances_charOfNumber (value : Nat) (span : Span) : Advances (charOfNumber value span) := by
  by_cases h : value.isValidChar
  · rw [charOfNumber_of_valid h]
    exact advances_pure _
  · rw [charOfNumber_of_not_valid h]
    exact advances_refuse _ _

/-- **A character by its number** ends behind its last digit, or behind the brace. -/
theorem advances_readHex (start : Place) (digits : Nat) : Advances (readHex start digits) := by
  unfold readHex
  refine advances_advanceOverBlanks.bind fun more =>
    .ite (advances_pointHere.bind fun _ => advances_refuse_bind _ _ _) ?_
  refine advances_here.bind fun first => advances_peek.bind fun c => .ite ?_ ?_
  · refine advances_nextSpan.bind fun _ => advances_get.bind fun _ =>
      (advances_hexDigitsInBraces _ _).bind fun read => advances_atEnd.bind fun _ =>
        .ite ((advances_spanFrom _).bind fun _ => advances_refuse_bind _ _ _) ?_
    refine advances_here.bind fun _ => advances_advanceOverBlanks.bind fun _ =>
      .ite ((advances_spanFrom _).bind fun _ => advances_refuse_bind _ _ _) ?_
    exact (advances_charOfNumber _ _).bind fun _ => (advances_spanFrom _).bind fun _ =>
      advances_pure _
  · exact (advances_hexDigit _).bind fun _ => (advances_hexDigits _ _).bind fun _ =>
      advances_advanceOverBlanks.bind fun _ => (advances_spanFrom _).bind fun _ =>
        (advances_charOfNumber _ _).bind fun _ => (advances_spanFrom _).bind fun _ =>
          advances_pure _

/-- Where there is no brace, all is read: the caller finds itself at the end, and refuses. -/
theorem advances_untilBrace (fuel : Nat) (read : List Char) : Advances (untilBrace fuel read) := by
  induction fuel generalizing read with
  | zero => exact advances_pure _
  | succ fuel ih =>
    rw [untilBrace]
    refine advances_advanceOverBlanks.bind fun more => .ite ?_ (advances_pure _)
    refine advances_peek.bind fun c => ?_
    split
    · exact advances_pure _
    · exact ih _
    · exact advances_pure _

/-- **A class by its property** ends behind its one letter, or behind the brace. -/
theorem advances_readProperty (negated : Bool) : Advances (readProperty negated) := by
  unfold readProperty
  refine advances_advanceOverBlanks.bind fun more =>
    .ite (advances_pointHere.bind fun _ => advances_refuse_bind _ _ _) ?_
  refine advances_peek.bind fun c => ?_
  split
  · refine advances_get.bind fun _ => (advances_untilBrace _ _).bind fun _ =>
      advances_atEnd.bind fun _ =>
        .ite (advances_pointHere.bind fun _ => advances_refuse_bind _ _ _) ?_
    exact advances_advance.bind fun _ => advances_pointHere.bind fun _ => advances_pure _
  · exact .ite (advances_nextSpan.bind fun _ => advances_refuse_bind _ _ _)
      (advances_advanceOverBlanks.bind fun _ => advances_pointHere.bind fun _ => advances_pure _)
  · exact advances_pointHere.bind fun _ => advances_refuse _ _

theorem advances_anchorName (fuel : Nat) (read : List Char) : Advances (anchorName fuel read) := by
  induction fuel generalizing read with
  | zero => exact advances_pure _
  | succ fuel ih =>
    rw [anchorName]
    refine advances_peek.bind fun c => ?_
    split
    · exact .ite (advances_advanceOverBlanks.bind fun _ => ih _) (advances_pure _)
    · exact advances_pure _

/-- What was tried can be taken back, to where the reading had been. -/
theorem advances_readAnchorName? (start : Place) : Advances (readAnchorName? start) := by
  unfold readAnchorName?
  refine advances_of_within fun before => ?_
  refine (advances_advanceOverBlanks.within _).bind fun more => .ite
    (((advances_spanFrom _).bind fun _ => advances_refuse_bind _ _ _).within _) ?_
  refine (advances_here.within _).bind fun first => (advances_peek.within _).bind fun c =>
    .ite (.bind (.set before) fun _ => (advances_pure _).within _) (Advances.within ?_ _)
  refine advances_get.bind fun _ => (advances_anchorName _ _).bind fun name =>
    advances_peek.bind fun c =>
      .ite ((advances_spanFrom _).bind fun _ => advances_refuse_bind _ _ _) ?_
  refine advances_here.bind fun last => advances_advance.bind fun _ => ?_
  split
  · exact advances_pure _
  · exact advances_refuse _ _

/-- If no name of a place about words follows, the brace is left to be read as a repetition. -/
theorem advances_readBoundary (start : Place) : Advances (readBoundary start) := by
  unfold readBoundary
  refine (advances_spanFrom _).bind fun _ => advances_peek.bind fun c => .ite ?_ (advances_pure _)
  refine (advances_readAnchorName? start).bind fun anchor => ?_
  split
  · exact (advances_spanFrom _).bind fun _ => advances_pure _
  · exact advances_pure _

/-- By then the escaped character has been stepped over, whatever it stands for. -/
theorem advances_simpleEscape (c : Char) (span : Span) : Advances (simpleEscape c span) := by
  unfold simpleEscape
  refine .ite (advances_pure _) ?_
  split
  · exact advances_pure _
  · exact advances_pure _
  · exact advances_refuse _ _

/-- **A backslash is consumed with what it makes special,** in every one of the ways in which an
escape can go on. -/
theorem consumes_readEscape : Consumes readEscape := by
  unfold readEscape
  refine advances_here.bind_consumes fun start => consumes_advance.bind fun more =>
    .ite ((advances_spanFrom _).bind fun _ => advances_refuse_bind _ _ _) ?_
  refine advances_peek.bind fun c => ?_
  split
  · exact (advances_spanFrom _).bind fun _ => advances_refuse _ _
  refine advances_nextSpan.bind fun _ => .ite (advances_refuse _ _) ?_
  refine .ite (advances_readHex _ _) (.ite (advances_readHex _ _) (.ite (advances_readHex _ _) ?_))
  refine .ite ((advances_readProperty _).bind fun n => ?_) (advances_advance.bind fun _ => ?_)
  · split
    · exact advances_pure _
    · exact advances_pure _
  · split
    · exact advances_pure _
    · exact .ite (advances_readBoundary _) (advances_simpleEscape _ _)

/-! ## Brackets -/

/-- What an item or an end of a range is, is read off the part that it was read as. -/
theorem advances_itemOf (n : Node) : Advances (itemOf n) := by
  unfold itemOf
  split
  · exact advances_pure _
  · exact advances_pure _
  · exact advances_pure _
  · exact advances_refuse _ _

theorem advances_rangeEndOf (n : Node) : Advances (rangeEndOf n) := by
  unfold rangeEndOf
  split
  · exact advances_pure _
  · exact advances_refuse _ _

/-- At the end there is nothing to be read. -/
theorem consumes_readCharacter : Consumes readCharacter := by
  rintro ⟨rest, place, spaced⟩ n i' h
  cases rest with
  | nil =>
    cases h
    exact List.suffix_rfl
  | cons c cs =>
    have hread : Consumes (if c = '\\' then readEscape else do
        let span ← nextSpan
        let _ ← advance
        return .literal ⟨span, c, false⟩) :=
      .ite consumes_readEscape <| advances_nextSpan.bind_consumes fun _ =>
        consumes_advance.bind fun _ => advances_pure _
    refine hread ⟨c :: cs, place, spaced⟩ n i' (Eq.trans ?_ h)
    rw [readCharacter, run_peek_bind]
    by_cases hc : c = '\\'
    · subst hc
      rfl
    · rw [if_neg hc]
      simp only [List.head?_cons]

theorem advances_readCharacter : Advances readCharacter := consumes_readCharacter.advances

/-- What is read behind the first character of an item. -/
def readItemFrom (unclosed : Span) (first : Node) : Reading ClassItem := do
  skipBlanks
  if ← atEnd then refuse .classUnclosed unclosed
  let ahead ← peekOverBlanks
  if (← peek) ≠ some '-' ∨ ahead = some ']' ∨ ahead = some '-' then itemOf first
  else
    if !(← advanceOverBlanks) then refuse .classUnclosed unclosed
    let last ← readCharacter
    let span : Span := ⟨first.span.start, last.span.stop⟩
    let low ← rangeEndOf first
    let high ← rangeEndOf last
    if high.char < low.char then refuse .classRangeInvalid span
    return .range span low high

/-- An item is its first character, and then what follows that. -/
theorem readItem_eq (unclosed : Span) :
    readItem unclosed = readCharacter >>= readItemFrom unclosed := rfl

/-- A sign for a range that turns out to be none is not stepped over. -/
theorem advances_readItemFrom (unclosed : Span) (first : Node) :
    Advances (readItemFrom unclosed first) := by
  unfold readItemFrom
  refine advances_skipBlanks.bind fun _ =>
    advances_atEnd.bind fun _ => .ite (advances_refuse_bind _ _ _) ?_
  refine advances_peekOverBlanks.bind fun ahead => advances_peek.bind fun c =>
    .ite (advances_itemOf _) ?_
  refine advances_advanceOverBlanks.bind fun more => .ite (advances_refuse_bind _ _ _) ?_
  exact advances_readCharacter.bind fun last => (advances_rangeEndOf _).bind fun low =>
    (advances_rangeEndOf _).bind fun high => .ite (advances_refuse_bind _ _ _) (advances_pure _)

/-- So an item consumes at least its first character. -/
theorem consumes_readItem (unclosed : Span) : Consumes (readItem unclosed) :=
  consumes_readCharacter.bind (advances_readItemFrom unclosed)

/-- The name of a class in colons is read or, if it is none, taken back as a whole. -/
theorem advances_readAsciiClass? : Advances readAsciiClass? := by
  unfold readAsciiClass?
  refine advances_of_within fun before => ?_
  have hback : AdvancesWithin before (set before >>= fun _ => pure (none : Option ClassItem)) :=
    .bind (.set before) fun _ => (advances_pure _).within _
  refine ((advances_accept _).within _).bind fun opens =>
    .ite ((advances_pure _).within _) ?_
  refine ((advances_accept _).within _).bind fun negated => (advances_get.within _).bind fun _ =>
    ((advances_accept _).within _).bind fun _ => ((advances_accept _).within _).bind fun closes =>
      .ite ?_ hback
  split
  · exact ((advances_spanFrom _).bind fun _ => advances_pure _).within _
  · exact hback

/-- Signs in front in a bracket stand for themselves, however many there are. -/
theorem advances_readLeadingSigns (start : Place) (fuel : Nat) (items : List ClassItem) :
    Advances (readLeadingSigns start fuel items) := by
  induction fuel generalizing items with
  | zero => exact advances_pure _
  | succ fuel ih =>
    rw [readLeadingSigns]
    exact advances_peek.bind fun c => .ite
      (advances_nextSpan.bind fun _ => advances_advanceOverBlanks.bind fun more =>
        .ite (ih _) (advances_refuse _ _))
      (advances_pure _)

/-- What is read behind the sign that makes a bracket opened at a place negated or not. -/
def openBracketFrom (start : Place) (negated : Bool) : Reading ClassLevel := do
  let origin ← here
  let signs ← readLeadingSigns start (← get).rest.length []
  if signs.isEmpty && (← peek) = some ']' then
    let span ← nextSpan
    if !(← advanceOverBlanks) then refuse .classUnclosed (← spanFrom start)
    return ⟨← spanFrom start, negated, none, origin, [.literal ⟨span, ']', false⟩]⟩
  else return ⟨← spanFrom start, negated, none, origin, signs⟩

/-- Nothing is done behind a refusal. -/
theorem refuse_bind_eq {α β : Type} (cause : Cause) (span : Span) (f g : α → Reading β) :
    (refuse cause span >>= f) = (refuse cause span >>= g) := rfl

/-- Whether it is negated or not, a bracket is opened alike from there on. The reader states this
once for each, with a variable that says which; here the two are taken apart. -/
theorem openBracket_eq : openBracket = (do
    let start ← here
    if !(← advanceOverBlanks) then refuse .classUnclosed (← spanFrom start)
    if (← peek) = some '^' then
      if !(← advanceOverBlanks) then refuse .classUnclosed (← spanFrom start)
      openBracketFrom start true
    else openBracketFrom start false) := by
  unfold openBracket
  refine bind_congr fun start => bind_congr fun more => ?_
  cases more with
  | false => exact bind_congr fun span => refuse_bind_eq _ _ _ _
  | true =>
    refine bind_congr fun c => ?_
    by_cases hc : c = some '^'
    · dsimp only
      rw [if_pos hc, if_pos hc, decide_eq_true hc]
      rfl
    · dsimp only
      rw [if_neg hc, if_neg hc, decide_eq_false hc]
      rfl

/-- All that can be found missing in a bracket is refused with the span from its opening. -/
theorem advances_unclosed {α β : Type} (start : Place) (f : α → Reading β) :
    Advances (spanFrom start >>= fun s => refuse .classUnclosed s >>= f) :=
  (advances_spanFrom _).bind fun _ => advances_refuse_bind _ _ _

theorem advances_openBracketFrom (start : Place) (negated : Bool) :
    Advances (openBracketFrom start negated) := by
  unfold openBracketFrom
  refine advances_here.bind fun origin => advances_get.bind fun _ =>
    (advances_readLeadingSigns _ _ _).bind fun signs => advances_peek.bind fun c => .ite ?_ ?_
  · exact advances_nextSpan.bind fun _ => advances_advanceOverBlanks.bind fun more =>
      .ite (advances_unclosed _ _) ((advances_spanFrom _).bind fun _ => advances_pure _)
  · exact (advances_spanFrom _).bind fun _ => advances_pure _

/-- The bracket itself is consumed by its opening. -/
theorem consumes_openBracket : Consumes openBracket := by
  rw [openBracket_eq]
  refine advances_here.bind_consumes fun start => consumes_advanceOverBlanks.bind fun more =>
    .ite (advances_unclosed _ _) ?_
  exact advances_peek.bind fun c =>
    .ite (advances_advanceOverBlanks.bind fun more =>
      .ite (advances_unclosed _ _) (advances_openBracketFrom _ _)) (advances_openBracketFrom _ _)

theorem advances_setOperation? : Advances setOperation? := by
  unfold setOperation?
  refine advances_peek.bind fun c => advances_peekSecond.bind fun d => ?_
  split
  · exact advances_pure _
  · exact advances_pure _
  · exact advances_pure _
  · exact advances_pure _

/-- **Within a bracket reading goes forward,** through brackets in brackets, signs between classes
and items, by induction on the fuel. -/
theorem advances_readBracketFrom (fuel : Nat) (level : ClassLevel) (outer : List ClassLevel) :
    Advances (readBracketFrom fuel level outer) := by
  induction fuel generalizing level outer with
  | zero => exact advances_refuse _ _
  | succ fuel ih =>
    rw [readBracketFrom]
    refine advances_skipBlanks.bind fun _ => advances_peek.bind fun c =>
      advances_setOperation?.bind fun sign => ?_
    split
    · exact advances_refuse _ _
    · refine advances_readAsciiClass?.bind fun item => ?_
      split
      · exact ih _ _
      · exact consumes_openBracket.advances.bind fun _ => ih _ _
    · refine advances_advance.bind fun _ => advances_here.bind fun stop => ?_
      split
      · exact advances_pure _
      · exact ih _ _
    · exact (advances_accept _).bind fun _ => advances_here.bind fun _ => ih _ _
    · exact (consumes_readItem _).advances.bind fun _ => ih _ _

/-- So a bracket consumes at least its opening. -/
theorem consumes_readBracket : Consumes readBracket :=
  advances_get.bind_consumes fun _ => consumes_openBracket.bind fun _ =>
    advances_readBracketFrom _ _ _

/-! ## Repetitions -/

theorem advances_digits (fuel : Nat) (read : List Char) : Advances (digits fuel read) := by
  induction fuel generalizing read with
  | zero => exact advances_pure _
  | succ fuel ih =>
    rw [digits]
    refine advances_peek.bind fun c => ?_
    split
    · exact .ite (advances_advanceOverBlanks.bind fun _ => ih _) (advances_pure _)
    · exact advances_pure _

theorem advances_skipWhite (fuel : Nat) : Advances (skipWhite fuel) := by
  induction fuel with
  | zero => exact advances_pure _
  | succ fuel ih =>
    rw [skipWhite]
    exact advances_peek.bind fun c => .ite (advances_advance.bind fun _ => ih) (advances_pure _)

/-- A count that is wrong is read like any other, since its fault may not matter. -/
theorem advances_readCount : Advances readCount := by
  unfold readCount
  refine advances_get.bind fun _ => (advances_skipWhite _).bind fun _ => advances_here.bind fun _ =>
    (advances_digits _ _).bind fun read => (advances_spanFrom _).bind fun span =>
      (advances_skipWhite _).bind fun _ => ?_
  exact .ite (advances_pure _) (.ite (advances_pure _) (advances_pure _))

/-- Refuses counts that are not closed, which are opened at a place. -/
def unclosedCounts {α : Type} (start : Place) : Reading α := do
  refuse .repetitionCountUnclosed (← spanFrom start)

/-- What is read from a comma behind the first count on. -/
def readSecondCount (start : Place) (low : Except Fault Nat) : Reading (Nat × Option Nat) := do
  if !(← advanceOverBlanks) then unclosedCounts start
  if (← peek) = some '\x7d' then return (← low, none)
  let min ← low
  let max ← (← readCount)
  if (← peek) ≠ some '\x7d' then unclosedCounts start
  return (min, some max)

/-- What is read behind the opening brace. -/
def readCountsFrom (start : Place) : Reading (Nat × Option Nat) := do
  let low ← readCount
  match ← peek with
  | none => unclosedCounts start
  | some ',' => readSecondCount start low
  | some c =>
    let count ← low
    if c ≠ '\x7d' then unclosedCounts start
    return (count, some count)

/-- Counts are refused at once if nothing follows the opening brace. -/
theorem readCounts_eq (start : Place) : readCounts start = (do
    if !(← advanceOverBlanks) then unclosedCounts start
    readCountsFrom start) := rfl

theorem advances_unclosedCounts {α : Type} (start : Place) :
    Advances (unclosedCounts start : Reading α) :=
  (advances_spanFrom _).bind fun _ => advances_refuse _ _

theorem advances_readSecondCount (start : Place) (low : Except Fault Nat) :
    Advances (readSecondCount start low) := by
  have hcounts : Advances (do
      if (← peek) = some '\x7d' then return (← low, none)
      let min ← low
      let max ← (← readCount)
      if (← peek) ≠ some '\x7d' then unclosedCounts start
      return (min, some max) : Reading (Nat × Option Nat)) :=
    advances_peek.bind fun c => .ite ((advances_lift _).bind fun _ => advances_pure _)
      ((advances_lift _).bind fun _ => advances_readCount.bind fun _ =>
        (advances_lift _).bind fun _ => advances_peek.bind fun c =>
          .ite ((advances_unclosedCounts _).bind fun _ => advances_pure _) (advances_pure _))
  exact advances_advanceOverBlanks.bind fun more =>
    .ite ((advances_unclosedCounts _).bind fun _ => hcounts) hcounts

theorem advances_readCountsFrom (start : Place) : Advances (readCountsFrom start) := by
  unfold readCountsFrom
  refine advances_readCount.bind fun low => advances_peek.bind fun c => ?_
  split
  · exact advances_unclosedCounts _
  · exact advances_readSecondCount _ _
  · exact (advances_lift _).bind fun _ =>
      .ite ((advances_unclosedCounts _).bind fun _ => advances_pure _) (advances_pure _)

/-- **Counts between braces** are read up to the closing one, which stays next. -/
theorem advances_readCounts (start : Place) : Advances (readCounts start) := by
  rw [readCounts_eq]
  exact advances_advanceOverBlanks.bind fun more =>
    .ite ((advances_unclosedCounts _).bind fun _ => advances_readCountsFrom _)
      (advances_readCountsFrom _)

theorem advances_readLazy : Advances readLazy := advances_accept _

/-- **A sign of repetition is consumed,** alone or with its counts. The sign for laziness behind it
may be, too. -/
theorem consumes_readRepetition (sign : Char) (parts : List Node) :
    Consumes (readRepetition sign parts) := by
  unfold readRepetition
  refine advances_here.bind_consumes fun start => ?_
  split
  · exact consumes_refuse _ _
  refine .ite (.refuse_bind _ _ _) ?_
  extract_lets counted
  have hcounted (counts : Nat × Option Nat) : Consumes (counted counts) := by
    refine .ite (consumes_advanceOverBlanks.bind fun _ => ?_) (consumes_advance.bind fun _ => ?_)
    all_goals
      exact advances_readLazy.bind fun _ => advances_here.bind fun _ =>
        .ite (advances_refuse_bind _ _ _) (advances_pure _)
  refine .ite ((advances_pure _).bind_consumes hcounted) <|
    .ite ((advances_pure _).bind_consumes hcounted) ?_
  exact .ite ((advances_pure _).bind_consumes hcounted)
    ((advances_readCounts _).bind_consumes hcounted)

/-! ## Groups -/

/-- Flags are read up to what ends them, by induction on the fuel: a known one is stepped over, an
unknown one is refused. -/
theorem advances_readFlags (fuel : Nat) (written : WrittenFlags) :
    Advances (readFlags fuel written) := by
  induction fuel generalizing written with
  | zero => exact advances_pure _
  | succ fuel ih =>
    rw [readFlags]
    refine advances_peek.bind fun c => ?_
    split
    · exact advances_pointHere.bind fun _ => advances_refuse _ _
    refine .ite ?_ (advances_nextSpan.bind fun span => ?_)
    · split
      · exact advances_refuse _ _
      · exact advances_pure _
    · extract_lets known
      have hknown (flag : Option Flag) : Advances (known flag) := by
        dsimp only [known]
        split
        · exact advances_throw _
        · exact advances_advance.bind fun more =>
            .ite (ih _) (advances_pointHere.bind fun _ => advances_refuse _ _)
      refine .ite ((advances_pure _).bind hknown) ?_
      split
      · exact (advances_pure _).bind hknown
      · exact advances_refuse_bind _ _ _

theorem advances_groupName (fuel : Nat) (read : List Char) : Advances (groupName fuel read) := by
  induction fuel generalizing read with
  | zero => exact advances_pure _
  | succ fuel ih =>
    rw [groupName]
    refine advances_peek.bind fun c => ?_
    split
    · exact advances_pointHere.bind fun _ => advances_refuse _ _
    · exact advances_pure _
    · exact .ite (advances_nextSpan.bind fun _ => advances_refuse_bind _ _ _)
        (advances_advance.bind fun _ => ih _)

/-- The angle bracket behind a name is stepped over with it. -/
theorem advances_readGroupName (names : GroupNames) : Advances (readGroupName names) := by
  unfold readGroupName
  refine advances_here.bind fun start => advances_get.bind fun _ =>
    (advances_groupName _ _).bind fun name => (advances_spanFrom _).bind fun span =>
      advances_advance.bind fun _ => .ite (advances_refuse_bind _ _ _) ?_
  split
  · exact advances_throw _
  · exact advances_pure _

/-- **The parenthesis that opens a group is consumed,** with whatever says what kind of group it is.
-/
theorem consumes_readOpening (names : GroupNames) : Consumes (readOpening names) := by
  have hnamed : Advances (do return .named (← readGroupName names) : Reading Opening) :=
    (advances_readGroupName names).bind fun _ => advances_pure _
  unfold readOpening
  refine advances_nextSpan.bind_consumes fun whole => consumes_advance.bind fun _ =>
    advances_skipBlanks.bind fun _ => advances_get.bind fun i => ?_
  extract_lets rest opening
  have hopening : Advances (opening ()) := by
    refine advances_pointHere.bind fun inside => (advances_accept _).bind fun _ =>
      .ite hnamed ((advances_accept _).bind fun _ => .ite hnamed ((advances_accept _).bind fun _ =>
        .ite (advances_atEnd.bind fun _ => ?_) (advances_pure _)))
    refine .ite (advances_refuse_bind _ _ _) (advances_get.bind fun _ =>
      (advances_readFlags _ _).bind fun written => advances_peek.bind fun c => ?_)
    exact advances_advance.bind fun _ => .ite (advances_pure _)
      (.ite (advances_refuse_bind _ _ _) (advances_pure _))
  split
  · exact (advances_accept _).bind fun _ => (advances_spanFrom _).bind fun _ =>
      advances_refuse_bind _ _ _
  · exact hopening

theorem advances_setSpaced (change : FlagChange) : Advances (setSpaced change) := by
  unfold setSpaced
  split
  · exact advances_modify fun _ => List.suffix_rfl
  · exact advances_pure _

/-- Entering a group changes what has been read and whether the pattern is spaced, and nothing else.
-/
theorem consumes_openGroup (p : Progress) : Consumes (openGroup p) := by
  unfold openGroup
  refine advances_nextSpan.bind_consumes fun _ => advances_get.bind_consumes fun _ =>
    (consumes_readOpening _).bind fun opening => ?_
  split
  · exact (advances_setSpaced _).bind fun _ => (advances_spanFrom _).bind fun _ => advances_pure _
  · exact (advances_setSpaced _).bind fun _ => advances_here.bind fun _ => advances_pure _
  · exact advances_here.bind fun _ => advances_pure _
  · exact advances_here.bind fun _ => advances_pure _

/-- The parenthesis that closes a group is consumed, and the spacing is as it was outside. -/
theorem consumes_closeGroup (p : Progress) : Consumes (closeGroup p) := by
  unfold closeGroup
  split
  · exact advances_nextSpan.bind_consumes fun _ => consumes_refuse _ _
  · refine advances_here.bind_consumes fun _ => (advances_modify ?_).bind_consumes fun _ =>
      consumes_advance.bind fun _ => (advances_spanFrom _).bind fun _ => advances_pure _
    exact fun _ => List.suffix_rfl

theorem consumes_nextBranch (p : Progress) : Consumes (nextBranch p) :=
  advances_here.bind_consumes fun _ => consumes_advance.bind fun _ => advances_here.bind fun _ =>
    advances_pure _

/-- A part that starts with no sign of its own kind is one character. -/
theorem consumes_readPart (c : Char) : Consumes (readPart c) := by
  unfold readPart
  exact advances_nextSpan.bind_consumes fun _ => .ite consumes_readBracket <|
    .ite consumes_readEscape <| consumes_advance.bind fun _ => .ite (advances_pure _) <|
      .ite (advances_pure _) <| .ite (advances_pure _) (advances_pure _)

/-! ## Piece by piece -/

/-- Reads the piece of a pattern that starts with a character: a group is opened or closed, a branch
ends, a part is repeated, or there is another part. -/
def readPiece (p : Progress) (c : Char) : Reading Progress :=
  if c = '(' then openGroup p
  else if c = ')' then closeGroup p
  else if c = '|' then nextBranch p
  else if isRepetitionSign c then do
    let parts ← readRepetition c p.level.parts
    pure { p with level := { p.level with parts := parts } }
  else do pure (p.add (← readPart c))

/-- **Every piece consumes its first character,** so a pattern has no more pieces than characters.
-/
theorem consumes_readPiece (p : Progress) (c : Char) : Consumes (readPiece p c) :=
  .ite (consumes_openGroup p) <| .ite (consumes_closeGroup p) <| .ite (consumes_nextBranch p) <|
    .ite ((consumes_readRepetition _ _).bind fun _ => advances_pure _)
      ((consumes_readPart c).bind fun _ => advances_pure _)

variable {fuel : Nat} {p : Progress} {i : Input} {c : Char} {cs : List Char}

/-- Reading is over when nothing but blanks is left, -/
theorem readFrom_of_end (h : i.skipBlanks.rest = []) :
    readFrom (fuel + 1) p i = .ok (p, i.skipBlanks) := by
  rw [readFrom, run_skipBlanks_bind, run_peek_bind, h]
  rfl

/-- and otherwise it reads a piece and goes on from there. -/
theorem readFrom_of_char (h : i.skipBlanks.rest = c :: cs) :
    readFrom (fuel + 1) p i = readPiece p c i.skipBlanks >>= fun r => readFrom fuel r.1 r.2 := by
  rw [readFrom, run_skipBlanks_bind, run_peek_bind, h, List.head?_cons, readPiece]
  dsimp only
  split
  · rfl
  split
  · rfl
  split
  · rfl
  split
  · rw [run_bind, run_bind]
    cases readRepetition c p.level.parts i.skipBlanks <;> rfl
  · rw [run_bind, run_bind]
    cases readPart c i.skipBlanks <;> rfl

end Pattern

end Switchboard
