import Switchboard.Json.Reader
import Switchboard.Proofs.Task.Success
/-!
# Texts that end in a quote

Readers go over a source from its beginning, and what they leave of it ends as it did. Only a
string has a quote at its end. So where the last character of a source is a quote, a value that is
no string leaves this quote behind (`Json.leavingReaders`), and if the whole text is read as a
value, it is read as a string (`Json.parseWith_of_endsInQuote`). So it is where the first character
is a quote (`Json.parseWith_of_startsInQuote`).
-/

namespace Switchboard

namespace Json

/-- The value is a string. -/
def IsString (v : Json) : Prop := ∃ t, v = .string t

/-! ## Sources that end in a quote -/

/-- The last character is a quote. -/
def Source.EndsInQuote (s : Source) : Prop := s.getLast? = some (some '"')

/-- The last character, if there is one, is a quote. -/
def Source.EndsInQuoteOnly (s : Source) : Prop := s = [] ∨ s.EndsInQuote

variable {s : Source} {x : Option Char} {p : Option Char → Bool} {fuel depth : Nat}

theorem Source.EndsInQuote.only (h : s.EndsInQuote) : s.EndsInQuoteOnly := .inr h

theorem Source.EndsInQuote.ne_nil (h : s.EndsInQuote) : s ≠ [] := by
  rintro rfl
  cases h

/-- Going over another character leaves the quote. -/
theorem Source.EndsInQuote.tail (h : Source.EndsInQuote (x :: s)) (hx : x ≠ some '"') :
    s.EndsInQuote := by
  cases s with
  | nil => exact absurd (Option.some.inj h) hx
  | cons y s => rwa [EndsInQuote, List.getLast?_cons_cons] at h

/-- Going over any leaves nothing, or the quote. -/
theorem Source.EndsInQuoteOnly.tail (h : Source.EndsInQuoteOnly (x :: s)) : s.EndsInQuoteOnly := by
  cases s with
  | nil => exact .inl rfl
  | cons y s =>
    obtain h | h := h
    · cases h
    · rw [EndsInQuote, List.getLast?_cons_cons] at h
      exact .inr h

/-- So does going over characters that are no quotes. -/
theorem Source.EndsInQuote.dropWhile (h : s.EndsInQuote) (hp : p (some '"') = false) :
    Source.EndsInQuote (s.dropWhile p) := by
  induction s with
  | nil => exact h
  | cons y s ih =>
    rw [List.dropWhile_cons]
    split
    · next hy =>
      refine ih (h.tail ?_)
      rintro rfl
      exact Bool.false_ne_true (hp.symm.trans hy)
    · exact h

theorem Source.EndsInQuote.skipBlanks (h : s.EndsInQuote) : (skipBlanks s).EndsInQuote :=
  h.dropWhile rfl

theorem Source.EndsInQuoteOnly.skipBlanks (h : s.EndsInQuoteOnly) :
    (skipBlanks s).EndsInQuoteOnly := by
  rcases h with rfl | h
  · exact .inl rfl
  · exact .inr h.skipBlanks

open Source

/-! ## Words and numbers -/

/-- A word is read character by character, none of which is a quote. -/
theorem readWord_leaves {cs : List Char} (hcs : '"' ∉ cs) (hs : s.EndsInQuote) :
    GivesOnly EndsInQuote (readWord cs s) := by
  induction cs generalizing s with
  | nil => exact givesOnly_ok hs
  | cons c cs ih =>
    rw [List.mem_cons, not_or] at hcs
    cases s with
    | nil => exact givesOnly_error _
    | cons x s =>
      rw [readWord]
      split
      · next hx =>
        refine ih hcs.2 (hs.tail ?_)
        rw [hx]
        exact fun h => hcs.1 (Option.some.inj h).symm
      · exact givesOnly_error _

theorem ne_quote_of_isDigit {c : Char} (hc : c.isDigit = true) : some c ≠ some '"' := by
  intro h
  rw [Option.some.inj h] at hc
  cases hc

/-- Digits are no quotes, so that reading them leaves the quote at the end. -/
theorem takeDigits_leaves (hs : s.EndsInQuote) (n taken : Nat) :
    EndsInQuote (takeDigits n taken s).2.2 := by
  induction s generalizing n taken with
  | nil => exact hs
  | cons x s ih =>
    cases x with
    | none => exact hs
    | some c =>
      rw [takeDigits]
      split
      · next hc => exact ih (hs.tail (ne_quote_of_isDigit hc.1)) _ _
      · exact hs

theorem skipDigits_leaves (hs : s.EndsInQuote) : (skipDigits s).EndsInQuote := hs.dropWhile rfl

theorem takeExponent_leaves (hs : s.EndsInQuote) (e : Nat) : EndsInQuote (takeExponent e s).2 := by
  induction s generalizing e with
  | nil => exact hs
  | cons x s ih =>
    cases x with
    | none => exact hs
    | some c =>
      rw [takeExponent]
      split
      · next hc =>
        have hrest := hs.tail (ne_quote_of_isDigit hc)
        split
        · exact ih hrest _
        · exact hrest
      · exact hs

/-- What is left behind a number. -/
abbrev NumberLeaves (x : Except Failure (Number × Source)) : Prop :=
  GivesOnly (fun r => EndsInQuote r.2) x

theorem scaled_leaves (hs : s.EndsInQuote) (negative : Bool) (n : Nat) (k : Int) :
    NumberLeaves (scaled negative n k s) := by
  rw [scaled]
  split
  · exact givesOnly_ok hs
  · exact givesOnly_error _

theorem readExponent_leaves (hs : s.EndsInQuote) (negative : Bool) (n : Nat) (k : Int) :
    NumberLeaves (readExponent negative n k s) := by
  unfold readExponent
  split
  next below s' hsign =>
    -- the sign, if there is one, is no quote
    have hs' : EndsInQuote s' := by
      split at hsign
      · cases hsign
        exact hs.tail (by decide)
      · cases hsign
        exact hs.tail (by decide)
      · cases hsign
        exact hs
    have hrest := takeExponent_leaves hs' 0
    split
    · exact givesOnly_error _
    · split
      · exact givesOnly_error _
      · split
        · next hexponent =>
          rw [hexponent] at hrest
          exact scaled_leaves hrest _ _ _
        · next hexponent =>
          rw [hexponent] at hrest
          split
          · exact givesOnly_error _
          · exact givesOnly_ok (skipDigits_leaves hrest)

theorem readScale_leaves (hs : s.EndsInQuote) (negative : Bool) (n : Nat) (k : Int) :
    NumberLeaves (readScale negative n k s) := by
  unfold readScale
  split
  · exact readExponent_leaves (hs.tail (by decide)) _ _ _
  · exact readExponent_leaves (hs.tail (by decide)) _ _ _
  · exact scaled_leaves hs _ _ _

theorem readFraction_leaves (hs : s.EndsInQuote) (negative : Bool) (n : Nat) (k : Int) :
    NumberLeaves (readFraction negative n k s) := by
  rw [readFraction]
  split
  · split
    · exact givesOnly_error _
    · exact givesOnly_error _
  · exact readScale_leaves (skipDigits_leaves (takeDigits_leaves hs n 0)) _ _ _

theorem readFloat_leaves (hs : s.EndsInQuote) (negative : Bool) (n : Nat) (k : Int) :
    NumberLeaves (readFloat negative n k s) := by
  unfold readFloat
  split
  · exact readFraction_leaves (hs.tail (by decide)) _ _ _
  · exact readScale_leaves hs _ _ _

theorem wholeNumber_leaves (hs : s.EndsInQuote) (negative : Bool) (n : Nat) :
    NumberLeaves (wholeNumber negative n s) := by
  rw [wholeNumber]
  by_cases hzero : negative = true ∧ n = 0
  · rw [if_pos hzero]
    exact givesOnly_ok hs
  · rw [if_neg hzero]
    by_cases hfits : FitsWord (if negative then -(n : Int) else n)
    · rw [dif_pos hfits]
      exact givesOnly_ok hs
    · rw [dif_neg hfits]
      exact scaled_leaves hs _ _ _

theorem readNumberRest_leaves (hs : s.EndsInQuote) (negative : Bool) (n : Nat) :
    NumberLeaves (readNumberRest negative n s) := by
  unfold readNumberRest
  split
  · exact readFloat_leaves (skipDigits_leaves hs) _ _ _
  · split
    · exact readFloat_leaves hs _ _ _
    · exact readFloat_leaves hs _ _ _
    · exact readFloat_leaves hs _ _ _
    · exact wholeNumber_leaves hs _ _

/-- **A number leaves the quote,** with its fraction and its exponent. -/
theorem readNumber_leaves (hs : s.EndsInQuote) (negative : Bool) :
    NumberLeaves (readNumber negative s) := by
  unfold readNumber
  split
  · exact givesOnly_error _
  · split
    · exact givesOnly_error _
    · exact readNumberRest_leaves (hs.tail (by decide)) _ _
  · split
    · exact givesOnly_error _
    · exact readNumberRest_leaves (takeDigits_leaves hs 0 0) _ _

/-! ## Strings -/

theorem readHex_leaves (hs : s.EndsInQuoteOnly) :
    GivesOnly (fun r => EndsInQuoteOnly r.2) (readHex s) := by
  unfold readHex
  dsimp only
  split
  · split
    · exact givesOnly_ok hs.tail.tail.tail.tail
    · split
      · exact givesOnly_error _
      · exact givesOnly_error _
  · split
    · exact givesOnly_error _
    · exact givesOnly_error _

theorem readCodePoint_leaves (hs : s.EndsInQuoteOnly) :
    GivesOnly (fun r => EndsInQuoteOnly r.2) (readCodePoint s) := by
  unfold readCodePoint
  refine (readHex_leaves hs).bind fun r hr => ?_
  dsimp only
  split
  · exact givesOnly_error _
  split
  · exact givesOnly_ok hr
  split
  · exact givesOnly_error _
  · exact givesOnly_error _
  · next hsecond =>
    rw [hsecond] at hr
    refine (readHex_leaves hr.tail.tail).bind fun r' hr' => ?_
    split
    · exact givesOnly_error _
    · exact givesOnly_ok hr'
  · exact givesOnly_error _
  · exact givesOnly_error _

/-- An escape may take the last quote: a backslash in front of it makes it one of the text. -/
theorem readEscape_leaves (hs : s.EndsInQuoteOnly) :
    GivesOnly (fun r => EndsInQuoteOnly r.2) (readEscape s) := by
  unfold readEscape
  split
  all_goals first | exact givesOnly_error _ | exact givesOnly_ok hs.tail | skip
  · exact readCodePoint_leaves hs.tail

/-- A string may end in the quote, and then nothing is left. -/
theorem readString_leaves (hs : s.EndsInQuoteOnly) (fuel : Nat) (read : List Char)
    (broken : Option Source) :
    GivesOnly (fun r => EndsInQuoteOnly r.2) (readString fuel read broken s) := by
  fun_induction readString fuel read broken s with
  | case1 => exact givesOnly_error _
  | case2 => exact givesOnly_error _
  | case3 => exact givesOnly_error _
  | case4 => exact givesOnly_ok hs.tail
  | case5 _ _ _ _ ih => exact (readEscape_leaves hs.tail).bind fun r hr => ih r.1 r.2 hr
  | case6 => exact givesOnly_error _
  | case7 _ _ _ _ _ _ _ _ ih => exact ih hs.tail
  | case8 _ _ _ _ ih => exact ih hs.tail

theorem readStringBody_leaves (hs : s.EndsInQuoteOnly) :
    GivesOnly (fun r => EndsInQuoteOnly r.2) (readStringBody s) :=
  readString_leaves hs _ _ _

/-! ## Values -/

theorem readColon_leaves (hs : s.EndsInQuoteOnly) :
    GivesOnly EndsInQuoteOnly (readColon s) := by
  have hblanks := hs.skipBlanks
  unfold readColon
  split
  · exact givesOnly_error _
  · next hcolon =>
    rw [hcolon] at hblanks
    exact givesOnly_ok hblanks.tail
  · exact givesOnly_error _

/-- Where items stand: behind the last there is a bracket, so that there is the quote as well. -/
theorem nextItem_leaves (hs : s.EndsInQuoteOnly) (first : Bool) :
    GivesOnly (fun next => next.elim (EndsInQuote ((skipBlanks s).drop 1)) EndsInQuoteOnly)
      (nextItem first s) := by
  have hblanks := hs.skipBlanks
  unfold nextItem
  split
  · exact givesOnly_error _
  · next hclose =>
    rw [hclose] at hblanks ⊢
    exact givesOnly_ok ((hblanks.resolve_left (List.cons_ne_nil _ _)).tail (by decide))
  · next hcomma =>
    rw [hcomma] at hblanks
    split
    · exact givesOnly_ok hblanks
    · have hbehind := hblanks.tail.skipBlanks
      split
      · exact givesOnly_error _
      · exact givesOnly_error _
      · exact givesOnly_ok hbehind
  · split
    · exact givesOnly_ok hblanks
    · exact givesOnly_error _

/-- Where fields stand, from behind the quote in front of the name. -/
theorem nextField_leaves (hs : s.EndsInQuoteOnly) (first : Bool) :
    GivesOnly (fun next => next.elim (EndsInQuote ((skipBlanks s).drop 1)) EndsInQuoteOnly)
      (nextField first s) := by
  have hblanks := hs.skipBlanks
  unfold nextField
  split
  · exact givesOnly_error _
  · next hclose =>
    rw [hclose] at hblanks ⊢
    exact givesOnly_ok ((hblanks.resolve_left (List.cons_ne_nil _ _)).tail (by decide))
  · split
    · split
      · next hquote =>
        rw [hquote] at hblanks
        exact givesOnly_ok hblanks.tail
      · exact givesOnly_error _
    · split
      · next hcomma =>
        rw [hcomma] at hblanks
        have hbehind := hblanks.tail.skipBlanks
        split
        · exact givesOnly_error _
        · next hquote =>
          rw [hquote] at hbehind
          exact givesOnly_ok hbehind.tail
        · exact givesOnly_error _
        · exact givesOnly_error _
      · exact givesOnly_error _

/-- What the three readers of values leave, given so much fuel. -/
structure LeavingReaders (fuel : Nat) : Prop where
  value : ∀ depth s, s.EndsInQuoteOnly →
    GivesOnly (fun r => IsString r.1 ∧ r.2.EndsInQuoteOnly ∨ r.2.EndsInQuote)
      (readValue fuel depth s)
  items : ∀ depth first s, s.EndsInQuoteOnly →
    GivesOnly (fun r => r.2.EndsInQuote) (readItems fuel depth first s)
  fields : ∀ depth first acc s, s.EndsInQuoteOnly →
    GivesOnly (fun r => r.2.EndsInQuote) (readFields fuel depth first acc s)

/-- One step of a value: a string may take the quote, and what is no string leaves it. -/
theorem LeavingReaders.readValue_succ (h : LeavingReaders fuel) (hs : s.EndsInQuoteOnly) :
    GivesOnly (fun r => IsString r.1 ∧ r.2.EndsInQuoteOnly ∨ r.2.EndsInQuote)
      (readValue (fuel + 1) depth s) := by
  have hblanks := hs.skipBlanks
  have hword {cs : List Char} {x : Option Char} {s' : Source} (v : Json)
      (hnext : skipBlanks s = x :: s') (hx : x ≠ some '"') (hcs : '"' ∉ cs) :
      GivesOnly (fun r : Json × Source => IsString r.1 ∧ r.2.EndsInQuoteOnly ∨ r.2.EndsInQuote)
        (do return (v, ← readWord cs s')) := by
    rw [hnext] at hblanks
    have hs' := (hblanks.resolve_left (List.cons_ne_nil _ _)).tail hx
    exact (readWord_leaves hcs hs').bind fun rest hrest => givesOnly_ok (.inr hrest)
  rw [readValue]
  split
  · exact givesOnly_error _
  · next hnext => exact hword .null hnext (by decide) (by decide)
  · next hnext => exact hword (.bool true) hnext (by decide) (by decide)
  · next hnext => exact hword (.bool false) hnext (by decide) (by decide)
  · next hnext =>
    rw [hnext] at hblanks
    have hs' := (hblanks.resolve_left (List.cons_ne_nil _ _)).tail (by decide)
    exact (readNumber_leaves hs' true).bind fun r hr => givesOnly_ok (.inr hr)
  · next hnext =>
    rw [hnext] at hblanks
    exact (readStringBody_leaves hblanks.tail).bind fun r hr => givesOnly_ok (.inl ⟨⟨r.1, rfl⟩, hr⟩)
  · next hnext =>
    rw [hnext] at hblanks
    split
    · exact givesOnly_error _
    · exact (h.items _ true _ hblanks.tail).bind fun r hr => givesOnly_ok (.inr hr)
  · next hnext =>
    rw [hnext] at hblanks
    split
    · exact givesOnly_error _
    · exact (h.fields _ true [] _ hblanks.tail).bind fun r hr => givesOnly_ok (.inr hr)
  · next hempty _ _ _ _ _ _ _ =>
    split
    · have hquote := hblanks.resolve_left hempty
      exact (readNumber_leaves hquote false).bind fun r hr => givesOnly_ok (.inr hr)
    · exact givesOnly_error _

theorem LeavingReaders.succ (h : LeavingReaders fuel) : LeavingReaders (fuel + 1) where
  value depth s hs := h.readValue_succ hs
  items depth first s hs := by
    rw [readItems]
    refine (nextItem_leaves hs first).bind fun next hnext => ?_
    cases next with
    | none => exact givesOnly_ok hnext
    | some s' =>
      refine (h.value depth s' hnext).bind fun p hp => ?_
      have hrest : p.2.EndsInQuoteOnly := hp.elim And.right Source.EndsInQuote.only
      exact (h.items depth false p.2 hrest).bind fun q hq => givesOnly_ok hq
  fields depth first acc s hs := by
    rw [readFields]
    refine (nextField_leaves hs first).bind fun next hnext => ?_
    cases next with
    | none => exact givesOnly_ok hnext
    | some s' =>
      refine (readStringBody_leaves hnext).bind fun p hp => ?_
      refine (readColon_leaves hp).bind fun s'' hs'' => ?_
      refine (h.value depth s'' hs'').bind fun q hq => ?_
      have hrest : q.2.EndsInQuoteOnly := hq.elim And.right Source.EndsInQuote.only
      exact h.fields depth false _ q.2 hrest

/-- **What is left behind a value ends as the source did.** Nothing is left behind a string that
ends with it. -/
theorem leavingReaders (fuel : Nat) : LeavingReaders fuel := by
  -- The three readers call each other with less fuel, so it is shown of all of them at once.
  induction fuel with
  | zero =>
    exact
      { value := fun _ _ _ => givesOnly_error _
        items := fun _ _ _ _ => givesOnly_error _
        fields := fun _ _ _ _ _ => givesOnly_error _ }
  | succ fuel ih => exact ih.succ

/-! ## Whole texts -/

/-- **A text that ends in a quote** is read as a string, if as anything. -/
theorem parseWith_of_endsInQuote (hs : s.EndsInQuote) :
    GivesOnly IsString (parseWith readValue s) := by
  refine ((leavingReaders _).value nestingLimit s hs.only).bind fun r hr => ?_
  obtain ⟨v, rest⟩ := r
  dsimp only at hr ⊢
  split
  · next hnothing =>
    rcases hr with ⟨hstring, -⟩ | hquote
    · exact givesOnly_ok hstring
    -- the quote would be left
    · exact absurd hnothing hquote.skipBlanks.ne_nil
  · exact givesOnly_error _

/-- So is one that starts with a quote, -/
theorem parseWith_of_startsInQuote (s : Source) :
    GivesOnly IsString (parseWith readValue (some '"' :: s)) := by
  have hvalue : GivesOnly (fun r => IsString r.1)
      (readValue (enoughFuel (some '"' :: s)) nestingLimit (some '"' :: s)) := by
    rw [enoughFuel, readValue]
    change GivesOnly _ (readStringBody s >>= fun r => Except.ok (Json.string r.1, r.2))
    exact givesOnly_bind fun r => givesOnly_ok ⟨r.1, rfl⟩
  refine hvalue.bind fun r hr => ?_
  obtain ⟨v, rest⟩ := r
  dsimp only at hr ⊢
  split
  · exact givesOnly_ok hr
  · exact givesOnly_error _

/-- and none but one that does, behind blanks. -/
theorem startsInQuote_of_parseWith :
    GivesOnly (fun v => IsString v → ∃ rest, skipBlanks s = some '"' :: rest)
      (parseWith readValue s) := by
  have hvalue : GivesOnly (fun r => IsString r.1 → ∃ rest, skipBlanks s = some '"' :: rest)
      (readValue (enoughFuel s) nestingLimit s) := by
    have hother {v : Json} {rest : Source} (hv : ∀ t, v ≠ .string t) :
        IsString (v, rest).1 → ∃ rest, skipBlanks s = some '"' :: rest :=
      fun h => absurd h (not_exists.2 hv)
    rw [enoughFuel, readValue]
    split
    · exact givesOnly_error _
    · exact givesOnly_bind fun _ => givesOnly_ok (hother fun _ h => by cases h)
    · exact givesOnly_bind fun _ => givesOnly_ok (hother fun _ h => by cases h)
    · exact givesOnly_bind fun _ => givesOnly_ok (hother fun _ h => by cases h)
    · exact givesOnly_bind fun _ => givesOnly_ok (hother fun _ h => by cases h)
    · next hnext => exact givesOnly_bind fun _ => givesOnly_ok fun _ => ⟨_, hnext⟩
    · split
      · exact givesOnly_error _
      · exact givesOnly_bind fun _ => givesOnly_ok (hother fun _ h => by cases h)
    · split
      · exact givesOnly_error _
      · exact givesOnly_bind fun _ => givesOnly_ok (hother fun _ h => by cases h)
    · split
      · exact givesOnly_bind fun _ => givesOnly_ok (hother fun _ h => by cases h)
      · exact givesOnly_error _
  refine hvalue.bind fun r hr => ?_
  obtain ⟨v, rest⟩ := r
  dsimp only at hr ⊢
  split
  · exact givesOnly_ok hr
  · exact givesOnly_error _

end Json

end Switchboard
