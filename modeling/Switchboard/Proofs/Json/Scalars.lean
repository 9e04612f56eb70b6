import Switchboard.Json.Reader
/-!
# Reading what was written: strings and numbers

The characters that a string is written as are read back as the string
(`Json.readStringBody_escape`): what had to be escaped is told from what had not. The digits of a
whole number are read back as the number (`Json.readNumber_text`), and the zero of binary64 that has
a sign is read back as well (`Json.readNumber_minusZero`). Digits do not say where they end, so there
the source may not go on as a number would (`Json.EndsNumber`).
-/

namespace Switchboard

namespace Json

/-- The source that consists of these characters. -/
def Source.ofChars (cs : List Char) : Source := cs.map some

open Source (ofChars)

variable {c : Char} {cs ds read : List Char} {fuel : Nat} {rest s : Source}

@[simp] theorem ofChars_nil : ofChars [] = [] := rfl

@[simp] theorem ofChars_cons (c : Char) (cs : List Char) :
    ofChars (c :: cs) = some c :: ofChars cs := rfl

@[simp] theorem ofChars_append (cs ds : List Char) :
    ofChars (cs ++ ds) = ofChars cs ++ ofChars ds :=
  List.map_append

@[simp] theorem length_ofChars (cs : List Char) : (ofChars cs).length = cs.length :=
  List.length_map _

/-! ## Strings -/

theorem hexValues?_low {n : Nat} (h : n < 32) :
    hexValues? '0' '0' (Text.hexDigit (n / 16)) (Text.hexDigit (n % 16)) = some n := by
  have hzero : Text.hexValue? '0' = some 0 := by decide
  have hhigh := Text.hexValue?_hexDigit (n / 16) (by omega)
  have hlow := Text.hexValue?_hexDigit (n % 16) (by omega)
  rw [hexValues?, hzero, hhigh, hlow]
  change some ((0 * 16 + 0) * 256 + (n / 16 * 16 + n % 16)) = some n
  rw [Nat.div_add_mod' n 16]
  exact congrArg some (Nat.zero_add n)

/-- A control character by its number. -/
theorem readEscape_control (h : c.toNat < 0x20) (s : Source) :
    readEscape (ofChars ['u', '0', '0', Text.hexDigit (c.toNat / 16), Text.hexDigit (c.toNat % 16)]
      ++ s) = .ok (c, s) := by
  change readCodePoint (some '0' :: some '0' :: some (Text.hexDigit (c.toNat / 16)) ::
    some (Text.hexDigit (c.toNat % 16)) :: s) = _
  rw [readCodePoint, readHex, hexValues?_low h]
  dsimp only [bind, Except.bind]
  rw [if_neg (by omega), if_pos (by omega), Char.ofNat_toNat]
  rfl

/-- An escaped character is read as itself, -/
theorem readString_escaped {e : List Char} (h : readEscape (ofChars e ++ s) = .ok (c, s)) :
    readString (fuel + 1) read none (ofChars ('\\' :: e) ++ s) =
      readString fuel (c :: read) none s := by
  rw [ofChars_cons, List.cons_append, readString, h]
  rfl

/-- and so is one that stands for itself. -/
theorem readString_plain (hquote : c ≠ '"') (hbackslash : c ≠ '\\') (h : ¬ c.toNat < 0x20) :
    readString (fuel + 1) read none (some c :: s) = readString fuel (c :: read) none s := by
  rw [readString]
  · exact if_neg h
  · exact hquote
  · exact hbackslash

theorem readString_escapeChar (c : Char) (fuel : Nat) (read : List Char) (s : Source) :
    readString (fuel + 1) read none (ofChars (escapeChar c) ++ s) =
      readString fuel (c :: read) none s := by
  rw [escapeChar]
  split
  · next h => exact h.symm ▸ readString_escaped (c := '"') (e := ['"']) rfl
  split
  · next h => exact h.symm ▸ readString_escaped (c := '\\') (e := ['\\']) rfl
  split
  · next h => exact h.symm ▸ readString_escaped (e := ['n']) rfl
  split
  · next h => exact h.symm ▸ readString_escaped (e := ['r']) rfl
  split
  · next h => exact h.symm ▸ readString_escaped (e := ['t']) rfl
  split
  · next h => exact h.symm ▸ readString_escaped (e := ['b']) rfl
  split
  · next h => exact h.symm ▸ readString_escaped (e := ['f']) rfl
  split
  · next h => exact readString_escaped (readEscape_control h s)
  · next hquote hbackslash _ _ _ _ _ h => exact readString_plain hquote hbackslash h

theorem readString_escape (cs read : List Char) (h : cs.length < fuel) (rest : Source) :
    readString fuel read none (ofChars (cs.flatMap escapeChar) ++ some '"' :: rest) =
      .ok (String.ofList (read.reverse ++ cs), rest) := by
  induction cs generalizing fuel read with
  | nil =>
    obtain ⟨fuel, rfl⟩ := Nat.exists_eq_succ_of_ne_zero (Nat.ne_of_gt h)
    rw [List.flatMap_nil, ofChars_nil, List.nil_append, readString, List.append_nil]
  | cons c cs ih =>
    obtain ⟨fuel, rfl⟩ := Nat.exists_eq_succ_of_ne_zero (Nat.ne_of_gt (Nat.zero_lt_of_lt h))
    rw [List.flatMap_cons, ofChars_append, List.append_assoc, readString_escapeChar,
      ih (c :: read) (Nat.lt_of_succ_lt_succ h), List.reverse_cons, List.append_assoc]
    rfl

theorem length_le_length_escape (cs : List Char) :
    cs.length ≤ (cs.flatMap escapeChar).length := by
  induction cs with
  | nil => exact Nat.le_refl 0
  | cons c cs ih =>
    have hc : 1 ≤ (escapeChar c).length := by
      rw [escapeChar]
      repeat' split
      all_goals simp
    rw [List.flatMap_cons, List.length_append, List.length_cons]
    omega

/-- **A string that was written is read back.** -/
theorem readStringBody_escape (t : String) (rest : Source) :
    readStringBody (ofChars (escape t ++ ['"']) ++ rest) = .ok (t, rest) := by
  have hlength := length_le_length_escape t.toList
  rw [ofChars_append, List.append_assoc, readStringBody]
  refine (readString_escape t.toList [] ?_ rest).trans ?_
  · rw [List.length_append, length_ofChars, escape]
    omega
  · rw [List.reverse_nil, List.nil_append, String.ofList_toList]

/-! ## Whole numbers -/

/-- What stands next does not go on with a number. -/
def EndsNumber : Source → Prop
  | some c :: _ => c.isDigit = false ∧ c ≠ '.' ∧ c ≠ 'e' ∧ c ≠ 'E'
  | none :: _ => True
  | [] => True

theorem digitRun_of_endsNumber (h : EndsNumber s) : digitRun s = 0 := by
  cases s with
  | nil => rfl
  | cons x s =>
    cases x with
    | none => rfl
    | some c =>
      rw [digitRun, List.takeWhile_cons_of_neg]
      · rfl
      · rw [Option.any_some, h.1]
        exact Bool.false_ne_true

theorem skipDigits_of_endsNumber (h : EndsNumber s) : skipDigits s = s := by
  rw [skipDigits]
  cases s with
  | nil => rfl
  | cons x s =>
    cases x with
    | none => rfl
    | some c =>
      rw [List.dropWhile_cons_of_neg]
      rw [Option.any_some, h.1]
      exact Bool.false_ne_true

theorem le_ofDigitChars (ds : List Char) (n : Nat) : n ≤ Nat.ofDigitChars 10 ds n := by
  induction ds generalizing n with
  | nil => exact Nat.le_refl n
  | cons d ds ih =>
    rw [Nat.ofDigitChars_cons]
    exact Nat.le_trans (by omega) (ih _)

/-- All digits are taken of a number that fits. -/
theorem takeDigits_ofChars (hds : ∀ d ∈ ds, d.isDigit = true) {n : Nat} (taken : Nat)
    (hfits : Nat.ofDigitChars 10 ds n < 2 ^ 64) (hrest : EndsNumber rest) :
    takeDigits n taken (ofChars ds ++ rest) =
      (Nat.ofDigitChars 10 ds n, taken + ds.length, rest) := by
  -- `n` is the number of the digits taken so far, which is never more than that of all of them.
  induction ds generalizing n taken with
  | nil =>
    rw [ofChars_nil, List.nil_append, takeDigits.eq_def]
    cases rest with
    | nil => rfl
    | cons x rest =>
      cases x with
      | none => rfl
      | some c =>
        dsimp only
        rw [if_neg fun h => Bool.false_ne_true (hrest.1.symm.trans h.1)]
        rfl
  | cons d ds ih =>
    have hd := hds d List.mem_cons_self
    have hle := le_ofDigitChars ds (n * 10 + (d.toNat - '0'.toNat))
    rw [Nat.ofDigitChars_cons, Nat.mul_comm 10 n] at hfits ⊢
    rw [ofChars_cons, List.cons_append, takeDigits, if_pos ⟨hd, Nat.lt_of_le_of_lt hle hfits⟩,
      ih (fun d hd => hds d (List.mem_cons_of_mem _ hd)) (taken + 1) hfits, List.length_cons,
      Nat.add_assoc, Nat.add_comm 1]

/-- The digits of a number start with zero only if it is zero. -/
theorem exists_toDigits {n : Nat} (h : n ≠ 0) :
    ∃ d ds, Nat.toDigits 10 n = d :: ds ∧ d ≠ '0' := by
  induction n using Nat.strongRecOn with
  | ind n ih =>
    rw [Nat.toDigits_eq_if (by decide)]
    by_cases hn : n < 10
    · rw [if_pos hn]
      have hdigit : ∀ m < 10, m ≠ 0 → m.digitChar ≠ '0' := by decide
      exact ⟨_, _, rfl, hdigit n hn h⟩
    · rw [if_neg hn]
      obtain ⟨d, ds, hds, hd⟩ := ih (n / 10) (by omega) (by omega)
      exact ⟨d, ds ++ [(n % 10).digitChar], by rw [hds, List.cons_append], hd⟩

theorem readNumberRest_of_endsNumber (h : EndsNumber s) (negative : Bool) (n : Nat) :
    readNumberRest negative n s = wholeNumber negative n s := by
  unfold readNumberRest
  rw [if_neg (not_not_intro (digitRun_of_endsNumber h))]
  split
  · exact absurd rfl h.2.1
  · exact absurd rfl h.2.2.1
  · exact absurd rfl h.2.2.2
  · exact Eq.refl _

/-- The digits of a number that fits are read as it. -/
theorem readNumber_toDigits {n : Nat} (h : n < 2 ^ 64) (hrest : EndsNumber rest)
    (negative : Bool) :
    readNumber negative (ofChars (Nat.toDigits 10 n) ++ rest) = wholeNumber negative n rest := by
  -- A leading zero is read on its own, since no digits may follow it.
  by_cases hn : n = 0
  · subst hn
    change readNumber negative (some '0' :: rest) = _
    rw [readNumber, if_neg (not_not_intro (digitRun_of_endsNumber hrest)),
      readNumberRest_of_endsNumber hrest]
  · have hdigits : ∀ d ∈ Nat.toDigits 10 n, d.isDigit = true :=
      fun d hd => Nat.isDigit_of_mem_toDigits (by decide) (by decide) hd
    have hvalue : Nat.ofDigitChars 10 (Nat.toDigits 10 n) 0 = n := Nat.ofDigitChars_ten_toDigits
    have hfits : Nat.ofDigitChars 10 (Nat.toDigits 10 n) 0 < 2 ^ 64 := by rwa [hvalue]
    have htake := takeDigits_ofChars hdigits 0 hfits hrest
    rw [hvalue] at htake
    obtain ⟨d, ds, hds, hd⟩ := exists_toDigits hn
    rw [hds, ofChars_cons, List.cons_append] at htake ⊢
    rw [readNumber]
    · have hrun : digitRun (some d :: (ofChars ds ++ rest)) ≠ 0 := by
        have hdigit := hdigits d (hds ▸ List.mem_cons_self)
        rw [digitRun, List.takeWhile_cons_of_pos (by rwa [Option.any_some])]
        exact Nat.succ_ne_zero _
      rw [if_neg hrun, htake]
      exact readNumberRest_of_endsNumber hrest negative n
    · exact List.cons_ne_nil _ _
    · exact fun s heq => hd (Option.some.inj (List.cons.inj heq).1)

theorem wholeNumber_of_fits {i : Int} (fits : FitsWord i) {negative : Bool} {n : Nat}
    (hi : (if negative then -(n : Int) else n) = i) (hzero : ¬(negative = true ∧ n = 0))
    (rest : Source) : wholeNumber negative n rest = .ok (.whole i fits, rest) := by
  subst hi
  unfold wholeNumber
  rw [if_neg hzero, dif_pos fits]

/-- **A whole number that was written is read back,** from behind its sign, if it has one. -/
theorem readNumber_text {i : Int} (fits : FitsWord i) (hrest : EndsNumber rest) :
    readNumber (decide (i < 0)) (ofChars (Nat.toDigits 10 i.natAbs) ++ rest) =
      .ok (.whole i fits, rest) := by
  have hlow : -2 ^ 63 ≤ i := fits.1
  have hhigh : i < 2 ^ 64 := fits.2
  rw [readNumber_toDigits (by omega) hrest]
  refine wholeNumber_of_fits fits ?_ ?_ rest
  · by_cases hi : i < 0
    · rw [decide_eq_true hi, if_pos rfl]
      omega
    · rw [decide_eq_false hi, if_neg Bool.false_ne_true]
      omega
  · rintro ⟨hi, hzero⟩
    have hi := of_decide_eq_true hi
    omega

/-! ## The zero with a sign -/

theorem scaled_minusZero (rest : Source) :
    scaled true 0 (-1) rest = .ok (.float (.zero true), rest) := by
  have hscale : scaleByTen (.ofInt 0) (-1) 5 = .finite (.zero false) := by decide +kernel
  have hzero : scaleByTen (.ofInt (0 : Nat)) (-1) 5 = .finite (.zero false) := hscale
  rw [scaled, hzero]
  rfl

theorem readScale_of_endsNumber (h : EndsNumber s) (negative : Bool) (n : Nat) (k : Int) :
    readScale negative n k s = scaled negative n k s := by
  unfold readScale
  split
  · exact absurd rfl h.2.2.1
  · exact absurd rfl h.2.2.2
  · rfl

theorem readNumber_minusZero (hrest : EndsNumber rest) :
    readNumber true (ofChars ['0', '.', '0'] ++ rest) = .ok (.float (.zero true), rest) := by
  have hpoint : digitRun (some '.' :: some '0' :: rest) = 0 := rfl
  have hdigit : digitRun (some '0' :: rest) ≠ 0 := Nat.succ_ne_zero _
  have hzero : ∀ d ∈ ['0'], d.isDigit = true := by
    intro d hd
    rw [List.mem_singleton.1 hd]
    rfl
  have htake : takeDigits 0 0 (some '0' :: rest) = (0, 1, rest) :=
    takeDigits_ofChars hzero 0 (by decide) hrest
  have hskip : skipDigits rest = rest := skipDigits_of_endsNumber hrest
  calc readNumber true (some '0' :: some '.' :: some '0' :: rest)
    _ = readNumberRest true 0 (some '.' :: some '0' :: rest) := by
      rw [readNumber, if_neg (not_not_intro hpoint)]
    _ = readFraction true 0 0 (some '0' :: rest) := by
      unfold readNumberRest
      rw [if_neg (not_not_intro hpoint)]
      rfl
    _ = readScale true 0 (-1) rest := by
      rw [readFraction, if_neg hdigit, htake]
      dsimp only
      rw [hskip]
      rfl
    _ = .ok (.float (.zero true), rest) := by
      rw [readScale_of_endsNumber hrest, scaled_minusZero]

end Json

end Switchboard
