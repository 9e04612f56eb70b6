import Mathlib.Data.List.TakeWhile
import Switchboard.Proofs.Json.Values
import Switchboard.Proofs.Number.Whole
import Switchboard.Proofs.Toolbox.Codecs
/-!
# Sums of whole numbers

Sums and differences of whole numbers are not rounded as long as they stay within `2^53`
(`Binary64.IsWhole.add`).

A text spells a whole number by its decimal digits (`Binary64.Spells`). It is read as that number,
again within `2^53` (`Binary64.exists_isWhole_of_spells`).
-/

namespace Switchboard

namespace Binary64

variable {x y : Binary64} {i j : Int} {c : Char} {cs ds : List Char} {s : String}

/-! ## Exact sums -/

/-- A whole count of ones is rounded as the whole number is. -/
theorem ofSigned_mul_one (i : Int) : ofSigned (i * one) = ofInt i := by
  have hpos : (0 : Int) < one := Int.natCast_pos.2 one_pos
  have hneg : i * one < 0 ↔ i < 0 := by
    have hmul := Int.mul_lt_mul_right (a := one) (b := i) (c := 0) hpos
    rwa [Int.zero_mul] at hmul
  rw [ofSigned, ofInt, ofRatio, Int.natAbs_mul, Int.natAbs_natCast, decide_eq_decide.2 hneg]

namespace IsWhole

/-- **Sums are exact** as long as they stay within `2^53`, -/
theorem add (hx : x.IsWhole i) (hy : y.IsWhole j) (h : (i + j).natAbs ≤ 2 ^ 53) :
    (x.add y).IsWhole (i + j) := by
  obtain ⟨a, rfl, ha⟩ := hx
  obtain ⟨b, rfl, hb⟩ := hy
  have hsum : a.signed + b.signed = (i + j) * one := by rw [ha, hb, Int.add_mul]
  rw [Binary64.add, hsum]
  by_cases hzero : (i + j) * one = 0
  · rw [if_pos hzero, (Int.mul_eq_zero.1 hzero).resolve_right one_ne_zero]
    exact isWhole_zero _
  · rw [if_neg hzero, ofSigned_mul_one]
    exact isWhole_ofInt h

theorem neg (hx : x.IsWhole i) : x.neg.IsWhole (-i) := by
  obtain ⟨a, rfl, ha⟩ := hx
  refine ⟨_, rfl, ?_⟩
  rw [Finite.signed_neg, ha, Int.neg_mul]

/-- and so are differences. -/
theorem sub (hx : x.IsWhole i) (hy : y.IsWhole j) (h : (i - j).natAbs ≤ 2 ^ 53) :
    (x.sub y).IsWhole (i - j) :=
  hx.add hy.neg h

end IsWhole

/-! ## Texts -/

/-- Decimal digits, at least one of them. -/
def Digits (ds : List Char) : Prop := ds ≠ [] ∧ ∀ d ∈ ds, d.isDigit = true

/-- How a whole number is written: in digits, and with a sign in front of them or without. -/
inductive Written : List Char → Int → Prop
  | unsigned {ds : List Char} (h : Digits ds) : Written ds (digitsValue ds)
  | plus {ds : List Char} (h : Digits ds) : Written ('+' :: ds) (digitsValue ds)
  | minus {ds : List Char} (h : Digits ds) : Written ('-' :: ds) (-digitsValue ds)

/-- **The text spells a whole number,** if it is written between blanks, as many as there are. -/
def Spells (s : String) (i : Int) : Prop :=
  ∃ before cs behind, s.toList = before ++ (cs ++ behind) ∧ Written cs i ∧
    (∀ c ∈ before, Text.isBlank c = true) ∧ ∀ c ∈ behind, Text.isBlank c = true

theorem digit_cases : ∀ n < 58, 48 ≤ n → Text.isBlank (Char.ofNat n) = false ∧
    (Char.ofNat n).toLower ≠ 'i' ∧ (Char.ofNat n).toLower ≠ 'n' := by decide

/-- No digit is blank, or the first letter of a word that is read as a number. -/
theorem plain_of_isDigit (h : c.isDigit = true) :
    Text.isBlank c = false ∧ c.toLower ≠ 'i' ∧ c.toLower ≠ 'n' := by
  have hrange : 48 ≤ c.toNat ∧ c.toNat ≤ 57 := by
    simpa [Char.isDigit, UInt32.le_iff_toNat_le] using h
  have hcases := digit_cases c.toNat (by omega) hrange.1
  rwa [Char.ofNat_toNat] at hcases

namespace Digits

/-- Digits are no word. -/
theorem map_toLower_ne (h : Digits ds) {first : Char} {word : List Char}
    (hfirst : first = 'i' ∨ first = 'n') : ds.map Char.toLower ≠ first :: word := by
  obtain ⟨hne, hdigits⟩ := h
  obtain ⟨d, rest, rfl⟩ := List.exists_cons_of_ne_nil hne
  obtain ⟨-, hi, hn⟩ := plain_of_isDigit (hdigits d List.mem_cons_self)
  intro hword
  obtain ⟨hd, -⟩ := List.cons.inj hword
  rcases hfirst with rfl | rfl
  · exact hi hd
  · exact hn hd

/-- Nor do they start with a sign. -/
theorem splitSign_eq (h : Digits ds) : splitSign ds = (false, ds) := by
  obtain ⟨hne, hdigits⟩ := h
  obtain ⟨d, rest, rfl⟩ := List.exists_cons_of_ne_nil hne
  have hd : d.isDigit = true := hdigits d List.mem_cons_self
  rw [splitSign]
  · exact fun _ heq => Json.ne_of_isDigit hd rfl (List.cons.inj heq).1
  · exact fun _ heq => Json.ne_of_isDigit hd rfl (List.cons.inj heq).1

/-- They are read as what they count. -/
theorem ofDigits?_eq (h : Digits ds) (negative : Bool) :
    ofDigits? negative ds = some (ofDecimal negative (digitsValue ds) 0) := by
  obtain ⟨hne, hdigits⟩ := h
  have htake : ds.takeWhile Char.isDigit = ds := List.takeWhile_eq_self_iff.2 hdigits
  have hdrop : ds.dropWhile Char.isDigit = [] := List.dropWhile_eq_nil_iff.2 hdigits
  simp [ofDigits?, htake, hdrop, hne, exponentOfText?]

end Digits

/-- **A small count is read exactly.** -/
theorem isWhole_ofDecimal {k : Nat} (hk : k ≤ 2 ^ 53) (negative : Bool) :
    (ofDecimal negative k 0).IsWhole (if negative then -k else k) := by
  by_cases hzero : k = 0
  · subst hzero
    rw [ofDecimal, if_pos rfl]
    cases negative <;> exact isWhole_zero _
  · have hround : ofDecimal negative k 0 = .finite ⟨negative, k * one, onGrid_mul_one hk⟩ := by
      have hunits : ofUnits negative (k * one * 1) 1 =
          .finite ⟨negative, k * one, onGrid_mul_one hk⟩ :=
        ofUnits_of_onGrid Nat.one_pos (onGrid_mul_one hk)
      rw [Nat.mul_one] at hunits
      rw [ofDecimal, if_neg hzero, if_neg (by decide), if_neg (by omega), if_pos (by decide),
        ofRatio, Int.toNat_zero, Nat.pow_zero, Nat.mul_one, hunits]
    rw [hround]
    exact isWhole_mk negative _

namespace Written

/-- What stands in front of the digits is their sign. -/
theorem exists_splitSign (h : Written cs i) : ∃ negative ds, Digits ds ∧
    splitSign cs = (negative, ds) ∧
      i = if negative then -(digitsValue ds : Int) else digitsValue ds := by
  cases h with
  | unsigned h => exact ⟨false, _, h, h.splitSign_eq, rfl⟩
  | plus h => exact ⟨false, _, h, rfl, rfl⟩
  | minus h => exact ⟨true, _, h, rfl, rfl⟩

theorem ne_nil (h : Written cs i) : cs ≠ [] := by
  cases h with
  | unsigned h => exact h.1
  | plus h => exact List.cons_ne_nil _ _
  | minus h => exact List.cons_ne_nil _ _

theorem not_isBlank (h : Written cs i) : ∀ c ∈ cs, Text.isBlank c = false := by
  have hdigits {ds : List Char} (h : Digits ds) : ∀ c ∈ ds, Text.isBlank c = false :=
    fun c hc => (plain_of_isDigit (h.2 c hc)).1
  cases h with
  | unsigned h => exact hdigits h
  | plus h => exact List.forall_mem_cons.2 ⟨rfl, hdigits h⟩
  | minus h => exact List.forall_mem_cons.2 ⟨rfl, hdigits h⟩

/-- **What is written is read,** -/
theorem exists_isWhole (h : Written cs i) (hi : i.natAbs ≤ 2 ^ 53) :
    ∃ x, ofText? cs = some x ∧ x.IsWhole i := by
  obtain ⟨negative, ds, hds, hsplit, rfl⟩ := h.exists_splitSign
  have hvalue : digitsValue ds ≤ 2 ^ 53 := by
    cases negative <;> simpa using hi
  refine ⟨_, ?_, isWhole_ofDecimal hvalue negative⟩
  have hinf : ds.map Char.toLower ≠ "inf".toList := hds.map_toLower_ne (.inl rfl)
  have hinfinity : ds.map Char.toLower ≠ "infinity".toList := hds.map_toLower_ne (.inl rfl)
  have hnan : ds.map Char.toLower ≠ "nan".toList := hds.map_toLower_ne (.inr rfl)
  rw [ofText?, hsplit]
  dsimp only
  rw [if_neg (not_or_intro hinf hinfinity), if_neg hnan, hds.ofDigits?_eq]

end Written

/-- with blanks around it or without. -/
theorem exists_isWhole_of_spells (h : Spells s i) (hi : i.natAbs ≤ 2 ^ 53) :
    ∃ x, ofText? (Text.trimChars s.toList) = some x ∧ x.IsWhole i := by
  obtain ⟨before, cs, behind, hs, hwritten, hbefore, hbehind⟩ := h
  rw [hs, Text.trimChars_around hbefore hwritten.not_isBlank hwritten.ne_nil,
    Text.trimRight_of_isBlank hbehind, List.append_nil]
  exact hwritten.exists_isWhole hi

theorem digitsValue_eq_ofDigitChars (ds : List Char) :
    digitsValue ds = Nat.ofDigitChars 10 ds 0 := by
  rw [digitsValue, Nat.ofDigitChars]
  congr 1
  funext n d
  rw [Nat.mul_comm]

theorem digitsValue_toDigits (n : Nat) : digitsValue (Nat.toDigits 10 n) = n := by
  rw [digitsValue_eq_ofDigitChars, Nat.ofDigitChars_ten_toDigits]

theorem digits_toDigits (n : Nat) : Digits (Nat.toDigits 10 n) :=
  ⟨Nat.toDigits_ne_nil, fun _ hd => Nat.isDigit_of_mem_toDigits (by decide) (by decide) hd⟩

/-- **The text of a whole number** spells it. -/
theorem spells_text (i : Int) (fits : FitsWord i) : Spells (Number.whole i fits).text i := by
  have hwritten : Written (Number.whole i fits).text.toList i := by
    have hdigits := digits_toDigits i.natAbs
    have hvalue := digitsValue_toDigits i.natAbs
    rw [Json.toList_text]
    by_cases hi : i < 0
    · have hminus := Written.minus hdigits
      rw [hvalue, show -(i.natAbs : Int) = i by omega] at hminus
      rwa [if_pos hi]
    · have hunsigned := Written.unsigned hdigits
      rw [hvalue, show (i.natAbs : Int) = i by omega] at hunsigned
      rwa [if_neg hi]
  exact ⟨[], _, [], by simp, hwritten, List.forall_mem_nil _, List.forall_mem_nil _⟩

end Binary64

end Switchboard
