import Switchboard.Expression.Coercion
import Switchboard.Proofs.Number.Equality
import Switchboard.Proofs.Number.Whole
/-!
# Narrowing

A computed number is a whole number of a document if there is nothing behind its point and it is
below `2^63`, and otherwise it is kept as it is (`Binary64.NarrowsTo`). Both are tested in binary64
(`Json.ofBinary64_eq_ite`). What is behind the point is what is left without the truncated number
(`Binary64.fract`), and the bound is the greatest signed word, which is no binary64 number and
rounds up to `2^63` (`Binary64.ofInt_greatestWord`). No binary64 number lies between the two, so
that what passes the test is below `2^63` (`Binary64.exists_isSmallWhole_iff`), and is cast to
itself.

Narrowing keeps the value (`Binary64.NarrowsTo.beq`), and what it gives is narrowed to itself
(`Binary64.NarrowsTo.again`).
-/

namespace Switchboard

namespace Binary64

variable {x y : Binary64} {i : Int} {f : Finite}

/-- The number is neither infinite nor undefined. -/
def IsFinite (x : Binary64) : Prop := ∃ f : Finite, x = .finite f

theorem finite_lt_finite (f g : Finite) :
    (Binary64.finite f).lt (.finite g) = true ↔ f.signed < g.signed := by
  rw [lt, decide_eq_true_iff, compare, Option.some_inj, Int.compare_eq_lt]

/-! ## What is behind the point -/

namespace Finite

/-- Without what is behind the point a number is on the grid. -/
theorem onGrid_whole (f : Finite) : OnGrid (f.units / one * one) := by
  rcases Nat.lt_or_ge (2 ^ 53) (f.units / one) with hlarge | hsmall
  · -- Here the step is a multiple of one, so that there is nothing behind the point.
    obtain ⟨e, he⟩ := exists_one_eq
    have hle : 2 ^ (53 + e) ≤ f.units := by
      rw [Nat.pow_add, ← he]
      exact (Nat.le_div_iff_mul_le one_pos).1 (Nat.le_of_lt hlarge)
    have hne : f.units ≠ 0 := Nat.ne_of_gt (Nat.lt_of_lt_of_le (Nat.two_pow_pos _) hle)
    have hlog : 53 + e ≤ f.units.log2 := (Nat.le_log2 hne).2 hle
    have hstep : one ∣ step f.units := by
      rw [he, step]
      exact Nat.pow_dvd_pow 2 (by omega)
    have hone : one ∣ f.units := Nat.dvd_trans hstep f.onGrid.1
    rw [Nat.div_mul_cancel hone]
    exact f.onGrid
  · exact onGrid_mul_one hsmall

/-- The number without what is behind the point. -/
def trunc (f : Finite) : Finite := ⟨f.negative, f.units / one * one, f.onGrid_whole⟩

theorem trunc_of_isIntegral (hf : f.isIntegral = true) : f.trunc = f := by
  have hmod : f.units % one = 0 := of_decide_eq_true hf
  obtain ⟨negative, units, hgrid⟩ := f
  rw [trunc, Finite.mk.injEq]
  exact ⟨rfl, Nat.div_mul_cancel (Nat.dvd_of_mod_eq_zero hmod)⟩

theorem signed_trunc (f : Finite) : f.trunc.signed = f.truncate * one := by
  rw [signed, truncate, trunc]
  exact signed_mul _ _ _

end Finite

/-- The number without what is behind the point, which for one that is not finite is nothing. -/
def trunc : Binary64 → Binary64
  | .finite f => .finite f.trunc
  | .infinite negative => .infinite negative
  | .undefined => .undefined

/-- **What is behind the point,** with the sign of the number. -/
def fract (x : Binary64) : Binary64 := x.sub x.trunc

/-- Rounding makes no zero of what is not one. -/
theorem nearest_one_ne_zero {k : Nat} (hk : k ≠ 0) : nearest k 1 ≠ 0 :=
  Nat.ne_of_gt (Nat.lt_of_lt_of_le (Nat.two_pow_pos _) (two_pow_log2_le_nearest hk))

theorem finite_beq_zero (f : Finite) : (finite f).beq (ofInt 0) = true ↔ f.units = 0 := by
  rw [ofInt_zero, finite_beq_finite, Finite.units_eq_zero_iff]
  exact Iff.rfl

theorem infinite_beq_zero (negative : Bool) : (infinite negative).beq (ofInt 0) = false := by
  rw [ofInt_zero]
  cases negative <;> rfl

theorem ofSigned_beq_zero (hi : i ≠ 0) : ¬ (ofSigned i).beq (ofInt 0) = true := by
  have hne : nearest i.natAbs 1 ≠ 0 := nearest_one_ne_zero (Int.natAbs_ne_zero.2 hi)
  rw [ofSigned, ofUnits]
  split
  · rw [finite_beq_zero]
    exact hne
  · rw [infinite_beq_zero]
    exact Bool.false_ne_true

/-- **There is nothing behind the point** exactly if the number is a whole one. -/
theorem fract_beq_zero_iff : x.fract.beq (ofInt 0) = true ↔ ∃ i, x.IsWhole i := by
  cases x with
  | finite f =>
    have hwhole : f.signed - f.trunc.signed = 0 ↔ ∃ i, (finite f).IsWhole i := by
      rw [f.signed_trunc]
      constructor
      · intro h
        exact ⟨f.truncate, f, rfl, by omega⟩
      · rintro ⟨i, g, hg, hi⟩
        obtain rfl := Binary64.finite.inj hg
        rw [Finite.truncate_of_signed hi, hi, Int.sub_self]
    rw [← hwhole, fract, trunc, finite_sub_finite]
    by_cases hzero : f.signed - f.trunc.signed = 0
    · rw [if_pos hzero, finite_beq_zero]
      exact iff_of_true rfl hzero
    · rw [if_neg hzero]
      exact iff_of_false (ofSigned_beq_zero hzero) hzero
  | infinite negative =>
    have hundefined : (Binary64.infinite negative).fract = .undefined := by
      cases negative <;> rfl
    rw [hundefined]
    exact iff_of_false Bool.false_ne_true fun ⟨_, _, heq, _⟩ => Binary64.noConfusion heq
  | undefined =>
    exact iff_of_false Bool.false_ne_true fun ⟨_, _, heq, _⟩ => Binary64.noConfusion heq

/-! ## The bound -/

/-- **The greatest signed word is rounded up** to the power of two behind it. -/
theorem ofInt_greatestWord : ofInt (2 ^ 63 - 1) = ofInt (2 ^ 63) := by decide +kernel

theorem abs_lt_greatestWord_iff (f : Finite) :
    (finite f).abs.lt (ofInt (2 ^ 63 - 1)) = true ↔ f.units < 2 ^ 63 * one := by
  have hgrid : OnGrid ((2 ^ 63 : Int).natAbs * one) := by decide +kernel
  have hsigned : ({ f with negative := false } : Finite).signed = f.units := rfl
  rw [ofInt_greatestWord, ofInt_of_onGrid hgrid, abs, finite_lt_finite, signed_ofInt, hsigned]
  omega

/-- **The number is a whole one below `2^63`,** on either side of zero. The least signed word is
none of them. -/
def IsSmallWhole (x : Binary64) (i : Int) : Prop := x.IsWhole i ∧ i.natAbs < 2 ^ 63

/-- **What is tested** is whether the number is one of them. -/
theorem exists_isSmallWhole_iff :
    x.fract.beq (ofInt 0) = true ∧ x.abs.lt (ofInt (2 ^ 63 - 1)) = true ↔
      ∃ i, x.IsSmallWhole i := by
  rw [fract_beq_zero_iff]
  have hbound : ∀ i, x.IsWhole i → (x.abs.lt (ofInt (2 ^ 63 - 1)) = true ↔ i.natAbs < 2 ^ 63) := by
    rintro i ⟨f, rfl, hf⟩
    rw [abs_lt_greatestWord_iff, Finite.units_of_signed hf]
    exact Nat.mul_lt_mul_right one_pos
  constructor
  · rintro ⟨⟨i, hi⟩, hlt⟩
    exact ⟨i, hi, (hbound i hi).1 hlt⟩
  · rintro ⟨i, hi, hlt⟩
    exact ⟨⟨i, hi⟩, (hbound i hi).2 hlt⟩

/-- A cast number is a signed word. -/
theorem fitsWord_toInt64 (x : Binary64) : FitsWord x.toInt64 := by
  cases x with
  | finite f =>
    rw [toInt64]
    exact ⟨by omega, by omega⟩
  | infinite negative =>
    cases negative with
    | false => exact ⟨by decide, by decide⟩
    | true => exact ⟨by decide, by decide⟩
  | undefined => exact ⟨by decide, by decide⟩

theorem IsSmallWhole.fitsWord (h : x.IsSmallWhole i) : FitsWord i := by
  have hlt : i.natAbs < 2 ^ 63 := h.2
  exact ⟨by omega, by omega⟩

theorem IsWhole.beq (hx : x.IsWhole i) (hy : y.IsWhole i) : x.beq y = true := by
  obtain ⟨f, rfl, hf⟩ := hx
  obtain ⟨g, rfl, hg⟩ := hy
  rw [finite_beq_finite, hf, hg]

theorem isSmallWhole_truncate (hf : f.isIntegral = true) (hlt : f.truncate.natAbs < 2 ^ 63) :
    (finite f).IsSmallWhole f.truncate := by
  refine ⟨⟨f, rfl, ?_⟩, hlt⟩
  rw [← f.signed_trunc, Finite.trunc_of_isIntegral hf]

end Binary64

/-! ## Narrowing -/

namespace Json

open Binary64 (exists_isSmallWhole_iff)

variable {x : Binary64} {i : Int} {f : Binary64.Finite}

/-- **A whole result is narrowed to a whole number** of a document, -/
theorem ofBinary64_of_isWhole (hx : x.IsWhole i) (hi : i.natAbs < 2 ^ 63) :
    ∃ fits, ofBinary64 x = .number (.whole i fits) := by
  obtain ⟨f, rfl, hf⟩ := hx
  have hfits : FitsWord i := ⟨by omega, by omega⟩
  have hsmall : f.isIntegral = true ∧ f.truncate.natAbs < 2 ^ 63 :=
    ⟨Binary64.Finite.isIntegral_of_signed hf, by rwa [Binary64.Finite.truncate_of_signed hf]⟩
  have hnarrow : Number.ofBinary64? (.finite f) = some (.whole i hfits) := by
    rw [Number.ofBinary64?, if_pos hsmall]
    simp only [Binary64.Finite.truncate_of_signed hf, dif_pos hfits]
  rw [ofBinary64, hnarrow]
  exact ⟨hfits, rfl⟩

/-- any other finite one is kept, -/
theorem ofBinary64_of_not_isSmallWhole (hx : ¬ ∃ i, (Binary64.finite f).IsSmallWhole i) :
    ofBinary64 (.finite f) = .number (.float f) := by
  have hkept : Number.ofBinary64? (.finite f) = some (.float f) := by
    rw [Number.ofBinary64?]
    exact if_neg fun h => hx ⟨_, Binary64.isSmallWhole_truncate h.1 h.2⟩
  rw [ofBinary64, hkept]

/-- and one that is not finite is no number. -/
theorem ofBinary64_of_not_isFinite (hx : ¬ x.IsFinite) : ofBinary64 x = .null := by
  cases x with
  | finite f => exact absurd ⟨f, rfl⟩ hx
  | infinite negative => rfl
  | undefined => rfl

/-- The number as it is, null when it is not finite. -/
def ofFloat : Binary64 → Json
  | .finite f => .number (.float f)
  | .infinite _ => .null
  | .undefined => .null

/-- **Narrowing by tests in binary64,** and by a cast that would hold what is too large. -/
theorem ofBinary64_eq_ite (x : Binary64) : ofBinary64 x =
    if x.fract.beq (.ofInt 0) = true ∧ x.abs.lt (.ofInt (2 ^ 63 - 1)) = true then
      .number (.whole x.toInt64 x.fitsWord_toInt64)
    else ofFloat x := by
  by_cases hsmall : ∃ i, x.IsSmallWhole i
  · rw [if_pos (exists_isSmallWhole_iff.2 hsmall)]
    obtain ⟨i, hwhole, hlt⟩ := hsmall
    obtain rfl : x.toInt64 = i := hwhole.toInt64_eq hlt
    obtain ⟨fits, hnarrow⟩ := ofBinary64_of_isWhole hwhole hlt
    exact hnarrow
  · rw [if_neg fun htest => hsmall (exists_isSmallWhole_iff.1 htest)]
    cases x with
    | finite f => exact ofBinary64_of_not_isSmallWhole hsmall
    | infinite negative => rfl
    | undefined => rfl

-- The bound itself is kept, the number below it is whole, and so is the negative zero.
example : (ofBinary64 (.ofInt (2 ^ 63 - 1))).text = "9.223372036854776e+18" ∧
    (ofBinary64 (.ofInt (2 ^ 63 - 1024))).text = "9223372036854774784" ∧
      (ofBinary64 (.finite (.zero true))).text = "0" := by
  decide +kernel

end Json

namespace Binary64

variable {x : Binary64} {v : Json} {n : Number}

/-- **What a computed number is narrowed to.** -/
inductive NarrowsTo (x : Binary64) : Json → Prop
  /-- A whole number below `2^63` is that number. -/
  | whole {i : Int} (hx : x.IsSmallWhole i) (fits : FitsWord i) :
      NarrowsTo x (.number (.whole i fits))
  /-- Any other finite number stays what it is. -/
  | float {f : Finite} (hf : x = .finite f) (hx : ¬ ∃ i, x.IsSmallWhole i) :
      NarrowsTo x (.number (.float f))
  /-- There is no number if it is not finite. -/
  | null (hx : ¬ x.IsFinite) : NarrowsTo x .null

theorem exists_narrowsTo (x : Binary64) : ∃ v, x.NarrowsTo v := by
  by_cases hfinite : x.IsFinite
  · obtain ⟨f, rfl⟩ := hfinite
    by_cases hsmall : ∃ i, (finite f).IsSmallWhole i
    · obtain ⟨i, hi⟩ := hsmall
      exact ⟨_, .whole hi hi.fitsWord⟩
    · exact ⟨_, .float rfl hsmall⟩
  · exact ⟨_, .null hfinite⟩

namespace NarrowsTo

theorem ofBinary64_eq (h : x.NarrowsTo v) : Json.ofBinary64 x = v := by
  cases h with
  | whole hi fits =>
    obtain ⟨fits', hnarrow⟩ := Json.ofBinary64_of_isWhole hi.1 hi.2
    exact hnarrow
  | float hf hx =>
    subst hf
    exact Json.ofBinary64_of_not_isSmallWhole hx
  | null hx => exact Json.ofBinary64_of_not_isFinite hx

end NarrowsTo

/-- **Narrowing gives this and nothing else.** -/
theorem narrowsTo_iff : x.NarrowsTo v ↔ Json.ofBinary64 x = v := by
  constructor
  · exact NarrowsTo.ofBinary64_eq
  · rintro rfl
    obtain ⟨v, hv⟩ := x.exists_narrowsTo
    rwa [hv.ofBinary64_eq]

namespace NarrowsTo

theorem eq_null_iff (h : x.NarrowsTo v) : v = .null ↔ ¬ x.IsFinite := by
  cases h with
  | whole hi fits =>
    obtain ⟨⟨f, hf, -⟩, -⟩ := hi
    exact iff_of_false Json.noConfusion fun hx => hx ⟨f, hf⟩
  | float hf hx => exact iff_of_false Json.noConfusion fun hx => hx ⟨_, hf⟩
  | null hx => exact iff_of_true rfl hx

theorem exists_number (h : x.NarrowsTo v) (hx : x.IsFinite) : ∃ n, v = .number n := by
  cases h with
  | whole hi fits => exact ⟨_, rfl⟩
  | float hf hlarge => exact ⟨_, rfl⟩
  | null hnot => exact absurd hx hnot

/-- **The value is kept,** -/
theorem beq (h : x.NarrowsTo (.number n)) : n.toBinary64.beq x = true := by
  cases h with
  | whole hi fits => exact (isWhole_ofInt_of_isWhole hi.1).beq hi.1
  | float hf hx => rw [hf, Number.toBinary64, finite_beq_finite]

/-- the number is a whole one exactly if it can be, -/
theorem eq_whole_iff (h : x.NarrowsTo (.number n)) :
    (∃ i fits, n = .whole i fits) ↔ ∃ i, x.IsSmallWhole i := by
  cases h with
  | whole hi fits => exact iff_of_true ⟨_, fits, rfl⟩ ⟨_, hi⟩
  | float hf hx => exact iff_of_false (fun ⟨_, _, heq⟩ => Number.noConfusion heq) hx

/-- **and once narrowed, it is not changed any more.** -/
theorem again (h : x.NarrowsTo (.number n)) : n.toBinary64.NarrowsTo (.number n) := by
  cases h with
  | whole hi fits => exact .whole ⟨isWhole_ofInt_of_isWhole hi.1, hi.2⟩ fits
  | float hf hx =>
    subst hf
    exact .float rfl hx

end NarrowsTo

end Binary64

/-- **A number is written in texts as what it is narrowed to.** -/
theorem Json.toText_float (f : Binary64.Finite) :
    (Json.number (.float f)).toText = (Json.ofBinary64 (.finite f)).toText := by
  obtain ⟨v, hv⟩ := (Binary64.finite f).exists_narrowsTo
  have heq : Json.ofBinary64 (.finite f) = v := hv.ofBinary64_eq
  cases hv with
  | whole hi fits =>
    rw [Json.toText, heq]
    rfl
  | float hf hx =>
    obtain rfl := Binary64.finite.inj hf
    rw [heq]
  | null hx => exact absurd ⟨f, rfl⟩ hx

end Switchboard
