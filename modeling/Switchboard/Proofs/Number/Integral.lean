import Switchboard.Proofs.Number.Whole
/-!
# Numbers without a fractional part

A number that counts units of one may be of either kind. Whole numbers stay such numbers when they
are taken as binary64 ones (`Number.exists_isIntegral`): rounding is to whole multiples of its step,
and the step either divides one or is a multiple of it. The truncated number is then all there is
to the number, so that both are on the same side of zero (`Binary64.lt_zero_iff`).
-/

namespace Switchboard

namespace Binary64

/-- A multiple of one is rounded to a multiple of one. -/
theorem one_dvd_nearest (k : Nat) : one ∣ nearest (k * one) 1 := by
  have hstep : step (k * one / 1) = 2 ^ ((k * one).log2 - 52) := by rw [Nat.div_one, step]
  obtain ⟨e, he⟩ := exists_one_eq
  rw [nearest, hstep, Nat.one_mul]
  generalize (k * one).log2 - 52 = j
  by_cases hj : j ≤ e
  · -- The step divides one, so that nothing is rounded.
    obtain ⟨m, hm⟩ : 2 ^ j ∣ one := he ▸ Nat.pow_dvd_pow 2 hj
    have hmul : k * one = k * m * 2 ^ j := by
      rw [hm, Nat.mul_comm (2 ^ j) m, Nat.mul_assoc]
    have hround : roundDiv (k * one) (2 ^ j) = k * m := by
      rw [hmul]
      exact roundDiv_mul (Nat.two_pow_pos j) (k * m)
    rw [hround, ← hmul]
    exact Nat.dvd_mul_left one k
  · have hone : one ∣ 2 ^ j := he ▸ Nat.pow_dvd_pow 2 (by omega)
    exact Nat.dvd_trans hone (Nat.dvd_mul_left _ _)

theorem isIntegral_of_ofInt {i : Int} {x : Finite} (h : ofInt i = .finite x) :
    x.isIntegral = true := by
  have hdvd : one ∣ nearest (i.natAbs * one) 1 := one_dvd_nearest i.natAbs
  rw [ofInt, ofRatio, ofUnits] at h
  split at h
  · obtain rfl := Binary64.finite.inj h
    exact decide_eq_true (Nat.mod_eq_zero_of_dvd hdvd)
  · cases h

/-- **Without a fractional part** a number is below zero exactly if its truncated one is. -/
theorem lt_zero_iff {x : Finite} (h : x.isIntegral = true) :
    (Binary64.finite x).lt (.ofInt 0) = true ↔ (Binary64.finite x).toInt64 < 0 := by
  have hmod : x.units % one = 0 := of_decide_eq_true h
  have hunits : x.units = one * (x.units / one) := by
    have hdiv := Nat.div_add_mod x.units one
    omega
  have hpos : 0 < x.units / one ↔ 0 < x.units := by
    rw [hunits, Nat.mul_div_cancel_left _ one_pos]
    exact (Nat.mul_pos_iff_of_pos_left one_pos).symm
  have hlt : (Binary64.finite x).lt (.ofInt 0) = true ↔ x.signed < 0 := by
    rw [ofInt_zero, lt, compare, decide_eq_true_iff, Option.some_inj, Int.compare_eq_lt]
    rfl
  rw [hlt, Finite.signed, toInt64, Finite.truncate]
  generalize x.units / one = q at hpos ⊢
  cases x.negative with
  | true =>
    simp only [if_true]
    omega
  | false =>
    simp only [Bool.false_eq_true, if_false]
    omega

/-- **Up to `2^53` a whole number is the truncated one again,** -/
theorem toInt64_ofInt {i : Int} (hi : i.natAbs ≤ 2 ^ 53) : (ofInt i).toInt64 = i :=
  (isWhole_ofInt hi).toInt64_eq (by omega)

/-- and beyond it the truncated one is beyond it as well. -/
theorem toInt64_ofInt_of_lt {i : Int} (fits : FitsWord i) (hi : 2 ^ 53 < i.natAbs) :
    if i < 0 then (ofInt i).toInt64 ≤ -2 ^ 53 else 2 ^ 53 ≤ (ofInt i).toInt64 := by
  obtain ⟨x, hx⟩ := exists_ofInt_eq_finite fits
  have hround : 2 ^ 53 * one ≤ nearest (i.natAbs * one) 1 := le_nearest_mul_one (by omega)
  have hunits : 2 ^ 53 ≤ nearest (i.natAbs * one) 1 / one :=
    (Nat.le_div_iff_mul_le one_pos).2 hround
  rw [hx]
  rw [ofInt, ofRatio, ofUnits] at hx
  split at hx
  · obtain rfl := Binary64.finite.inj hx
    rw [toInt64, Finite.truncate]
    generalize nearest (i.natAbs * one) 1 / one = q at hunits ⊢
    by_cases hneg : i < 0
    · simp only [hneg, decide_true, if_true]
      omega
    · simp only [hneg, decide_false, Bool.false_eq_true, if_false]
      omega
  · cases hx

end Binary64

namespace Number

/-- The number has no fractional part, whichever kind it is of. -/
def IsIntegral : Number → Prop
  | .whole _ _ => True
  | .float x => x.isIntegral = true

instance (n : Number) : Decidable n.IsIntegral :=
  match n with
  | .whole _ _ => .isTrue trivial
  | .float x => inferInstanceAs (Decidable (x.isIntegral = true))

/-- So it has none as a binary64 number. -/
theorem exists_isIntegral {n : Number} (h : n.IsIntegral) :
    ∃ x, n.toBinary64 = .finite x ∧ x.isIntegral = true := by
  obtain ⟨x, hx⟩ := n.exists_toBinary64_eq_finite
  refine ⟨x, hx, ?_⟩
  cases n with
  | whole i fits => exact Binary64.isIntegral_of_ofInt hx
  | float y =>
    obtain rfl := Binary64.finite.inj hx
    exact h

end Number

end Switchboard
