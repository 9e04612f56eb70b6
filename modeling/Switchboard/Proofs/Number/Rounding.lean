import Switchboard.Number.Basic
/-!
# Counts among binary64 numbers

Counts up to `2^53` are binary64 numbers themselves (`Binary64.ofInt_natCast`). A whole number
beyond them is rounded, but never to less than the power of two below it
(`Binary64.two_pow_log2_le_nearest`). So a smaller count is compared with a number of a document
as if there were no rounding (`Binary64.ofInt_ge_iff`). And no number of a document is rounded to
infinity (`Number.exists_toBinary64_eq_finite`).
-/

namespace Switchboard

namespace Binary64

/-! ## Counts -/

theorem one_pos : 0 < one := by decide +kernel

/-- One is a power of two. -/
theorem exists_one_eq : ∃ e, one = 2 ^ e := ⟨1074, by rw [one]⟩

/-- Counts up to `2^53` are points of the grid. -/
theorem onGrid_mul_one {k : Nat} (hk : k ≤ 2 ^ 53) : OnGrid (k * one) := by
  have hle : k * one ≤ 2 ^ 53 * one := Nat.mul_le_mul_right one hk
  have hend : 2 ^ 53 * one < gridEnd := by decide +kernel
  refine ⟨?_, Nat.lt_of_le_of_lt hle hend⟩
  obtain ⟨e, he⟩ := exists_one_eq
  rw [he]
  exact step_dvd_mul hk

/-- A whole number on the grid is exact, -/
theorem ofInt_of_onGrid {i : Int} (h : OnGrid (i.natAbs * one)) :
    ofInt i = .finite ⟨decide (i < 0), i.natAbs * one, h⟩ := by
  have hunits : ofUnits (decide (i < 0)) (i.natAbs * one * 1) 1 =
      .finite ⟨decide (i < 0), i.natAbs * one, h⟩ := ofUnits_of_onGrid Nat.one_pos h
  rw [Nat.mul_one] at hunits
  exact hunits

/-- **and small ones are on the grid.** -/
theorem ofInt_of_natAbs_le {i : Int} (hi : i.natAbs ≤ 2 ^ 53) :
    ofInt i = .finite ⟨decide (i < 0), i.natAbs * one, onGrid_mul_one hi⟩ :=
  ofInt_of_onGrid (onGrid_mul_one hi)

theorem signed_ofInt {i : Int} (h : OnGrid (i.natAbs * one)) :
    (⟨decide (i < 0), i.natAbs * one, h⟩ : Finite).signed = i * one := by
  rw [Finite.signed]
  by_cases hi : i < 0
  · have habs : (i.natAbs : Int) = -i := by omega
    rw [decide_eq_true hi, if_pos rfl, Int.natCast_mul, habs, Int.neg_mul, Int.neg_neg]
  · have habs : (i.natAbs : Int) = i := by omega
    rw [decide_eq_false hi, if_neg Bool.false_ne_true, Int.natCast_mul, habs]

/-! ## Larger numbers -/

/-- **Rounding keeps the leading digit:** what is rounded stays at or above the power of two
below it. -/
theorem two_pow_log2_le_nearest {n : Nat} (hn : n ≠ 0) : 2 ^ n.log2 ≤ nearest n 1 := by
  have hle : 2 ^ n.log2 ≤ n := Nat.log2_self_le hn
  have hround : ∀ d, n / d ≤ roundDiv n d := by
    intro d
    unfold roundDiv
    split
    · exact Nat.le_refl _
    · split <;> omega
  -- The step divides the power of two, so that rounding down does not go below it.
  have hstep : 2 ^ (n.log2 - (n.log2 - 52)) * step n = 2 ^ n.log2 := by
    rw [step, ← Nat.pow_add]
    exact congrArg (2 ^ ·) (by omega)
  rw [nearest, Nat.div_one, Nat.one_mul]
  calc 2 ^ n.log2 = 2 ^ (n.log2 - (n.log2 - 52)) * step n := hstep.symm
    _ ≤ n / step n * step n := by
      refine Nat.mul_le_mul_right _ ((Nat.le_div_iff_mul_le (step_pos n)).2 ?_)
      rw [hstep]
      exact hle
    _ ≤ roundDiv n (step n) * step n := Nat.mul_le_mul_right _ (hround _)

/-- A whole number beyond the exact ones is rounded to one beyond them, or to `2^53`. -/
theorem le_nearest_mul_one {n : Nat} (hn : 2 ^ 53 ≤ n) : 2 ^ 53 * one ≤ nearest (n * one) 1 := by
  have hpos : n * one ≠ 0 := Nat.mul_ne_zero (by omega) (Nat.ne_of_gt one_pos)
  obtain ⟨e, he⟩ := exists_one_eq
  have hlog : 53 + e ≤ (n * one).log2 := by
    rw [Nat.le_log2 hpos, Nat.pow_add, he]
    exact Nat.mul_le_mul_right _ hn
  calc 2 ^ 53 * one = 2 ^ (53 + e) := by rw [he, Nat.pow_add]
    _ ≤ 2 ^ (n * one).log2 := Nat.pow_le_pow_right (by decide) hlog
    _ ≤ nearest (n * one) 1 := two_pow_log2_le_nearest hpos

/-- Rounding a whole number of units does not take it past its double. -/
theorem nearest_one_le (n : Nat) : nearest n 1 ≤ 2 * n := by
  rcases Nat.eq_zero_or_pos n with rfl | hpos
  · decide
  · have hpower : 2 ^ (n.log2 - 52) ≤ 2 ^ n.log2 := Nat.pow_le_pow_right (by decide) (by omega)
    have hstep : step n ≤ n :=
      Nat.le_trans hpower (Nat.log2_self_le (Nat.ne_of_gt hpos))
    rw [nearest, Nat.div_one, Nat.one_mul]
    calc roundDiv n (step n) * step n
        ≤ (n / step n + 1) * step n := Nat.mul_le_mul_right _ (roundDiv_le n (step n))
      _ = n / step n * step n + step n := Nat.succ_mul _ _
      _ ≤ n + n := Nat.add_le_add (Nat.div_mul_le_self n (step n)) hstep
      _ = 2 * n := (Nat.two_mul n).symm

/-- **A whole number of a document is finite,** however it is rounded. -/
theorem exists_ofInt_eq_finite {i : Int} (h : FitsWord i) : ∃ x, ofInt i = .finite x := by
  obtain ⟨hlow, hhigh⟩ := h
  have habs : i.natAbs ≤ 2 ^ 64 := by omega
  have hround := nearest_one_le (i.natAbs * one)
  have hunits : i.natAbs * one ≤ 2 ^ 64 * one := Nat.mul_le_mul_right one habs
  have hend : 2 * (2 ^ 64 * one) < gridEnd := by decide +kernel
  have hinside : nearest (i.natAbs * one) 1 < gridEnd :=
    Nat.lt_of_le_of_lt (Nat.le_trans hround (Nat.mul_le_mul_left 2 hunits)) hend
  rw [ofInt, ofRatio, ofUnits, dif_pos hinside]
  exact ⟨_, rfl⟩

end Binary64

/-- Every number of a document is finite in binary64. -/
theorem Number.exists_toBinary64_eq_finite (n : Number) : ∃ x, n.toBinary64 = .finite x := by
  cases n with
  | whole i fits => exact Binary64.exists_ofInt_eq_finite fits
  | float x => exact ⟨x, rfl⟩

/-! ## Comparison with counts -/

open Binary64 in
/-- The number is at most a count. -/
def Number.AtMost (n : Number) (k : Nat) : Prop :=
  match n with
  | .whole i _ => i ≤ k
  | .float x => x.signed ≤ (k * one : Nat)

instance (n : Number) (k : Nat) : Decidable (n.AtMost k) :=
  match n with
  | .whole i _ => inferInstanceAs (Decidable (i ≤ k))
  | .float x => inferInstanceAs (Decidable (x.signed ≤ (k * Binary64.one : Nat)))

namespace Binary64

theorem finite_ge_finite (x y : Finite) :
    (Binary64.finite x).ge (.finite y) = true ↔ y.signed ≤ x.signed := by
  rw [ge, Bool.or_eq_true, decide_eq_true_iff, decide_eq_true_iff, compare, Option.some_inj,
    Option.some_inj, Int.compare_eq_gt, Int.compare_eq_eq]
  omega

/-- **Fewer than `2^53` are compared exactly,** with any number of a document. -/
theorem ofInt_ge_iff {k : Nat} (hk : k < 2 ^ 53) (n : Number) :
    (ofInt k).ge n.toBinary64 = true ↔ n.AtMost k := by
  have hcount : ofInt k = .finite ⟨false, k * one, onGrid_mul_one (Nat.le_of_lt hk)⟩ :=
    ofInt_of_natAbs_le (i := k) (Nat.le_of_lt hk)
  have hone : (0 : Int) < one := Int.natCast_pos.2 one_pos
  rw [hcount]
  cases n with
  | float x => exact finite_ge_finite _ x
  | whole i fits =>
    change Binary64.ge _ (ofInt i) = true ↔ i ≤ k
    by_cases hsmall : i.natAbs ≤ 2 ^ 53
    · rw [ofInt_of_natAbs_le hsmall, finite_ge_finite, signed_ofInt]
      change i * one ≤ (k * one : Nat) ↔ i ≤ k
      rw [Int.natCast_mul]
      exact Int.mul_le_mul_right hone
    · have hround := le_nearest_mul_one (n := i.natAbs) (by omega)
      have hlt : k * one < 2 ^ 53 * one := (Nat.mul_lt_mul_right one_pos).2 hk
      rw [ofInt, ofRatio, ofUnits]
      split
      · -- The sign decides, since what is rounded is larger than the count either way.
        rw [finite_ge_finite, Finite.signed, Finite.signed]
        by_cases hi : i < 0
        · simp only [hi, decide_true, if_true, Bool.false_eq_true, if_false]
          omega
        · simp only [hi, decide_false, Bool.false_eq_true, if_false]
          omega
      · by_cases hi : i < 0
        · rw [decide_eq_true hi]
          exact iff_of_true rfl (by omega)
        · rw [decide_eq_false hi]
          exact iff_of_false Bool.false_ne_true (by omega)

end Binary64

end Switchboard
