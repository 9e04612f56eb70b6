import Switchboard.Proofs.Number.Rounding
/-!
# Whole numbers in binary64

A binary64 number is whole if it counts a multiple of the units in one (`Binary64.IsWhole`). Which
whole number it is can be read off it: there is nothing to truncate
(`Binary64.Finite.truncate_of_signed`), and it is cast to a signed word without being held at an end
of the range if it is one (`Binary64.IsWhole.toInt64_eq`).
-/

namespace Switchboard

namespace Binary64

variable {x : Binary64} {i : Int} {f : Finite}

/-- **The number is a whole one.** If it is zero, it may have either sign. -/
def IsWhole (x : Binary64) (i : Int) : Prop := ∃ y : Finite, x = .finite y ∧ y.signed = i * one

theorem one_ne_zero : (one : Int) ≠ 0 := Int.natCast_ne_zero.2 (Nat.pos_iff_ne_zero.1 one_pos)

theorem isWhole_ofInt (hi : i.natAbs ≤ 2 ^ 53) : (ofInt i).IsWhole i :=
  ⟨_, ofInt_of_natAbs_le hi, signed_ofInt _⟩

theorem ofInt_zero : ofInt 0 = .finite (.zero false) := by
  have hunits : (0 : Int).natAbs * one = 0 := by rw [Int.natAbs_zero, Nat.zero_mul]
  rw [ofInt_of_natAbs_le (i := 0) (by decide)]
  simp only [hunits]
  rfl

theorem isWhole_zero (negative : Bool) : (finite (.zero negative)).IsWhole 0 := by
  refine ⟨_, rfl, ?_⟩
  rw [Int.zero_mul]
  cases negative <;> rfl

/-- A sign is that of a product or of its first factor. -/
theorem signed_mul (negative : Bool) (k u : Nat) :
    (if negative then -((k * u : Nat) : Int) else (k * u : Nat)) =
      (if negative then -(k : Int) else k) * u := by
  cases negative with
  | false => exact Int.natCast_mul k u
  | true => rw [if_pos rfl, if_pos rfl, Int.natCast_mul, Int.neg_mul]

theorem isWhole_mk {k : Nat} (negative : Bool) (h : OnGrid (k * one)) :
    (finite ⟨negative, k * one, h⟩).IsWhole (if negative then -k else k) :=
  ⟨_, rfl, signed_mul negative k one⟩

namespace Finite

theorem natAbs_signed (y : Finite) : y.signed.natAbs = y.units := by
  rw [signed]
  split <;> omega

theorem units_of_signed (h : f.signed = i * one) : f.units = i.natAbs * one := by
  rw [← f.natAbs_signed, h, Int.natAbs_mul, Int.natAbs_natCast]

theorem isIntegral_of_signed (h : f.signed = i * one) : f.isIntegral = true := by
  rw [isIntegral, units_of_signed h, Nat.mul_mod_left]
  rfl

/-- There is nothing behind the point to truncate. -/
theorem truncate_of_signed (h : f.signed = i * one) : f.truncate = i := by
  have hunits := units_of_signed h
  rw [signed, hunits] at h
  rw [truncate, hunits, Nat.mul_div_cancel _ one_pos]
  refine Int.eq_of_mul_eq_mul_right one_ne_zero ?_
  rw [← h, signed_mul]

end Finite

/-- A whole number that binary64 has is not rounded. -/
theorem isWhole_ofInt_of_isWhole (hx : x.IsWhole i) : (ofInt i).IsWhole i := by
  obtain ⟨f, rfl, hf⟩ := hx
  have hgrid : OnGrid (i.natAbs * one) := Finite.units_of_signed hf ▸ f.onGrid
  exact ⟨_, ofInt_of_onGrid hgrid, signed_ofInt hgrid⟩

/-- **A whole number below `2^63` is cast to itself.** -/
theorem IsWhole.toInt64_eq (hx : x.IsWhole i) (hi : i.natAbs < 2 ^ 63) : x.toInt64 = i := by
  obtain ⟨f, rfl, hf⟩ := hx
  rw [toInt64, Finite.truncate_of_signed hf]
  omega

end Binary64

end Switchboard
