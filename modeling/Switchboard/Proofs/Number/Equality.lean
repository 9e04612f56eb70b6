import Switchboard.Proofs.Number.Rounding
/-!
# Equal numbers

Two finite numbers are equal if they count the same units, so that the two zeros are equal
(`Binary64.Finite.beq_iff`). Their difference is then zero (`Binary64.abs_sub_of_signed_eq`), and in
whatever order two numbers are subtracted, they are the same distance apart
(`Binary64.abs_sub_comm`), also where there is rounding.

Numbers of documents are equal in binary64 if they count the same units there
(`Number.toBinary64_beq_iff`), and of one kind if they are the same but for the sign of zero
(`Number.beq_iff`).
-/

namespace Switchboard

namespace Binary64

/-! ## The two zeros -/

namespace Finite

variable {x y : Finite}

/-- The number, with a positive sign if it is zero. -/
def settled (x : Finite) : Finite := if x.units = 0 then .zero false else x

theorem settled_of_zero (h : x.units = 0) : x.settled = .zero false := if_pos h

theorem settled_of_ne_zero (h : x.units ≠ 0) : x.settled = x := if_neg h

theorem units_eq_zero_iff : x.units = 0 ↔ x.signed = 0 := by
  rw [signed]
  split <;> omega

/-- Apart from zero, a count with its sign says which number it is. -/
theorem eq_of_signed_eq (h : x.signed = y.signed) (hx : x.units ≠ 0) : x = y := by
  obtain ⟨n, u, hu⟩ := x
  obtain ⟨m, w, hw⟩ := y
  dsimp only [signed] at h hx
  have hsame : n = m ∧ u = w := by
    cases n <;> cases m <;> simp at h ⊢ <;> omega
  obtain ⟨rfl, rfl⟩ := hsame
  rfl

theorem signed_settled (x : Finite) : x.settled.signed = x.signed := by
  by_cases h : x.units = 0
  · rw [settled_of_zero h, units_eq_zero_iff.1 h]
    rfl
  · rw [settled_of_ne_zero h]

/-- **Finite numbers are equal** if they are the same but for the sign of zero. -/
theorem beq_iff : x.beq y = true ↔ x.settled = y.settled := by
  rw [beq, decide_eq_true_iff]
  constructor
  · intro h
    by_cases hx : x.units = 0
    · have hy : y.units = 0 := units_eq_zero_iff.2 (h ▸ units_eq_zero_iff.1 hx)
      rw [settled_of_zero hx, settled_of_zero hy]
    · rw [eq_of_signed_eq h hx]
  · intro h
    rw [← signed_settled x, h, signed_settled]

end Finite

/-! ## Distances -/

theorem abs_ofUnits (negative negative' : Bool) (n d : Nat) :
    (ofUnits negative n d).abs = (ofUnits negative' n d).abs := by
  by_cases h : nearest n d < gridEnd
  · rw [ofUnits, ofUnits, dif_pos h, dif_pos h]
    rfl
  · rw [ofUnits, ofUnits, dif_neg h, dif_neg h]
    rfl

theorem finite_sub_finite (x y : Finite) : (finite x).sub (finite y) =
    if x.signed - y.signed = 0 then .finite (.zero (x.negative && !y.negative))
    else ofSigned (x.signed - y.signed) := by
  rw [sub, neg, add, Finite.signed_neg, ← Int.sub_eq_add_neg]
  rfl

/-- Equal numbers are no distance apart. -/
theorem abs_sub_of_signed_eq {x y : Finite} (h : x.signed = y.signed) :
    ((finite x).sub (finite y)).abs = .finite (.zero false) := by
  rw [finite_sub_finite, if_pos (by omega)]
  rfl

/-- **Distances are the same both ways.** -/
theorem abs_sub_comm (x y : Binary64) : (x.sub y).abs = (y.sub x).abs := by
  cases x with
  | finite x =>
    cases y with
    | finite y =>
      rw [finite_sub_finite, finite_sub_finite]
      by_cases h : x.signed = y.signed
      · rw [if_pos (by omega), if_pos (by omega)]
        rfl
      · have habs : (x.signed - y.signed).natAbs = (y.signed - x.signed).natAbs := by omega
        rw [if_neg (by omega), if_neg (by omega), ofSigned, ofSigned, habs]
        exact abs_ofUnits _ _ _ _
    | infinite m => rfl
    | undefined => rfl
  | infinite n =>
    cases y with
    | finite y => rfl
    | infinite m => cases n <;> cases m <;> rfl
    | undefined => rfl
  | undefined => cases y <;> rfl

theorem finite_beq_finite (x y : Finite) :
    (finite x).beq (finite y) = true ↔ x.signed = y.signed := by
  rw [beq, decide_eq_true_iff, compare, Option.some_inj, Int.compare_eq_eq]

end Binary64

/-! ## Numbers of documents -/

namespace Number

variable {m n : Number}

/-- How many units the number counts in binary64. -/
def units (n : Number) : Int :=
  match n.toBinary64 with
  | .finite x => x.signed
  | .infinite _ => 0
  | .undefined => 0

theorem units_of_finite {x : Binary64.Finite} (h : n.toBinary64 = .finite x) :
    n.units = x.signed := by
  rw [units, h]

/-- **Numbers have equal values** if they count the same units. -/
theorem toBinary64_beq_iff : m.toBinary64.beq n.toBinary64 = true ↔ m.units = n.units := by
  obtain ⟨x, hx⟩ := m.exists_toBinary64_eq_finite
  obtain ⟨y, hy⟩ := n.exists_toBinary64_eq_finite
  rw [units_of_finite hx, units_of_finite hy, hx, hy, Binary64.finite_beq_finite]

/-- The number, with a positive sign if it is the zero of binary64. -/
def settled : Number → Number
  | .whole i fits => .whole i fits
  | .float x => .float x.settled

/-- **Numbers are the same** if they are so but for the sign of zero. -/
theorem beq_iff : m.beq n = true ↔ m.settled = n.settled := by
  cases m with
  | whole i fits =>
    cases n with
    | whole j fits' => rw [beq, decide_eq_true_iff, settled, settled, Number.whole.injEq]
    | float y => exact iff_of_false Bool.false_ne_true Number.noConfusion
  | float x =>
    cases n with
    | whole j fits' => exact iff_of_false Bool.false_ne_true Number.noConfusion
    | float y => rw [beq, Binary64.Finite.beq_iff, settled, settled, Number.float.injEq]

end Number

end Switchboard
