/-!
# Binary64 numbers

A finite binary64 number is a whole number of *units* of `2^-1074`, with a
sign. Only some counts of units are numbers of the format: those *on the grid*
(`OnGrid`), whose binary digits after the fifty-third are zero. Every
operation is then exact arithmetic on counts of units, followed by one rounding
to the grid (`nearest`). The rounding is to the nearest point of the grid, a
tie going to the even multiple of the step.

Main statements: rounding ends on the grid (`onGrid_nearest`) and moves no
point of it (`nearest_of_onGrid`).
-/

namespace Switchboard

-- A power of whole numbers is the core one, whatever else is imported.
attribute [default_instance 20000] instPowNat
attribute [scoped instance (5000)] instPowNat

namespace Binary64

/-! ## The grid -/

/-- The distance between neighbouring points of the grid from `u` units on:
one unit up to `2^53`, and twice as much from each further power of two. -/
def step (u : Nat) : Nat := 2 ^ (u.log2 - 52)

/-- The count of units past which there is only infinity, `2^1024` in all. -/
def gridEnd : Nat := 2 ^ 2098

/-- A count of units that is a number of the format. -/
def OnGrid (u : Nat) : Prop := step u ∣ u ∧ u < gridEnd

instance (u : Nat) : Decidable (OnGrid u) :=
  inferInstanceAs (Decidable (_ ∧ _))

/-- The quotient `n / d`, rounded to the nearest whole number; a tie goes to
the even one. -/
def roundDiv (n d : Nat) : Nat :=
  if 2 * (n % d) < d then n / d
  else if d < 2 * (n % d) then n / d + 1
  else n / d + n / d % 2

/-- The point of the grid nearest to `n / d` units, the grid taken without an
upper end. -/
def nearest (n d : Nat) : Nat :=
  roundDiv n (d * step (n / d)) * step (n / d)

theorem step_pos (u : Nat) : 0 < step u := Nat.two_pow_pos _

theorem roundDiv_le (n d : Nat) : roundDiv n d ≤ n / d + 1 := by
  unfold roundDiv; split
  · omega
  · split <;> omega

/-- Below the next power of two there are fewer than `2^53` steps. -/
theorem lt_step_mul (u : Nat) : u < step u * 2 ^ 53 := by
  have h := Nat.lt_log2_self (n := u)
  refine Nat.lt_of_lt_of_le h ?_
  rw [step, ← Nat.pow_add]
  exact Nat.pow_le_pow_right (by decide) (by omega)

/-- A multiple of a power of two by at most `2^53` is a multiple of its own
step. -/
theorem step_dvd_mul {r k : Nat} (hr : r ≤ 2 ^ 53) : step (r * 2 ^ k) ∣ r * 2 ^ k := by
  rcases Nat.lt_or_ge r (2 ^ 53) with h | h
  · rcases Nat.eq_zero_or_pos r with rfl | hpos
    · simp
    · have hlt : r * 2 ^ k < 2 ^ (53 + k) := by
        rw [Nat.pow_add]; exact (Nat.mul_lt_mul_right (Nat.two_pow_pos k)).2 h
      have hne : r * 2 ^ k ≠ 0 := Nat.ne_of_gt (Nat.mul_pos hpos (Nat.two_pow_pos k))
      have hlog := (Nat.log2_lt hne).2 hlt
      exact Nat.dvd_trans (Nat.pow_dvd_pow 2 (by omega)) (Nat.dvd_mul_left _ _)
  · obtain rfl : r = 2 ^ 53 := Nat.le_antisymm hr h
    rw [← Nat.pow_add, step, Nat.log2_two_pow]
    exact Nat.pow_dvd_pow 2 (by omega)

/-- **Rounding ends on the grid**, unless past its upper end. -/
theorem onGrid_nearest {n d : Nat} (h : nearest n d < gridEnd) : OnGrid (nearest n d) := by
  refine ⟨?_, h⟩
  rw [nearest, step]
  refine step_dvd_mul (Nat.le_trans (roundDiv_le _ _) ?_)
  rw [← Nat.div_div_eq_div_mul]
  have := lt_step_mul (n / d)
  exact (Nat.div_lt_iff_lt_mul (Nat.two_pow_pos _)).2 (by rw [Nat.mul_comm]; exact this)

theorem roundDiv_mul {d : Nat} (hd : 0 < d) (q : Nat) : roundDiv (q * d) d = q := by
  simp [roundDiv, Nat.mul_mod_left, Nat.mul_div_cancel _ hd, hd]

/-- **Rounding moves no point of the grid.** -/
theorem nearest_of_onGrid {u d : Nat} (hd : 0 < d) (h : OnGrid u) : nearest (u * d) d = u := by
  obtain ⟨q, hq⟩ := h.1
  have hdiv : u * d / d = u := Nat.mul_div_cancel _ hd
  have hmul : u * d = q * (d * step u) := by
    calc u * d = step u * q * d := by rw [← hq]
      _ = q * (d * step u) := by ac_rfl
  rw [nearest, hdiv, hmul, roundDiv_mul (Nat.mul_pos hd (step_pos u)), Nat.mul_comm]
  exact hq.symm

theorem gridEnd_pos : 0 < gridEnd := by decide +kernel

theorem onGrid_zero : OnGrid 0 := ⟨by simp, gridEnd_pos⟩

/-- A finite number: a sign and a count of units on the grid. Zero has both
signs. -/
structure Finite where
  negative : Bool
  units : Nat
  onGrid : OnGrid units
  deriving DecidableEq

/-- The number of units in one. -/
def one : Nat := 2 ^ 1074

namespace Finite

/-- The count of units with its sign; both zeros count `0`. -/
def signed (x : Finite) : Int := if x.negative then -x.units else x.units

/-- The zero of the given sign. -/
def zero (negative : Bool) : Finite := ⟨negative, 0, onGrid_zero⟩

/-- The number with the other sign. -/
def neg (x : Finite) : Finite := { x with negative := !x.negative }

/-- Whether the number has no fractional part. -/
def isIntegral (x : Finite) : Bool := x.units % one = 0

/-- The whole number between `x` and zero that is nearest to `x`. -/
def truncate (x : Finite) : Int :=
  if x.negative then -(x.units / one : Nat) else (x.units / one : Nat)

/-- Numbers compare as their counts of units do, so that the two zeros are
equal. -/
def beq (x y : Finite) : Bool := x.signed = y.signed

theorem signed_neg (x : Finite) : x.neg.signed = -x.signed := by
  cases x with
  | mk n u h => cases n <;> simp [neg, signed]

end Finite

end Binary64

/-- A binary64 number: a finite one, an infinity, or the result of an
undefined operation. -/
inductive Binary64 where
  | finite (x : Binary64.Finite)
  | infinite (negative : Bool)
  | undefined
  deriving DecidableEq

namespace Binary64

/-! ## Rounding a quotient -/

/-- The number nearest to `n / d` units of the given sign, infinite past the
end of the grid. -/
def ofUnits (negative : Bool) (n d : Nat) : Binary64 :=
  if h : nearest n d < gridEnd then .finite ⟨negative, nearest n d, onGrid_nearest h⟩
  else .infinite negative

/-- The number nearest to `±n / d`. -/
def ofRatio (negative : Bool) (n d : Nat) : Binary64 := ofUnits negative (n * one) d

/-- The number nearest to a whole number; zero is positive. -/
def ofInt (i : Int) : Binary64 := ofRatio (i < 0) i.natAbs 1

/-- The number nearest to a signed count of units that is not zero. -/
def ofSigned (i : Int) : Binary64 := ofUnits (i < 0) i.natAbs 1

theorem ofUnits_of_onGrid {negative : Bool} {u d : Nat} (hd : 0 < d) (h : OnGrid u) :
    ofUnits negative (u * d) d = .finite ⟨negative, u, h⟩ := by
  have := nearest_of_onGrid hd h
  simp only [ofUnits, this, h.2, dite_true]

/-! ## Arithmetic -/

/-- The number with the other sign. -/
def neg : Binary64 → Binary64
  | .finite x => .finite x.neg
  | .infinite n => .infinite (!n)
  | .undefined => .undefined

/-- The number without its sign. -/
def abs : Binary64 → Binary64
  | .finite x => .finite { x with negative := false }
  | .infinite _ => .infinite false
  | .undefined => .undefined

/-- The rounded sum. An exact zero is negative only as the sum of two negative
zeros. -/
def add : Binary64 → Binary64 → Binary64
  | .finite x, .finite y =>
    if x.signed + y.signed = 0 then .finite (.zero (x.negative && y.negative))
    else ofSigned (x.signed + y.signed)
  | .finite _, .infinite n => .infinite n
  | .infinite n, .finite _ => .infinite n
  | .infinite n, .infinite m => if n = m then .infinite n else .undefined
  | .undefined, _ => .undefined
  | _, .undefined => .undefined

/-- The rounded difference. -/
def sub (x y : Binary64) : Binary64 := add x y.neg

/-- The rounded product. -/
def mul : Binary64 → Binary64 → Binary64
  | .finite x, .finite y => ofUnits (x.negative != y.negative) (x.units * y.units) one
  | .finite x, .infinite n => if x.units = 0 then .undefined else .infinite (x.negative != n)
  | .infinite n, .finite y => if y.units = 0 then .undefined else .infinite (n != y.negative)
  | .infinite n, .infinite m => .infinite (n != m)
  | .undefined, _ => .undefined
  | _, .undefined => .undefined

/-- The rounded quotient. -/
def div : Binary64 → Binary64 → Binary64
  | .finite x, .finite y =>
    if y.units = 0 then
      if x.units = 0 then .undefined else .infinite (x.negative != y.negative)
    else ofUnits (x.negative != y.negative) (x.units * one) y.units
  | .finite x, .infinite n => .finite (.zero (x.negative != n))
  | .infinite n, .finite y => .infinite (n != y.negative)
  | .infinite _, .infinite _ => .undefined
  | .undefined, _ => .undefined
  | _, .undefined => .undefined

/-- The remainder of the division that truncates its quotient; it has the
sign of the dividend. -/
def rem : Binary64 → Binary64 → Binary64
  | .finite x, .finite y =>
    if y.units = 0 then .undefined else ofUnits x.negative (x.units % y.units) 1
  | .finite x, .infinite _ => .finite x
  | .infinite _, _ => .undefined
  | .undefined, _ => .undefined
  | _, .undefined => .undefined

/-! ## Comparison -/

/-- The order of two numbers; an undefined one has no place in it. -/
def compare : Binary64 → Binary64 → Option Ordering
  | .finite x, .finite y => some (Ord.compare x.signed y.signed)
  | .finite _, .infinite n => some (if n then .gt else .lt)
  | .infinite n, .finite _ => some (if n then .lt else .gt)
  | .infinite n, .infinite m => some (if n = m then .eq else if n then .lt else .gt)
  | .undefined, _ => none
  | _, .undefined => none

/-- Whether `x` is below `y`. -/
def lt (x y : Binary64) : Bool := compare x y = some .lt

/-- Whether `x` is at least `y`. -/
def ge (x y : Binary64) : Bool := compare x y = some .gt || compare x y = some .eq

/-- Whether two numbers have equal values; an undefined one equals nothing. -/
def beq (x y : Binary64) : Bool := compare x y = some .eq

/-- The smaller of two numbers, an undefined one standing back. -/
def min (x y : Binary64) : Binary64 :=
  match compare x y with
  | some .gt => y
  | some _ => x
  | none => if x = .undefined then y else x

/-- The larger of two numbers, an undefined one standing back. -/
def max (x y : Binary64) : Binary64 :=
  match compare x y with
  | some .lt => y
  | some _ => x
  | none => if x = .undefined then y else x

/-- The truncated number, held within the signed 64-bit range; an undefined
number counts as zero. -/
def toInt64 : Binary64 → Int
  | .finite x => Max.max (-2 ^ 63) (Min.min x.truncate (2 ^ 63 - 1))
  | .infinite true => -2 ^ 63
  | .infinite false => 2 ^ 63 - 1
  | .undefined => 0

end Binary64

end Switchboard
