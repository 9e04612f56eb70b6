import Switchboard.Expression.Coercion
import Switchboard.Proofs.Number.Equality
/-!
# Equal values

All equalities of values are the equality of what they make of a value. The one by structure sees
everything but the sign of a zero (`Json.beq_iff`), and the strict one sees of a number its units in
binary64 and of everything else the structure (`Json.strictEq_iff`). So both are equivalences.

The loose equality is none, as it takes numbers for equal that are close, and a text for the number
it reads as. Where it does not compare numbers it is the equality by structure (`Json.looseEq_eq`),
and distances are the same both ways, so it is, too (`Json.looseEq_comm`). It holds wherever the
strict one does (`Json.looseEq_of_strictEq`).
-/

namespace Switchboard

namespace Json

variable {a b v w : Json} {xs ys : List Json} {fs gs : Fields}

/-! ## By structure -/

mutual

/-- The value, with a positive sign for every zero of binary64. -/
def settled : Json → Json
  | .null => .null
  | .bool b => .bool b
  | .number n => .number n.settled
  | .string s => .string s
  | .array items => .array (settledItems items)
  | .object fields => .object (settledFields fields)

/-- The items of an array, each with positive zeros. -/
def settledItems : List Json → List Json
  | [] => []
  | v :: rest => settled v :: settledItems rest

/-- The fields of an object, each with positive zeros. -/
def settledFields : List (String × Json) → List (String × Json)
  | [] => []
  | (n, v) :: rest => (n, settled v) :: settledFields rest

end

mutual

/-- **Values are equal by structure** if they are the same but for the sign of zeros. -/
theorem beq_iff (v w : Json) : (v == w) = true ↔ v.settled = w.settled := by
  change v.beq w = true ↔ _
  cases v with
  | null => cases w <;> simp [beq, settled]
  | bool p => cases w <;> simp [beq, settled]
  | number m =>
    cases w with
    | number n => rw [beq, settled, settled, Json.number.injEq]; exact Number.beq_iff
    | _ => simp [beq, settled]
  | string s => cases w <;> simp [beq, settled]
  | array xs =>
    cases w with
    | array ys => rw [beq, settled, settled, Json.array.injEq, beqItems_iff xs ys]
    | _ => simp [beq, settled]
  | object fs =>
    cases w with
    | object gs => rw [beq, settled, settled, Json.object.injEq, beqFields_iff fs gs]
    | _ => simp [beq, settled]

theorem beqItems_iff (xs ys : List Json) :
    beqItems xs ys = true ↔ settledItems xs = settledItems ys := by
  cases xs with
  | nil => cases ys <;> simp [beqItems, settledItems]
  | cons x xs =>
    cases ys with
    | nil => simp [beqItems, settledItems]
    | cons y ys =>
      have hfirst : x.beq y = true ↔ _ := beq_iff x y
      rw [beqItems, Bool.and_eq_true, hfirst, beqItems_iff xs ys, settledItems, settledItems,
        List.cons.injEq]

theorem beqFields_iff (fs gs : List (String × Json)) :
    beqFields fs gs = true ↔ settledFields fs = settledFields gs := by
  cases fs with
  | nil => cases gs <;> simp [beqFields, settledFields]
  | cons f fs =>
    obtain ⟨m, x⟩ := f
    cases gs with
    | nil => simp [beqFields, settledFields]
    | cons g gs =>
      obtain ⟨n, y⟩ := g
      have hfirst : x.beq y = true ↔ _ := beq_iff x y
      rw [beqFields, Bool.and_eq_true, Bool.and_eq_true, beq_iff_eq, hfirst, beqFields_iff fs gs,
        settledFields, settledFields, List.cons.injEq, Prod.mk.injEq]

end

theorem beq_comm (a b : Json) : (a == b) = (b == a) := by
  rw [Bool.eq_iff_iff, beq_iff, beq_iff, eq_comm]

/-! ## The strict equality -/

/-- What the strict equality sees of a value. -/
def seen : Json → Int ⊕ Json
  | .number n => .inl n.units
  | v => .inr v.settled

/-- **Values are strictly equal** if they look the same. -/
theorem strictEq_iff (a b : Json) : a.strictEq b = true ↔ a.seen = b.seen := by
  cases a with
  | number m =>
    cases b with
    | number n => rw [strictEq, Number.toBinary64_beq_iff, seen, seen, Sum.inl.injEq]
    | _ => simp [strictEq, seen, beq_iff, settled]
  | _ =>
    cases b with
    | number n => simp [strictEq, seen, beq_iff, settled]
    | _ => simp [strictEq, seen, beq_iff]

/-- **The strict equality is an equivalence.** -/
theorem strictEq_equivalence : Equivalence fun a b : Json => a.strictEq b = true where
  refl a := (strictEq_iff a a).2 rfl
  symm h := (strictEq_iff _ _).2 ((strictEq_iff _ _).1 h).symm
  trans h h' := (strictEq_iff _ _).2 (((strictEq_iff _ _).1 h).trans ((strictEq_iff _ _).1 h'))

/-! ## The loose equality -/

theorem numericEq_comm (a b : Json) : numericEq a b = numericEq b a := by
  rw [numericEq, numericEq]
  cases a.toNumber? with
  | none => cases b.toNumber? <;> rfl
  | some x =>
    cases b.toNumber? with
    | none => rfl
    | some y =>
      dsimp only
      rw [Binary64.abs_sub_comm]

theorem zero_lt_tolerance : (Binary64.finite (.zero false)).lt tolerance = true := by
  decide +kernel

/-- What reads as equal numbers is loosely equal as numbers. -/
theorem numericEq_of_signed_eq {x y : Binary64.Finite} (ha : a.toNumber? = some (.finite x))
    (hb : b.toNumber? = some (.finite y)) (h : x.signed = y.signed) : numericEq a b = true := by
  rw [numericEq, ha, hb]
  dsimp only
  rw [Binary64.abs_sub_of_signed_eq h, zero_lt_tolerance]

/-- A truth value, a number, or a text. -/
def isScalar : Json → Bool
  | .bool _ => true
  | .number _ => true
  | .string _ => true
  | .null => false
  | .array _ => false
  | .object _ => false

def isText : Json → Bool
  | .string _ => true
  | .null => false
  | .bool _ => false
  | .number _ => false
  | .array _ => false
  | .object _ => false

/-- The loose equality takes the two for numbers: both are scalars, and not both of them texts. -/
def comparesNumbers (a b : Json) : Bool := (a.isScalar && b.isScalar) && !(a.isText && b.isText)

theorem comparesNumbers_comm (a b : Json) : comparesNumbers a b = comparesNumbers b a := by
  rw [comparesNumbers, comparesNumbers, Bool.and_comm a.isScalar, Bool.and_comm a.isText]

/-- **Loosely equal are numbers that are close,** where these are compared, and elsewhere what is
equal by structure. -/
theorem looseEq_eq (a b : Json) :
    a.looseEq b = if comparesNumbers a b then numericEq a b else a == b := by
  cases hnumbers : comparesNumbers a b with
  | true =>
    rw [if_pos rfl]
    cases a <;> cases b <;> cases hnumbers <;> rfl
  | false =>
    rw [if_neg Bool.false_ne_true]
    cases a <;> cases b <;> cases hnumbers <;> rfl

/-- **The loose equality is the same both ways.** -/
theorem looseEq_comm (a b : Json) : a.looseEq b = b.looseEq a := by
  rw [looseEq_eq, looseEq_eq, comparesNumbers_comm, numericEq_comm, beq_comm]

/-- What the strict equality takes for equal numbers are numbers that are close. -/
theorem numericEq_of_strictEq (hnumbers : comparesNumbers a b = true)
    (h : a.strictEq b = true) : numericEq a b = true := by
  cases a with
  | string s =>
    cases b with
    | string t => cases hnumbers
    | _ => cases h
  | bool p =>
    cases b with
    | bool q =>
      obtain rfl : p = q := beq_iff_eq.1 h
      have hfits : FitsWord (if p then 1 else 0) := by cases p <;> decide
      obtain ⟨x, hx⟩ := Binary64.exists_ofInt_eq_finite hfits
      have hp : (Json.bool p).toNumber? = some (.finite x) := congrArg some hx
      exact numericEq_of_signed_eq hp hp rfl
    | _ => cases h
  | number m =>
    cases b with
    | number n =>
      obtain ⟨x, hx⟩ := m.exists_toBinary64_eq_finite
      obtain ⟨y, hy⟩ := n.exists_toBinary64_eq_finite
      rw [strictEq, hx, hy, Binary64.finite_beq_finite] at h
      have hm : (Json.number m).toNumber? = some (.finite x) := congrArg some hx
      have hn : (Json.number n).toNumber? = some (.finite y) := congrArg some hy
      exact numericEq_of_signed_eq hm hn h
    | _ => cases h
  | _ => cases hnumbers

/-- Where no numbers are compared, the strict equality is the one by structure. -/
theorem strictEq_eq_beq (hnumbers : comparesNumbers a b = false) : a.strictEq b = (a == b) := by
  cases a with
  | number m =>
    cases b with
    | number n => cases hnumbers
    | _ => rfl
  | _ => cases b <;> rfl

/-- **What is strictly equal is loosely equal.** -/
theorem looseEq_of_strictEq (h : a.strictEq b = true) : a.looseEq b = true := by
  rw [looseEq_eq]
  cases hnumbers : comparesNumbers a b with
  | true => exact numericEq_of_strictEq hnumbers h
  | false =>
    rw [strictEq_eq_beq hnumbers] at h
    exact h

theorem looseEq_refl (a : Json) : a.looseEq a = true :=
  looseEq_of_strictEq (strictEq_equivalence.refl a)

-- It is no equivalence: two texts can be different and read as one number.
example : (Json.string "1").looseEq (.ofInt 1) = true ∧
    (Json.ofInt 1).looseEq (.string "01") = true ∧
    (Json.string "1").looseEq (.string "01") = false := by
  decide +kernel

end Json

end Switchboard
