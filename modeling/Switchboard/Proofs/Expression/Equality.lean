import Switchboard.Proofs.Expression.Cuts
import Switchboard.Proofs.Expression.Junction
import Switchboard.Proofs.Json.Equality
/-!
# Equality in expressions

`===` and `==` compare the values of their first two operands, whatever expressions these are, and
`!==` and `!=` come to the same as the negations of the two. The one is an equivalence of values,
and the other is reflexive and symmetric and holds wherever the first does (`EqualityLaws`).
-/

namespace Switchboard

open Switchboard.Expr
open Builtin (operand)

variable {ρ : Type}

/-- **What equality is,** on a host. -/
structure EqualityLaws (h : Host ρ) : Prop where
  /-- The operators compare the values of their operands. -/
  strict_eval : ∀ operands data, eval h (ofJson (builtinOf .strictEq operands)) data =
    (do let args ← evalAll h (operands.map ofJson) data
        return .bool ((operand args 0).strictEq (operand args 1)))
  loose_eval : ∀ operands data, eval h (ofJson (builtinOf .looseEq operands)) data =
    (do let args ← evalAll h (operands.map ofJson) data
        return .bool ((operand args 0).looseEq (operand args 1)))
  /-- The strict equality of values is an equivalence, -/
  strict : Equivalence fun a b : Json => a.strictEq b = true
  /-- the loose one is reflexive -/
  loose_refl : ∀ a : Json, a.looseEq a = true
  /-- and symmetric, -/
  loose_symm : ∀ a b : Json, a.looseEq b = true → b.looseEq a = true
  /-- and what is strictly equal is loosely equal. -/
  loose_of_strict : ∀ a b : Json, a.strictEq b = true → a.looseEq b = true
  /-- The other two operators are exactly their negations. -/
  strict_ne : ∀ operands,
    h.Same (builtinOf .strictNe operands) (negationOf (builtinOf .strictEq operands))
  loose_ne : ∀ operands,
    h.Same (builtinOf .looseNe operands) (negationOf (builtinOf .looseEq operands))

/-- An operator is the negation of another if it is so on values. -/
theorem Host.same_negationOf {op op' : Builtin} {test : List Json → Bool}
    (hop : ∀ args data, op.apply args data = .ok (.bool (!test args)))
    (hop' : ∀ args data, op'.apply args data = .ok (.bool (test args)))
    (h : Host ρ) (operands : List Json) :
    h.Same (builtinOf op operands) (negationOf (builtinOf op' operands)) := by
  intro data
  rw [eval_negationOf, eval_builtinOf, eval_builtinOf, bind_assoc]
  refine bind_congr fun args => ?_
  rw [hop, hop']
  rfl

/-- **Equality is what it should be,** on every host. -/
theorem equalityLaws (h : Host ρ) : EqualityLaws h where
  strict_eval operands data := eval_builtinOf h .strictEq operands data
  loose_eval operands data := eval_builtinOf h .looseEq operands data
  strict := Json.strictEq_equivalence
  loose_refl := Json.looseEq_refl
  loose_symm a b hab := Json.looseEq_comm a b ▸ hab
  loose_of_strict _ _ := Json.looseEq_of_strictEq
  strict_ne := Host.same_negationOf (fun _ _ => rfl) (fun _ _ => rfl) h
  loose_ne := Host.same_negationOf (fun _ _ => rfl) (fun _ _ => rfl) h

end Switchboard
