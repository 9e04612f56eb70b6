import Switchboard.Proofs.Expression.Congruence
import Switchboard.Proofs.Expression.Vocabulary
import Switchboard.Proofs.Task.Ends
/-!
# Kinds of errors of an evaluation

Which errors an evaluation can end with, whatever it sees of a kind (`ending`). It can
end with what is wrong with operands, with what calls end with, and with operators that
it does not know; the last are named in the expression (`ending_eval`).
-/

namespace Switchboard

namespace Expr

variable {ρ : Type} {α : Type} {M : ρ → Prop} {Q : EvalError → Prop} {h h' : Host ρ}

/-- Evaluations whose errors are all of the kind. -/
def ending (M : ρ → Prop) (Q : EvalError → Prop) : EvaluationRelation ρ := fun _ x _ =>
  Task.Ends M (FailsOnly Q) x.run

theorem ending_throw {e : EvalError} (he : Q e) (y : Evaluation ρ α) : ending M Q α (throw e) y :=
  failsOnly_error he

theorem sequencing_ending (hQ : ∀ operator reason, Q (.malformed operator reason)) :
    Sequencing (ending M Q) where
  pure a := failsOnly_ok a
  malformed operator reason := ending_throw (hQ operator reason) _
  bind := by
    intro α β x y f g hx hf
    rw [ending, ExceptT.run_bind]
    refine Task.Ends.bind hx fun r hr => ?_
    cases r with
    | ok a => exact hf a
    | error e => exact failsOnly_error (hr e rfl)

/-- That the kind has the operators that an evaluation does not know hands down. -/
theorem inherits_ending (hQ : ∀ operator reason, Q (.malformed operator reason))
    (hh : HostCongruence (ending M Q) h h') :
    Inherits (ending M Q) h h' fun e data data' =>
      data = data' ∧ ∀ name, e.HasForeign h.call?.isSome name → Q (.unknownOperator name) where
  beside hx he := ⟨he.1, fun name hname => he.2 name (hname.beside hx)⟩
  apart v hx he := ⟨rfl, fun name hname => he.2 name (hname.apart hx)⟩
  apply he args := by rw [he.1]
  context he := he.1
  unknown he := ending_throw (he.2 _ (.self rfl)) _
  malformed he x y := by
    cases hh with
    | alone => exact ending_throw (he.2 _ (.self rfl)) _
    | calling related => exact ending_throw (hQ _ _) _
  invoke he x y hxy := by
    cases hh with
    | alone => exact ending_throw (he.2 _ (.self rfl)) _
    | calling related => exact related _ x y hxy
  conclude := by
    intro steps fault data data' he x y hxy
    cases hh with
    | alone => exact ending_throw (he.2 _ (.self rfl)) _
    | calling related =>
      refine (sequencing_ending hQ).bind hxy fun output => ?_
      cases fault with
      | some reason => exact ending_throw (hQ _ reason) _
      | none => exact (sequencing_ending hQ).pure output

/-- **The errors of an evaluation are of the kind** if those of operands are, those of the calls,
and those of operators that it does not know. -/
theorem ending_eval (hQ : ∀ operator reason, Q (.malformed operator reason))
    (hh : HostCongruence (ending M Q) h h) {e : Expr} (data : Json)
    (he : ∀ name, e.HasForeign h.call?.isSome name → Q (.unknownOperator name)) :
    ending M Q Json (e.eval h data) (e.eval h data) :=
  eval_related (sequencing_ending hQ) (inherits_ending hQ hh) e data data ⟨rfl, he⟩

end Expr

end Switchboard
