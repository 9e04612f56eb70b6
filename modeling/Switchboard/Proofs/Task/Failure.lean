import Switchboard.Error
/-!
# Kinds of failure

A result that can only fail in one way: `FailsOnly`, for errors of whichever
kind. It goes through sequencing as results do.
-/

namespace Switchboard

variable {ε α β : Type} {Q : ε → Prop} {x : Except ε α} {f : α → Except ε β}

/-- The result is a value, or an error of the kind. -/
def FailsOnly (Q : ε → Prop) (x : Except ε α) : Prop := ∀ e, x = .error e → Q e

theorem failsOnly_ok (a : α) : FailsOnly Q (.ok a) := by
  intro e h
  cases h

theorem failsOnly_error {e : ε} (h : Q e) : FailsOnly Q (.error e : Except ε α) := by
  intro e' h'
  cases h'
  exact h

theorem FailsOnly.bind (hx : FailsOnly Q x) (hf : ∀ a, FailsOnly Q (f a)) :
    FailsOnly Q (x >>= f) := by
  cases x with
  | ok a => exact hf a
  | error e => exact failsOnly_error (hx e rfl)

theorem failsOnly_mapM (hf : ∀ a, FailsOnly Q (f a)) (l : List α) : FailsOnly Q (l.mapM f) := by
  induction l with
  | nil => exact failsOnly_ok []
  | cons a rest ih =>
    rw [List.mapM_cons]
    exact (hf a).bind fun b => ih.bind fun bs => failsOnly_ok (b :: bs)

theorem exists_of_mapError_eq_error {ε' : Type} {f : ε → ε'} {e : ε'}
    (h : x.mapError f = .error e) : ∃ e', x = .error e' ∧ f e' = e := by
  cases x with
  | ok a => cases h
  | error e' => exact ⟨e', rfl, Except.error.inj h⟩

/-- An error about the operands of an operator. -/
def EvalError.OfOperands : EvalError → Prop
  | .malformed _ _ => True
  | _ => False

/-- An error about the arguments of a call. -/
def CallError.OfArguments : CallError → Prop
  | .missingParameter _ _ => True
  | .invalidParameter _ _ _ => True
  | .invalidParams _ _ => True
  | _ => False

/-- The operation that an error about arguments names. -/
def CallError.operation? : CallError → Option String
  | .missingParameter operation _ => some operation
  | .invalidParameter operation _ _ => some operation
  | .invalidParams operation _ => some operation
  | _ => none

theorem CallError.ofArguments_of_operation? {e : CallError} {operation : String}
    (h : e.operation? = some operation) : e.OfArguments := by
  cases e with
  | missingParameter o p => trivial
  | invalidParameter o p reason => trivial
  | invalidParams o reason => trivial
  | _ => cases h

/-- A result that fails with an error about the arguments of the operation, or not at all. -/
def RefusesFor (operation : String) : Except CallError α → Prop :=
  FailsOnly fun e => e.operation? = some operation

end Switchboard
