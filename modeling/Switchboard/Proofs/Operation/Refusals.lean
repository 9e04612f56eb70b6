import Switchboard.Proofs.Operation.Binding
import Switchboard.Proofs.Task.Failure
/-!
# Refused arguments

Before an operation is carried out, its payload is bound and, for an
expression, laid out as declared. What can go wrong there is about the
arguments of that operation, and nothing else (`refusesFor_bind`,
`refusesFor_context`).
-/

namespace Switchboard

namespace Operation

variable {op : Operation} {payload : Json} {args : Arguments}

theorem refusesFor_distribute (operation : String) (names : List String) (payload : Json) :
    RefusesFor operation (Arguments.distribute operation names payload) := by
  rw [Arguments.distribute.eq_def]
  split
  · exact failsOnly_ok _
  · exact failsOnly_ok _
  · split
    · exact failsOnly_error rfl
    · exact failsOnly_ok _
  · exact failsOnly_error rfl

/-- **Binding refuses nothing but arguments of the operation.** -/
theorem refusesFor_bind (op : Operation) (payload : Json) :
    RefusesFor op.name (op.bind payload) := by
  refine (refusesFor_distribute op.name _ payload).bind fun values => ?_
  cases Arguments.firstMissing? op.parameters values with
  | some p => exact failsOnly_error rfl
  | none => exact failsOnly_ok _

/-- What is bound says of which operation the arguments are. -/
theorem operation_of_bind (h : op.bind payload = .ok args) : args.operation = op.name := by
  obtain ⟨values, -, -, rfl⟩ := Arguments.exists_of_bind h
  rfl

/-- One of the arguments is refused. -/
def Invalidates (args : Arguments) (e : CallError) : Prop := ∃ i reason, e = args.invalid i reason

theorem invalidates_coerce (args : Arguments) (i : Nat) (type : ParameterType) (v : Json) :
    FailsOnly (Invalidates args) (coerce args i type v) := by
  rw [coerce.eq_def]
  split
  · exact failsOnly_ok _
  · exact failsOnly_ok _
  · split
    · exact failsOnly_ok _
    · exact failsOnly_error ⟨i, _, rfl⟩
  · exact failsOnly_ok _
  · exact failsOnly_ok _

theorem invalidates_contextFields (args : Arguments) (i : Nat) (ps : List Parameter) :
    FailsOnly (Invalidates args) (contextFields args i ps) := by
  induction ps generalizing i with
  | nil => exact failsOnly_ok _
  | cons p rest ih =>
    rw [contextFields]
    cases args.value? i with
    | none => exact ih (i + 1)
    | some v =>
      exact (invalidates_coerce args i p.type v).bind fun x =>
        (ih (i + 1)).bind fun _ => failsOnly_ok _

/-- Laying the arguments out for the expression refuses one of them, or nothing. -/
theorem invalidates_context (op : Operation) (args : Arguments) :
    FailsOnly (Invalidates args) (op.context args) :=
  (invalidates_contextFields args 0 op.parameters).bind fun _ => failsOnly_ok _

/-- And so it, too, refuses nothing but arguments of the operation. -/
theorem refusesFor_context (op : Operation) (args : Arguments) :
    RefusesFor args.operation (op.context args) := by
  intro e he
  obtain ⟨i, reason, rfl⟩ := invalidates_context op args e he
  rfl

end Operation

end Switchboard
