import Switchboard.Proofs.Operation.Refusals
import Switchboard.Proofs.Task.Runs
import Switchboard.Registry.Dispatch
/-!
# What an invocation comes to

An operation can fail on its own account (`FailsItself`): its payload does not
bind, its arguments cannot be laid out for its expression, or its own code ends
with an error. `invoke_cases` says once what else an invocation can be: its own
code, the catalog, or its expression, whose error is then the error of the call.
Nothing but the expression looks at the hosts.
-/

namespace Switchboard

namespace Operation

variable {op : Operation} {payload : Json} {args : Arguments} {e : CallError}

/-- The operation's own code, given the arguments, ends with the error. -/
def Throws (op : Operation) (args : Arguments) (e : CallError) : Prop :=
  ∃ run bits c, op.handler = .native run ∧ (Task.run bits c (run args)).1 = .error e

/-- **An operation fails on its own account,** and not because of what its expression calls. -/
inductive FailsItself (op : Operation) (payload : Json) : CallError → Prop where
  /-- The payload does not fit the parameters. -/
  | binding {e : CallError} (refused : op.bind payload = .error e) : FailsItself op payload e
  /-- An argument is not of the type that its parameter declares to the expression. -/
  | coercion {e : CallError} {args : Arguments} {logic : Json} {reach : Reach}
      (handler : op.handler = .expression logic reach) (bound : op.bind payload = .ok args)
      (refused : op.context args = .error e) : FailsItself op payload e
  /-- The operation's own code fails. -/
  | code {e : CallError} {args : Arguments} (bound : op.bind payload = .ok args)
      (thrown : op.Throws args e) : FailsItself op payload e

/-- **The arguments are refused,** and nothing of the operation is carried out. -/
inductive RefusesArguments (op : Operation) (payload : Json) (e : CallError) : Prop where
  /-- The payload does not fit the parameters. -/
  | binding (refused : op.bind payload = .error e)
  /-- An argument is not of the type that its parameter declares to the expression. -/
  | coercion {args : Arguments} {logic : Json} {reach : Reach}
      (handler : op.handler = .expression logic reach) (bound : op.bind payload = .ok args)
      (refused : op.context args = .error e)

/-- A refusal is about the operation's own arguments. -/
theorem RefusesArguments.operation? (h : op.RefusesArguments payload e) :
    e.operation? = some op.name := by
  cases h with
  | binding refused => exact refusesFor_bind op payload e refused
  | coercion handler bound refused =>
    have hof := refusesFor_context op _ e refused
    rwa [operation_of_bind bound] at hof

theorem RefusesArguments.ofArguments (h : op.RefusesArguments payload e) : e.OfArguments :=
  CallError.ofArguments_of_operation? h.operation?

/-- An operation's own failure is about its own arguments, or its code has made it up. -/
theorem FailsItself.operation? (h : op.FailsItself payload e) :
    e.operation? = some op.name ∨ ∃ args, args.operation = op.name ∧ op.Throws args e := by
  cases h with
  | binding refused => exact .inl (RefusesArguments.binding refused).operation?
  | coercion handler bound refused =>
    exact .inl (RefusesArguments.coercion handler bound refused).operation?
  | code bound thrown => exact .inr ⟨_, operation_of_bind bound, thrown⟩

/-! ## One way after the other -/

section Ways

variable {logic context : Json} {reach : Reach} {info : CatalogInfo}
variable {run : Arguments → Task Nat (Except CallError Json)}

theorem invoke_of_unbound (refused : op.bind payload = .error e) (live lost : Host Moment) :
    op.invoke live lost payload = .done (.error e) := by
  rw [invoke, refused]

theorem invoke_of_native (handler : op.handler = .native run) (bound : op.bind payload = .ok args)
    (live lost : Host Moment) :
    op.invoke live lost payload = (run args).within Moment.entropy := by
  rw [invoke, bound]
  dsimp only
  rw [handler]

theorem invoke_of_publish (handler : op.handler = .publish info)
    (bound : op.bind payload = .ok args) (live lost : Host Moment) :
    op.invoke live lost payload =
      .look fun m => .done (.ok (Catalog.describe info m.registry.operations).toJson) := by
  rw [invoke, bound]
  dsimp only
  rw [handler]

theorem invoke_of_uncoerced (handler : op.handler = .expression logic reach)
    (bound : op.bind payload = .ok args) (refused : op.context args = .error e)
    (live lost : Host Moment) : op.invoke live lost payload = .done (.error e) := by
  rw [invoke, bound]
  dsimp only
  rw [handler]
  dsimp only
  rw [refused]

/-- The invocation of an operation whose expression has its arguments laid out. -/
theorem invoke_of_expression (handler : op.handler = .expression logic reach)
    (bound : op.bind payload = .ok args) (laidOut : op.context args = .ok context)
    (live lost : Host Moment) :
    op.invoke live lost payload =
      ((Expr.ofJson logic).eval (hostFor live lost reach) context).run >>=
        fun r => .done (r.mapError .evaluation) := by
  rw [invoke, bound]
  dsimp only
  rw [handler]
  dsimp only
  rw [laidOut]
  refine bind_congr fun r => ?_
  cases r <;> rfl

end Ways

/-- **The four things that an invocation can be,** whatever hosts there are. -/
theorem invoke_cases (op : Operation) (payload : Json) :
    (∃ e, op.FailsItself payload e ∧ e.operation? = some op.name ∧
      ∀ live lost, op.invoke live lost payload = .done (.error e)) ∨
    (∃ run args, op.handler = .native run ∧ op.bind payload = .ok args ∧
      ∀ live lost, op.invoke live lost payload = (run args).within Moment.entropy) ∨
    (∃ info, op.handler = .publish info ∧ ∀ live lost, op.invoke live lost payload =
      .look fun m => .done (.ok (Catalog.describe info m.registry.operations).toJson)) ∨
    (∃ logic reach context, op.handler = .expression logic reach ∧
      ∀ live lost, op.invoke live lost payload =
        ((Expr.ofJson logic).eval (hostFor live lost reach) context).run >>=
          fun r => .done (r.mapError .evaluation)) := by
  cases hbind : op.bind payload with
  | error e =>
    have hof := (RefusesArguments.binding hbind).operation?
    exact .inl ⟨e, .binding hbind, hof, invoke_of_unbound hbind⟩
  | ok args =>
    cases hhandler : op.handler with
    | native run => exact .inr (.inl ⟨run, args, rfl, rfl, invoke_of_native hhandler hbind⟩)
    | publish info => exact .inr (.inr (.inl ⟨info, rfl, invoke_of_publish hhandler hbind⟩))
    | expression logic reach =>
      cases hcontext : op.context args with
      | error e =>
        have hof := (RefusesArguments.coercion hhandler hbind hcontext).operation?
        exact .inl ⟨e, .coercion hhandler hbind hcontext, hof,
          invoke_of_uncoerced hhandler hbind hcontext⟩
      | ok context =>
        exact .inr (.inr (.inr ⟨logic, reach, context, rfl,
          invoke_of_expression hhandler hbind hcontext⟩))

end Operation

end Switchboard
