import Switchboard.Proofs.Operation.Outcomes
/-!
# The causes of a failed call

When exactly a call from outside any expression fails, and with what
(`run_dispatch_eq_error_iff`): there is no such operation, its arguments are refused, its own code
fails, or its expression does. What the expression calls is no cause of its own: however deep
something goes wrong there, it is the expression of the called operation that has no value.
-/

namespace Switchboard

variable {see : Nat → Moment} {c : Task.Clock} {method : String} {payload : Json} {op : Operation}
variable {e : CallError}

namespace Operation

/-- **The operation's own code fails,** given the arguments, the time and the random bits. -/
def CodeFails (op : Operation) (bits : Nat → Nat) (c : Task.Clock) (payload : Json)
    (e : CallError) : Prop :=
  ∃ run args, op.handler = .native run ∧ op.bind payload = .ok args ∧
    (Task.run bits c (run args)).1 = .error e

/-- **The operation's expression fails,** evaluated against the arguments as declared. -/
def ExpressionFails (op : Operation) (see : Nat → Moment) (c : Task.Clock) (payload : Json)
    (cause : EvalError) : Prop :=
  ∃ logic reach args context, op.handler = .expression logic reach ∧
    op.bind payload = .ok args ∧ op.context args = .ok context ∧
    (Task.run see c (evaluate reach logic context).run).1 = .error cause

theorem CodeFails.exists_throws {bits : Nat → Nat} (h : op.CodeFails bits c payload e) :
    ∃ args, op.Throws args e := by
  obtain ⟨run, args, hrun, -, he⟩ := h
  exact ⟨args, run, bits, c, hrun, he⟩

/-- When exactly an operation that was found fails. -/
theorem run_invoke_eq_error_iff :
    (Task.run see c (op.invoke (callsWithin nestingLimit) (lostHost nestingLimit) payload)).1 =
        .error e ↔
      op.RefusesArguments payload e ∨ op.CodeFails (fun i => (see i).entropy) c payload e ∨
        ∃ cause, e = .evaluation cause ∧ op.ExpressionFails see c payload cause := by
  constructor
  · intro h
    cases hbind : op.bind payload with
    | error e' =>
      rw [invoke_of_unbound hbind] at h
      cases h
      exact .inl (.binding hbind)
    | ok args =>
      cases hhandler : op.handler with
      | native run =>
        rw [invoke_of_native hhandler hbind, Task.run_within] at h
        exact .inr (.inl ⟨run, args, hhandler, hbind, h⟩)
      | publish info =>
        rw [invoke_of_publish hhandler hbind] at h
        cases h
      | expression logic reach =>
        cases hcontext : op.context args with
        | error e' =>
          rw [invoke_of_uncoerced hhandler hbind hcontext] at h
          cases h
          exact .inl (.coercion hhandler hbind hcontext)
        | ok context =>
          rw [invoke_of_expression hhandler hbind hcontext, Task.run_bind] at h
          obtain ⟨cause, hcause, rfl⟩ := exists_of_mapError_eq_error h
          exact .inr (.inr ⟨cause, rfl, logic, reach, args, context, hhandler, hbind, hcontext,
            hcause⟩)
  · rintro (hrefused | ⟨run, args, hrun, hbind, he⟩ |
      ⟨cause, rfl, logic, reach, args, context, hhandler, hbind, hcontext, hcause⟩)
    · cases hrefused with
      | binding refused =>
        rw [invoke_of_unbound refused]
        rfl
      | coercion handler bound refused =>
        rw [invoke_of_uncoerced handler bound refused]
        rfl
    · rw [invoke_of_native hrun hbind, Task.run_within]
      exact he
    · rw [evaluate, hostOf] at hcause
      rw [invoke_of_expression hhandler hbind hcontext, Task.run_bind, hcause]
      rfl

end Operation

/-- **Why a call fails** that starts on the clock from outside any expression. -/
inductive FailsBecause (see : Nat → Moment) (c : Task.Clock) (method : String) (payload : Json) :
    CallError → Prop where
  /-- There is no such operation. -/
  | unregistered (missing : (see c.looks).registry.lookup? method = none) :
      FailsBecause see c method payload (.unknownOperation method)
  /-- Its arguments are refused. -/
  | arguments {op : Operation} {e : CallError}
      (found : (see c.looks).registry.lookup? method = some op)
      (refused : op.RefusesArguments payload e) : FailsBecause see c method payload e
  /-- Its own code fails. -/
  | code {op : Operation} {e : CallError}
      (found : (see c.looks).registry.lookup? method = some op)
      (fails : op.CodeFails (fun i => (see i).entropy) c.looked payload e) :
      FailsBecause see c method payload e
  /-- Its expression fails. -/
  | expression {op : Operation} {cause : EvalError}
      (found : (see c.looks).registry.lookup? method = some op)
      (fails : op.ExpressionFails see c.looked payload cause) :
      FailsBecause see c method payload (.evaluation cause)

/-- **A call fails with an error if and only if there is a cause for it.** -/
theorem run_dispatch_eq_error_iff :
    (Task.run see c (dispatch method payload)).1 = .error e ↔
      FailsBecause see c method payload e := by
  rw [dispatch, callByName, Task.run]
  constructor
  · intro h
    cases hop : (see c.looks).registry.lookup? method with
    | none =>
      rw [hop] at h
      cases h
      exact .unregistered hop
    | some op =>
      rw [hop] at h
      rcases Operation.run_invoke_eq_error_iff.1 h with hrefused | hcode | ⟨cause, rfl, hcause⟩
      · exact .arguments hop hrefused
      · exact .code hop hcode
      · exact .expression hop hcause
  · intro h
    cases h with
    | unregistered missing =>
      rw [missing]
      rfl
    | arguments found refused =>
      rw [found]
      exact Operation.run_invoke_eq_error_iff.2 (.inl refused)
    | code found fails =>
      rw [found]
      exact Operation.run_invoke_eq_error_iff.2 (.inr (.inl fails))
    | expression found fails =>
      rw [found]
      exact Operation.run_invoke_eq_error_iff.2 (.inr (.inr ⟨_, rfl, fails⟩))

end Switchboard
