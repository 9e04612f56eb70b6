import Switchboard.Proofs.Dispatch.Depth
import Switchboard.Proofs.Dispatch.Graph
import Switchboard.Proofs.Expression.Invocation
/-!
# What own code is free to do

Of an operation's own code nothing is known but what it is given. It may end with any error, and
the call ends with that error, whatever it says (`outcome_of_failing`): also with one that otherwise
only expressions have, or calls of nothing. What an expression is told of it, is told on as if it
were so (`outcome_of_relaying`). And it may go by the random bits that it sees; then two calls need
not come to the same (`Operation.tossing`). Laws about calls have to except such code, or to say
what is left of them.
-/

namespace Switchboard

open Switchboard.Expr

/-! ## Three operations -/

namespace Operation

/-- An operation whose own code ends with the error, whatever it is given. -/
def failing (e : CallError) : Operation where
  name := "failing"
  handler := .native fun _ => .done (.error e)

/-- An operation that does nothing but call that one. -/
def relaying : Operation where
  name := "relaying"
  handler := .expression (literalCallOf "failing" .null) .registry

/-- An operation whose own code goes by the last of the random bits that it sees. -/
def tossing : Operation where
  name := "tossing"
  handler := .native fun _ => .look fun bits => .done (.ok (.bool (bits % 2 = 1)))

variable {e e' : CallError} {args : Arguments}

/-- What the first throws is its error. -/
theorem eq_of_throws_failing (h : (failing e).Throws args e') : e' = e := by
  obtain ⟨run, _, _, hrun, he⟩ := h
  cases hrun
  exact (Except.error.inj he).symm

/-- The second has no code to throw anything. -/
theorem not_throws_relaying : ¬ relaying.Throws args e := by
  rintro ⟨run, _, _, hrun, -⟩
  cases hrun

end Operation

/-- A registry that holds nothing but the first. -/
def Registry.ofFailing (e : CallError) : Registry := .ofOperations [.failing e]

/-! ## Calls of them -/

variable {r : Registry} {bits : Nat → Nat} {c : Task.Clock} {data : Json} {e : CallError}

/-- **The evaluation of a call** is a look, and then the call, from where calls may nest one less
deep than from outside. -/
theorem run_evaluate_literalCallOf (see : Nat → Moment) (c : Task.Clock) (method : String)
    (payload data : Json) :
    Task.run see c (evaluate .registry (literalCallOf method payload) data).run =
      if (see c.looks).registry.contains method then
        (Task.run see c.looked ((Hosts.within (nestingLimit - 1)).call method payload)).map
          (·.mapError (·.toEvalError method)) id
      else (.error (.unknownOperation method), c.looked) := by
  rw [evaluate, Expr.ofJson_literalCallOf]
  change Task.run see c
    ((Hosts.within (nestingLimit - 1)).admitted method (pure payload)).run = _
  rw [Hosts.run_admitted, Task.run]
  by_cases hop : (see c.looks).registry.contains method = true
  · rw [if_pos hop, if_pos hop, pure_bind, Hosts.run_lift_bind, Task.run_bind]
    generalize Task.run see c.looked ((Hosts.within (nestingLimit - 1)).call method payload) = ended
    obtain ⟨result, after⟩ := ended
    cases result with
    | ok v => rfl
    | error e => rfl
  · rw [if_neg hop, if_neg hop]
    rfl

/-- From wherever it is made, a call of code that fails ends with the error of the code. -/
theorem run_call_of_failing (found : r.lookup? "failing" = some (.failing e)) (h : Hosts) :
    (Task.run (r.still bits) c (h.call "failing" .null)).1 = .error e := by
  rw [Hosts.call, callByName, Task.run, Registry.still_registry, found]
  rfl

/-- **Any error at all is the outcome of a call.** -/
theorem outcome_of_failing (found : r.lookup? "failing" = some (.failing e)) :
    r.outcome bits c "failing" .null = .error e :=
  run_call_of_failing found (Hosts.within nestingLimit)

/-- An expression that makes the call is told of the error as of any other, -/
theorem evaluate_of_failing (found : r.lookup? "failing" = some (.failing e)) :
    (Task.run (r.still bits) c
        (evaluate .registry (literalCallOf "failing" .null) data).run).1 =
      .error (e.toEvalError "failing") := by
  have hcontains : r.contains "failing" = true := by rw [Registry.contains, found]; rfl
  rw [run_evaluate_literalCallOf, Registry.still_registry, if_pos hcontains, Prod.map_fst,
    run_call_of_failing found]
  rfl

/-- **and so is whoever calls the operation of that expression.** -/
theorem outcome_of_relaying (found : r.lookup? "failing" = some (.failing e))
    (calling : r.lookup? "relaying" = some .relaying) :
    r.outcome bits c "relaying" .null =
      .error (.evaluation (e.toEvalError "failing")) := by
  have hinvoke : Operation.relaying.invoke (callsWithin nestingLimit) (lostHost nestingLimit) .null =
      (evaluate .registry (literalCallOf "failing" .null) (.object [])).run >>=
        fun result => .done (result.mapError .evaluation) :=
    Operation.invoke_of_expression rfl rfl rfl _ _
  have htold : (Task.run (r.still bits) c.looked
      (evaluate .registry (literalCallOf "failing" .null) (.object [])).run).1 =
        .error (e.toEvalError "failing") := evaluate_of_failing found
  rw [Registry.outcome, dispatch, callByName, Task.run, Registry.still_registry, calling]
  dsimp only
  rw [hinvoke, Task.run_bind]
  change Except.mapError CallError.evaluation (Task.run _ _ (evaluate _ _ _).run).1 = _
  rw [htold]
  rfl

end Switchboard
