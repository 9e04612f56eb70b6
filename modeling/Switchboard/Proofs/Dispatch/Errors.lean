import Switchboard.Proofs.Dispatch.Depth
import Switchboard.Proofs.Expression.Errors
import Switchboard.Proofs.Registry.Laws
/-!
# Kinds of errors of a call

Which errors calls and evaluations can end with, one kind for each (`Covers`). The
errors that arise where a call is made, read or refused have to be of the kind,
and the kind has to go from an expression to the call that evaluates it, and from a
call to the expression that makes it. Then, through however many calls, there are
no others (`Covers.ends_call`, `Covers.ends_eval`), whatever the calls see meanwhile.
-/

namespace Switchboard

open Switchboard.Expr

/-- **Kinds of errors that cover what can go wrong,** where what is seen is of a kind, too. -/
structure Covers (M : Moment → Prop) (Q : EvalError → Prop) (Q' : CallError → Prop) : Prop where
  malformed : ∀ operator reason, Q (.malformed operator reason)
  unregistered : ∀ method, Q' (.unknownOperation method)
  tooDeep : Q (.nestedTooDeep nestingLimit)
  registryGone : Q .registryGone
  /-- What the expression of an operation fails with, the call does. -/
  evaluation : ∀ {e}, Q e → Q' (.evaluation e)
  /-- What a call fails with, the expression that made it is told. -/
  told : ∀ {e} method, Q' e → Q (e.toEvalError method)
  itself : ∀ {m}, M m → ∀ op ∈ m.registry.operations, ∀ payload e, op.FailsItself payload e → Q' e
  foreign : ∀ {m}, M m → ∀ op ∈ m.registry.operations, ∀ logic reach,
    op.handler = .expression logic reach →
      ∀ name, (Expr.ofJson logic).HasForeign reach.calls name → Q (.unknownOperator name)

/-- The hosts within the limit call operations if they reach any. -/
theorem Hosts.isSome_call? (k : Nat) (reach : Reach) :
    ((Hosts.within k).forReach reach).call?.isSome = reach.calls := by
  obtain ⟨f, g, hcalls⟩ := Hosts.exists_within_eq k
  rw [hcalls]
  cases reach <;> rfl

namespace Covers

variable {M : Moment → Prop} {Q : EvalError → Prop} {Q' : CallError → Prop}
variable {method : String}

/-- The errors of a call are of the kind if those of the calls that it makes are. -/
theorem ends_call_of_hosts (hQ : Covers M Q Q') (k : Nat)
    (hlive : HostCongruence (ending M Q) (Hosts.within k).live (Hosts.within k).live)
    (hlost : HostCongruence (ending M Q) (Hosts.within k).lost (Hosts.within k).lost)
    (method : String) (payload : Json) :
    Task.Ends M (FailsOnly Q') ((Hosts.within k).call method payload) := by
  refine Task.ends_look fun m hm => ?_
  cases hop : m.registry.lookup? method with
  | none => exact failsOnly_error (hQ.unregistered method)
  | some op =>
    change Task.Ends M (FailsOnly Q') (op.invoke _ _ payload)
    have hmem := Registry.mem_of_lookup? hop
    obtain ⟨e, hfails, -, hinvoke⟩ | ⟨run, args, hrun, hbind, hinvoke⟩ | ⟨info, -, hinvoke⟩ |
      ⟨logic, reach, context, hlogic, hinvoke⟩ := op.invoke_cases payload
    · rw [hinvoke]
      exact failsOnly_error (hQ.itself hm op hmem payload e hfails)
    · rw [hinvoke]
      -- own code sees random bits only, and is known by its runs
      refine Task.ends_within (Task.ends_of_runs fun bits c e he => ?_)
      exact hQ.itself hm op hmem payload e (.code hbind ⟨run, bits, c, hrun, he⟩)
    · rw [hinvoke]
      exact fun _ _ => failsOnly_ok _
    · rw [hinvoke]
      have hhost := Hosts.hostCongruence_forReach hlive hlost reach
      have hforeign := hQ.foreign hm op hmem logic reach hlogic
      rw [← Hosts.isSome_call? k reach] at hforeign
      refine Task.Ends.bind (ending_eval hQ.malformed hhost context hforeign) fun r hr => ?_
      cases r with
      | ok v => exact failsOnly_ok v
      | error e => exact failsOnly_error (hQ.evaluation (hr e rfl))

/-- What the expression that made a call is told has errors of the kind, if the call has. -/
theorem ending_answer (hQ : Covers M Q Q') {t : CallTask} (ht : Task.Ends M (FailsOnly Q') t) :
    ending M Q Json (liftM t >>= Hosts.answer method) (liftM t >>= Hosts.answer method) := by
  rw [ending, Hosts.run_lift_bind]
  refine ht.bind fun r hr => ?_
  cases r with
  | ok v => exact failsOnly_ok v
  | error e => exact failsOnly_error (hQ.told method (hr e rfl))

/-- Below the limit, a call from within an expression is refused or made. -/
theorem ending_admitted (hQ : Covers M Q Q') {k : Nat}
    (hcall : ∀ payload, Task.Ends M (FailsOnly Q') ((Hosts.within k).call method payload))
    {params params' : Evaluation Moment Json} (hparams : ending M Q Json params params') :
    ending M Q Json ((Hosts.within k).admitted method params)
      ((Hosts.within k).admitted method params') := by
  rw [ending, Hosts.run_admitted]
  refine Task.ends_look fun m _ => ?_
  cases m.registry.contains method with
  | false => exact failsOnly_error (hQ.told method (hQ.unregistered method))
  | true =>
    exact (sequencing_ending hQ.malformed).bind hparams fun payload =>
      hQ.ending_answer (hcall payload)

/-- **Through however many operations,** the errors of calls are of the kind. -/
theorem ending_within (hQ : Covers M Q Q') (k : Nat) :
    HostCongruence (ending M Q) (Hosts.within k).live (Hosts.within k).live ∧
      HostCongruence (ending M Q) (Hosts.within k).lost (Hosts.within k).lost := by
  -- on the depth that is left: a call at one depth makes calls at the next
  induction k with
  | zero =>
    rw [Hosts.within_zero]
    exact ⟨.calling fun _ _ _ _ => ending_throw hQ.tooDeep _,
      .calling fun _ _ _ _ => ending_throw hQ.tooDeep _⟩
  | succ k ih =>
    have hcall := hQ.ends_call_of_hosts k ih.1 ih.2
    rw [Hosts.within_succ]
    exact ⟨.calling fun method _ _ hparams => hQ.ending_admitted (hcall method) hparams,
      .calling fun _ _ _ _ => ending_throw hQ.registryGone _⟩

/-- **A call fails with errors of the kind only.** -/
theorem ends_call (hQ : Covers M Q Q') (k : Nat) (method : String) (payload : Json) :
    Task.Ends M (FailsOnly Q') ((Hosts.within k).call method payload) :=
  hQ.ends_call_of_hosts k (hQ.ending_within k).1 (hQ.ending_within k).2 method payload

/-- **An evaluation fails with errors of the kind only,** if those of operators that it does not know
are. -/
theorem ends_eval (hQ : Covers M Q Q') (k : Nat) (reach : Reach) {e : Expr} (data : Json)
    (he : ∀ name, e.HasForeign reach.calls name → Q (.unknownOperator name)) :
    Task.Ends M (FailsOnly Q) (e.eval ((Hosts.within k).forReach reach) data).run := by
  obtain ⟨hlive, hlost⟩ := hQ.ending_within k
  rw [← Hosts.isSome_call? k reach] at he
  exact ending_eval hQ.malformed (Hosts.hostCongruence_forReach hlive hlost reach) data he

end Covers

end Switchboard
