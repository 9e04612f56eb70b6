import Switchboard.Proofs.Dispatch.Graph
import Switchboard.Proofs.Expression.Congruence
import Switchboard.Proofs.Operation.Outcomes
import Switchboard.Proofs.Task.Sight
/-!
# Calls that hold on to what they have found

A call by name looks at the registry once, to find its operation, and goes on as the invocation of
what it has found (`run_dispatch_of_found`). An operation may need nothing of the registry then: its
own code never sees it, and an expression in which nothing is called is evaluated at once, whatever
there is to call (`Expr.exists_eval_eq_done`). From there on such a call sees the random bits only
(`SelfContained.seesOnly_invocation`), and runs the same however the registry changes meanwhile
(`SelfContained.run_dispatch_eq`).
-/

namespace Switchboard

/-! ## Expressions without calls -/

namespace Expr

variable {ρ : Type}

/-- Evaluations that are over at once: they neither look nor wait. -/
def settled : EvaluationRelation ρ := fun _ x _ => ∃ r, x.run = .done r

theorem settled_congruence : Congruence (ρ := ρ) settled where
  pure a := ⟨.ok a, rfl⟩
  unknownOperator name := ⟨.error (.unknownOperator name), rfl⟩
  malformed operator reason := ⟨.error (.malformed operator reason), rfl⟩
  bind := by
    rintro α β x y f g ⟨r, hr⟩ hf
    rw [settled, ExceptT.run_bind, hr]
    cases r with
    | ok a => exact hf a
    | error e => exact ⟨.error e, rfl⟩

/-- **Where nothing is called, evaluation is over at once,** whatever there is to call. -/
theorem exists_eval_eq_done {e : Expr} (he : e.callees = []) (h : Host ρ) (data : Json) :
    ∃ r, (eval h e data).run = .done r := by
  have hh : HostCongruenceOn settled (fun _ => False) h h := by
    obtain ⟨_ | call⟩ := h
    · exact .alone
    · exact .calling fun _ hcalled => hcalled.elim
  refine eval_congr_on settled_congruence hh e (fun method hmem => ?_) data
  rw [he] at hmem
  cases hmem

end Expr

/-! ## Operations without calls -/

namespace Operation

variable {op : Operation} {logic : Json} {reach : Reach}

/-- **Once it has been found, the operation needs nothing of the registry.** -/
structure SelfContained (op : Operation) : Prop where
  /-- It does not publish the catalog, -/
  unpublishing : ∀ info, op.handler ≠ .publish info
  /-- and its expression, if it has one, calls nothing. -/
  callless : op.callees = []

/-- Code is given its arguments, and no registry. -/
theorem selfContained_of_code {run : Arguments → Task Nat (Except CallError Json)}
    (h : op.handler = .native run) : op.SelfContained where
  unpublishing info hinfo := by
    rw [h] at hinfo
    cases hinfo
  callless := by rw [callees, h]

/-- An expression in whose text no call is written calls nothing. -/
theorem selfContained_of_unwritten (h : op.handler = .expression logic reach)
    (hnone : ∀ method, ¬ logic.WritesCall method) : op.SelfContained where
  unpublishing info hinfo := by
    rw [h] at hinfo
    cases hinfo
  callless := by
    rw [callees_of_expression h]
    exact List.eq_nil_iff_forall_not_mem.2 fun method hmem =>
      hnone method (Expr.writesCall_of_mem_callees logic method hmem)

/-- What a call of the operation goes on as, once it has been found. -/
def invocation (op : Operation) (payload : Json) : CallTask :=
  op.invoke (callsWithin nestingLimit) (lostHost nestingLimit) payload

/-- **All that it sees then are random bits.** -/
theorem SelfContained.seesOnly_invocation (h : op.SelfContained) (payload : Json) :
    (op.invocation payload).SeesOnly Moment.entropy := by
  obtain ⟨e, -, -, hinvoke⟩ | ⟨run, args, -, -, hinvoke⟩ | ⟨info, hpublish, -⟩ |
    ⟨logic, reach, context, hlogic, hinvoke⟩ := op.invoke_cases payload
  · rw [invocation, hinvoke]
    exact Task.seesOnly_done _ _
  · rw [invocation, hinvoke]
    exact Task.seesOnly_within _ _
  · exact absurd hpublish (h.unpublishing info)
  · have hcallless : (Expr.ofJson logic).callees = [] := by
      rw [← callees_of_expression hlogic]
      exact h.callless
    obtain ⟨r, hr⟩ := Expr.exists_eval_eq_done hcallless
      (hostFor (callsWithin nestingLimit) (lostHost nestingLimit) reach) context
    rw [invocation, hinvoke, hr]
    exact Task.seesOnly_done _ _

end Operation

/-! ## Calls -/

section Calls

variable {see see' : Nat → Moment} {c : Task.Clock} {method : String} {op : Operation}

/-! Whichever way it is run, a call finds its operation at its first look, and is its invocation
from there on. One that finds none is over with that look. -/

theorem run_dispatch_of_found (h : (see c.looks).registry.lookup? method = some op)
    (payload : Json) :
    Task.run see c (dispatch method payload) = Task.run see c.looked (op.invocation payload) := by
  rw [dispatch, callByName, Task.run, h]
  rfl

theorem runUntil_dispatch_of_found (h : (see c.looks).registry.lookup? method = some op)
    (deadline : Nat) (payload : Json) :
    Task.runUntil deadline see c (dispatch method payload) =
      Task.runUntil deadline see c.looked (op.invocation payload) := by
  rw [dispatch, callByName, Task.runUntil, h]
  rfl

theorem poll_dispatch_of_found (h : (see c.looks).registry.lookup? method = some op)
    (payload : Json) :
    Task.poll see c (dispatch method payload) = Task.poll see c.looked (op.invocation payload) := by
  rw [dispatch, callByName, Task.poll, h]
  rfl

theorem run_dispatch_of_missing (h : (see c.looks).registry.lookup? method = none)
    (payload : Json) : Task.run see c (dispatch method payload) =
      (.error (.unknownOperation method), c.looked) := by
  rw [dispatch, callByName, Task.run, h]
  rfl

theorem poll_dispatch_of_missing (h : (see c.looks).registry.lookup? method = none)
    (payload : Json) : Task.poll see c (dispatch method payload) =
      (.finished (.error (.unknownOperation method)), c.looked) := by
  rw [dispatch, callByName, Task.poll, h]
  rfl

/-- **What a call has found is carried out the same however the registry changes from look to
look.** -/
theorem Operation.SelfContained.run_dispatch_eq (h : op.SelfContained)
    (hop : (see c.looks).registry.lookup? method = some op)
    (hop' : (see' c.looks).registry.lookup? method = some op)
    (hsee : ∀ i, (see i).entropy = (see' i).entropy) (payload : Json) :
    Task.run see c (dispatch method payload) = Task.run see' c (dispatch method payload) := by
  rw [run_dispatch_of_found hop, run_dispatch_of_found hop']
  exact (h.seesOnly_invocation payload).run_congr hsee c.looked

end Calls

end Switchboard
