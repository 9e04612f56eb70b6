import Switchboard.Proofs.Dispatch.Depth
import Switchboard.Proofs.Dispatch.Graph
import Switchboard.Proofs.Operation.Outcomes
import Switchboard.Proofs.Registry.Laws
import Switchboard.Proofs.Toolbox.Refusals
/-!
# Why calls fail

Where every error of a call comes from. An evaluation fails on its own account,
with a call that is refused before it is made, or with what it is told of one
that its run comes to (`EvalFails`). A call fails because there is no such
operation, because the operation fails itself, or as its expression does
(`Fails`), and so on along the calls that were made. `fails_of_run` says that
this accounts for every failure, so what holds of errors is shown by induction on
`Fails`.
-/

namespace Switchboard

open Switchboard.Expr

/-! ## What own code makes up -/

namespace Registry

variable {r : Registry} {method callee : String} {e : CallError}

/-- The error is one that own code ends with, of an operation that the method reaches. -/
def MadeUp (r : Registry) (method : String) (e : CallError) : Prop :=
  ∃ callee op args, r.Reaches method callee ∧ r.lookup? callee = some op ∧ op.Throws args e

/-- What is made up within the reach of what a method calls is made up within its own. -/
theorem MadeUp.of_calls (hcalls : r.Calls method callee) (h : r.MadeUp callee e) :
    r.MadeUp method e := by
  obtain ⟨name, op, args, hreaches, hop, hthrows⟩ := h
  exact ⟨name, op, args, hreaches.head hcalls, hop, hthrows⟩

/-- **All code in the registry is that of built-in operations:** the others evaluate an expression
or publish the catalog. -/
def CodeBuiltIn (r : Registry) : Prop :=
  ∀ op ∈ r.operations, op ∈ Toolbox.operations ∨ ∀ run, op.handler ≠ .native run

/-- Built-in code names the operation that it was called as. -/
theorem CodeBuiltIn.operation?_of_throws (h : r.CodeBuiltIn) {op : Operation} {args : Arguments}
    (hop : op ∈ r.operations) (hthrows : op.Throws args e) :
    e.operation? = some args.operation := by
  rcases h op hop with hbuiltin | hnone
  · exact Toolbox.operation?_of_throws hbuiltin hthrows
  · obtain ⟨run, _, _, hrun, _⟩ := hthrows
    exact absurd hrun (hnone run)

/-- It makes up nothing but what is wrong with its arguments. -/
theorem CodeBuiltIn.ofArguments_of_madeUp (h : r.CodeBuiltIn) (hmade : r.MadeUp method e) :
    e.OfArguments := by
  obtain ⟨callee, op, args, -, hop, hthrows⟩ := hmade
  have hof := h.operation?_of_throws (mem_of_lookup? hop) hthrows
  exact CallError.ofArguments_of_operation? hof

end Registry

/-! ## Evaluations -/

/-- An error that an expression fails with on its own account, and not because of a call. -/
def EvalError.OfExpression : EvalError → Prop
  | .unknownOperator _ => True
  | .malformed _ _ => True
  | _ => False

/-- **A call is refused before it is made,** from where calls may nest so much deeper. -/
inductive Refuses (see : Nat → Moment) (callee : String) : Nat → EvalError → Prop where
  | tooDeep : Refuses see callee 0 (.nestedTooDeep nestingLimit)
  | registryGone (k : Nat) : Refuses see callee (k + 1) .registryGone
  | unregistered (k i : Nat) (missing : (see i).registry.lookup? callee = none) :
      Refuses see callee (k + 1) (.unknownOperation callee)

/-- **What an evaluation fails with** that starts on the clock, calls methods in `S`, and may nest
calls `k` deep. -/
inductive EvalFails (see : Nat → Moment) (k : Nat) (S : String → Prop) {α : Type} (c : Task.Clock)
    (x : Evaluation Moment α) : EvalError → Prop where
  | alone {e : EvalError} (alone : e.OfExpression) : EvalFails see k S c x e
  | refused {callee : String} {e : EvalError} (called : S callee)
      (refused : Refuses see callee k e) : EvalFails see k S c x e
  /-- The run comes to a call, which fails, and the expression is told so. -/
  | told {callee : String} {payload : Json} {deeper : Nat} {c' : Task.Clock} {e : CallError}
      (called : S callee) (deep : k = deeper + 1)
      (made : Task.ComesTo see c x.run c' ((Hosts.within deeper).call callee payload))
      (ended : (Task.run see c' ((Hosts.within deeper).call callee payload)).1 = .error e) :
      EvalFails see k S c x (e.toEvalError callee)

section Evaluations

variable {see : Nat → Moment} {k : Nat} {S : String → Prop} {α β : Type} {c c' : Task.Clock}
variable {x : Evaluation Moment α} {y : Evaluation Moment β} {e : EvalError} {callee : String}

/-- Only the calls that a run comes to matter. -/
theorem EvalFails.of_comesTo (h : EvalFails see k S c' y e)
    (hcomes : ∀ {c'' : Task.Clock} {t : CallTask},
      Task.ComesTo see c' y.run c'' t → Task.ComesTo see c x.run c'' t) :
    EvalFails see k S c x e := by
  cases h with
  | alone h => exact .alone h
  | refused called refused => exact .refused called refused
  | told called deep made ended => exact .told called deep (hcomes made) ended

/-- Evaluations whose failures are accounted for. -/
def accounted (see : Nat → Moment) (k : Nat) (S : String → Prop) : EvaluationRelation Moment :=
  fun _ x _ => ∀ c e, (Task.run see c x.run).1 = .error e → EvalFails see k S c x e

theorem accounted_throw (e : EvalError)
    (he : ∀ c, EvalFails see k S c (throw e : Evaluation Moment α) e) (x : Evaluation Moment α) :
    accounted see k S α (throw e) x := by
  intro c e' he'
  cases he'
  exact he c

theorem accounted_congruence (see : Nat → Moment) (k : Nat) (S : String → Prop) :
    Congruence (accounted see k S) where
  pure a c e he := by cases he
  unknownOperator name := accounted_throw (.unknownOperator name) (fun _ => .alone trivial) _
  malformed operator reason :=
    accounted_throw (.malformed operator reason) (fun _ => .alone trivial) _
  bind := by
    intro α β x y f g hx hf c e he
    rw [ExceptT.run_bind, Task.run_bind] at he
    -- either the first part fails, or the second does on the clock that the first has left
    cases hfirst : (Task.run see c x.run).1 with
    | ok a =>
      rw [hfirst] at he
      refine (hf a _ e he).of_comesTo fun hcomes => ?_
      rw [ExceptT.run_bind]
      refine Task.comesTo_bind ?_
      rw [hfirst]
      exact hcomes
    | error e' =>
      rw [hfirst] at he
      cases he
      refine (hx c e hfirst).of_comesTo fun hcomes => ?_
      rw [ExceptT.run_bind]
      exact hcomes.bind _

/-- What an expression is told of a call that it makes. -/
theorem accounted_answer (called : S callee) (payload : Json) (y : Evaluation Moment Json) :
    accounted see (k + 1) S Json
      (liftM ((Hosts.within k).call callee payload) >>= Hosts.answer callee) y := by
  intro c e he
  rw [Hosts.run_lift_bind, Task.run_bind] at he
  cases hended : (Task.run see c ((Hosts.within k).call callee payload)).1 with
  | ok v =>
    rw [hended] at he
    cases he
  | error cause =>
    rw [hended] at he
    cases he
    refine .told called rfl ?_ hended
    rw [Hosts.run_lift_bind]
    exact (Task.ComesTo.refl see c _).bind _

/-- A call from within an expression: refused, or made once its parameters are known. -/
theorem accounted_admitted (called : S callee) {params params' : Evaluation Moment Json}
    (hparams : accounted see (k + 1) S Json params params') :
    accounted see (k + 1) S Json ((Hosts.within k).admitted callee params)
      ((Hosts.within k).admitted callee params') := by
  intro c e he
  rw [Hosts.run_admitted, Task.run] at he
  by_cases hop : (see c.looks).registry.contains callee = true
  · rw [if_pos hop] at he
    have hcall := (accounted_congruence see (k + 1) S).bind hparams fun payload =>
      accounted_answer called payload (liftM ((Hosts.within k).call callee payload) >>=
        Hosts.answer callee)
    refine (hcall _ e he).of_comesTo fun hcomes => ?_
    rw [Hosts.run_admitted]
    refine Task.comesTo_look ?_
    rw [if_pos hop]
    exact hcomes
  · rw [if_neg hop] at he
    cases he
    exact .refused called (.unregistered k _ (Registry.lookup?_eq_none hop))

theorem accounted_within (see : Nat → Moment) (k : Nat) (S : String → Prop) :
    HostCongruenceOn (accounted see k S) S (Hosts.within k).live (Hosts.within k).live ∧
      HostCongruenceOn (accounted see k S) S (Hosts.within k).lost (Hosts.within k).lost := by
  cases k with
  | zero =>
    rw [Hosts.within_zero]
    exact ⟨.calling fun _ called _ _ _ => accounted_throw _ (fun _ => .refused called .tooDeep) _,
      .calling fun _ called _ _ _ => accounted_throw _ (fun _ => .refused called .tooDeep) _⟩
  | succ k =>
    rw [Hosts.within_succ]
    exact ⟨.calling fun _ called _ _ hparams => accounted_admitted called hparams,
      .calling fun _ called _ _ _ =>
        accounted_throw _ (fun _ => .refused called (.registryGone k)) _⟩

/-- **Every failure of an evaluation is accounted for.** -/
theorem evalFails_of_run {expr : Expr} {reach : Reach} {data : Json}
    (h : (Task.run see c (expr.eval ((Hosts.within k).forReach reach) data).run).1 = .error e) :
    EvalFails see k (· ∈ expr.callees) c (expr.eval ((Hosts.within k).forReach reach) data) e := by
  obtain ⟨hlive, hlost⟩ := accounted_within see k (· ∈ expr.callees)
  have hhost := Hosts.hostCongruenceOn_forReach hlive hlost reach
  exact eval_congr_on (accounted_congruence see k _) hhost expr (fun _ hmem => hmem) data c e h

end Evaluations

/-! ## Calls -/

/-- **Why a call fails** that starts on the clock, where calls may nest `k` deep within. -/
inductive Fails (see : Nat → Moment) :
    Nat → Task.Clock → String → Json → CallError → Prop where
  /-- There is no such operation. -/
  | unregistered {k : Nat} {c : Task.Clock} {m : String} {payload : Json}
      (missing : (see c.looks).registry.lookup? m = none) :
      Fails see k c m payload (.unknownOperation m)
  /-- The operation fails itself. -/
  | itself {k : Nat} {c : Task.Clock} {m : String} {payload : Json} {op : Operation}
      {e : CallError} (found : (see c.looks).registry.lookup? m = some op)
      (fails : op.FailsItself payload e) : Fails see k c m payload e
  /-- Its expression fails by itself. -/
  | alone {k : Nat} {c : Task.Clock} {m : String} {payload : Json} {op : Operation}
      {e : EvalError} (found : (see c.looks).registry.lookup? m = some op)
      (alone : e.OfExpression) : Fails see k c m payload (.evaluation e)
  /-- A call in its expression is refused. -/
  | refused {k : Nat} {c : Task.Clock} {m callee : String} {payload : Json} {op : Operation}
      {e : EvalError} (found : (see c.looks).registry.lookup? m = some op)
      (called : callee ∈ op.callees) (refused : Refuses see callee k e) :
      Fails see k c m payload (.evaluation e)
  /-- A call in its expression, which the run comes to, fails. -/
  | told {k : Nat} {c c' : Task.Clock} {m callee : String} {payload payload' : Json}
      {op : Operation} {e : CallError} (found : (see c.looks).registry.lookup? m = some op)
      (called : callee ∈ op.callees)
      (made : Task.ComesTo see c ((Hosts.within (k + 1)).call m payload) c'
        ((Hosts.within k).call callee payload'))
      (ended : (Task.run see c' ((Hosts.within k).call callee payload')).1 = .error e)
      (fails : Fails see k c' callee payload' e) :
      Fails see (k + 1) c m payload (.evaluation (e.toEvalError callee))

/-- A call comes to what the invocation of its operation does. -/
theorem comesTo_call {see : Nat → Moment} {h : Hosts} {c c' : Task.Clock} {m : String}
    {payload : Json} {op : Operation} {t : CallTask}
    (found : (see c.looks).registry.lookup? m = some op)
    (hcomes : Task.ComesTo see c.looked (op.invoke h.live h.lost payload) c' t) :
    Task.ComesTo see c (h.call m payload) c' t := by
  refine Task.comesTo_look ?_
  rw [found]
  exact hcomes

/-- **Every failure of a call is accounted for.** -/
theorem fails_of_run {see : Nat → Moment} {k : Nat} {c : Task.Clock} {m : String} {payload : Json}
    {e : CallError} (h : (Task.run see c ((Hosts.within k).call m payload)).1 = .error e) :
    Fails see k c m payload e := by
  -- the calls that an expression makes may nest less deep
  induction k using Nat.strong_induction_on generalizing c m payload e with
  | h k ih =>
    rw [Hosts.call, callByName, Task.run] at h
    cases found : (see c.looks).registry.lookup? m with
    | none =>
      rw [found] at h
      cases h
      exact .unregistered found
    | some op =>
      rw [found] at h
      dsimp only at h
      obtain ⟨e', hfails, -, hinvoke⟩ | ⟨run, args, hrun, hbind, hinvoke⟩ | ⟨info, -, hinvoke⟩ |
        ⟨logic, reach, context, hlogic, hinvoke⟩ := op.invoke_cases payload
      · rw [hinvoke] at h
        cases h
        exact .itself found hfails
      · rw [hinvoke, Task.run_within] at h
        exact .itself found (.code hbind ⟨run, _, _, hrun, h⟩)
      · rw [hinvoke] at h
        cases h
      · rw [hinvoke, Task.run_bind, Task.run] at h
        obtain ⟨cause, hcause, rfl⟩ := exists_of_mapError_eq_error h
        cases evalFails_of_run hcause with
        | alone alone => exact .alone found alone
        | refused called refused =>
          rw [← Operation.callees_of_expression hlogic] at called
          exact .refused found called refused
        | told called deep made ended =>
          rw [← Operation.callees_of_expression hlogic] at called
          subst deep
          refine .told found called (comesTo_call found ?_) ended (ih _ (Nat.lt_succ_self _) ended)
          rw [hinvoke]
          exact made.bind _

/-- In particular, so is that of a call from outside any expression. -/
theorem fails_of_dispatch {see : Nat → Moment} {c : Task.Clock} {m : String} {payload : Json}
    {e : CallError} (h : (Task.run see c (dispatch m payload)).1 = .error e) :
    Fails see nestingLimit c m payload e := by
  rw [Hosts.dispatch_eq] at h
  exact fails_of_run h

end Switchboard
