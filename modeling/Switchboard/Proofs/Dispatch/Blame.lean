import Switchboard.Proofs.Dispatch.Failures
import Switchboard.Proofs.Dispatch.OwnCode
/-!
# Who failed

What an error that comes out of a call says about who failed. However long the
chain of calls is, an error is attributed once: to the operation that failed on
its own account, innermost, with the error that it failed with (`BlameLaws`).
That takes own code which does not pass its failures off as those of an
expression or of a call of nothing (`Registry.Candid`).
-/

namespace Switchboard

/-- An error that is neither that of an expression nor about an operation that there is not. -/
def CallError.Own : CallError → Prop
  | .evaluation _ => False
  | .unknownOperation _ => False
  | _ => True

/-- The three ways in which the error of a call shows in the expression that made it. -/
theorem CallError.toEvalError_cases (e : CallError) (method : String) :
    (∃ cause, e = .evaluation cause ∧ e.toEvalError method = cause) ∨
    (∃ name, e = .unknownOperation name ∧ e.toEvalError method = .unknownOperation name) ∨
    (e.Own ∧ e.toEvalError method = .invocation method e) := by
  cases e with
  | evaluation cause => exact .inl ⟨cause, rfl, rfl⟩
  | unknownOperation name => exact .inr (.inl ⟨name, rfl, rfl⟩)
  | _ => exact .inr (.inr ⟨trivial, rfl⟩)

theorem CallError.own_of_operation? {e : CallError} {operation : String}
    (h : e.operation? = some operation) : e.Own := by
  cases e with
  | evaluation cause => cases h
  | unknownOperation name => cases h
  | _ => trivial

namespace Registry

variable {r : Registry} {op : Operation} {payload : Json} {args : Arguments} {e : CallError}

/-- **Own code is candid:** it does not end with the error of an expression, nor with that of a call
of nothing. -/
def Candid (r : Registry) : Prop :=
  ∀ op ∈ r.operations, ∀ args e, op.Throws args e → e.Own

/-- Built-in code is. -/
theorem CodeBuiltIn.candid (h : r.CodeBuiltIn) : r.Candid :=
  fun _ hop _ _ hthrows => CallError.own_of_operation? (h.operation?_of_throws hop hthrows)

theorem Candid.own_of_failsItself (h : r.Candid) (hop : op ∈ r.operations)
    (hfails : op.FailsItself payload e) : e.Own := by
  rcases hfails.operation? with hof | ⟨args, -, hthrows⟩
  · exact CallError.own_of_operation? hof
  · exact h op hop args e hthrows

end Registry

namespace Blame

variable {r : Registry} {bits : Nat → Nat} {c : Task.Clock} {k : Nat} {method callee : String}
variable {payload : Json} {e source : CallError} {op : Operation}

/-- **The one to blame** for the error of a call that starts on the clock: its run comes to a call
of the operation, by calls that are written in expressions, and the operation fails itself. -/
structure Culprit (r : Registry) (bits : Nat → Nat) (c : Task.Clock) (start : CallTask)
    (method callee : String) (source : CallError) : Prop where
  own : source.Own
  called : Relation.TransGen r.Calls method callee
  failed : ∃ deeper payload c' op,
    Task.ComesTo (r.still bits) c start c' ((Hosts.within deeper).call callee payload) ∧
    (Task.run (r.still bits) c' ((Hosts.within deeper).call callee payload)).1 = .error source ∧
    r.lookup? callee = some op ∧ op.FailsItself payload source

/-- **Where an error arises that is attributed to nobody:** the run comes to a call of an operation
whose expression fails with it on its own account, or with a call that is refused. -/
def Arises (r : Registry) (bits : Nat → Nat) (c : Task.Clock) (start : CallTask) (method : String)
    (cause : EvalError) : Prop :=
  ∃ callee deeper payload c', r.Reaches method callee ∧
    Task.ComesTo (r.still bits) c start c' ((Hosts.within deeper).call callee payload) ∧
    (Task.run (r.still bits) c' ((Hosts.within deeper).call callee payload)).1 =
      .error (.evaluation cause) ∧
    (cause.OfExpression ∨
      ∃ name, r.Calls callee name ∧ Refuses (r.still bits) name deeper cause)

/-- An error of its own, of a call, is one with which the called operation fails itself. -/
theorem failsItself_of_own (h : Fails (r.still bits) k c method payload e) (hown : e.Own) :
    ∃ op, r.lookup? method = some op ∧ op.FailsItself payload e := by
  cases h with
  | unregistered missing => exact hown.elim
  | itself found fails => exact ⟨_, found, fails⟩
  | alone found alone => exact hown.elim
  | refused found called refused => exact hown.elim
  | told found called made ended fails => exact hown.elim

/-- Where own code is candid, nothing but the method that is called can be missing. -/
theorem unregistered_of_candid {name : String} (hcandid : r.Candid)
    (h : Fails (r.still bits) k c method payload (.unknownOperation name)) :
    r.lookup? method = none ∧ name = method := by
  cases h with
  | unregistered missing => exact ⟨missing, rfl⟩
  | itself found fails =>
    exact (hcandid.own_of_failsItself (Registry.mem_of_lookup? found) fails).elim

/-- **An error is attributed to the one to blame,** along however many calls it comes. -/
theorem culprit_of_fails (hcandid : r.Candid) (h : Fails (r.still bits) k c method payload e)
    (he : e = .evaluation (.invocation callee source)) :
    Culprit r bits c ((Hosts.within k).call method payload) method callee source := by
  induction h with
  | unregistered missing => cases he
  | itself found fails =>
    have hown := hcandid.own_of_failsItself (Registry.mem_of_lookup? found) fails
    rw [he] at hown
    exact hown.elim
  | alone found alone =>
    cases he
    exact alone.elim
  | refused found called refused =>
    cases he
    cases refused
  | @told k c c' m name payload payload' op e found called made ended fails ih =>
    have hcalls : r.Calls m name := ⟨op, found, called⟩
    have htold := CallError.evaluation.inj he
    rcases e.toEvalError_cases name with ⟨cause, rfl, heq⟩ | ⟨_, -, heq⟩ | ⟨hown, heq⟩
    · -- an error that was attributed before stays so
      rw [heq] at htold
      obtain ⟨hsource, hreached, deeper, payload'', c'', op', hcomes, hfailed⟩ :=
        ih (congrArg CallError.evaluation htold)
      exact ⟨hsource, .head hcalls hreached, deeper, payload'', c'', op', made.trans hcomes,
        hfailed⟩
    · rw [heq] at htold
      cases htold
    · -- the operation that was called has failed itself
      rw [heq] at htold
      cases htold
      obtain ⟨op', hop', hfails⟩ := failsItself_of_own fails hown
      exact ⟨hown, .single hcalls, k, payload', c', op', made, ended, hop', hfails⟩

/-- **What is attributed to nobody comes out as it arose,** along however many calls. -/
theorem arises_of_fails {cause : EvalError} (hcandid : r.Candid)
    (h : Fails (r.still bits) k c method payload e)
    (hended : (Task.run (r.still bits) c ((Hosts.within k).call method payload)).1 = .error e)
    (he : e = .evaluation cause) (hcause : ∀ callee source, cause ≠ .invocation callee source) :
    Arises r bits c ((Hosts.within k).call method payload) method cause := by
  induction h with
  | unregistered missing => cases he
  | itself found fails =>
    have hown := hcandid.own_of_failsItself (Registry.mem_of_lookup? found) fails
    rw [he] at hown
    exact hown.elim
  | @alone k c m payload op e found alone =>
    cases he
    exact ⟨m, k, payload, c, .refl, .refl _ _ _, hended, .inl alone⟩
  | @refused k c m name payload op e found called refused =>
    cases he
    exact ⟨m, k, payload, c, .refl, .refl _ _ _, hended, .inr ⟨name, ⟨op, found, called⟩, refused⟩⟩
  | @told k c c' m name payload payload' op e found called made ended fails ih =>
    have hcalls : r.Calls m name := ⟨op, found, called⟩
    have htold := CallError.evaluation.inj he
    rcases e.toEvalError_cases name with ⟨cause', rfl, heq⟩ | ⟨missing, rfl, heq⟩ | ⟨-, heq⟩
    · rw [heq] at htold
      obtain ⟨callee, deeper, payload'', c'', hreaches, hcomes, harises⟩ :=
        ih ended (congrArg CallError.evaluation htold)
      exact ⟨callee, deeper, payload'', c'', .head hcalls hreaches, made.trans hcomes, harises⟩
    · rw [heq] at htold
      obtain ⟨hmissing, rfl⟩ := unregistered_of_candid hcandid fails
      rw [he] at hended
      rw [← htold] at hended ⊢
      exact ⟨m, k + 1, payload, c, .refl, .refl _ _ _, hended,
        .inr ⟨missing, hcalls, .unregistered k c.looks hmissing⟩⟩
    · rw [heq] at htold
      exact absurd htold.symm (hcause name e)

/-! ## The laws of attribution -/

/-- **What errors say about who failed,** in a registry that stays as it is. -/
structure BlameLaws (r : Registry) (bits : Nat → Nat) : Prop where
  /-- A call fails because there is no such operation, because the operation fails itself, or as
  its expression does. -/
  dispatched : r.Candid → ∀ method payload c e, r.outcome bits c method payload = .error e →
    (r.lookup? method = none ∧ e = .unknownOperation method) ∨
    (∃ op, r.lookup? method = some op ∧ op.FailsItself payload e ∧ e.Own) ∨
    ∃ cause, e = .evaluation cause
  /-- What an expression attributes to an operation is that operation's own failure, and nobody
  else's: the run came to a call of it, and it is that call which failed. -/
  attributed : r.Candid → ∀ method payload c callee source,
    r.outcome bits c method payload = .error (.evaluation (.invocation callee source)) →
    Culprit r bits c (dispatch method payload) method callee source
  /-- What is attributed to nobody comes out as it arose. -/
  unchanged : r.Candid → ∀ method payload c cause,
    r.outcome bits c method payload = .error (.evaluation cause) →
    (∀ callee source, cause ≠ .invocation callee source) →
    Arises r bits c (dispatch method payload) method cause
  /-- An operation that fails itself by refusing its arguments names itself, unless its own code
  writes another name, -/
  named : ∀ (op : Operation) payload e operation, op.FailsItself payload e →
    e.operation? = some operation →
    operation = op.name ∨ ∃ args, args.operation = op.name ∧ op.Throws args e
  /-- which built-in code does not. -/
  honest : r.CodeBuiltIn → r.Candid ∧ ∀ method payload c callee source operation,
    r.outcome bits c method payload = .error (.evaluation (.invocation callee source)) →
    source.operation? = some operation → operation = callee

theorem named_of_failsItself {operation : String} (h : op.FailsItself payload e)
    (hof : e.operation? = some operation) :
    operation = op.name ∨ ∃ args, args.operation = op.name ∧ op.Throws args e := by
  rcases h.operation? with hself | hthrown
  · rw [hself] at hof
    exact .inl (Option.some.inj hof).symm
  · exact .inr hthrown

theorem culprit_of_dispatch (hcandid : r.Candid)
    (h : r.outcome bits c method payload = .error (.evaluation (.invocation callee source))) :
    Culprit r bits c (dispatch method payload) method callee source := by
  rw [Hosts.dispatch_eq]
  exact culprit_of_fails hcandid (fails_of_dispatch h) rfl

theorem blameLaws (r : Registry) (bits : Nat → Nat) : BlameLaws r bits where
  dispatched hcandid method payload c e he := by
    have hfails := fails_of_dispatch he
    rcases e.toEvalError_cases method with ⟨cause, rfl, -⟩ | ⟨name, rfl, -⟩ | ⟨hown, -⟩
    · exact .inr (.inr ⟨cause, rfl⟩)
    · obtain ⟨hmissing, rfl⟩ := unregistered_of_candid hcandid hfails
      exact .inl ⟨hmissing, rfl⟩
    · obtain ⟨op, hop, hitself⟩ := failsItself_of_own hfails hown
      exact .inr (.inl ⟨op, hop, hitself, hown⟩)
  attributed hcandid _ _ _ _ _ he := culprit_of_dispatch hcandid he
  unchanged hcandid _ _ _ _ he hcause := by
    have hfails := fails_of_dispatch he
    rw [Registry.outcome, Hosts.dispatch_eq] at he
    rw [Hosts.dispatch_eq]
    exact arises_of_fails hcandid hfails he rfl hcause
  named _ _ _ _ hfails hof := named_of_failsItself hfails hof
  honest hbuiltin := by
    refine ⟨hbuiltin.candid, fun method payload c callee source operation he hof => ?_⟩
    obtain ⟨_, _, _, op, -, -, hop, hfails⟩ := (culprit_of_dispatch hbuiltin.candid he).failed
    have hname := Registry.name_of_lookup? hop
    rcases named_of_failsItself hfails hof with hself | ⟨args, hargs, hthrows⟩
    · rw [hself, hname]
    · have hself := hbuiltin.operation?_of_throws (Registry.mem_of_lookup? hop) hthrows
      rw [hself, hargs, hname, Option.some_inj] at hof
      exact hof.symm

/-- **Own code can name another operation,** candid as it is; who calls it is told that name. -/
theorem made_up_name_told :
    (Registry.ofOperations
      [.failing (.invalidParameter "other" "value" "refused"), .relaying]).Candid ∧
    (Registry.ofOperations
      [.failing (.invalidParameter "other" "value" "refused"), .relaying]).outcome
        (fun _ => 0) {} "relaying" .null =
      .error (.evaluation (.invocation "failing" (.invalidParameter "other" "value" "refused"))) := by
  refine ⟨fun op hop args e hthrows => ?_, ?_⟩
  · rcases List.mem_pair.1 hop with rfl | rfl
    · rw [Operation.eq_of_throws_failing hthrows]
      trivial
    · exact (Operation.not_throws_relaying hthrows).elim
  · rw [outcome_of_relaying rfl rfl]
    rfl

end Blame

end Switchboard
