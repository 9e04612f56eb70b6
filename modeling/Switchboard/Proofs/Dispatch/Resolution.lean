import Switchboard.Proofs.Dispatch.Blame
import Switchboard.Proofs.Dispatch.Chains
import Switchboard.Proofs.Dispatch.Dependence
import Switchboard.Proofs.Dispatch.OwnCode
/-!
# Calls from within an expression

A call that is evaluated as an expression comes to the same as one from outside
(`resolutionLaws`). It is made one level deeper, it looks first whether there is
such an operation, and its errors are told in another form; what an evaluation is
told of a call is said by `Told`. The depth makes no difference but that the
evaluation may be refused.
-/

namespace Switchboard

open Switchboard.Expr

namespace Resolution

variable {r : Registry} {bits : Nat → Nat} {c : Task.Clock} {method : String} {payload : Json}

/-- **What an expression is told of the outcome of a call** of the method. -/
inductive Told (r : Registry) (method : String) :
    Except CallError Json → Except EvalError Json → Prop where
  | value (v : Json) : Told r method (.ok v) (.ok v)
  /-- The error of the operation's expression is told as it is. -/
  | evaluation (e : EvalError) : Told r method (.error (.evaluation e)) (.error e)
  /-- There is no such operation. -/
  | unregistered (missing : r.lookup? method = none) :
      Told r method (.error (.unknownOperation method)) (.error (.unknownOperation method))
  /-- Any other error is attributed to the method. -/
  | failure (e : CallError) (own : e.Own) : Told r method (.error e) (.error (.invocation method e))
  /-- The operation's own code speaks of an operation that there is not. -/
  | madeUp (name : String) (op : Operation) (args : Arguments)
      (found : r.lookup? method = some op) (thrown : op.Throws args (.unknownOperation name)) :
      Told r method (.error (.unknownOperation name)) (.error (.unknownOperation name))

/-- The outcome of the evaluation of a call, where the registry stays as it is. -/
abbrev evaluated (r : Registry) (bits : Nat → Nat) (c : Task.Clock) (method : String)
    (payload data : Json) : Except EvalError Json :=
  (Task.run (r.still bits) c (evaluate .registry (literalCallOf method payload) data).run).1

/-- The outcome of a call, with its error put as errors are told, is what an expression is told. -/
theorem told_of_dispatch (r : Registry) (bits : Nat → Nat) (c : Task.Clock) (method : String)
    (payload : Json) :
    Told r method (r.outcome bits c method payload)
      ((r.outcome bits c method payload).mapError (·.toEvalError method)) := by
  cases hended : r.outcome bits c method payload with
  | ok v => exact .value v
  | error e =>
    change Told r method (.error e) (.error (e.toEvalError method))
    rcases e.toEvalError_cases method with ⟨cause, rfl, -⟩ | ⟨name, rfl, -⟩ | ⟨hown, heq⟩
    · exact .evaluation cause
    · cases fails_of_dispatch hended with
      | unregistered missing => exact .unregistered missing
      | itself found fails =>
        rcases fails.operation? with hof | ⟨args, -, hthrows⟩
        · cases hof
        · exact .madeUp name _ args found hthrows
    · rw [heq]
      exact .failure e hown

/-- **An evaluation that is not refused is told of the outcome of the call from outside.** -/
theorem told_of_evaluate (data : Json)
    (hdeep : ¬ Hosts.TooDeep (evaluated r bits c method payload data)) :
    Told r method (r.outcome bits c.looked method payload)
      (evaluated r bits c method payload data) := by
  have htold := told_of_dispatch r bits c.looked method payload
  rw [evaluated, run_evaluate_literalCallOf] at hdeep ⊢
  by_cases hop : ((r.still bits) c.looks).registry.contains method = true
  · rw [if_pos hop] at hdeep ⊢
    -- one level deeper the call is refused, or ends as from outside
    obtain ⟨hlive, hlost⟩ := Hosts.agrees_within (r.still bits) (Nat.sub_le nestingLimit 1)
    rcases Hosts.agrees_call hlive hlost method payload c.looked with ⟨n, hn⟩ | heq
    · rw [Prod.map_fst, hn] at hdeep
      exact absurd ⟨n, rfl⟩ hdeep
    · rw [Registry.outcome, Hosts.dispatch_eq, heq] at htold ⊢
      exact htold
  · rw [if_neg hop]
    have hmissing : r.lookup? method = none := Registry.lookup?_eq_none hop
    have hnone : r.outcome bits c.looked method payload = .error (.unknownOperation method) := by
      rw [Registry.outcome, dispatch, callByName, Task.run, Registry.still_registry, hmissing]
      rfl
    rw [hnone]
    exact .unregistered hmissing

/-- Where calls nest less deep than the limit, and code is built in, no evaluation is refused. -/
theorem not_tooDeep (hbuiltin : r.CodeBuiltIn) (hnests : r.NestsWithin (nestingLimit - 1) method)
    (data : Json) : ¬ Hosts.TooDeep (evaluated r bits c method payload data) := by
  rintro ⟨n, hn⟩
  rw [evaluated, run_evaluate_literalCallOf] at hn
  by_cases hop : ((r.still bits) c.looks).registry.contains method = true
  · rw [if_pos hop, Prod.map_fst] at hn
    obtain ⟨e, hended, he⟩ := exists_of_mapError_eq_error hn
    obtain rfl := CallError.eq_of_toEvalError_nestedTooDeep he
    exact hbuiltin.ofArguments_of_madeUp
      (Chains.madeUp_of_fails (fails_of_run hended) rfl hnests)
  · rw [if_neg hop] at hn
    cases hn

/-! ## The laws of resolution -/

/-- **What the evaluation of a call comes to,** in a registry that stays as it is. -/
structure ResolutionLaws (r : Registry) (bits : Nat → Nat) : Prop where
  /-- The evaluation looks whether there is such an operation. From there on, unless it is refused
  for its depth, it is told the outcome of the call from outside. -/
  agrees : ∀ method payload data c, ¬ Hosts.TooDeep (evaluated r bits c method payload data) →
    Told r method (r.outcome bits c.looked method payload)
      (evaluated r bits c method payload data)
  /-- Where the code that is reached makes nothing of random bits, that holds of a call that is
  made at any other time, too. -/
  agrees_anytime : ∀ method payload data c c' bits', r.DeterministicFrom method →
    ¬ Hosts.TooDeep (evaluated r bits c method payload data) →
    Told r method (r.outcome bits' c' method payload) (evaluated r bits c method payload data)
  /-- What is told is determined by the outcome of the call. -/
  told_unique : ∀ method outcome told told', Told r method outcome told →
    Told r method outcome told' → told = told'
  /-- Where own code is candid, a call that fails for want of an operation is one of a method that
  is not registered, -/
  candid : r.Candid → ∀ method payload c name,
    r.outcome bits c method payload = .error (.unknownOperation name) →
    r.lookup? method = none ∧ name = method
  /-- and where it is built in, and calls nest one less deep than the limit, nothing is refused. -/
  not_refused : r.CodeBuiltIn → ∀ method payload data c, r.NestsWithin (nestingLimit - 1) method →
    ¬ Hosts.TooDeep (evaluated r bits c method payload data)

theorem told_eq_mapError {outcome : Except CallError Json} {told : Except EvalError Json}
    (h : Told r method outcome told) : told = outcome.mapError (·.toEvalError method) := by
  cases h with
  | value v => rfl
  | evaluation e => rfl
  | unregistered missing => rfl
  | failure e own =>
    rcases e.toEvalError_cases method with ⟨cause, rfl, -⟩ | ⟨name, rfl, -⟩ | ⟨-, heq⟩
    · exact own.elim
    · exact own.elim
    · exact congrArg Except.error heq.symm
  | madeUp name op args found thrown => rfl

theorem resolutionLaws (r : Registry) (bits : Nat → Nat) : ResolutionLaws r bits where
  agrees _ _ data _ hdeep := told_of_evaluate data hdeep
  agrees_anytime method payload data c c' bits' hcode hdeep := by
    have htold := told_of_evaluate data hdeep
    rwa [outcome_dispatch_eq (.refl r method) hcode payload bits' bits c' c.looked] at htold
  told_unique _ _ _ _ h h' := (told_eq_mapError h).trans (told_eq_mapError h').symm
  candid hcandid _ _ _ _ he := Blame.unregistered_of_candid hcandid (fails_of_dispatch he)
  not_refused hbuiltin _ _ data _ hnests := not_tooDeep hbuiltin hnests data

/-- **Own code can say that there is no operation of some other name.** That is told as it is, and
not attributed to the registered operation whose code it was. And where code goes by random bits, a
call and its evaluation, which has looked once more by then, need not come to the same. -/
theorem made_up_absence_told :
    (Registry.ofFailing (.unknownOperation "ghost")).lookup? "failing" =
      some (.failing (.unknownOperation "ghost")) ∧
    (Registry.ofFailing (.unknownOperation "ghost")).outcome (fun _ => 0) {} "failing" .null =
      .error (.unknownOperation "ghost") ∧
    evaluated (.ofFailing (.unknownOperation "ghost")) (fun _ => 0) {} "failing" .null .null =
      .error (.unknownOperation "ghost") ∧
    (Registry.ofOperations [.tossing]).outcome id {} "tossing" .null = .ok (.bool true) ∧
    evaluated (.ofOperations [.tossing]) id {} "tossing" .null .null = .ok (.bool false) := by
  refine ⟨rfl, outcome_of_failing rfl, ?_, rfl, ?_⟩
  · rw [evaluated, evaluate_of_failing rfl]
    rfl
  · rw [evaluated, run_evaluate_literalCallOf]
    rfl

end Resolution

end Switchboard
