import Switchboard.Proofs.Dispatch.Errors
import Switchboard.Proofs.Dispatch.Failures
import Switchboard.Proofs.Dispatch.OwnCode
/-!
# Data is never executed

What an evaluation takes for an operator is written in an expression: in the one that
is evaluated, or in that of an operation. Values that come in as data or arguments, or
that are computed on the way, are never read as expressions. It shows in the errors
about unknown operators (`vocabularyLaws`): the name stands in an expression, as the
sole key of an object. As elsewhere, an operation's own code may make up such an error.
-/

namespace Switchboard

open Switchboard.Expr

namespace Vocabulary

variable {see : Nat → Moment} {reach : Reach} {expression : Json} {name : String}

/-! ## Where names stand -/

/-- The value has an object whose sole key is no operator to an expression. -/
def Misnames (reach : Reach) (expression : Json) (name : String) : Prop :=
  name ∉ reach.operators ∧ expression.HasSoleKey name

/-- The expression of one of the operations that are seen has such an object. -/
def Registered (see : Nat → Moment) (name : String) : Prop :=
  ∃ i, ∃ op ∈ (see i).registry.operations, ∃ logic reach,
    op.handler = .expression logic reach ∧ Misnames reach logic name

/-- The own code of one of the operations that are seen makes up the error. -/
def MadeUp (see : Nat → Moment) (name : String) : Prop :=
  ∃ i, ∃ op ∈ (see i).registry.operations, ∃ args,
    op.Throws args (.evaluation (.unknownOperator name))

/-- All objects with a sole key are calls of operators to an expression. -/
def WellNamed (reach : Reach) (expression : Json) : Prop :=
  ∀ name, expression.HasSoleKey name → name ∈ reach.operators

theorem not_registered (h : ∀ i, ∀ op ∈ (see i).registry.operations, ∀ logic reach,
    op.handler = .expression logic reach → WellNamed reach logic) : ¬ Registered see name := by
  rintro ⟨i, op, hop, logic, reach, hlogic, hname, hkey⟩
  exact hname (h i op hop logic reach hlogic name hkey)

theorem not_madeUp (h : ∀ i, (see i).registry.CodeBuiltIn) : ¬ MadeUp see name := by
  rintro ⟨i, op, hop, args, hthrows⟩
  cases (h i).operation?_of_throws hop hthrows

/-! ## Errors about unknown operators -/

/-- The error is not about an operator, or its name is one of these. -/
def OfNames (N : String → Prop) (e : EvalError) : Prop := ∀ name, e = .unknownOperator name → N name

/-- The same of an error of a call. -/
def CallOfNames (N : String → Prop) (e : CallError) : Prop :=
  ∀ name, e = .evaluation (.unknownOperator name) → N name

/-- **Errors about unknown operators come with the names of registered expressions,** unless they
are made up. -/
theorem covers (see : Nat → Moment) {N : String → Prop}
    (hregistered : ∀ name, Registered see name → N name)
    (hmadeUp : ∀ name, MadeUp see name → N name) :
    Covers (fun m => ∃ i, see i = m) (OfNames N) (CallOfNames N) where
  malformed _ _ _ h := nomatch h
  unregistered _ _ h := nomatch h
  tooDeep _ h := nomatch h
  registryGone _ h := nomatch h
  evaluation he name h := he name (CallError.evaluation.inj h)
  told := by
    intro e method he name h
    cases e with
    | evaluation error => exact he name (congrArg CallError.evaluation h)
    | _ => cases h
  itself := by
    rintro _ ⟨i, rfl⟩ op hop payload e hfails name rfl
    rcases hfails.operation? with hof | ⟨args, -, hthrows⟩
    · cases hof
    · exact hmadeUp name ⟨i, op, hop, args, hthrows⟩
  foreign := by
    rintro _ ⟨i, rfl⟩ op hop logic reach hlogic name hforeign name' h
    cases h
    exact hregistered name ⟨i, op, hop, logic, reach, hlogic, hasSoleKey_of_hasForeign hforeign⟩

theorem registered_of_dispatch {method : String} {payload : Json} {c : Task.Clock}
    (h : (Task.run see c (dispatch method payload)).1 =
      .error (.evaluation (.unknownOperator name))) : Registered see name ∨ MadeUp see name := by
  have hcovers := covers see (fun _ => Or.inl) (fun _ => Or.inr)
  rw [Hosts.dispatch_eq] at h
  have hends := hcovers.ends_call nestingLimit method payload
  exact hends.run (fun i => ⟨i, rfl⟩) c _ h name rfl

theorem misnames_of_evaluate {data : Json} {c : Task.Clock}
    (h : (Task.run see c (evaluate reach expression data).run).1 =
      .error (.unknownOperator name)) :
    Misnames reach expression name ∨ Registered see name ∨ MadeUp see name := by
  have hcovers := covers see
    (N := fun name => Misnames reach expression name ∨ Registered see name ∨ MadeUp see name)
    (fun _ hname => .inr (.inl hname)) (fun _ hname => .inr (.inr hname))
  have hends := hcovers.ends_eval nestingLimit reach (e := .ofJson expression) data (by
    rintro name hforeign name' heq
    cases heq
    exact .inl (hasSoleKey_of_hasForeign hforeign))
  exact hends.run (fun i => ⟨i, rfl⟩) c _ h name rfl

/-- Where there are no operations, there is nothing but the expression. -/
theorem misnames_of_evaluate_nothing {data : Json} {c : Task.Clock} {e : EvalError}
    (h : (Task.run see c (evaluate .nothing expression data).run).1 = .error e) :
    (∃ name, e = .unknownOperator name ∧ Misnames .nothing expression name) ∨
      ∃ operator reason, e = .malformed operator reason := by
  let Q (e : EvalError) : Prop :=
    (∃ name, e = .unknownOperator name ∧ Misnames .nothing expression name) ∨
      ∃ operator reason, e = .malformed operator reason
  -- no operation is called, so nothing is asked of what is registered
  have hends : ending (fun _ => True) Q Json (evaluate .nothing expression data)
      (evaluate .nothing expression data) :=
    ending_eval (fun operator reason => .inr ⟨operator, reason, rfl⟩) .alone data
      fun name hforeign => .inl ⟨name, rfl, hasSoleKey_of_hasForeign hforeign⟩
  exact Task.Ends.run hends (fun _ => trivial) c e h

/-! ## The laws of names -/

/-- **Errors about operators are about expressions,** whatever the registry is at each look. -/
structure VocabularyLaws (see : Nat → Moment) : Prop where
  /-- Where there are no operations, an evaluation fails because its expression has an object whose
  sole key is no operator, or for the operands of an operator, and for nothing else. -/
  alone_fails : ∀ expression data c e,
    (Task.run see c (evaluate .nothing expression data).run).1 = .error e →
    (∃ name, e = .unknownOperator name ∧ name ∉ Reach.nothing.operators ∧
      expression.HasSoleKey name) ∨ ∃ operator reason, e = .malformed operator reason
  /-- With operations to call, the object may stand in the expression of one of them. -/
  evaluate_unknown : ∀ reach expression data c name,
    (Task.run see c (evaluate reach expression data).run).1 = .error (.unknownOperator name) →
    (name ∉ reach.operators ∧ expression.HasSoleKey name) ∨ Registered see name ∨ MadeUp see name
  dispatch_unknown : ∀ method payload c name,
    (Task.run see c (dispatch method payload)).1 = .error (.evaluation (.unknownOperator name)) →
    Registered see name ∨ MadeUp see name
  /-- So no data can cause such an error if all sole keys in the expression are operators, -/
  alone_known : ∀ expression, WellNamed .nothing expression → ∀ data c name,
    (Task.run see c (evaluate .nothing expression data).run).1 ≠
      .error (.unknownOperator name)
  /-- and with operations to call, no data and no payload can if that holds of theirs. -/
  evaluate_known : (∀ i, ∀ op ∈ (see i).registry.operations, ∀ logic reach,
      op.handler = .expression logic reach → WellNamed reach logic) →
    ∀ reach expression, WellNamed reach expression → ∀ data c name,
    (Task.run see c (evaluate reach expression data).run).1 =
      .error (.unknownOperator name) → MadeUp see name
  dispatch_known : (∀ i, ∀ op ∈ (see i).registry.operations, ∀ logic reach,
      op.handler = .expression logic reach → WellNamed reach logic) →
    ∀ method payload c name,
    (Task.run see c (dispatch method payload)).1 =
      .error (.evaluation (.unknownOperator name)) → MadeUp see name
  /-- Where code is built in, none is made up. -/
  honest : (∀ i, (see i).registry.CodeBuiltIn) → ∀ name, ¬ MadeUp see name

theorem vocabularyLaws (see : Nat → Moment) : VocabularyLaws see where
  alone_fails _ _ _ _ := misnames_of_evaluate_nothing
  evaluate_unknown _ _ _ _ _ := misnames_of_evaluate
  dispatch_unknown _ _ _ _ := registered_of_dispatch
  alone_known expression hknown data c name h := by
    obtain ⟨_, heq, hname, hkey⟩ | ⟨_, _, heq⟩ := misnames_of_evaluate_nothing h
    · exact hname (hknown _ hkey)
    · cases heq
  evaluate_known hregistry reach expression hknown data c name h := by
    rcases misnames_of_evaluate h with ⟨hname, hkey⟩ | hregistered | hmade
    · exact absurd (hknown name hkey) hname
    · exact absurd hregistered (not_registered hregistry)
    · exact hmade
  dispatch_known hregistry method payload c name h :=
    (registered_of_dispatch h).resolve_left (not_registered hregistry)
  honest h _ := not_madeUp h

/-- **Own code can complain of an operator that no expression names:** neither the one that is
evaluated, nor any that is registered. -/
theorem made_up_operator_told :
    ¬ (literalCallOf "failing" .null).HasSoleKey "zzz" ∧
    (∀ op ∈ (Registry.ofFailing (.evaluation (.unknownOperator "zzz"))).operations,
      ∀ logic reach, op.handler ≠ .expression logic reach) ∧
    (Task.run ((Registry.ofFailing (.evaluation (.unknownOperator "zzz"))).still fun _ => 0) {}
      (evaluate .registry (literalCallOf "failing" .null) .null).run).1 =
        .error (.unknownOperator "zzz") := by
  refine ⟨fun h => ?_, fun op hop logic reach hlogic => ?_, ?_⟩
  · rcases hasSoleKey_literalCallOf h with hkey | hkey | ⟨args, h⟩
    · exact absurd hkey (by decide)
    · exact absurd hkey (by decide)
    · cases h
  · obtain rfl := List.mem_singleton.1 hop
    cases hlogic
  · rw [evaluate_of_failing rfl]
    rfl

end Vocabulary

end Switchboard
