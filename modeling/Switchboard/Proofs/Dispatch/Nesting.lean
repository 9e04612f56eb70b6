import Switchboard.Proofs.Dispatch.Errors
import Switchboard.Proofs.Dispatch.OwnCode
import Switchboard.Proofs.Toolbox.Refusals
/-!
# The nesting limit

What the limit on nested calls does to the outcome of an evaluation, and what it
does not. It turns results into refusals and nothing else; the refusal always
tells the same depth, and it comes to the outermost caller bare, through however
many operations; and it makes every call end (`NestingLaws`). The one exception
is written into the laws: an operation's own code may make up an error about
nesting, and then that is what comes out (`Forged`).
-/

namespace Switchboard

open Switchboard.Expr

/-! ## Errors about nesting -/

mutual

/-- Somewhere within the error, calls are said to nest to the depth. -/
def EvalError.Carries (n : Nat) : EvalError → Prop
  | .nestedTooDeep depth => depth = n
  | .invocation _ cause => cause.Carries n
  | _ => False

/-- Somewhere within the error, calls are said to nest to the depth. -/
def CallError.Carries (n : Nat) : CallError → Prop
  | .evaluation error => error.Carries n
  | _ => False

end

/-- An operation's own code makes up an error about nesting. -/
def Operation.Forges (op : Operation) (n : Nat) : Prop :=
  ∃ run args bits c e, op.handler = .native run ∧
    (Task.run bits c (run args)).1 = .error e ∧ e.Carries n

/-- One of the operations that are seen makes up an error about nesting. -/
def Forged (see : Nat → Moment) (n : Nat) : Prop :=
  ∃ i, ∃ op ∈ (see i).registry.operations, op.Forges n

/-! ## Refusals stay bare -/

namespace Nesting

variable {see : Nat → Moment} {n : Nat} {op : Operation} {method : String}

/-- An error of an evaluation is the refusal of a call at the limit, or it does not speak of
nesting, or it was made up. -/
def Bare (see : Nat → Moment) (e : EvalError) : Prop :=
  ∀ n, e.Carries n → e = .nestedTooDeep nestingLimit ∨ Forged see n

/-- The same of an error of a call. -/
def CallBare (see : Nat → Moment) (e : CallError) : Prop :=
  ∀ n, e.Carries n → e = .evaluation (.nestedTooDeep nestingLimit) ∨ Forged see n

theorem not_carries_of_ofArguments {e : CallError} (h : e.OfArguments) : ¬ e.Carries n := by
  intro hn
  cases e with
  | evaluation error => exact h
  | _ => exact hn

theorem callBare_of_ofArguments {e : CallError} (h : e.OfArguments) : CallBare see e :=
  fun _ hn => absurd hn (not_carries_of_ofArguments h)

/-- **An error that is bare stays so when it is told to the expression that made the call:** a
refusal is not attributed to the operation called. -/
theorem bare_toEvalError {e : CallError} (h : CallBare see e) :
    Bare see (e.toEvalError method) := by
  intro n hn
  cases e with
  | evaluation error =>
    rcases h n hn with heq | hforged
    · cases heq
      exact .inl rfl
    · exact .inr hforged
  | unknownOperation name => exact hn.elim
  | _ => exact hn.elim

/-- An operation's own code fails with what it makes up, or with what does not speak of
nesting; and all else of which it fails itself is about its arguments. -/
theorem callBare_of_failsItself {i : Nat} {payload : Json} {e : CallError}
    (hop : op ∈ (see i).registry.operations) (h : op.FailsItself payload e) : CallBare see e := by
  rcases h.operation? with hof | ⟨args, -, run, bits, c, hrun, he⟩
  · exact callBare_of_ofArguments (CallError.ofArguments_of_operation? hof)
  · exact fun n hn => .inr ⟨i, op, hop, run, args, bits, c, e, hrun, he, hn⟩

/-- The error of an expression is the error of the call, and as bare. -/
theorem callBare_evaluation {e : EvalError} (h : Bare see e) : CallBare see (.evaluation e) := by
  intro n hn
  rcases h n hn with rfl | hforged
  · exact .inl rfl
  · exact .inr hforged

/-- **Errors are bare,** whatever operations are called on the way. -/
theorem covers_bare (see : Nat → Moment) :
    Covers (fun m => ∃ i, see i = m) (Bare see) (CallBare see) where
  malformed _ _ _ hn := hn.elim
  unregistered _ _ hn := hn.elim
  tooDeep _ _ := .inl rfl
  registryGone _ hn := hn.elim
  evaluation he := callBare_evaluation he
  told _ he := bare_toEvalError he
  itself := by
    rintro _ ⟨i, rfl⟩ op hop payload e hfails
    exact callBare_of_failsItself hop hfails
  foreign _ _ _ _ _ _ _ _ _ hn := hn.elim

/-- No operation makes up errors about nesting if each has no code of its own or is built in. -/
theorem not_forged (h : ∀ i, ∀ op ∈ (see i).registry.operations,
    op ∈ Toolbox.operations ∨ ∀ run, op.handler ≠ .native run) : ¬ Forged see n := by
  rintro ⟨i, op, hop, run, args, bits, c, e, hrun, he, hn⟩
  rcases h i op hop with hbuiltin | hnone
  · have hof := Toolbox.operation?_of_throws hbuiltin ⟨run, bits, c, hrun, he⟩
    exact not_carries_of_ofArguments (CallError.ofArguments_of_operation? hof) hn
  · exact hnone run hrun

/-! ## The laws of the limit -/

/-- An evaluation whose calls are made at a depth. -/
def evaluateAt (depth : Nat) (reach : Reach) (e : Expr) (data : Json) : Evaluation Moment Json :=
  e.eval ((Hosts.hostsAt depth).forReach reach) data

/-- A call whose expression makes its calls at a depth. -/
def dispatchAt (depth : Nat) (method : String) (payload : Json) : CallTask :=
  (Hosts.hostsAt depth).call method payload

/-- **What the nesting limit does,** whatever the registry is at each look. -/
structure NestingLaws (see : Nat → Moment) : Prop where
  /-- Calls count their depth up and are refused from the limit on. There is exactly one way to
  do so with calls that all end, -/
  rule : ∃! hosts, Hosts.Follows hosts
  /-- and it is the one by which the calls at a depth are made. -/
  keeps_rule : Hosts.Follows Hosts.hostsAt
  /-- Evaluation from outside any operation is evaluation at depth zero. -/
  evaluate_eq : ∀ reach expression data,
    evaluate reach expression data = evaluateAt 0 reach (.ofJson expression) data
  dispatch_eq : ∀ method payload, dispatch method payload = dispatchAt 0 method payload
  /-- What does not end in a refusal at a depth ends alike, and at the same time, at any lesser
  depth. -/
  evaluate_mono : ∀ d d' reach e data c, d ≤ d' → d' ≤ nestingLimit →
    (∀ n, (Task.run see c (evaluateAt d' reach e data).run).1 ≠ .error (.nestedTooDeep n)) →
    Task.run see c (evaluateAt d reach e data).run =
      Task.run see c (evaluateAt d' reach e data).run
  dispatch_mono : ∀ d d' method payload c, d ≤ d' → d' ≤ nestingLimit →
    (∀ n, (Task.run see c (dispatchAt d' method payload)).1 ≠
      .error (.evaluation (.nestedTooDeep n))) →
    Task.run see c (dispatchAt d method payload) = Task.run see c (dispatchAt d' method payload)
  /-- An error that speaks of nesting anywhere within is nothing but the refusal at the limit. -/
  evaluate_refused : ∀ reach expression data c e n,
    (Task.run see c (evaluate reach expression data).run).1 = .error e → e.Carries n →
    (n = nestingLimit ∧ e = .nestedTooDeep nestingLimit) ∨ Forged see n
  dispatch_refused : ∀ method payload c e n,
    (Task.run see c (dispatch method payload)).1 = .error e → e.Carries n →
    (n = nestingLimit ∧ e = .evaluation (.nestedTooDeep nestingLimit)) ∨ Forged see n
  resolve_refused : ∀ method payload c e n,
    (Task.run see c (resolve method payload).run).1 = .error e → e.Carries n →
    (n = nestingLimit ∧ e = .nestedTooDeep nestingLimit) ∨ Forged see n
  /-- Where operations are expressions or built in, no such error is made up. -/
  honest : (∀ i, ∀ op ∈ (see i).registry.operations,
      op ∈ Toolbox.operations ∨ ∀ run, op.handler ≠ .native run) → ∀ n, ¬ Forged see n
  /-- Every call is done after some number of steps. -/
  dispatch_ends : ∀ method payload c, ∃ steps c' result,
    (Task.advance see)^[steps] (c, dispatch method payload) = (c', .done result)
  evaluate_ends : ∀ reach expression data c, ∃ steps c' result,
    (Task.advance see)^[steps] (c, (evaluate reach expression data).run) = (c', .done result)

theorem eq_of_agreesUnless {α : Type} {P : α → Prop} {x y : Task Moment α}
    (h : Task.AgreesUnless see P x y) {c : Task.Clock} (hP : ¬ P (Task.run see c x).1) :
    Task.run see c y = Task.run see c x :=
  (h c).resolve_left hP

theorem refused_of_bare {e : EvalError} (h : Bare see e) (hn : e.Carries n) :
    (n = nestingLimit ∧ e = .nestedTooDeep nestingLimit) ∨ Forged see n := by
  rcases h n hn with rfl | hforged
  · exact .inl ⟨Eq.symm hn, rfl⟩
  · exact .inr hforged

theorem refused_of_callBare {e : CallError} (h : CallBare see e) (hn : e.Carries n) :
    (n = nestingLimit ∧ e = .evaluation (.nestedTooDeep nestingLimit)) ∨ Forged see n := by
  rcases h n hn with rfl | hforged
  · exact .inl ⟨Eq.symm hn, rfl⟩
  · exact .inr hforged

/-- **The limit on nested calls turns results into refusals and does nothing else.** -/
theorem nestingLaws (see : Nat → Moment) : NestingLaws see where
  rule := Hosts.existsUnique_follows
  keeps_rule := Hosts.follows_hostsAt
  evaluate_eq _ _ _ := rfl
  dispatch_eq _ _ := rfl
  evaluate_mono d d' reach e data c hd hd' hP := by
    obtain ⟨hlive, hlost⟩ := Hosts.agrees_hostsAt see hd hd'
    have hhost := Hosts.hostCongruence_forReach hlive hlost reach
    have hagrees := eval_congr (Hosts.agrees_congruence see) hhost e data
    exact eq_of_agreesUnless hagrees fun ⟨n, hn⟩ => hP n hn
  dispatch_mono d d' method payload c hd hd' hP := by
    obtain ⟨hlive, hlost⟩ := Hosts.agrees_hostsAt see hd hd'
    have hagrees := Hosts.agrees_call hlive hlost method payload
    exact eq_of_agreesUnless hagrees fun ⟨n, hn⟩ => hP n hn
  evaluate_refused reach expression data c e n he hn := by
    have hends := (covers_bare see).ends_eval nestingLimit reach (e := .ofJson expression) data
      fun _ _ _ hn => hn.elim
    exact refused_of_bare (hends.run (fun i => ⟨i, rfl⟩) c e he) hn
  dispatch_refused method payload c e n he hn := by
    have hends := (covers_bare see).ends_call nestingLimit method payload
    exact refused_of_callBare (hends.run (fun i => ⟨i, rfl⟩) c e he) hn
  resolve_refused method payload c e n he hn := by
    have hends := (covers_bare see).ends_call nestingLimit method payload
    have htold : ending _ (Bare see) Json (resolve method payload) (resolve method payload) :=
      (covers_bare see).ending_answer hends
    exact refused_of_bare (Task.Ends.run htold (fun i => ⟨i, rfl⟩) c e he) hn
  honest h _ := not_forged h
  dispatch_ends method payload c := by
    obtain ⟨steps, h⟩ := Task.exists_advance_done see c (dispatch method payload)
    exact ⟨steps, _, _, h⟩
  evaluate_ends reach expression data c := by
    obtain ⟨steps, h⟩ := Task.exists_advance_done see c (evaluate reach expression data).run
    exact ⟨steps, _, _, h⟩

/-- **Own code escapes the laws.** It can tell another depth, or wrap what tells the limit, with no
call nested in another; and where it goes by random bits, an evaluation at one and the same depth
ends as these are. -/
theorem made_up_nesting_told :
    (Registry.ofFailing (.evaluation (.nestedTooDeep 5))).outcome (fun _ => 0) {} "failing" .null =
      .error (.evaluation (.nestedTooDeep 5)) ∧
    5 ≠ nestingLimit ∧
    (Registry.ofFailing (.evaluation (.invocation "inner"
        (.evaluation (.nestedTooDeep nestingLimit))))).outcome (fun _ => 0) {} "failing" .null =
      .error (.evaluation (.invocation "inner" (.evaluation (.nestedTooDeep nestingLimit)))) ∧
    (Task.run ((Registry.ofOperations [.tossing]).still fun _ => 0) {}
      (evaluateAt 0 .registry (.ofJson (literalCallOf "tossing" .null)) .null).run).1 =
        .ok (.bool false) ∧
    (Task.run ((Registry.ofOperations [.tossing]).still fun _ => 1) {}
      (evaluateAt 0 .registry (.ofJson (literalCallOf "tossing" .null)) .null).run).1 =
        .ok (.bool true) := by
  have hzero (see : Nat → Moment) (expression : Json) :
      (Task.run see {} (evaluateAt 0 .registry (.ofJson expression) .null).run).1 =
        (Task.run see {} (evaluate .registry expression .null).run).1 := rfl
  refine ⟨outcome_of_failing rfl, by decide, outcome_of_failing rfl, ?_, ?_⟩
  · rw [hzero, run_evaluate_literalCallOf]
    rfl
  · rw [hzero, run_evaluate_literalCallOf]
    rfl

end Nesting

end Switchboard
