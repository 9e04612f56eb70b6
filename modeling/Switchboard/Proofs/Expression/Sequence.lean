import Switchboard.Proofs.Expression.Relation
import Switchboard.Proofs.Expression.Invocation
import Switchboard.Proofs.Json.Paths
import Switchboard.Proofs.Task.Series
/-!
# Steps in a growing context

The steps of a sequence are done one after the other (`Sequence.perform`), and each is
evaluated in the context that the results of the steps before have made of the data
(`contextAfter`). Nothing is known of a step before its turn: one that is malformed is refused
when it is reached, and what stands behind the first step that fails does not matter
(`sequenceLaws`).

A context is grown by names and looked into by paths. Under a name that is a path of one segment it
has the last result of that name, or else what the data had under it (`lookup?_contextAfter`).
-/

namespace Switchboard

/-! ## Steps -/

/-- A well-formed step has a name for its result, and an expression. -/
structure Json.IsStep (step : Json) (name : String) (expression : Json) : Prop where
  name_eq : step.field? "resultName" = some (.string name)
  expression_eq : (step.field? "logic").or (step.field? "jsonLogic") = some expression

/-- **A step is read as what it is,** wherever it stands, -/
theorem stepOf_eq_ok_iff {i : Nat} {step expression : Json} {name : String} :
    stepOf i step = .ok (name, expression) ↔ step.IsStep name expression := by
  constructor
  · intro h
    unfold stepOf at h
    split at h
    · next hname =>
      split at h
      · next hexpression =>
        cases h
        exact ⟨hname, hexpression⟩
      · cases h
    · cases h
  · rintro ⟨hname, hexpression⟩
    rw [stepOf, hname]
    dsimp only
    rw [hexpression]

/-- and refused if it is none. -/
theorem stepOf_eq_error_iff {i : Nat} {step : Json} :
    (∃ reason, stepOf i step = .error reason) ↔
      ∀ name expression, ¬ step.IsStep name expression := by
  cases hstep : stepOf i step with
  | ok s =>
    refine iff_of_false ?_ fun hnone => hnone s.1 s.2 (stepOf_eq_ok_iff.1 hstep)
    rintro ⟨reason, hreason⟩
    cases hreason
  | error reason =>
    refine iff_of_true ⟨reason, rfl⟩ fun name expression hwell => ?_
    rw [stepOf_eq_ok_iff.2 hwell] at hstep
    cases hstep

namespace Sequence

open Switchboard.Expr

/-- What the results, in their order, have made of the data. -/
def contextAfter (data : Json) (results : List (String × Json)) : Json :=
  results.foldl (fun context r => context.withResult r.1 r.2) data

/-- The last of the results, or the data if there are none. -/
def outputOf (data : Json) (results : List (String × Json)) : Json :=
  (results.getLast?.map Prod.snd).getD data

/-- The last result of a name. -/
def lastNamed? (name : String) (results : List (String × Json)) : Option Json :=
  results.reverse.lookup name

variable {ρ : Type}

/-- **What is done about a step** when the steps before have had their results. -/
def perform (h : Host ρ) (data : Json) (past : List (String × Json)) (step : Json) :
    Evaluation ρ (String × Json) :=
  match stepOf past.length step with
  | .ok (name, expression) => do
    return (name, ← eval h (ofJson expression) (contextAfter data past))
  | .error reason => throw (.malformed Operator.sequenceName reason)

/-- The expression that runs a sequence. -/
def sequenceWith (args : Json) : Json := .object [(Operator.sequenceName, args)]

/-! ## The context -/

theorem contextAfter_append (data : Json) (results : List (String × Json)) (r : String × Json) :
    contextAfter data (results ++ [r]) = (contextAfter data results).withResult r.1 r.2 := by
  rw [contextAfter, List.foldl_append, List.foldl_cons, List.foldl_nil, contextAfter]

theorem outputOf_append (data : Json) (results : List (String × Json)) (r : String × Json) :
    outputOf data (results ++ [r]) = r.2 := by
  rw [outputOf, List.getLast?_append, List.getLast?_singleton, Option.some_or, Option.map_some,
    Option.getD_some]

/-- **What the context holds under a name** is the last result of that name, or what it held at
first. -/
theorem named?_contextAfter (data : Json) (results : List (String × Json)) (name : String) :
    (contextAfter data results).named? name = (lastNamed? name results).or (data.named? name) := by
  induction results generalizing data with
  | nil => rfl
  | cons r rest ih =>
    rw [contextAfter, List.foldl_cons, ← contextAfter, ih, Json.named?_withResult, lastNamed?,
      lastNamed?, List.reverse_cons, List.lookup_append, Option.or_assoc]
    congr 1
    rw [show [r].lookup name = _ from Json.lookup_insertField r.1 name r.2 []]
    split
    · rfl
    · rfl

theorem isObject_contextAfter (data : Json) {results : List (String × Json)} (h : results ≠ []) :
    (contextAfter data results).isObject = true := by
  rw [← List.dropLast_concat_getLast h, contextAfter_append]
  exact Json.isObject_withResult _ _ _

theorem lookup?_contextAfter (data : Json) {results : List (String × Json)} (h : results ≠ [])
    {name : String} (hne : name ≠ "") (hpoint : '.' ∉ name.toList) :
    (contextAfter data results).lookup? name =
      (lastNamed? name results).or (data.named? name) := by
  rw [Json.lookup?_of_segment (isObject_contextAfter data h) hne hpoint, named?_contextAfter]

/-! ## Reading -/

theorem ofJson_sequenceWith (args : Json) :
    ofJson (sequenceWith args) =
      .sequence ((sequenceOf args).1.map fun s => (s.1, ofJson s.2)) (sequenceOf args).2 := by
  have hop : Operator.ofName? Operator.sequenceName = some .sequence := by decide
  have hsteps := List.attach_map_val (l := (sequenceOf args).1)
    (f := fun s : String × Json => (s.1, ofJson s.2))
  rw [sequenceWith, ofJson, ofCall, hop]
  exact congrArg (Expr.sequence · (sequenceOf args).2) hsteps

/-! ## One step -/

variable {h : Host ρ} {see : Nat → ρ} {c c' : Task.Clock} {data step expression v : Json}
variable {past results : List (String × Json)} {name : String} {e : EvalError}

theorem perform_of_isStep (h : Host ρ) (data : Json) (past : List (String × Json))
    (hstep : step.IsStep name expression) : perform h data past step =
      (do return (name, ← eval h (ofJson expression) (contextAfter data past))) := by
  rw [perform, stepOf_eq_ok_iff.2 hstep]

theorem run_perform_of_refused {reason : String} (h : Host ρ) (see : Nat → ρ) (c : Task.Clock)
    (data : Json) (hstep : stepOf past.length step = .error reason) :
    Task.run see c (perform h data past step).run =
      (.error (.malformed Operator.sequenceName reason), c) := by
  rw [perform, hstep]
  rfl

/-- A step has a result if it is one and its expression has a value in the context. -/
theorem run_perform_eq_ok_iff :
    Task.run see c (perform h data past step).run = (.ok (name, v), c') ↔
      ∃ expression, step.IsStep name expression ∧
        Task.run see c (eval h (ofJson expression) (contextAfter data past)).run = (.ok v, c') := by
  constructor
  · intro hrun
    cases hstep : stepOf past.length step with
    | error reason =>
      rw [run_perform_of_refused h see c data hstep] at hrun
      cases hrun
    | ok s =>
      obtain ⟨name', expression⟩ := s
      have hwell := stepOf_eq_ok_iff.1 hstep
      rw [perform_of_isStep h data past hwell] at hrun
      obtain ⟨w, heval, hresult⟩ := Task.run_return_eq_ok_iff.1 hrun
      cases hresult
      exact ⟨expression, hwell, heval⟩
  · rintro ⟨expression, hwell, heval⟩
    rw [perform_of_isStep h data past hwell]
    exact Task.run_return_eq_ok_iff.2 ⟨v, heval, rfl⟩

/-- **It fails** as its expression does, or because it is none. -/
theorem run_perform_eq_error_iff :
    Task.run see c (perform h data past step).run = (.error e, c') ↔
      (∃ name expression, step.IsStep name expression ∧ Task.run see c
        (eval h (ofJson expression) (contextAfter data past)).run = (.error e, c')) ∨
      c' = c ∧ (∀ name expression, ¬ step.IsStep name expression) ∧
        ∃ reason, stepOf past.length step = .error reason ∧
          e = .malformed Operator.sequenceName reason := by
  constructor
  · intro hrun
    cases hstep : stepOf past.length step with
    | error reason =>
      rw [run_perform_of_refused h see c data hstep] at hrun
      cases hrun
      exact .inr ⟨rfl, stepOf_eq_error_iff.1 ⟨reason, hstep⟩, reason, rfl, rfl⟩
    | ok s =>
      obtain ⟨name, expression⟩ := s
      have hwell := stepOf_eq_ok_iff.1 hstep
      rw [perform_of_isStep h data past hwell] at hrun
      exact .inl ⟨name, expression, hwell, Task.run_return_eq_error_iff.1 hrun⟩
  · rintro (⟨name, expression, hwell, heval⟩ | ⟨rfl, -, reason, hstep, rfl⟩)
    · rw [perform_of_isStep h data past hwell]
      exact Task.run_return_eq_error_iff.2 heval
    · exact run_perform_of_refused h see c' data hstep

/-! ## Sequences -/

variable {call : String → Evaluation ρ Json → Evaluation ρ Json} {args : Json} {steps : List Json}

theorem conclude_bind {α : Type} (fault : Option String) (x : Evaluation ρ α)
    (f : α → Evaluation ρ Json) : Host.conclude ⟨some call⟩ fault (x >>= f) =
      x >>= fun a => Host.conclude ⟨some call⟩ fault (f a) := by
  rw [Host.conclude]
  exact bind_assoc x f _

/-- **A sequence does its steps in turn,** and its output is the last of their results. -/
theorem conclude_evalSteps (call : String → Evaluation ρ Json → Evaluation ρ Json) (data : Json)
    (past : List (String × Json)) (steps : List Json) :
    Host.conclude ⟨some call⟩ (stepsOf past.length steps).2
        (evalSteps ⟨some call⟩ ((stepsOf past.length steps).1.map fun s => (s.1, ofJson s.2))
          (contextAfter data past) (outputOf data past)) =
      (do
        let results ← Task.inTurn (perform ⟨some call⟩ data) past steps
        return outputOf data (past ++ results)) := by
  induction steps generalizing past with
  | nil =>
    rw [stepsOf, List.map_nil, evalSteps, Task.inTurn, pure_bind, List.append_nil]
    rfl
  | cons step rest ih =>
    rw [stepsOf, Task.inTurn, perform]
    cases hstep : stepOf past.length step with
    -- Reading stops at a step that is none, so that there is nothing more to evaluate.
    | error reason => rfl
    | ok s =>
      obtain ⟨name, expression⟩ := s
      dsimp only
      rw [List.map_cons, evalSteps, conclude_bind, bind_assoc, bind_assoc]
      refine bind_congr fun v => ?_
      -- The context and the output go along with what is past.
      have hrest := ih (past ++ [(name, v)])
      rw [contextAfter_append, outputOf_append, List.length_append, List.length_singleton] at hrest
      rw [hrest, pure_bind, bind_assoc]
      refine bind_congr fun results => ?_
      rw [pure_bind, List.append_assoc, List.singleton_append]

theorem eval_sequenceWith (call : String → Evaluation ρ Json → Evaluation ρ Json)
    (hsteps : args.field? "operations" = some (.array steps)) (data : Json) :
    eval ⟨some call⟩ (ofJson (sequenceWith args)) data =
      (do return outputOf data (← Task.inTurn (perform ⟨some call⟩ data) [] steps)) := by
  rw [ofJson_sequenceWith, eval_sequence, sequenceOf, hsteps]
  exact conclude_evalSteps call data [] steps

/-- It has an output if all steps have results, -/
theorem run_sequenceWith_eq_ok_iff (hsteps : args.field? "operations" = some (.array steps)) :
    Task.run see c (eval ⟨some call⟩ (ofJson (sequenceWith args)) data).run = (.ok v, c') ↔
      ∃ results, Task.Passes see (perform ⟨some call⟩ data) [] c steps results c' ∧
        v = outputOf data results := by
  rw [eval_sequenceWith call hsteps, Task.run_return_eq_ok_iff]
  simp only [Task.run_inTurn_eq_ok_iff]

/-- and fails if one of them does. -/
theorem run_sequenceWith_eq_error_iff (hsteps : args.field? "operations" = some (.array steps)) :
    Task.run see c (eval ⟨some call⟩ (ofJson (sequenceWith args)) data).run = (.error e, c') ↔
      ∃ results, Task.Stops see (perform ⟨some call⟩ data) [] c steps results e c' := by
  rw [eval_sequenceWith call hsteps, Task.run_return_eq_error_iff, Task.run_inTurn_eq_error_iff]

/-! ## The laws of sequences -/

/-- **What a sequence does,** on a host that has them and sees this. -/
structure SequenceLaws (h : Host ρ) (see : Nat → ρ) : Prop where
  /-- It succeeds exactly if its steps do, one after the other, with the last result as it is. -/
  success : ∀ {args steps}, args.field? "operations" = some (.array steps) → ∀ c data v c',
    Task.run see c (eval h (ofJson (sequenceWith args)) data).run = (.ok v, c') ↔
      ∃ results, Task.Passes see (perform h data) [] c steps results c' ∧ v = outputOf data results
  /-- It fails exactly if one of them does, when those before have succeeded, and as that one. -/
  failure : ∀ {args steps}, args.field? "operations" = some (.array steps) → ∀ c data e c',
    Task.run see c (eval h (ofJson (sequenceWith args)) data).run = (.error e, c') ↔
      ∃ results, Task.Stops see (perform h data) [] c steps results e c'
  /-- **A step succeeds** exactly if it is one and its expression does in the context so far. -/
  stepSuccess : ∀ c data past step name v c',
    Task.run see c (perform h data past step).run = (.ok (name, v), c') ↔
      ∃ expression, step.IsStep name expression ∧
        Task.run see c (eval h (ofJson expression) (contextAfter data past)).run = (.ok v, c')
  /-- It fails exactly if its expression does in that context, or as malformed if it is none. -/
  stepFailure : ∀ c data past step e c',
    Task.run see c (perform h data past step).run = (.error e, c') ↔
      (∃ name expression, step.IsStep name expression ∧ Task.run see c
        (eval h (ofJson expression) (contextAfter data past)).run = (.error e, c')) ∨
      c' = c ∧ (∀ name expression, ¬ step.IsStep name expression) ∧
        ∃ reason, stepOf past.length step = .error reason ∧
          e = .malformed Operator.sequenceName reason
  /-- **The context** is an object once there is a result, with the last result under each name that
  has one. Under other names it has what the data had, or the data under `source`. -/
  context : ∀ data results, results ≠ [] → (contextAfter data results).isObject = true ∧
    ∀ name, name ≠ "" → '.' ∉ name.toList → (contextAfter data results).lookup? name =
      (lastNamed? name results).or (data.named? name)
  /-- When the steps before have succeeded, the expression of the next one is evaluated in it. -/
  reaches : ∀ {args before step behind},
    args.field? "operations" = some (.array (before ++ step :: behind)) →
    ∀ {c data results c'}, Task.Passes see (perform h data) [] c before results c' →
    ∀ {name expression}, step.IsStep name expression →
    Task.ComesTo see c (eval h (ofJson (sequenceWith args)) data).run c'
      (eval h (ofJson expression) (contextAfter data results)).run
  /-- When one has failed, there is no looking at what stands behind it. -/
  behind : ∀ {c data steps results e c'}, Task.Stops see (perform h data) [] c steps results e c' →
    ∀ {args} behind, args.field? "operations" = some (.array (steps ++ behind)) →
    Task.run see c (eval h (ofJson (sequenceWith args)) data).run = (.error e, c')

theorem sequenceLaws (call : String → Evaluation ρ Json → Evaluation ρ Json) (see : Nat → ρ) :
    SequenceLaws ⟨some call⟩ see where
  success := fun hsteps _ _ _ _ => run_sequenceWith_eq_ok_iff hsteps
  failure := fun hsteps _ _ _ _ => run_sequenceWith_eq_error_iff hsteps
  stepSuccess := fun _ _ _ _ _ _ _ => run_perform_eq_ok_iff
  stepFailure := fun _ _ _ _ _ _ => run_perform_eq_error_iff
  context := by
    intro data results hresults
    refine ⟨isObject_contextAfter data hresults, fun name hne hpoint => ?_⟩
    exact lookup?_contextAfter data hresults hne hpoint
  reaches := by
    intro args before step behind hsteps c data results c' hpasses name expression hstep
    have hcomes := hpasses.comesTo step behind
    rw [List.nil_append, perform_of_isStep ⟨some call⟩ data results hstep] at hcomes
    rw [eval_sequenceWith call hsteps, ExceptT.run_bind]
    refine (hcomes.bind _).trans ?_
    rw [ExceptT.run_bind]
    exact (Task.ComesTo.refl see c' _).bind _
  behind := by
    intro c data steps results e c' hstops args behind hsteps
    refine (run_sequenceWith_eq_error_iff hsteps).2 ⟨results, ?_⟩
    obtain ⟨hpasses, hfails, between⟩ := hstops
    rw [List.append_assoc, List.cons_append]
    exact .intro hpasses hfails (between ++ behind)

end Sequence

end Switchboard
