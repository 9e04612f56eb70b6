import Switchboard.Proofs.Dispatch.Vocabulary
/-!
# Operations only add

An expression that has a value, or fails, where there are no operations does the same
where there are, unless what it lacked were the operators that compose operations
(`extensionLaws`). Up to where one of these is evaluated, the two evaluations are the
same task; and such a call that stands in a branch not taken is never evaluated.
-/

namespace Switchboard

open Switchboard.Expr

namespace Extension

variable {α : Type} {h : Host Moment} {expression data : Json}

/-! ## The same, unless operations are lacking -/

/-- The evaluation failed for want of operations. -/
def Lacking (r : Except EvalError α) : Prop :=
  r = .error (.unknownOperator Operator.invocationName) ∨
    r = .error (.unknownOperator Operator.sequenceName)

theorem Lacking.ne_ok {a : α} : ¬ Lacking (.ok a : Except EvalError α) := by
  rintro (h | h) <;> cases h

/-- The error is the same of a whole evaluation as of its first part. -/
theorem Lacking.error {β : Type} {e : EvalError} (h : Lacking (.error e : Except EvalError α)) :
    Lacking (.error e : Except EvalError β) :=
  h.imp (congrArg Except.error ∘ Except.error.inj) (congrArg Except.error ∘ Except.error.inj)

/-- **The first evaluation is over at once,** and for want of operations if the second is another
one. -/
def settles : EvaluationRelation Moment := fun _ x y =>
  ∃ r, x.run = .done r ∧ (Lacking r ∨ y = x)

theorem settles_throw (e : EvalError) : settles α (throw e) (throw e) := ⟨.error e, rfl, .inr rfl⟩

theorem settles_lacking {e : EvalError} (he : Lacking (.error e : Except EvalError α))
    (y : Evaluation Moment α) : settles α (throw e) y :=
  ⟨.error e, rfl, .inl he⟩

theorem sequencing_settles : Sequencing settles where
  pure a := ⟨.ok a, rfl, .inr rfl⟩
  malformed operator reason := settles_throw (.malformed operator reason)
  bind := by
    rintro α β x y f g ⟨r, hdone, hr⟩ hf
    -- the first parts are the same and have a value, or the first part has failed for both or one
    cases r with
    | ok a =>
      obtain rfl := hr.resolve_left Lacking.ne_ok
      obtain rfl : y = pure a := hdone
      rw [pure_bind, pure_bind]
      exact hf a
    | error e =>
      obtain rfl : x = throw e := hdone
      refine ⟨.error e, rfl, ?_⟩
      rcases hr with hlacking | rfl
      · exact .inl hlacking.error
      · exact .inr rfl

/-- A host without operations lacks those that it is asked for. -/
theorem inherits_settles (h : Host Moment) :
    Inherits settles .alone h fun _ data data' => data = data' where
  beside _ he := he
  apart _ _ _ := rfl
  apply he args := by rw [he]
  context he := he
  unknown _ := settles_throw _
  malformed _ _ _ := settles_lacking (.inl rfl) _
  invoke _ _ _ _ := settles_lacking (.inl rfl) _
  conclude _ _ _ _ := settles_lacking (.inr rfl) _

/-- **Whatever host there is,** it is asked for something, or makes no difference. -/
theorem settles_eval (h : Host Moment) (e : Expr) (data : Json) :
    settles Json (e.eval .alone data) (e.eval h data) :=
  eval_related sequencing_settles (inherits_settles h) e data data rfl

/-! ## The laws of extension -/

/-- **What operations add to the evaluation of expressions.** -/
structure ExtensionLaws : Prop where
  /-- Where there are no operations, every evaluation is over at once. -/
  alone_done : ∀ expression data, ∃ r, (evaluate .nothing expression data).run = .done r
  /-- If it was not for want of operations, the evaluation is the same whatever there is to call, -/
  conservative : ∀ expression data r, (evaluate .nothing expression data).run = .done r →
    r ≠ .error (.unknownOperator "jsonrpc") → r ≠ .error (.unknownOperator "sequence") →
    ∀ h : Host Moment, (Expr.ofJson expression).eval h data = evaluate .nothing expression data
  /-- and has the same outcome at once in every registry, also in one that is gone. -/
  same_outcome : ∀ expression data see c,
    (Task.run see c (evaluate .nothing expression data).run).1 ≠
      .error (.unknownOperator "jsonrpc") →
    (Task.run see c (evaluate .nothing expression data).run).1 ≠
      .error (.unknownOperator "sequence") →
    ∀ reach see' c', Task.run see' c' (evaluate reach expression data).run =
      ((Task.run see c (evaluate .nothing expression data).run).1, c')
  /-- An expression in which neither operator is written is such, against any data. -/
  plain : ∀ expression, ¬ expression.HasSoleKey "jsonrpc" → ¬ expression.HasSoleKey "sequence" →
    ∀ data (h : Host Moment),
      (Expr.ofJson expression).eval h data = evaluate .nothing expression data

theorem eval_eq_of_not_lacking {r : Except EvalError Json}
    (hdone : (evaluate .nothing expression data).run = .done r) (hr : ¬ Lacking r)
    (h : Host Moment) : (Expr.ofJson expression).eval h data = evaluate .nothing expression data := by
  obtain ⟨r', hdone', hr'⟩ := settles_eval h (.ofJson expression) data
  change (evaluate .nothing expression data).run = .done r' at hdone'
  rw [hdone, Task.done.injEq] at hdone'
  subst hdone'
  exact hr'.resolve_left hr

/-- What an evaluation lacks is written in its expression. -/
theorem hasSoleKey_of_lacking {r : Except EvalError Json}
    (hdone : (evaluate .nothing expression data).run = .done r) (hr : Lacking r) :
    expression.HasSoleKey "jsonrpc" ∨ expression.HasSoleKey "sequence" := by
  have key (name : String) (h : r = .error (.unknownOperator name)) :
      expression.HasSoleKey name := by
    subst h
    have hrun : (Task.run (fun _ => ⟨.empty, 0⟩) {} (evaluate .nothing expression data).run).1 =
        .error (.unknownOperator name) := by
      rw [hdone]
      rfl
    obtain ⟨_, heq, -, hkey⟩ | ⟨_, _, heq⟩ := Vocabulary.misnames_of_evaluate_nothing hrun
    · cases heq
      exact hkey
    · cases heq
  exact hr.imp (key _) (key _)

theorem extensionLaws : ExtensionLaws where
  alone_done expression data := by
    obtain ⟨r, hdone, -⟩ := settles_eval .alone (.ofJson expression) data
    exact ⟨r, hdone⟩
  conservative expression data r hdone hcall hsequence h :=
    eval_eq_of_not_lacking hdone (not_or.2 ⟨hcall, hsequence⟩) h
  same_outcome expression data see c hcall hsequence reach see' c' := by
    obtain ⟨r, hdone, -⟩ := settles_eval .alone (.ofJson expression) data
    change (evaluate .nothing expression data).run = .done r at hdone
    rw [hdone] at hcall hsequence ⊢
    have hsame := eval_eq_of_not_lacking hdone (not_or.2 ⟨hcall, hsequence⟩) (hostOf reach)
    rw [evaluate, hsame, hdone]
    rfl
  plain expression hcall hsequence data h := by
    obtain ⟨r, hdone, -⟩ := settles_eval .alone (.ofJson expression) data
    refine eval_eq_of_not_lacking hdone (fun hr => ?_) h
    rcases hasSoleKey_of_lacking hdone hr with hkey | hkey
    · exact hcall hkey
    · exact hsequence hkey

end Extension

end Switchboard
