import Switchboard.Proofs.Expression.Congruence
import Switchboard.Proofs.Task.Ends
import Switchboard.Registry.Dispatch
/-!
# What an expression sees

Few operators look at the data, and the bodies of iterations and reductions are evaluated
against other data. An expression in which those few stand in bodies only (`Json.Closed`)
comes to the same against any data, whatever there is to call (`scopeLaws`). For the same
reason an iteration sees the data through the array that it runs over only, and its body
sees the items of that array.
-/

namespace Switchboard

open Switchboard.Expr

/-! ## Operators that look at the data -/

/-- The operators that look at the data they are evaluated against. -/
def Json.dataOperators : List String := ["var", "missing", "missing_some", "sequence"]

/-- **A closed expression:** where it has a call of an operator that looks at the data, that is
inside a body. An object in the template of a call's parameters is no call of an operator, whatever
its key is; what the template marks as an expression stands where the call does. -/
def Json.Closed (expression : Json) : Prop :=
  ∀ name args, Json.Stands False (.object [(name, args)]) expression → name ∉ Json.dataOperators

/-- The operator looks at the data. -/
def Builtin.LooksUp : Builtin → Prop
  | .var | .missing | .missingSome => True
  | _ => False

namespace Expr

/-- The expression is a call that looks at the data. -/
def LooksUp : Expr → Prop
  | .apply op _ => op.LooksUp
  | .sequence _ _ => True
  | _ => False

variable {ρ : Type} {x e : Expr} {data data' : Json}

/-- The others are functions of their operands. -/
theorem apply_eq_of_not_looksUp {op : Builtin} (hop : ¬ op.LooksUp) (args : List Json)
    (data data' : Json) : op.apply args data = op.apply args data' := by
  cases op with
  | var | missing | missingSome => exact absurd trivial hop
  | _ => rfl

theorem isCall_of_looksUp (h : x.LooksUp) : x.IsCall := by
  cases x with
  | literal v => exact h
  | list items => exact h
  | record fields => exact h
  | _ => trivial

/-- A call that looks at the data was written under the name of such an operator. -/
theorem mem_dataOperators {name : String} {args : Json} (h : (ofCall name args).LooksUp) :
    name ∈ Json.dataOperators := by
  cases hop : Operator.ofName? name with
  | none =>
    rw [ofCall, hop] at h
    exact h.elim
  | some op =>
    cases op with
    | builtin op =>
      rw [ofCall, hop] at h
      obtain rfl := Builtin.eq_name hop
      cases op with
      | var | missing | missingSome => decide
      | _ => exact h.elim
    | invocation =>
      obtain ⟨target, params, hread⟩ := ofCall_invocation hop args
      rw [hread] at h
      exact h.elim
    | sequence =>
      obtain rfl := eq_sequenceName hop
      decide
    | _ =>
      rw [ofCall, hop] at h
      exact h.elim

/-! ## Against other data -/

/-- The data are the same, or nothing outside of bodies looks at them. -/
def Unseen (e : Expr) (data data' : Json) : Prop :=
  data = data' ∨ ∀ x, Part False x e → ¬ x.LooksUp

theorem inherits_unseen (h : Host ρ) : Inherits (fun _ x y => x = y) h h Unseen where
  beside hx he := he.imp id fun hparts y hy => hparts y (hy.beside hx)
  apart _ _ _ := .inl rfl
  apply he args := by
    rcases he with rfl | hparts
    · rfl
    · exact apply_eq_of_not_looksUp (hparts _ .refl) args _ _
  -- a sequence looks at the data itself: its steps are evaluated against what grows from them
  context he := he.resolve_right fun hparts => hparts _ .refl trivial
  unknown _ := rfl
  malformed _ _ _ := by
    obtain ⟨_ | call⟩ := h
    · rfl
    · rfl
  invoke _ _ _ hxy := by rw [hxy]
  conclude _ _ _ hxy := by rw [hxy]

/-- **Data that are not seen make no difference,** whatever host there is. -/
theorem eval_eq_of_unseen (h : Host ρ) (he : Unseen e data data') :
    e.eval h data = e.eval h data' :=
  eval_related eq_congruence.sequencing (inherits_unseen h) e data data' he

theorem unseen_of_closed {expression : Json} (h : expression.Closed) (data data' : Json) :
    Unseen (.ofJson expression) data data' := by
  refine .inr fun x hx hlooks => ?_
  obtain ⟨name, args, hstands, rfl⟩ := writtenIn_of_part expression hx (isCall_of_looksUp hlooks)
  exact h name args hstands (mem_dataOperators hlooks)

end Expr

/-! ## Iterations and reductions -/

/-- An iteration: the array to run over, the body, and what is ignored. -/
def iterationOf (kind : Iteration) (source body : Json) (more : List Json) : Json :=
  .object [(kind.name, .array (source :: body :: more))]

/-- A reduction: the array to run over, the body, the first accumulator, and what is ignored. -/
def reductionOf (source body initial : Json) (more : List Json) : Json :=
  .object [("reduce", .array (source :: body :: initial :: more))]

namespace Expr

theorem ofOperands_array (items : List Json) : ofOperands (.array items) = items.map ofJson := by
  rw [ofOperands]
  exact List.attach_map_val

theorem ofJson_iterationOf (kind : Iteration) (source body : Json) (more : List Json) :
    ofJson (iterationOf kind source body more) = .iterate kind (ofJson source) (ofJson body) := by
  have hop : Operator.ofName? kind.name = some (.iteration kind) := by cases kind <;> decide
  rw [iterationOf, ofJson, ofCall, hop, ofOperands_array]
  rfl

theorem ofJson_reductionOf (source body initial : Json) (more : List Json) :
    ofJson (reductionOf source body initial more) =
      .reduce (ofJson source) (ofJson body) (ofJson initial) := by
  have hop : Operator.ofName? "reduce" = some .reduction := by decide
  rw [reductionOf, ofJson, ofCall, hop, ofOperands_array]
  rfl

/-- The body of a reduction sees the accumulator, the item, and nothing else. -/
theorem reductionScope_eq (accumulator current : Json) :
    reductionScope accumulator current =
      .object [("accumulator", accumulator), ("current", current)] := by
  have hne : ("accumulator" : String) ≠ "current" := by decide
  have hlt : ("accumulator" : String) < "current" := by decide
  rw [reductionScope, Json.ofFields, Json.Fields.ofList, List.foldl_cons, List.foldl_cons,
    List.foldl_nil, Json.insertField, Json.insertField, if_neg hne, if_pos hlt]

/-- **If the evaluation gives an array,** its items are all of the kind. -/
def GivesItems (I : Json → Prop) (x : Evaluation ρ Json) : Prop :=
  x.run.Ends (fun _ => True) fun r => ∀ items, r = .ok (.array items) → ∀ item ∈ items, I item

/-- What is done with the items matters for items of the kind only. -/
theorem GivesItems.bind_congr {I : Json → Prop} {x : Evaluation ρ Json} (hx : GivesItems I x)
    (operator : String) {f g : List Json → Evaluation ρ Json}
    (hf : ∀ items, (∀ item ∈ items, I item) → f items = g items) :
    (x >>= fun v => liftM (itemsOf operator v) >>= f) =
      (x >>= fun v => liftM (itemsOf operator v) >>= g) := by
  refine ExceptT.ext ?_
  rw [ExceptT.run_bind, ExceptT.run_bind]
  refine Task.Ends.bind_congr hx fun r hr => ?_
  cases r with
  | error e => rfl
  | ok v =>
    cases v with
    | array items => exact congrArg ExceptT.run (hf items (hr items rfl))
    | null => exact congrArg ExceptT.run (hf [] (by simp))
    | _ => rfl

end Expr

/-- **An iteration over a closed array is closed,** whatever its body is. -/
theorem Json.Closed.iterationOf {source : Json} {more : List Json} (hsource : source.Closed)
    (hmore : ∀ v ∈ more, v.Closed) (kind : Iteration) (body : Json) :
    (iterationOf kind source body more).Closed := by
  have hname : kind.name ∈ Json.bodyOperators ∧ kind.name ∉ Json.dataOperators ∧
      kind.name ≠ Operator.invocationName := by cases kind <;> decide
  obtain ⟨hbody, hdata, hcall⟩ := hname
  intro name args hstands
  generalize hy : Switchboard.iterationOf kind source body more = y at hstands
  rw [Switchboard.iterationOf] at hy
  cases hstands with
  | self =>
    rw [Json.object.injEq, List.singleton_inj, Prod.mk.injEq] at hy
    rw [← hy.1]
    exact hdata
  | item => cases hy
  | field plain => exact absurd ⟨kind.name, _, hbody, hy.symm⟩ plain
  | @operand _ operands i v iterates here place stands =>
    rw [Json.object.injEq, List.singleton_inj, Prod.mk.injEq, Json.array.injEq] at hy
    rw [← hy.2] at here
    -- the first operand is the array, the second the body, and the others are ignored
    obtain _ | _ | i := i
    · obtain rfl := Option.some.inj here
      exact hsource name args stands
    · exact (place rfl).elim
    · exact hmore v (List.mem_of_getElem? here) name args stands
  | marked =>
    rw [Json.object.injEq, List.singleton_inj, Prod.mk.injEq] at hy
    exact absurd hy.1 hcall

namespace Scope

/-! ## The laws of scope -/

/-- **What the data mean to an expression,** whatever it reaches. -/
structure ScopeLaws (reach : Reach) : Prop where
  /-- To a closed expression they mean nothing: its evaluation against other data is the same task. -/
  closed : ∀ expression, expression.Closed → ∀ data data',
    evaluate reach expression data = evaluate reach expression data'
  /-- An iteration over a closed array is such an expression, whatever its body looks at. -/
  closed_iteration : ∀ kind source body more, source.Closed → (∀ v ∈ more, v.Closed) →
    (iterationOf kind source body more).Closed
  /-- To an iteration they mean what they mean to its array, whatever the body is. -/
  iteration : ∀ kind source body more data data',
    evaluate reach source data = evaluate reach source data' →
    evaluate reach (iterationOf kind source body more) data =
      evaluate reach (iterationOf kind source body more) data'
  /-- The body is evaluated against items of the array, and against nothing else. -/
  iteration_body : ∀ I kind source body body' more data,
    GivesItems I (evaluate reach source data) →
    (∀ item, I item → evaluate reach body item = evaluate reach body' item) →
    evaluate reach (iterationOf kind source body more) data =
      evaluate reach (iterationOf kind source body' more) data
  /-- To a reduction they mean what they mean to its array and to the first accumulator. -/
  reduction : ∀ source body initial more data data',
    evaluate reach source data = evaluate reach source data' →
    evaluate reach initial data = evaluate reach initial data' →
    evaluate reach (reductionOf source body initial more) data =
      evaluate reach (reductionOf source body initial more) data'
  /-- The body is evaluated against an item of the array with an accumulator. -/
  reduction_body : ∀ I source body body' initial more data,
    GivesItems I (evaluate reach source data) →
    (∀ accumulator item, I item →
      evaluate reach body (.object [("accumulator", accumulator), ("current", item)]) =
        evaluate reach body' (.object [("accumulator", accumulator), ("current", item)])) →
    evaluate reach (reductionOf source body initial more) data =
      evaluate reach (reductionOf source body' initial more) data

theorem scopeLaws (reach : Reach) : ScopeLaws reach where
  closed expression h data data' := eval_eq_of_unseen _ (unseen_of_closed h data data')
  closed_iteration kind source body more hsource hmore := hsource.iterationOf hmore kind body
  iteration kind source body more data data' hsource := by
    rw [evaluate, evaluate] at hsource ⊢
    rw [ofJson_iterationOf, eval, eval, hsource]
  iteration_body I kind source body body' more data hsource hbody := by
    rw [evaluate, evaluate, ofJson_iterationOf, ofJson_iterationOf, eval, eval]
    refine GivesItems.bind_congr hsource kind.name fun items hitems => ?_
    exact eq_congruence.sequencing.iterateOver kind items fun item hitem =>
      hbody item (hitems item hitem)
  reduction source body initial more data data' hsource hinitial := by
    rw [evaluate, evaluate] at hsource hinitial ⊢
    rw [ofJson_reductionOf, eval, eval, hsource, hinitial]
  reduction_body I source body body' initial more data hsource hbody := by
    rw [evaluate, evaluate, ofJson_reductionOf, ofJson_reductionOf, eval, eval]
    refine GivesItems.bind_congr hsource "reduce" fun items hitems => ?_
    refine bind_congr fun first => ?_
    refine eq_congruence.sequencing.foldlM items first fun accumulator item hitem => ?_
    rw [reductionScope_eq]
    exact hbody accumulator item (hitems item hitem)

end Scope

end Switchboard
