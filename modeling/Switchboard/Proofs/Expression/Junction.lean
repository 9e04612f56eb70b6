import Switchboard.Proofs.Expression.Iteration
/-!
# The algebra of conditions

`and`, `or` and the conditional evaluate no operand that they can do without, and answer with
the value of an operand rather than with its truth. All the same they can be regrouped, and
negations can be moved through them (`junctionLaws`): the values are the same, the operands are
evaluated in the same order, and those that fail are reached, or are not, in the same way.

That two expressions come to the same is meant in the strongest sense, that their evaluations
are the same task (`Host.Same`).
-/

namespace Switchboard

open Switchboard.Expr

variable {ρ : Type} {h : Host ρ} {data : Json}

/-- **Two expressions come to the same** on a host, against any data and however they are run. -/
def Host.Same (h : Host ρ) (expression expression' : Json) : Prop :=
  ∀ data, eval h (.ofJson expression) data = eval h (.ofJson expression') data

/-! ## Expressions -/

/-- The first operand that is false, or else the last. -/
def conjunctionOf (operands : List Json) : Json := .object [("and", .array operands)]

/-- The first operand that is true, or else the last. -/
def disjunctionOf (operands : List Json) : Json := .object [("or", .array operands)]

/-- The two names of the conditional. -/
def choiceNames : List String := ["if", "?:"]

/-- Conditions and results in turn, and what there is else. -/
def choiceOf (name : String) (operands : List Json) : Json := .object [(name, .array operands)]

namespace Expr

theorem eval_conjunctionOf (h : Host ρ) (operands : List Json) (data : Json) :
    eval h (ofJson (conjunctionOf operands)) data =
      evalUntil h false (.bool true) (operands.map ofJson) data := by
  have hop : Operator.ofName? "and" = some .conjunction := by decide
  rw [conjunctionOf, ofJson, ofCall, hop, ofOperands_array]
  change eval h (.conjunction _) data = _
  rw [eval]

theorem eval_disjunctionOf (h : Host ρ) (operands : List Json) (data : Json) :
    eval h (ofJson (disjunctionOf operands)) data =
      evalUntil h true (.bool false) (operands.map ofJson) data := by
  have hop : Operator.ofName? "or" = some .disjunction := by decide
  rw [disjunctionOf, ofJson, ofCall, hop, ofOperands_array]
  change eval h (.disjunction _) data = _
  rw [eval]

theorem eval_choiceOf {name : String} (hname : name ∈ choiceNames) (h : Host ρ)
    (operands : List Json) (data : Json) :
    eval h (ofJson (choiceOf name operands)) data =
      evalChoice h (operands.map ofJson) data := by
  have hop : Operator.ofName? name = some .choice := by
    simp only [choiceNames, List.mem_cons, List.not_mem_nil, or_false] at hname
    rcases hname with rfl | rfl
    · decide
    · decide
  rw [choiceOf, ofJson, ofCall, hop, ofOperands_array]
  change eval h (.choice _) data = _
  rw [eval]

/-! ## Looking for a truth -/

variable {wanted : Bool} {last : Json} {operands more : List Expr}

/-- The operand before is the result only if there are no others. -/
theorem evalUntil_of_ne_nil (hoperands : operands ≠ []) (last last' : Json) :
    evalUntil h wanted last operands data = evalUntil h wanted last' operands data := by
  cases operands with
  | nil => exact absurd rfl hoperands
  | cons e rest => rw [evalUntil, evalUntil]

/-- **Looking on** behind some operands is looking at these first, unless one of them is found. -/
theorem evalUntil_append (hlast : last.truthy ≠ wanted) (operands more : List Expr) :
    evalUntil h wanted last (operands ++ more) data = (do
      let x ← evalUntil h wanted last operands data
      if x.truthy = wanted then return x else evalUntil h wanted x more data) := by
  induction operands generalizing last with
  | nil => rw [List.nil_append, evalUntil, pure_bind, if_neg hlast]
  | cons e rest ih =>
    rw [List.cons_append, evalUntil, evalUntil, bind_assoc]
    refine bind_congr fun x => ?_
    by_cases hx : x.truthy = wanted
    · rw [if_pos hx, if_pos hx, pure_bind, if_pos hx]
    · rw [if_neg hx, if_neg hx, ih hx]

/-- Looking at two things, each of which is looking at some operands. -/
theorem evalUntil_pair (hlast : last.truthy ≠ wanted) (hmore : more ≠ []) {first second : Expr}
    (hfirst : eval h first data = evalUntil h wanted last operands data)
    (hsecond : eval h second data = evalUntil h wanted last more data) :
    evalUntil h wanted last [first, second] data =
      evalUntil h wanted last (operands ++ more) data := by
  rw [evalUntil_append hlast, evalUntil, hfirst]
  refine bind_congr fun x => ?_
  by_cases hx : x.truthy = wanted
  · rw [if_pos hx, if_pos hx]
  · rw [if_neg hx, if_neg hx, evalUntil, hsecond, evalUntil_of_ne_nil hmore last x]
    -- What is found behind is the result, whether it is what was looked for or the last there is.
    have hresult : ∀ y : Json, (if y.truthy = wanted then return y
        else evalUntil h wanted y [] data : Evaluation ρ Json) = pure y := by
      intro y
      rw [evalUntil]
      exact ite_self _
    simp only [hresult, bind_pure]

/-- **The negation of what is found** is found among the negations, where the other truth is looked
for. -/
theorem not_evalUntil (last : Json) (operands : List Json) :
    (do return Json.bool (!(← evalUntil h wanted last (operands.map ofJson) data).truthy)) =
      evalUntil h (!wanted) (.bool (!last.truthy)) (operands.map (ofJson ∘ negationOf)) data := by
  induction operands generalizing last with
  | nil =>
    rw [List.map_nil, List.map_nil, evalUntil, evalUntil, pure_bind]
  | cons e rest ih =>
    rw [List.map_cons, List.map_cons, evalUntil, evalUntil, Function.comp_apply, eval_negationOf,
      bind_assoc, bind_assoc]
    refine bind_congr fun x => ?_
    have hnot : (Json.bool (!x.truthy)).truthy = !wanted ↔ x.truthy = wanted := Bool.not_inj_iff
    rw [pure_bind]
    by_cases hx : x.truthy = wanted
    · rw [if_pos hx, if_pos (hnot.2 hx), pure_bind]
    · rw [if_neg hx, if_neg (mt hnot.1 hx)]
      exact ih x

end Expr

/-! ## The laws of conditions -/

/-- **How conditions can be rewritten,** on a host. -/
structure JunctionLaws (h : Host ρ) : Prop where
  /-- What is joined by `and` can be grouped, as long as the last group is not empty, -/
  conjunction_append : ∀ xs ys, ys ≠ [] →
    h.Same (conjunctionOf (xs ++ ys)) (conjunctionOf [conjunctionOf xs, conjunctionOf ys])
  /-- and so can what is joined by `or`. -/
  disjunction_append : ∀ xs ys, ys ≠ [] →
    h.Same (disjunctionOf (xs ++ ys)) (disjunctionOf [disjunctionOf xs, disjunctionOf ys])
  /-- What stands behind the first condition and its result can be a conditional of its own. -/
  choice_nested : ∀ name ∈ choiceNames, ∀ c t rest,
    h.Same (choiceOf name ([c, t] ++ rest)) (choiceOf name [c, t, choiceOf name rest])
  /-- Not all are true exactly if one is not, -/
  not_conjunction : ∀ xs,
    h.Same (negationOf (conjunctionOf xs)) (disjunctionOf (xs.map negationOf))
  /-- and none is true exactly if all are not. -/
  not_disjunction : ∀ xs,
    h.Same (negationOf (disjunctionOf xs)) (conjunctionOf (xs.map negationOf))

theorem junctionLaws (h : Host ρ) : JunctionLaws h where
  conjunction_append := by
    intro xs ys hys data
    have hlast : (Json.bool true).truthy ≠ false := Bool.noConfusion
    have hmore : ys.map ofJson ≠ [] := mt List.map_eq_nil_iff.1 hys
    rw [eval_conjunctionOf, eval_conjunctionOf, List.map_append]
    exact (evalUntil_pair hlast hmore (eval_conjunctionOf h xs data)
      (eval_conjunctionOf h ys data)).symm
  disjunction_append := by
    intro xs ys hys data
    have hlast : (Json.bool false).truthy ≠ true := Bool.false_ne_true
    have hmore : ys.map ofJson ≠ [] := mt List.map_eq_nil_iff.1 hys
    rw [eval_disjunctionOf, eval_disjunctionOf, List.map_append]
    exact (evalUntil_pair hlast hmore (eval_disjunctionOf h xs data)
      (eval_disjunctionOf h ys data)).symm
  choice_nested := by
    intro name hname c t rest data
    have hrest := eval_choiceOf hname h rest data
    rw [eval_choiceOf hname, eval_choiceOf hname, List.map_append]
    simp only [List.map_cons, List.map_nil, List.cons_append, List.nil_append]
    rw [evalChoice, evalChoice, evalChoice, hrest]
  not_conjunction := by
    intro xs data
    rw [eval_negationOf, eval_conjunctionOf, eval_disjunctionOf, not_evalUntil, List.map_map]
    rfl
  not_disjunction := by
    intro xs data
    rw [eval_negationOf, eval_disjunctionOf, eval_conjunctionOf, not_evalUntil, List.map_map]
    rfl

end Switchboard
