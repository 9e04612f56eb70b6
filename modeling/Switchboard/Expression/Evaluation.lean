import Switchboard.Expression.Basic
import Switchboard.Task
/-!
# Evaluating expressions

`Expr.eval` gives the value of an expression against some data, as a task: a
call of an operation may wait, and sees the registry as it is when it is made.
What an expression reaches outside itself is its `Host`. Evaluation stops at the
first error.

The body of an iteration is evaluated against each item in place of the data,
and that of a reduction against an object of the item and the accumulator.
Steps of a sequence are evaluated against the data grown by the results of the
steps before.
-/

namespace Switchboard

/-- An evaluation in surroundings of type `ρ`. -/
abbrev Evaluation (ρ : Type) := ExceptT EvalError (Task ρ)

/-- What an expression reaches outside itself. -/
structure Host (ρ : Type) where
  /-- How an operation is called by name, with parameters that are evaluated only
  if it comes to that. Without it, there are no operators that compose
  operations. -/
  call? : Option (String → Evaluation ρ Json → Evaluation ρ Json)

/-- The host of expressions that stand alone. -/
def Host.alone {ρ : Type} : Host ρ := ⟨none⟩

namespace Expr

variable {ρ : Type}

/-- The items that an iteration runs over; null has none. -/
def itemsOf (operator : String) : Json → Except EvalError (List Json)
  | .array items => .ok items
  | .null => .ok []
  | other => .error (.malformed operator ("expected an array, got " ++ other.text))

/-- The items on which a body is true, in order. -/
def filterItems (body : Json → Evaluation ρ Json) : List Json → Evaluation ρ (List Json)
  | [] => return []
  | x :: rest => do
    if (← body x).truthy then return x :: (← filterItems body rest)
    else filterItems body rest

/-- Whether a body has the wanted truth on some item; it is not evaluated on
the items behind. -/
def anyItem (body : Json → Evaluation ρ Json) (wanted : Bool) : List Json → Evaluation ρ Bool
  | [] => return false
  | x :: rest => do
    if (← body x).truthy = wanted then return true else anyItem body wanted rest

/-- The value of an iteration over items. -/
def iterateOver (kind : Iteration) (body : Json → Evaluation ρ Json) (items : List Json) :
    Evaluation ρ Json :=
  match kind with
  | .map => return .array (← items.mapM body)
  | .filter => return .array (← filterItems body items)
  | .all => do
    if items.isEmpty then return .bool false
    else return .bool (!(← anyItem body false items))
  | .some => return .bool (← anyItem body true items)
  | .none => return .bool (!(← anyItem body true items))

/-- What the body of a reduction is evaluated against. -/
def reductionScope (accumulator current : Json) : Json :=
  .ofFields [("current", current), ("accumulator", accumulator)]

mutual

/-- **The value of an expression** against some data. -/
def eval (h : Host ρ) : Expr → Json → Evaluation ρ Json
  | .literal v, _ => return v
  | .list items, data => return .array (← evalAll h items data)
  | .record fields, data => return .object (← evalFields h fields data)
  | .apply op operands, data => do op.apply (← evalAll h operands data) data
  | .choice operands, data => evalChoice h operands data
  | .conjunction operands, data => evalUntil h false (.bool true) operands data
  | .disjunction operands, data => evalUntil h true (.bool false) operands data
  | .iterate kind source body, data => do
    let items ← itemsOf kind.name (← eval h source data)
    iterateOver kind (eval h body) items
  | .reduce source body initial, data => do
    let items ← itemsOf "reduce" (← eval h source data)
    let first ← eval h initial data
    items.foldlM (fun accumulator current => eval h body (reductionScope accumulator current)) first
  | .invoke target params, data =>
    match h.call?, target with
    | none, _ => throw (.unknownOperator Operator.invocationName)
    | some _, .error reason => throw (.malformed Operator.invocationName reason)
    | some call, .ok method => call method (eval h params data)
  | .sequence steps fault, data =>
    match h.call? with
    | none => throw (.unknownOperator Operator.sequenceName)
    | some _ => do
      let output ← evalSteps h steps data data
      match fault with
      | some reason => throw (.malformed Operator.sequenceName reason)
      | none => return output
  | .unknown name, _ => throw (.unknownOperator name)

/-- The values of several expressions, in order. -/
def evalAll (h : Host ρ) : List Expr → Json → Evaluation ρ (List Json)
  | [], _ => return []
  | e :: rest, data => do
    let x ← eval h e data
    return x :: (← evalAll h rest data)

/-- The values of the fields of a record, in order. -/
def evalFields (h : Host ρ) : List (String × Expr) → Json → Evaluation ρ Json.Fields
  | [], _ => return []
  | (name, e) :: rest, data => do
    let x ← eval h e data
    return (name, x) :: (← evalFields h rest data)

/-- The result behind the first condition that holds, else the last operand
if it stands alone, else null. -/
def evalChoice (h : Host ρ) : List Expr → Json → Evaluation ρ Json
  | [], _ => return .null
  | [last], data => eval h last data
  | condition :: result :: rest, data => do
    if (← eval h condition data).truthy then eval h result data else evalChoice h rest data

/-- The first operand whose truth is the wanted one, else the last operand;
`last` is the operand before these. -/
def evalUntil (h : Host ρ) (wanted : Bool) (last : Json) : List Expr → Json → Evaluation ρ Json
  | [], _ => return last
  | e :: rest, data => do
    let x ← eval h e data
    if x.truthy = wanted then return x else evalUntil h wanted x rest data

/-- The result of the last step, `output` when there is none; each step's result
joins the context of the steps behind it. -/
def evalSteps (h : Host ρ) : List (String × Expr) → Json → Json → Evaluation ρ Json
  | [], _, output => return output
  | (name, e) :: rest, context, _ => do
    let x ← eval h e context
    evalSteps h rest (context.withResult name x) x

end

end Expr

end Switchboard
