import Switchboard.Registry.Basic
import Switchboard.Catalog.Document
/-!
# Calling operations

`dispatch` calls an operation by name with a payload. The operation's expression
may call others, and their expressions others again, to a depth of
`nestingLimit`. A call at that depth is an error of its own, so calls end
whatever the registry holds: `callsWithin` is defined by recursion on the depth
that is left.

A task that calls operations sees the registry as it is when it looks. Once it
has looked up an operation, it carries that operation out even when it is
removed meanwhile.
-/

namespace Switchboard

/-- What a call sees around it: the registry as it is, and fresh random bits. -/
structure Moment where
  registry : Registry
  entropy : Nat

/-- How deep calls from within expressions may nest. -/
def nestingLimit : Nat := 32

/-- A call under way: a task that ends with a value or a call error. -/
abbrev CallTask := Task Moment (Except CallError Json)

namespace Operation

/-- The host of an operation's expression, given the one that reaches the
registry and the one whose registry is gone. -/
def hostFor (live lost : Host Moment) : Reach → Host Moment
  | .nothing => .alone
  | .registry => live
  | .lostRegistry => lost

/-- **Invocation** of an operation: its payload is bound, and then its handler
carries it out. -/
def invoke (live lost : Host Moment) (op : Operation) (payload : Json) : CallTask :=
  match op.bind payload with
  | .error e => .done (.error e)
  | .ok args =>
    match op.handler with
    | .native run => (run args).within Moment.entropy
    | .publish info => .look fun m =>
      .done (.ok (Catalog.describe info m.registry.operations).toJson)
    | .expression logic reach =>
      match op.context args with
      | .error e => .done (.error e)
      | .ok context => do
        match ← (Expr.ofJson logic).eval (hostFor live lost reach) context with
        | .ok v => return .ok v
        | .error e => return .error (.evaluation e)

end Operation

/-- Calls an operation by its name, as it stands in the registry now. -/
def callByName (live lost : Host Moment) (method : String) (payload : Json) : CallTask :=
  .look fun m =>
    match m.registry.lookup? method with
    | some op => op.invoke live lost payload
    | none => .done (.error (.unknownOperation method))

/-- A host whose calls nest too deep already. -/
def refusingHost : Host Moment :=
  ⟨some fun _ _ => throw (.nestedTooDeep nestingLimit)⟩

/-- The host of expressions whose registry is gone. -/
def lostHost (depthLeft : Nat) : Host Moment :=
  match depthLeft with
  | 0 => refusingHost
  | _ + 1 => ⟨some fun _ _ => throw .registryGone⟩

/-- **The host of expressions from which calls may nest so much deeper.** A call
is refused before its parameters are evaluated when it is too deep or there is
no such operation. -/
def callsWithin : Nat → Host Moment
  | 0 => refusingHost
  | depthLeft + 1 => ⟨some fun method params => do
    let m ← (Task.surroundings : Task Moment Moment)
    if !m.registry.contains method then throw (.unknownOperation method)
    let payload ← params
    match ← (callByName (callsWithin depthLeft) (lostHost depthLeft) method payload :
      Task Moment (Except CallError Json)) with
    | .ok v => return v
    | .error e => throw (e.toEvalError method)⟩

/-- **Dispatch** of a call by name, from outside any expression. -/
def dispatch (method : String) (payload : Json) : CallTask :=
  callByName (callsWithin nestingLimit) (lostHost nestingLimit) method payload

/-- The host of expressions that are evaluated from outside any operation. -/
def hostOf : Reach → Host Moment :=
  Operation.hostFor (callsWithin nestingLimit) (lostHost nestingLimit)

/-- The value of an expression, written as JSON, against some data. -/
def evaluate (reach : Reach) (expression data : Json) : Evaluation Moment Json :=
  (Expr.ofJson expression).eval (hostOf reach) data

/-- The values of the operands of a call, against some data. -/
def evaluateOperands (reach : Reach) (args data : Json) : Evaluation Moment (List Json) :=
  Expr.evalAll (hostOf reach) (Expr.ofOperands args) data

/-- The value built by a template, against some data. -/
def evaluateTemplate (reach : Reach) (template data : Json) : Evaluation Moment Json :=
  (Expr.ofTemplate template).eval (hostOf reach) data

/-- A call of an operation as an expression makes it, from outside any
expression. -/
def resolve (method : String) (payload : Json) : Evaluation Moment Json := do
  match ← (dispatch method payload : Task Moment (Except CallError Json)) with
  | .ok v => return v
  | .error e => throw (e.toEvalError method)

end Switchboard
