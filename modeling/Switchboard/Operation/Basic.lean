import Switchboard.Expression.Evaluation
import Switchboard.Operation.Arguments
/-!
# Operations

An operation has a name, documentation, parameters, tags, and a handler. The
handler is code over the bound arguments, or publishes the catalog of the
registry the operation stands in, or evaluates an expression against the
arguments as declared (`Operation.context`).
-/

namespace Switchboard

/-- The title and version that a published catalog bears. -/
structure CatalogInfo where
  title : String
  version : String
  deriving DecidableEq

/-- What an operation's expression can reach: nothing, the operations of its
registry, or those of a registry that is gone. -/
inductive Reach where
  | nothing
  | registry
  | lostRegistry
  deriving DecidableEq

/-- How an operation is carried out. Code sees, besides its arguments, random
bits that are fresh at each look. -/
inductive Handler where
  | native (run : Arguments → Task Nat (Except CallError Json))
  | publish (info : CatalogInfo)
  | expression (logic : Json) (reach : Reach)

/-- An operation that can be called by its name. -/
structure Operation where
  name : String
  documentation : String := ""
  parameters : List Parameter := []
  tags : List Tag := []
  handler : Handler

namespace Operation

/-- The arguments that a payload gives the operation. -/
def bind (op : Operation) (payload : Json) : Except CallError Arguments :=
  Arguments.bind op.name op.parameters payload

/-- A number argument as the expression sees it: always of the binary64 kind. -/
def coerceNumber? : Json → Option Json
  | .number n =>
    match n.toBinary64 with
    | .finite x => some (.number (.float x))
    | _ => none
  | .string s =>
    match Binary64.ofText? (Text.trimChars s.toList) with
    | some (.finite x) => some (.number (.float x))
    | _ => none
  | _ => none

/-- An argument as its declared type: any value becomes a string by its text,
and only the value true is true. -/
def coerce (args : Arguments) (i : Nat) (type : ParameterType) (v : Json) :
    Except CallError Json :=
  match type, v with
  | .string, .string s => .ok (.string s)
  | .string, other => .ok (.string other.text)
  | .number, v =>
    match coerceNumber? v with
    | some n => .ok n
    | none => .error (args.invalid i ("expected a number, got " ++ v.text))
  | .boolean, .bool true => .ok (.bool true)
  | .boolean, _ => .ok (.bool false)

/-- The fields for the parameters from the `i`-th position on. -/
def contextFields (args : Arguments) (i : Nat) :
    List Parameter → Except CallError Json.Fields
  | [] => .ok []
  | p :: rest =>
    match args.value? i with
    | none => contextFields args (i + 1) rest
    | some v => do
      let x ← coerce args i p.type v
      return (p.name, x) :: (← contextFields args (i + 1) rest)

/-- **What an operation's expression is evaluated against:** an object with one
field for each argument that is there, as its declared type. -/
def context (op : Operation) (args : Arguments) : Except CallError Json := do
  return .ofFields (← contextFields args 0 op.parameters)

end Operation

end Switchboard
