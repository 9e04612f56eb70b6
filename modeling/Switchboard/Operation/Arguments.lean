import Switchboard.Error
import Switchboard.Json.Text
import Switchboard.Operation.Parameter
/-!
# Arguments

The values bound to an operation's parameters, one for each, null for an absent
one (`Arguments`). Binding takes a payload by name from an object, by position
from an array, and from null takes nothing (`Arguments.bind`).
-/

namespace Switchboard

/-- Values bound to the parameters of an operation. -/
structure Arguments where
  operation : String
  names : List String
  values : List Json

namespace Arguments

/-! ## Binding -/

/-- The values that an object gives to names. A name that is declared again
gets nothing: its value has been taken. -/
def takeNamed : List String → Json.Fields → List Json
  | [], _ => []
  | name :: rest, fields =>
    (fields.lookup name).getD .null :: takeNamed rest (fields.filter (·.1 ≠ name))

/-- The values that a payload gives to `names`. -/
def distribute (operation : String) (names : List String) (payload : Json) :
    Except CallError (List Json) :=
  match payload with
  | .null => .ok (names.map fun _ => .null)
  | .object fields => .ok (takeNamed names fields)
  | .array items =>
    if names.length < items.length then
      .error (.invalidParams operation ("expected at most " ++ toString names.length
        ++ " arguments, got " ++ toString items.length))
    else .ok (items ++ List.replicate (names.length - items.length) .null)
  | scalar =>
    .error (.invalidParams operation
      ("params must be an object or an array, got " ++ scalar.text))

/-- The first required parameter whose value is null. -/
def firstMissing? (parameters : List Parameter) (values : List Json) : Option Parameter :=
  ((parameters.zip values).find? fun (p, v) => p.required && v.isNull).map (·.1)

/-- **Binding.** The payload's values for the parameters; each required one must
have one. -/
def bind (operation : String) (parameters : List Parameter) (payload : Json) :
    Except CallError Arguments := do
  let names := parameters.map Parameter.name
  let values ← distribute operation names payload
  match firstMissing? parameters values with
  | some p => throw (.missingParameter operation p.name)
  | none => return ⟨operation, names, values⟩

/-! ## Access -/

/-- The argument at a position, unless it is absent or null. -/
def value? (args : Arguments) (i : Nat) : Option Json :=
  args.values[i]?.filter (!·.isNull)

/-- The name of the parameter at a position. -/
def nameAt (args : Arguments) (i : Nat) : String := args.names[i]?.getD "?"

/-- The error that refuses the argument at a position. -/
def invalid (args : Arguments) (i : Nat) (reason : String) : CallError :=
  .invalidParameter args.operation (args.nameAt i) reason

/-- The argument at a position, which must be a string if it is there. -/
def string? (args : Arguments) (i : Nat) : Except CallError (Option String) :=
  match args.value? i with
  | none => .ok none
  | some (.string s) => .ok (some s)
  | some other => .error (args.invalid i ("expected a string, got " ++ other.text))

/-- The argument at a position, which must be there and be a string. -/
def requireString (args : Arguments) (i : Nat) : Except CallError String := do
  match ← args.string? i with
  | some s => return s
  | none => throw (.missingParameter args.operation (args.nameAt i))

end Arguments

end Switchboard
