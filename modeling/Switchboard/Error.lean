/-!
# Why an evaluation or a call fails

Evaluating an expression fails with an `EvalError`, calling an operation with a
`CallError`. The two contain each other: an expression may call an operation,
and an operation may evaluate an expression.
-/

namespace Switchboard

mutual

/-- Why an expression has no value. -/
inductive EvalError where
  /-- A single-key object whose key is no operator. -/
  | unknownOperator (name : String)
  /-- An operator whose operands do not fit it. -/
  | malformed (operator reason : String)
  /-- A call of an operation that is not registered. -/
  | unknownOperation (name : String)
  /-- A called operation failed on its own account. -/
  | invocation (method : String) (cause : CallError)
  /-- Calls nest deeper than allowed. -/
  | nestedTooDeep (depth : Nat)
  /-- The registry to call into is gone. -/
  | registryGone

/-- Why a call or a registration fails. -/
inductive CallError where
  | duplicateOperation (name : String)
  | unknownOperation (name : String)
  | missingParameter (operation parameter : String)
  | invalidParameter (operation parameter reason : String)
  | invalidParams (operation reason : String)
  /-- The operation's expression has no value. -/
  | evaluation (error : EvalError)
  | timedOut (milliseconds : Nat)
  | overloaded
  | internal (reason : String)

end

mutual

/-- The words for an evaluation error. -/
def EvalError.message : EvalError → String
  | .unknownOperator name => "unknown operator: " ++ name
  | .malformed operator reason =>
    "malformed expression for `" ++ operator ++ "`: " ++ reason
  | .unknownOperation name => "unknown operation: " ++ name
  | .invocation method cause => "operation `" ++ method ++ "` failed: " ++ cause.message
  | .nestedTooDeep depth =>
    "operation calls nested deeper than " ++ toString depth ++ " levels"
  | .registryGone => "operation registry is no longer available"

/-- The words for a call error. -/
def CallError.message : CallError → String
  | .duplicateOperation name => "operation already registered: " ++ name
  | .unknownOperation name => "unknown operation: " ++ name
  | .missingParameter operation parameter =>
    "missing required parameter `" ++ parameter ++ "` for `" ++ operation ++ "`"
  | .invalidParameter operation parameter reason =>
    "invalid parameter `" ++ parameter ++ "` for `" ++ operation ++ "`: " ++ reason
  | .invalidParams operation reason =>
    "invalid params for `" ++ operation ++ "`: " ++ reason
  | .evaluation error => error.message
  | .timedOut milliseconds =>
    "operation timed out after " ++ toString milliseconds ++ "ms"
  | .overloaded => "server overloaded, try again later"
  | .internal reason => "internal error: " ++ reason

end

instance : Inhabited EvalError := ⟨.registryGone⟩

instance : Inhabited CallError := ⟨.overloaded⟩

/-- How a failed call shows in the expression that made it. A failed evaluation
and an unknown operation stay what they are; any other failure is attributed to
the operation called. -/
def CallError.toEvalError (method : String) : CallError → EvalError
  | .evaluation error => error
  | .unknownOperation name => .unknownOperation name
  | cause => .invocation method cause

end Switchboard
