import Switchboard.Json.Record
import Switchboard.Operation.Basic
/-!
# Definitions of custom operations

A document of definitions lists operations that evaluate an expression
(`Definition`). `Definitions.ofText` reads one; `Definition.toOperation` makes the
operation of a definition, unless its name is blank, its expression is missing,
or a parameter is declared twice.
-/

namespace Switchboard

/-- A parameter as a document defines it. -/
structure ParameterDefinition where
  name : String
  type : ParameterType := .string
  required : Bool := false
  documentation : Option String := none
  uiHint : Option String := none

/-- An operation as a document defines it. -/
structure Definition where
  name : String
  description : Option String := none
  parameters : Option (List ParameterDefinition) := none
  expression : Json := .null

/-- Why definitions are not installed. -/
inductive LoadError where
  /-- The file cannot be read. -/
  | unreadable (path reason : String)
  /-- The document is refused, or one of its definitions. -/
  | malformed (reason : String)
  /-- An operation cannot be registered. -/
  | registration (cause : CallError)

/-- The words for a load error. -/
def LoadError.message : LoadError → String
  | .unreadable path reason => "failed to read " ++ path ++ ": " ++ reason
  | .malformed reason => "malformed custom operations: " ++ reason
  | .registration cause => "failed to register custom operation: " ++ cause.message

/-- The words for a load error and then those for each cause behind it. -/
def LoadError.chain (e : LoadError) : List String :=
  e.message :: match e with
    | .unreadable _ reason => [reason]
    | .malformed _ => []
    | .registration cause => [cause.message]

/-! ## Reading -/

namespace Definitions

open Json

/-- Reads a parameter's type, in any of its spellings. -/
def readType : Reader ParameterType := oneOf ParameterType.spellings

/-- Reads a parameter. -/
def readParameter : Reader ParameterDefinition :=
  readRecord "struct CustomParameterDefinition"
    [fieldReader "name" true aString (fun x p => { p with name := x }) [],
     fieldReader "type" false readType (fun x p => { p with type := x }) [],
     fieldReader "required" false aBoolean (fun x p => { p with required := x }) [],
     fieldReader "documentation" false (optional aString)
       (fun x p => { p with documentation := x }) [],
     fieldReader "uiHint" false (optional aString) (fun x p => { p with uiHint := x }) []]
    ⟨"", .string, false, none, none⟩

/-- Reads a definition. -/
def readDefinition : Reader Definition :=
  readRecord "struct CustomOperationDefinition"
    [fieldReader "name" true aString (fun x d => { d with name := x }) [],
     fieldReader "description" false (optional aString)
       (fun x d => { d with description := x }) [],
     fieldReader "parameters" false (optional (listOf readParameter))
       (fun x d => { d with parameters := x }) [],
     fieldReader "jsonLogic" false anyValue (fun x d => { d with expression := x })
       ["expression"]]
    ⟨"", none, none, .null⟩

/-- Reads a document, which may have no list of definitions. -/
def read : Reader (Option (List Definition)) :=
  readRecord "struct CustomOperationsDocument"
    [fieldReader "jsonLogics" false (optional (listOf readDefinition)) (fun x _ => x) []]
    none

/-- The definitions that a whole text lists, or why it is refused. -/
def ofText (text : String) : Except LoadError (List Definition) :=
  match readDocument read text with
  | .ok definitions => .ok (definitions.getD [])
  | .error reason => .error (.malformed reason)

end Definitions

/-! ## Operations -/

namespace Definition

/-- The menu group of every custom operation. -/
def menuLabel : String := "Custom Operations"

/-- The parameter that a definition stands for. -/
def toParameter (p : ParameterDefinition) : Parameter where
  name := p.name
  type := p.type
  required := p.required
  documentation := p.documentation.getD ""
  uiHint := p.uiHint

/-- The first name that occurs among those before it. -/
def firstRepeated? (seen : List String) : List String → Option String
  | [] => none
  | n :: rest => if seen.contains n then some n else firstRepeated? (n :: seen) rest

/-- **The operation of a definition,** or why it makes none. -/
def toOperation (d : Definition) : Except LoadError Operation :=
  let name := Text.trim d.name
  let parameters := d.parameters.getD []
  if name = "" then .error (.malformed "operation name must not be empty")
  else if d.expression.isNull then
    .error (.malformed ("`" ++ name ++ "` has no jsonLogic expression"))
  else match firstRepeated? [] (parameters.map (·.name)) with
    | some p => .error (.malformed ("`" ++ name ++ "` declares parameter `" ++ p ++ "` twice"))
    | none => .ok {
        name := name
        documentation := d.description.getD ""
        parameters := parameters.map toParameter
        tags := Tag.menu menuLabel ""
        handler := .expression d.expression .registry }

end Definition

end Switchboard
