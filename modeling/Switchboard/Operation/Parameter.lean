import Switchboard.Json.Basic
/-!
# Parameters and tags

What an operation declares about its arguments (`Parameter`) and about its place
in a menu (`Tag`). A parameter's position is its place in the operation's list.
-/

namespace Switchboard

/-- The declared type of a parameter. -/
inductive ParameterType where
  | string
  | number
  | boolean
  deriving DecidableEq

namespace ParameterType

/-- The name of a type in schemas. -/
def schemaName : ParameterType → String
  | .string => "string"
  | .number => "number"
  | .boolean => "boolean"

/-- The spellings a definition may use for a type, the written one last. -/
def spellings : List (String × ParameterType) :=
  [("STRING", .string), ("String", .string), ("string", .string),
   ("NUMBER", .number), ("Number", .number), ("number", .number),
   ("BOOLEAN", .boolean), ("Boolean", .boolean), ("boolean", .boolean)]

end ParameterType

/-- A parameter of an operation. -/
structure Parameter where
  name : String
  type : ParameterType := .string
  required : Bool := false
  documentation : String := ""
  /-- How a form should show it, such as `textarea`. -/
  uiHint : Option String := none
  /-- The texts it may be; none means that any will do. -/
  allowed : List String := []

/-- A label under a category, which groups operations. -/
structure Tag where
  category : String
  label : String
  deriving DecidableEq

namespace Tag

/-- The category of top-level menu groups. -/
def rootLabel : String := "root_label"

/-- The category of name prefixes that the operations of a group share. -/
def commandPrefix : String := "command_prefix"

/-- The two tags that place an operation in a menu. -/
def menu (root command : String) : List Tag := [⟨rootLabel, root⟩, ⟨commandPrefix, command⟩]

end Tag

end Switchboard
