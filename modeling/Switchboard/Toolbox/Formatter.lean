import Switchboard.Json.Reader
import Switchboard.Toolbox.Basic
/-!
# Formatting operations

Operations that lay a JSON document out over lines and that read an escaped JSON
string.
-/

namespace Switchboard

namespace Toolbox

/-- The menu group. -/
def formatterGroup : String := "Formatter"

/-- The value of a JSON text that was given as the argument at a position. -/
def parseArgument (args : Arguments) (i : Nat) (text : String) : Except CallError Json :=
  (Json.parse text).mapError (args.invalid i)

/-- Lays the first argument, a JSON document, out over lines. -/
def formatJson (args : Arguments) : Except CallError Json := do
  let v ← parseArgument args 0 (← args.requireString 0)
  return .string v.prettyText

/-- A text in quotes, unless a quote stands at one of its ends. -/
def quoted (text : String) : String :=
  let cs := text.toList
  if cs.head? = some '"' ∨ cs.getLast? = some '"' then text
  else String.ofList ('"' :: (cs ++ ['"']))

/-- Reads the first argument, an escaped string with or without its quotes. -/
def unescapeJson (args : Arguments) : Except CallError Json := do
  parseArgument args 0 (quoted (← args.requireString 0))

/-- The formatting operations. -/
def formatterOperations : List Operation :=
  [{ name := "json-format"
     documentation := "Pretty-prints a JSON document."
     tags := Tag.menu formatterGroup "json-"
     parameters := [requiredLines "value" "JSON to format."]
     handler := immediate formatJson },
   { name := "json-unescape"
     documentation := "Unescapes an escaped JSON string."
     tags := Tag.menu formatterGroup "json-"
     parameters :=
       [requiredLines "value" "Escaped JSON string, with or without surrounding quotes."]
     handler := immediate unescapeJson }]

end Toolbox

end Switchboard
