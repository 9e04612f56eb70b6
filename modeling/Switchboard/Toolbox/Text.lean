import Switchboard.Pattern.Basic
import Switchboard.Toolbox.Basic
/-!
# Text operations

Operations that search a text for a regex: whether it matches the whole text, and where
it matches parts of it.
-/

namespace Switchboard

namespace Toolbox

/-- The menu group. -/
def textGroup : String := "Text"

/-- The pattern that the first argument writes, with something around it. -/
def patternOf (args : Arguments) (text : String) : Except CallError Pattern :=
  match Pattern.compile text with
  | .ok p => .ok p
  | .error refusal => .error (args.invalid 0 refusal.message)

/-- A pattern written so that it matches from the start of a text to its end. -/
def anchored (text : String) : String := "\\A(?:" ++ text ++ ")\\z"

/-- The texts of the groups of a match, or null if the pattern has none. -/
def groupsOf (m : Pattern.Match) : Json :=
  if m.groups.isEmpty then .null
  else .array (m.groups.map fun group => (group.map Json.string).getD .null)

/-- Whether the first argument, a regex, matches the whole of the second. -/
def regexMatches (args : Arguments) : Except CallError Json := do
  let regex ← args.requireString 0
  let text ← args.requireString 1
  let pattern ← patternOf args (anchored regex)
  match pattern.find? (.start text.toList) with
  | some m => return .ofFields [("matches", .bool true), ("groups", groupsOf m)]
  | none => return .ofFields [("matches", .bool false), ("groups", .null)]

/-- Where the first argument, a regex, matches parts of the second. -/
def regexFind (args : Arguments) : Except CallError Json := do
  let pattern ← patternOf args (← args.requireString 0)
  let text ← args.requireString 1
  let find (m : Pattern.Match) : Json :=
    .ofFields [("start", .ofInt m.start.index), ("groups", groupsOf m)]
  return .ofFields [("finds", .array ((pattern.findAll text).map find))]

/-- The parameters of operations that search a text for a regex. -/
def regexParameters : List Parameter :=
  [requiredText "regex" "Regex to test.",
   requiredLines "text" "Text to test the regex against."]

/-- The text operations. -/
def textOperations : List Operation :=
  [{ name := "regex-matches"
     documentation := "Tests whether a regex matches the whole text."
     tags := Tag.menu textGroup "regex-"
     parameters := regexParameters
     handler := immediate regexMatches },
   { name := "regex-find"
     documentation := "Lists every match of a regex in the text."
     tags := Tag.menu textGroup "regex-"
     parameters := regexParameters
     handler := immediate regexFind }]

end Toolbox

end Switchboard
