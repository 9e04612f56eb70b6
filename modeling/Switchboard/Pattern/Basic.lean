import Switchboard.Pattern.Meaning
import Switchboard.Pattern.Reader
import Switchboard.Pattern.Search
import Switchboard.Pattern.Weight
/-!
# Patterns

A pattern is read from a text, given its meaning, and made a program, which finds the
first match in a text or all matches one after the other.
-/

namespace Switchboard

/-- A pattern that is ready to be searched for, and how many groups it notes besides the
whole. -/
structure Pattern where
  program : Pattern.Program
  groupCount : Nat

namespace Pattern

/-! ## Making patterns -/

/-- Why a text makes no pattern. -/
inductive Refusal where
  | fault (pattern : String) (f : Fault)
  | tooLarge

/-- The words for a refusal. -/
def Refusal.message : Refusal → String
  | .fault pattern f => f.message pattern
  | .tooLarge => "Compiled regex exceeds size limit of " ++ toString sizeLimit ++ " bytes."

/-- The pattern that is searched for by a program. -/
def ofProgram (program : Program) : Pattern := ⟨program, program.groupCount - 1⟩

/-- What a text means as a pattern. -/
def meaning (text : List Char) : Except Fault Core := do
  let node ← Node.ofText text
  return (← node.core {}).1

/-- The pattern that a text writes. -/
def compile (text : String) : Except Refusal Pattern :=
  match meaning text.toList with
  | .error f => .error (.fault text f)
  | .ok core =>
    if sizeLimit < core.size then .error .tooLarge else .ok (ofProgram (.ofCore core))

/-! ## Matches -/

/-- A match: where it starts and stops, and the texts of the groups, of those that took
part in it. -/
structure Match where
  start : Spot
  stop : Spot
  groups : List (Option String)

/-- The text that a group has noted. -/
def groupText (notes : Notes) (index : Nat) : Option String := do
  let start ← notes.lookup (2 * index)
  let stop ← notes.lookup (2 * index + 1)
  return String.ofList (start.textTo stop)

/-- The first match from a place on. -/
def find? (p : Pattern) (spot : Spot) : Option Match := do
  let notes ← p.program.search? spot
  let start ← notes.lookup 0
  let stop ← notes.lookup 1
  return ⟨start, stop, (List.range' 1 p.groupCount).map (groupText notes)⟩

/-- The first match from a place on that is not empty right behind the match before. -/
def findNext? (p : Pattern) (spot : Spot) (isAfterMatch : Bool) : Option Match := do
  let m ← p.find? spot
  if isAfterMatch ∧ m.stop.index = spot.index then p.find? (← spot.next?) else return m

/-- The matches from a place on, each starting where the one before stops or later,
behind those that stand in reverse. -/
def findAllFrom (p : Pattern) : (fuel : Nat) → Spot → List Match → List Match
  | 0, _, before => before.reverse
  | fuel + 1, spot, before =>
    match p.findNext? spot !before.isEmpty with
    | none => before.reverse
    | some m => findAllFrom p fuel m.stop (m :: before)

/-- **All matches** in a text, from left to right. -/
def findAll (p : Pattern) (text : String) : List Match :=
  p.findAllFrom (text.toList.length + 2) (.start text.toList) []

end Pattern

end Switchboard
