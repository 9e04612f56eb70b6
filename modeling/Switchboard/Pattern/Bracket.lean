import Switchboard.Pattern.Escape
/-!
# Classes in brackets

Brackets hold characters, ranges, named classes and further brackets, put together
from left to right by signs for intersection, difference and symmetric difference.
The reader keeps a level for each bracket that is open.
-/

namespace Switchboard

namespace Pattern

open Reading

/-! ## Items -/

/-- The item that a part of a pattern is within brackets. -/
def itemOf : Node → Reading ClassItem
  | .literal l => return .literal l
  | .property span negated query => return .property span negated query
  | .shorthand span negated kind => return .shorthand span negated kind
  | other => refuse .classEscapeInvalid other.span

/-- The end of a range that a part of a pattern is. -/
def rangeEndOf : Node → Reading Literal
  | .literal l => return l
  | other => refuse .classRangeLiteral other.span

/-- Reads the next character, or what a backslash makes of it. -/
def readCharacter : Reading Node := do
  match ← peek with
  | some '\\' => readEscape
  | some c =>
    let span ← nextSpan
    let _ ← advance
    return .literal ⟨span, c, false⟩
  | none => return .nothing (← pointHere)

/-- Reads an item, or a range of which it is the first end. A minus sign in front of the
closing bracket or of another minus sign makes no range. `unclosed` is the span to show
if the pattern ends here. -/
def readItem (unclosed : Span) : Reading ClassItem := do
  let first ← readCharacter
  skipBlanks
  if ← atEnd then refuse .classUnclosed unclosed
  let ahead ← peekOverBlanks
  if (← peek) ≠ some '-' ∨ ahead = some ']' ∨ ahead = some '-' then itemOf first
  else
    if !(← advanceOverBlanks) then refuse .classUnclosed unclosed
    let last ← readCharacter
    let span : Span := ⟨first.span.start, last.span.stop⟩
    let low ← rangeEndOf first
    let high ← rangeEndOf last
    if high.char < low.char then refuse .classRangeInvalid span
    return .range span low high

/-- Reads the name in colons of a class of ASCII. If there is none, nothing is read. -/
def readAsciiClass? : Reading (Option ClassItem) := do
  let before ← get
  if !(← accept ['[', ':']) then return none
  let negated ← accept ['^']
  let name := (← get).rest.takeWhile (· ≠ ':')
  let _ ← accept name
  if ← accept [':', ']'] then
    match AsciiClass.named.lookup (String.ofList name) with
    | some kind => return some (.ascii (← spanFrom before.place) negated kind)
    | none => set before
  else set before
  return none

/-! ## Levels -/

/-- A bracket that is open: the span of its opening, what has been read of it before
the last sign, with that sign, and the items since then, the last one first. -/
structure ClassLevel where
  opening : Span
  negated : Bool
  pending : Option (SetOperation × ClassItem)
  origin : Place
  items : List ClassItem

namespace ClassLevel

/-- The level with one more item. -/
def add (level : ClassLevel) (item : ClassItem) : ClassLevel :=
  { level with items := item :: level.items }

/-- The items since the last sign, as one. -/
def group (level : ClassLevel) : ClassItem :=
  match level.items with
  | [] => .nothing (.point level.origin)
  | [item] => item
  | last :: _ =>
    let items := level.items.reverse
    .union ⟨(items.head?.map (·.span.start)).getD level.origin, last.span.stop⟩ items

/-- All that has been read, as one item. -/
def whole (level : ClassLevel) : ClassItem :=
  let right := level.group
  match level.pending with
  | none => right
  | some (operation, left) => .combined ⟨left.span.start, right.span.stop⟩ operation left right

/-- The level behind a sign that ends at a place. -/
def combine (level : ClassLevel) (operation : SetOperation) (origin : Place) : ClassLevel :=
  { level with pending := some (operation, level.whole), origin := origin, items := [] }

/-- The bracket that the level makes when it is closed. -/
def close (level : ClassLevel) (stop : Place) : ClassItem :=
  .bracketed ⟨level.opening.start, stop⟩ level.negated level.whole

end ClassLevel

/-- The minus signs that stand in front in a bracket opened at a place. -/
def readLeadingSigns (start : Place) : (fuel : Nat) → List ClassItem → Reading (List ClassItem)
  | 0, items => return items
  | fuel + 1, items => do
    if (← peek) = some '-' then
      let span ← nextSpan
      if ← advanceOverBlanks then
        readLeadingSigns start fuel (.literal ⟨span, '-', false⟩ :: items)
      else refuse .classUnclosed (.point start)
    else return items

/-- Reads the opening of a bracket, with the signs that are characters for standing in
front. -/
def openBracket : Reading ClassLevel := do
  let start ← here
  if !(← advanceOverBlanks) then refuse .classUnclosed (← spanFrom start)
  let negated := (← peek) = some '^'
  if negated then
    if !(← advanceOverBlanks) then refuse .classUnclosed (← spanFrom start)
  let origin ← here
  let signs ← readLeadingSigns start (← get).rest.length []
  let mut items := signs
  -- A closing bracket that stands first is a character: no class is empty.
  if signs.isEmpty && (← peek) = some ']' then
    items := [.literal ⟨← nextSpan, ']', false⟩]
    if !(← advanceOverBlanks) then refuse .classUnclosed (← spanFrom start)
  return ⟨← spanFrom start, negated, none, origin, items⟩

/-- The sign for an operation that is next, with what it asks for. -/
def setOperation? : Reading (Option (List Char × SetOperation)) := do
  match ← peek, ← peekSecond with
  | some '&', some '&' => return some (['&', '&'], .intersection)
  | some '-', some '-' => return some (['-', '-'], .difference)
  | some '~', some '~' => return some (['~', '~'], .symmetricDifference)
  | _, _ => return none

/-- Reads on within an open bracket, which stands within others, the innermost first. -/
def readBracketFrom : (fuel : Nat) → ClassLevel → List ClassLevel → Reading Node
  | 0, level, _ => refuse .classUnclosed level.opening
  | fuel + 1, level, outer => do
    skipBlanks
    match ← peek, ← setOperation? with
    | none, _ => refuse .classUnclosed level.opening
    | some '[', _ =>
      match ← readAsciiClass? with
      | some item => readBracketFrom fuel (level.add item) outer
      | none => readBracketFrom fuel (← openBracket) (level :: outer)
    | some ']', _ =>
      let _ ← advance
      let stop ← here
      match outer with
      | [] => return .bracketed ⟨level.opening.start, stop⟩ level.negated level.whole
      | parent :: rest => readBracketFrom fuel (parent.add (level.close stop)) rest
    | some _, some (sign, operation) =>
      let _ ← accept sign
      readBracketFrom fuel (level.combine operation (← here)) outer
    | some _, none =>
      let item ← readItem level.opening
      readBracketFrom fuel (level.add item) outer

/-- **Brackets.** Reads a class in brackets, of which the opening bracket is next. -/
def readBracket : Reading Node := do
  let fuel := (← get).rest.length
  readBracketFrom fuel (← openBracket) []

end Pattern

end Switchboard
