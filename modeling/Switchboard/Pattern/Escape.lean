import Switchboard.Pattern.Input
import Switchboard.Pattern.Syntax
import Switchboard.Text.Digit
/-!
# Escapes

What a backslash makes of the characters behind it: characters by number, classes,
places, and signs that stand for themselves.
-/

namespace Switchboard

namespace Pattern

open Reading

/-! ## Characters by number -/

/-- The number with the next character as one more digit, which stays next. -/
def hexDigit (value : Nat) : Reading Nat := do
  match (← peek).bind Text.hexValue? with
  | some d => return value * 16 + d
  | none => refuse .escapeHexInvalidDigit (← nextSpan)

/-- The number with so many more digits. -/
def hexDigits : Nat → Nat → Reading Nat
  | 0, value => return value
  | n + 1, value => do
    if ← advanceOverBlanks then hexDigits n (← hexDigit value)
    else refuse .escapeEnds (← pointHere)

/-- The number with the digits up to a closing brace, and how many there are. -/
def hexDigitsInBraces : (fuel : Nat) → Nat × Nat → Reading (Nat × Nat)
  | 0, read => return read
  | fuel + 1, (value, count) => do
    if (← advanceOverBlanks) && (← peek) ≠ some '\x7d' then
      hexDigitsInBraces fuel (← hexDigit value, count + 1)
    else return (value, count)

/-- The character that a number stands for, which was written at a span. -/
def charOfNumber (value : Nat) (span : Span) : Reading Char :=
  if h : value.isValidChar then return Char.ofNatAux value h
  else refuse .escapeHexInvalid span

/-- Reads a number of so many digits, or one in braces. -/
def readHex (start : Place) (digits : Nat) : Reading Node := do
  if !(← advanceOverBlanks) then refuse .escapeEnds (← pointHere)
  let first ← here
  if (← peek) = some '\x7b' then
    let inside := (← nextSpan).stop
    let (value, count) ← hexDigitsInBraces (← get).rest.length (0, 0)
    if ← atEnd then refuse .escapeEnds (← spanFrom first)
    let last ← here
    let _ ← advanceOverBlanks
    if count = 0 then refuse .escapeHexEmpty (← spanFrom first)
    let c ← charOfNumber value ⟨inside, last⟩
    return .literal ⟨← spanFrom start, c, false⟩
  else
    let value ← hexDigits (digits - 1) (← hexDigit 0)
    let _ ← advanceOverBlanks
    let c ← charOfNumber value (← spanFrom first)
    return .literal ⟨← spanFrom start, c, digits = 2⟩

/-! ## Classes -/

/-- The characters up to a closing brace, of which blanks are no part in a spaced
pattern. -/
def untilBrace : (fuel : Nat) → List Char → Reading (List Char)
  | 0, read => return read.reverse
  | fuel + 1, read => do
    if ← advanceOverBlanks then
      match ← peek with
      | some '\x7d' => return read.reverse
      | some c => untilBrace fuel (c :: read)
      | none => return read.reverse
    else return read.reverse

/-- The parts of a text before and behind the first occurrence of a sign. -/
def cutAt? (sign : List Char) : List Char → Option (List Char × List Char)
  | [] => none
  | c :: cs =>
    if sign.isPrefixOf (c :: cs) then some ([], (c :: cs).drop sign.length)
    else (cutAt? sign cs).map fun (before, behind) => (c :: before, behind)

/-- What the text between braces asks for. -/
def Query.ofText (text : List Char) : Query :=
  match cutAt? ['!', '='] text <|> cutAt? [':'] text <|> cutAt? ['='] text with
  | some (property, value) => .valued property value
  | none => .named text

/-- Reads what a Unicode class asks for. -/
def readProperty (negated : Bool) : Reading Node := do
  if !(← advanceOverBlanks) then refuse .escapeEnds (← pointHere)
  match ← peek with
  | some '\x7b' =>
    let text ← untilBrace (← get).rest.length []
    if ← atEnd then refuse .escapeEnds (← pointHere)
    let _ ← advance
    return .property (← pointHere) negated (.ofText text)
  | some c =>
    if c = '\\' then refuse .propertyInvalid (← nextSpan)
    let _ ← advanceOverBlanks
    return .property (← pointHere) negated (.named [c])
  | none => refuse .escapeEnds (← pointHere)

/-- The classes with a letter of their own, small where they are not negated. -/
def Shorthand.lettered : List (Char × Bool × Shorthand) :=
  [('d', false, .digit), ('s', false, .space), ('w', false, .word),
   ('D', true, .digit), ('S', true, .space), ('W', true, .word)]

/-! ## Word boundaries -/

/-- The places about words that have a name. -/
def Anchor.inBraces : List (String × Anchor) :=
  [("start", .wordStart), ("end", .wordEnd), ("start-half", .wordStartHalf),
   ("end-half", .wordEndHalf)]

/-- Whether a character can be part of the name of a place. -/
def isAnchorChar (c : Char) : Bool := c.isAlpha || c = '-'

/-- The characters of a name that are next. -/
def anchorName : (fuel : Nat) → List Char → Reading (List Char)
  | 0, read => return read.reverse
  | fuel + 1, read => do
    match ← peek with
    | some c =>
      if isAnchorChar c then
        let _ ← advanceOverBlanks
        anchorName fuel (c :: read)
      else return read.reverse
    | none => return read.reverse

/-- Reads the name in braces of a place about words, which follows a word boundary that
starts at a place. If no name follows, the brace is left for a repetition. -/
def readAnchorName? (start : Place) : Reading (Option Anchor) := do
  let before ← get
  if !(← advanceOverBlanks) then refuse .wordBoundaryOrRepetitionEnds (← spanFrom start)
  let first ← here
  if !((← peek).any isAnchorChar) then
    set before
    return none
  let name ← anchorName (← get).rest.length []
  if (← peek) ≠ some '\x7d' then refuse .wordBoundaryUnclosed (← spanFrom before.place)
  let last ← here
  let _ ← advance
  match Anchor.inBraces.lookup (String.ofList name) with
  | some anchor => return some anchor
  | none => refuse .wordBoundaryUnrecognized ⟨first, last⟩

/-! ## Escapes -/

/-- Whether a character behind a backslash stands for itself: any sign of ASCII but
angle brackets. -/
def standsForItself (c : Char) : Bool :=
  c.toNat < 0x80 && !c.isAlphanum && c ≠ '<' && c ≠ '>'

/-- The letters that stand for control characters. -/
def controlLetters : List (Char × Char) :=
  [('a', '\x07'), ('f', '\x0c'), ('t', '\t'), ('n', '\n'), ('r', '\r'), ('v', '\x0b')]

/-- The letters and signs that stand for places. -/
def Anchor.lettered : List (Char × Anchor) :=
  [('A', .textStart), ('z', .textEnd), ('b', .wordBoundary), ('B', .noWordBoundary),
   ('<', .wordStart), ('>', .wordEnd)]

/-- A word boundary that starts at a place, or the place about words that it is the
beginning of. -/
def readBoundary (start : Place) : Reading Node := do
  let span ← spanFrom start
  if (← peek) = some '\x7b' then
    match ← readAnchorName? start with
    | some anchor => return .anchor (← spanFrom start) anchor
    | none => return .anchor span .wordBoundary
  else return .anchor span .wordBoundary

/-- What one character behind a backslash makes. -/
def simpleEscape (c : Char) (span : Span) : Reading Node :=
  if standsForItself c then return .literal ⟨span, c, false⟩
  else match controlLetters.lookup c, Anchor.lettered.lookup c with
    | some control, _ => return .literal ⟨span, control, false⟩
    | none, some anchor => return .anchor span anchor
    | none, none => refuse .escapeUnrecognized span

/-- **Escapes.** Reads a backslash and what belongs to it. -/
def readEscape : Reading Node := do
  let start ← here
  if !(← advance) then refuse .escapeEnds (← spanFrom start)
  match ← peek with
  | none => refuse .escapeEnds (← spanFrom start)
  | some c =>
    let whole : Span := ⟨start, (← nextSpan).stop⟩
    if c.isDigit then refuse .backreference whole
    else if c = 'x' then readHex start 2
    else if c = 'u' then readHex start 4
    else if c = 'U' then readHex start 8
    else if c = 'p' ∨ c = 'P' then
      match ← readProperty (c = 'P') with
      | .property span negated query => return .property ⟨start, span.stop⟩ negated query
      | other => return other
    else
      let _ ← advance
      match Shorthand.lettered.lookup c with
      | some (negated, kind) => return .shorthand whole negated kind
      | none => if c = 'b' then readBoundary start else simpleEscape c whole

end Pattern

end Switchboard
