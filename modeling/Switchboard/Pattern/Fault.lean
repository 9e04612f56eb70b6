import Switchboard.Pattern.Span
/-!
# Why a pattern is refused

A fault is a cause and the span that shows it, sometimes with another span that it
clashes with. It is told by writing the pattern out with marks below the spans.
-/

namespace Switchboard

namespace Pattern

/-! ## Causes -/

/-- What can be wrong with a pattern. The first group is about how it is written, the
second about what it means. -/
inductive Cause where
  | classEscapeInvalid
  | classRangeInvalid
  | classRangeLiteral
  | classUnclosed
  | decimalInvalid
  | escapeEnds
  | escapeHexEmpty
  | escapeHexInvalid
  | escapeHexInvalidDigit
  | escapeUnrecognized
  | flagDanglingNegation
  | flagDuplicate
  | flagRepeatedNegation
  | flagsEnd
  | flagUnrecognized
  | groupNameDuplicate
  | groupNameEmpty
  | groupNameInvalid
  | groupNameUnclosed
  | groupUnclosed
  | groupUnopened
  | nestedTooDeep (limit : Nat)
  | repetitionCountInvalid
  | repetitionCountEmpty
  | repetitionCountUnclosed
  | repetitionMissing
  | wordBoundaryUnclosed
  | wordBoundaryUnrecognized
  | wordBoundaryOrRepetitionEnds
  | propertyInvalid
  | backreference
  | lookAround
  | unicodeNotAllowed
  | invalidUtf8
  | propertyNotFound
  | propertyValueNotFound

/-- The words for a cause. -/
def Cause.describe : Cause → String
  | .classEscapeInvalid => "invalid escape sequence found in character class"
  | .classRangeInvalid => "invalid character class range, the start must be <= the end"
  | .classRangeLiteral => "invalid range boundary, must be a literal"
  | .classUnclosed => "unclosed character class"
  | .decimalInvalid => "decimal literal invalid"
  | .escapeEnds => "incomplete escape sequence, reached end of pattern prematurely"
  | .escapeHexEmpty => "hexadecimal literal empty"
  | .escapeHexInvalid => "hexadecimal literal is not a Unicode scalar value"
  | .escapeHexInvalidDigit => "invalid hexadecimal digit"
  | .escapeUnrecognized => "unrecognized escape sequence"
  | .flagDanglingNegation => "dangling flag negation operator"
  | .flagDuplicate => "duplicate flag"
  | .flagRepeatedNegation => "flag negation operator repeated"
  | .flagsEnd => "expected flag but got end of regex"
  | .flagUnrecognized => "unrecognized flag"
  | .groupNameDuplicate => "duplicate capture group name"
  | .groupNameEmpty => "empty capture group name"
  | .groupNameInvalid => "invalid capture group character"
  | .groupNameUnclosed => "unclosed capture group name"
  | .groupUnclosed => "unclosed group"
  | .groupUnopened => "unopened group"
  | .nestedTooDeep limit =>
    "exceed the maximum number of nested parentheses/brackets (" ++ toString limit ++ ")"
  | .repetitionCountInvalid => "invalid repetition count range, the start must be <= the end"
  | .repetitionCountEmpty => "repetition quantifier expects a valid decimal"
  | .repetitionCountUnclosed => "unclosed counted repetition"
  | .repetitionMissing => "repetition operator missing expression"
  | .wordBoundaryUnclosed =>
    "special word boundary assertion is either unclosed or contains an invalid character"
  | .wordBoundaryUnrecognized =>
    "unrecognized special word boundary assertion, valid choices are: start, end, start-half or end-half"
  | .wordBoundaryOrRepetitionEnds =>
    "found either the beginning of a special word boundary or a bounded repetition on a \\b with an opening brace, but no closing brace"
  | .propertyInvalid => "invalid Unicode character class"
  | .backreference => "backreferences are not supported"
  | .lookAround => "look-around, including look-ahead and look-behind, is not supported"
  | .unicodeNotAllowed => "Unicode not allowed here"
  | .invalidUtf8 => "pattern can match invalid UTF-8"
  | .propertyNotFound => "Unicode property not found"
  | .propertyValueNotFound => "Unicode property value not found"

/-- A cause, where it shows, and where that clashes with. -/
structure Fault where
  cause : Cause
  span : Span
  other : Option Span

/-! ## Telling a fault -/

/-- The runs of characters between line breaks. -/
def betweenBreaks (cs : List Char) : List (List Char) :=
  cs.foldr (fun c runs => if c = '\n' then [] :: runs else (c :: runs.headD []) :: runs.tail) [[]]

/-- A line without the carriage return that ends it. -/
def withoutReturn (line : List Char) : List Char :=
  if line.getLast? = some '\r' then line.dropLast else line

/-- The lines of a text. Behind the last line break there is a line only if there are
characters. -/
def textLines (cs : List Char) : List (List Char) :=
  let runs := betweenBreaks cs
  let last := runs.getLastD []
  runs.dropLast.map withoutReturn ++ (if last.isEmpty then [] else [last])

/-- Marks for spans on one line, of which `column` columns are written. A span without
characters has one mark. -/
def marks (column : Nat) : List Span → List Char
  | [] => []
  | s :: rest =>
    let gap := s.start.column - 1 - column
    let width := max 1 (s.stop.column - s.start.column)
    List.replicate gap ' ' ++ List.replicate width '^' ++ marks (column + gap + width) rest

/-- Spaces in front of some characters that make them as wide as asked for. -/
def padLeft (width : Nat) (cs : List Char) : List Char :=
  List.replicate (width - cs.length) ' ' ++ cs

/-- What stands in front of a line: its number, or an indentation where there is but
one line. -/
def margin (numberWidth line : Nat) : List Char :=
  if numberWidth = 0 then List.replicate 4 ' '
  else padLeft numberWidth (toString line).toList ++ [':', ' ']

/-- A numbered line, and below it the marks for the spans on it. -/
def annotate (numberWidth : Nat) (spans : List Span) (line : List Char) (number : Nat) :
    List Char :=
  let front := margin numberWidth number
  let here := spans.filter (·.start.line = number)
  front ++ line ++ '\n' ::
    (if here.isEmpty then []
     else List.replicate front.length ' ' ++ marks 0 here ++ ['\n'])

/-- The words for a span over several lines. -/
def acrossLines (s : Span) : String :=
  "on line " ++ toString s.start.line ++ " (column " ++ toString s.start.column
    ++ ") through line " ++ toString s.stop.line ++ " (column " ++ toString (s.stop.column - 1)
    ++ ")"

/-- The line that sets off a pattern of several lines. -/
def divider : String := String.ofList (List.replicate 79 '~')

/-- The spans that show a fault, in order. -/
def Fault.spans (f : Fault) : List Span :=
  match f.other with
  | none => [f.span]
  | some t => if f.span.precedes t then [f.span, t] else [t, f.span]

/-- **Telling a fault.** The pattern line by line with marks below the spans that show
the fault, and the words for its cause. -/
def Fault.message (pattern : String) (f : Fault) : String :=
  let cs := pattern.toList
  let count := (betweenBreaks cs).length
  let numberWidth := if count ≤ 1 then 0 else (toString count).length
  let (single, several) := f.spans.partition Span.onOneLine
  let lines := textLines cs
  let annotated := String.ofList
    ((lines.zipIdx 1).flatMap fun (line, number) => annotate numberWidth single line number)
  let notes := if several.isEmpty then "" else
    String.intercalate "\n" (several.map acrossLines) ++ "\n"
  let body := if count ≤ 1 then annotated
    else divider ++ "\n" ++ annotated ++ divider ++ "\n" ++ notes
  "regex parse error:\n" ++ body ++ "error: " ++ f.cause.describe

end Pattern

end Switchboard
