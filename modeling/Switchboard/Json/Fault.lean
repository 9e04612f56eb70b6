import Switchboard.Json.Text
import Switchboard.Unicode.Property
/-!
# Where and why a document is refused

A document's text is read as a `Source`: its characters, with a mark for every
byte that belongs to no character. A `Failure` is a cause together with the
place it was noticed at, which the outermost reader turns into a line and a
column. Columns count bytes from the last line break.
-/

namespace Switchboard

namespace Json

/-! ## Source text -/

/-- The text of a document as it is read; `none` is a byte that is part of no
character. -/
abbrev Source := List (Option Char)

/-- The source of a well-formed text. -/
def Source.ofString (s : String) : Source := s.toList.map some

/-- How many bytes a piece of the source takes up. -/
def Source.width (s : Source) : Nat :=
  s.foldl (fun n c => n + (c.map Char.utf8Size).getD 1) 0

/-- For each byte of the source, whether it is a line break. -/
def Source.breaks (s : Source) : List Bool :=
  s.flatMap fun c => match c with
    | none => [false]
    | some c => List.replicate c.utf8Size (c = '\n')

/-! ## Causes -/

/-- What a typed reader found in place of what it expected. -/
inductive Found where
  | null
  | bool (b : Bool)
  | number (n : Number)
  | string (s : String)
  | array
  | object

/-- Why a document is refused. The first group are violations of the grammar,
the second of the shape that the reader expects. -/
inductive Fault where
  | endInArray
  | endInObject
  | endInString
  | endInValue
  | expectedColon
  | expectedCommaOrBracket
  | expectedCommaOrBrace
  | expectedWord
  | expectedValue
  | invalidEscape
  | invalidNumber
  | numberOutOfRange
  | notUnicode
  | controlCharacter
  | keyNotString
  | loneSurrogate
  | trailingComma
  | trailingCharacters
  | unpairedSurrogate
  | nestedTooDeep
  | missingField (name : String)
  | duplicateField (name : String)
  | invalidType (found : Found) (expected : String)
  | invalidLength (length : Nat) (expected : String)
  | unknownVariant (name : String) (known : List String)

/-! ## Quoting for messages -/

/-- Whether messages show a character by its number: it does not show by itself, or it
would change the look of the one before. -/
def isShownByNumber (c : Char) : Bool :=
  !(0x20 ≤ c.toNat && c.toNat < 0x7f)
    && (Unicode.unprintable.contains c || Unicode.graphemeExtend.contains c)

/-- A string as messages show it: in quotes, with quotes, backslashes and what does not
show by itself escaped. -/
def quoteForMessage (s : String) : String :=
  let hexDigits (n : Nat) : List Char := Nat.toDigits 16 n
  let shown (c : Char) : List Char :=
    if c = '"' then ['\\', '"']
    else if c = '\\' then ['\\', '\\']
    else if c = '\n' then ['\\', 'n']
    else if c = '\r' then ['\\', 'r']
    else if c = '\t' then ['\\', 't']
    else if c = '\x00' then ['\\', '0']
    else if isShownByNumber c then ['\\', 'u', '\x7b'] ++ hexDigits c.toNat ++ ['\x7d']
    else [c]
  String.ofList ('"' :: (s.toList.flatMap shown ++ ['"']))

/-- The words for what was found. -/
def Found.describe : Found → String
  | .null => "null"
  | .bool b => "boolean `" ++ (if b then "true" else "false") ++ "`"
  | .number (.whole i h) => "integer `" ++ (Number.whole i h).text ++ "`"
  | .number (.float x) => "floating point `" ++ x.text ++ "`"
  | .string s => "string " ++ quoteForMessage s
  | .array => "sequence"
  | .object => "map"

/-- The names a reader accepts, as a message lists them. -/
def listVariants : List String → String
  | [] => "there are no variants"
  | [a] => "expected `" ++ a ++ "`"
  | [a, b] => "expected `" ++ a ++ "` or `" ++ b ++ "`"
  | names => "expected one of " ++ String.intercalate ", " (names.map fun n => "`" ++ n ++ "`")

/-- The words for a cause. -/
def Fault.describe : Fault → String
  | .endInArray => "EOF while parsing a list"
  | .endInObject => "EOF while parsing an object"
  | .endInString => "EOF while parsing a string"
  | .endInValue => "EOF while parsing a value"
  | .expectedColon => "expected `:`"
  | .expectedCommaOrBracket => "expected `,` or `]`"
  | .expectedCommaOrBrace => "expected `,` or `\x7d`"
  | .expectedWord => "expected ident"
  | .expectedValue => "expected value"
  | .invalidEscape => "invalid escape"
  | .invalidNumber => "invalid number"
  | .numberOutOfRange => "number out of range"
  | .notUnicode => "invalid unicode code point"
  | .controlCharacter => "control character (\\u0000-\\u001F) found while parsing a string"
  | .keyNotString => "key must be a string"
  | .loneSurrogate => "lone leading surrogate in hex escape"
  | .trailingComma => "trailing comma"
  | .trailingCharacters => "trailing characters"
  | .unpairedSurrogate => "unexpected end of hex escape"
  | .nestedTooDeep => "recursion limit exceeded"
  | .missingField name => "missing field `" ++ name ++ "`"
  | .duplicateField name => "duplicate field `" ++ name ++ "`"
  | .invalidType found expected => "invalid type: " ++ found.describe ++ ", expected " ++ expected
  | .invalidLength n expected => "invalid length " ++ toString n ++ ", expected " ++ expected
  | .unknownVariant name known => "unknown variant `" ++ name ++ "`, " ++ listVariants known

/-! ## Failures -/

/-- A cause, what was left to read when it was noticed, and how many bytes of
that had been looked at. -/
structure Failure where
  cause : Fault
  rest : Source
  ahead : Nat

/-- Line and column after the first bytes of a text, given its line breaks:
lines count from one, columns from zero. -/
def position (breaks : List Bool) : Nat × Nat :=
  breaks.foldl (fun (l, c) isBreak => if isBreak then (l + 1, 0) else (l, c + 1)) (1, 0)

/-- The message for a failure in reading the whole text `s`. -/
def Failure.message (s : Source) (f : Failure) : String :=
  let read := s.take (s.length - f.rest.length)
  let (line, column) := position (Source.breaks read ++ (Source.breaks f.rest).take f.ahead)
  f.cause.describe ++ " at line " ++ toString line ++ " column " ++ toString column

/-- Fails at the place reached. -/
def failAt {α : Type} (cause : Fault) (rest : Source) : Except Failure α :=
  .error ⟨cause, rest, 0⟩

/-- Fails just past the byte that stands next. -/
def failPast {α : Type} (cause : Fault) (rest : Source) : Except Failure α :=
  .error ⟨cause, rest, 1⟩

end Json

end Switchboard
