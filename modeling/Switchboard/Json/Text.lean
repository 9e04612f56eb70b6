import Switchboard.Json.Basic
import Switchboard.Text.Digit
/-!
# The text of a value

Two written forms of a value: the compact one without any blank
(`Json.render`), and the one laid out over lines (`Json.layOut`). They differ
in blanks between tokens only. In a string the quote and the backslash are
escaped, control characters are escaped by letter where they have one and by
number otherwise, and every other character stands for itself.
-/

namespace Switchboard

namespace Json

/-! ## Strings -/

/-- The written form of one character of a string. -/
def escapeChar (c : Char) : List Char :=
  if c = '"' then ['\\', '"']
  else if c = '\\' then ['\\', '\\']
  else if c = '\n' then ['\\', 'n']
  else if c = '\r' then ['\\', 'r']
  else if c = '\t' then ['\\', 't']
  else if c = '\x08' then ['\\', 'b']
  else if c = '\x0c' then ['\\', 'f']
  else if c.toNat < 0x20 then
    ['\\', 'u', '0', '0', Text.hexDigit (c.toNat / 16), Text.hexDigit (c.toNat % 16)]
  else [c]

/-- The written form of a string without its quotes. -/
def escape (s : String) : List Char := s.toList.flatMap escapeChar

/-- The written form of a string. -/
def quote (s : String) : List Char := '"' :: (escape s ++ ['"'])

/-! ## Compact form -/

mutual

/-- The compact form of a value. -/
def render : Json → List Char
  | .null => ['n', 'u', 'l', 'l']
  | .bool true => ['t', 'r', 'u', 'e']
  | .bool false => ['f', 'a', 'l', 's', 'e']
  | .number n => n.text.toList
  | .string s => quote s
  | .array items => '[' :: (renderItems items ++ [']'])
  | .object fields => '{' :: (renderFields fields ++ ['}'])

/-- The items of an array, a comma between two of them. -/
def renderItems : List Json → List Char
  | [] => []
  | [x] => render x
  | x :: y :: rest => render x ++ ',' :: renderItems (y :: rest)

/-- The fields of an object, a comma between two of them. -/
def renderFields : List (String × Json) → List Char
  | [] => []
  | [(n, x)] => quote n ++ ':' :: render x
  | (n, x) :: f :: rest => quote n ++ ':' :: (render x ++ ',' :: renderFields (f :: rest))

end

/-- The compact text of a value. -/
def text (v : Json) : String := String.ofList (render v)

/-! ## Form over lines -/

/-- A new line at the given depth, two blanks for each level. -/
def newLine (depth : Nat) : List Char := '\n' :: List.replicate (2 * depth) ' '

mutual

/-- The form over lines of a value that stands at the given depth. An array or
object that is not empty has its parts on lines of their own, one level deeper. -/
def layOut (depth : Nat) : Json → List Char
  | .array [] => ['[', ']']
  | .array (x :: rest) =>
    '[' :: (newLine (depth + 1) ++ layOut (depth + 1) x ++ layOutItems (depth + 1) rest
      ++ newLine depth ++ [']'])
  | .object [] => ['{', '}']
  | .object ((n, x) :: rest) =>
    '{' :: (newLine (depth + 1) ++ quote n ++ ':' :: ' ' :: layOut (depth + 1) x
      ++ layOutFields (depth + 1) rest ++ newLine depth ++ ['}'])
  | v => render v

/-- The items after the first one. -/
def layOutItems (depth : Nat) : List Json → List Char
  | [] => []
  | x :: rest => ',' :: (newLine depth ++ layOut depth x ++ layOutItems depth rest)

/-- The fields after the first one. -/
def layOutFields (depth : Nat) : List (String × Json) → List Char
  | [] => []
  | (n, x) :: rest =>
    ',' :: (newLine depth ++ quote n ++ ':' :: ' ' :: layOut depth x
      ++ layOutFields depth rest)

end

/-- The text of a value over lines. -/
def prettyText (v : Json) : String := String.ofList (layOut 0 v)

end Json

end Switchboard
