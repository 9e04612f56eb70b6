import Switchboard.Json.Fault
/-!
# Reading a value

The reader of JSON text (`Json.parse`). It takes blanks between tokens, refuses
nesting of 128 levels and more, and keeps the last of several fields with one
name.

Whole numbers that fit 64 bits are kept exactly. Any other number is a
binary64 one: its leading digits, as many as 64 bits hold, are rounded, then
multiplied or divided by the rounded power of ten.
-/

namespace Switchboard

namespace Json

/-! ## Blanks and words -/

/-- The blanks allowed between tokens. -/
def isBlank (c : Char) : Bool := c = ' ' || c = '\n' || c = '\t' || c = '\r'

/-- The source from its first character on that is not blank. -/
def skipBlanks (s : Source) : Source := s.dropWhile (·.any isBlank)

/-- Reads the given letters, which end the word `null`, `true` or `false`. -/
def readWord : List Char → Source → Except Failure Source
  | [], s => .ok s
  | _ :: _, [] => failAt .endInValue []
  | c :: cs, x :: s => if x = some c then readWord cs s else failPast .expectedWord (x :: s)

/-! ## Strings -/

/-- The value of four hexadecimal digits. -/
def hexValues? (a b c d : Char) : Option Nat := do
  let high := (← Text.hexValue? a) * 16 + (← Text.hexValue? b)
  let low := (← Text.hexValue? c) * 16 + (← Text.hexValue? d)
  return high * 256 + low

/-- Reads the four digits of a numeric escape. -/
def readHex (s : Source) : Except Failure (Nat × Source) :=
  let refused : Except Failure (Nat × Source) :=
    if Source.width s < 4 then failAt .endInString []
    else .error ⟨.invalidEscape, s, 4⟩
  match s with
  | some a :: some b :: some c :: some d :: rest =>
    match hexValues? a b c d with
    | some n => .ok (n, rest)
    | none => refused
  | _ => refused

/-- Reads the character of a numeric escape, from behind its `u`. A character
outside the basic plane is written as two escapes, its surrogates. -/
def readCodePoint (s : Source) : Except Failure (Char × Source) := do
  let (n, rest) ← readHex s
  if 0xDC00 ≤ n ∧ n ≤ 0xDFFF then failAt .loneSurrogate rest
  else if n < 0xD800 ∨ 0xDBFF < n then return (Char.ofNat n, rest)
  else match rest with
    | [] => failAt .endInString []
    | some '\\' :: [] => failAt .endInString []
    | some '\\' :: some 'u' :: rest =>
      let (m, rest) ← readHex rest
      if m < 0xDC00 ∨ 0xDFFF < m then failAt .loneSurrogate rest
      else return (Char.ofNat ((n - 0xD800) * 0x400 + (m - 0xDC00) + 0x10000), rest)
    | some '\\' :: rest => failPast .unpairedSurrogate rest
    | rest => failPast .unpairedSurrogate rest

/-- Reads an escape, from behind its backslash. -/
def readEscape : Source → Except Failure (Char × Source)
  | [] => failAt .endInString []
  | some '"' :: s => .ok ('"', s)
  | some '\\' :: s => .ok ('\\', s)
  | some '/' :: s => .ok ('/', s)
  | some 'b' :: s => .ok ('\x08', s)
  | some 'f' :: s => .ok ('\x0c', s)
  | some 'n' :: s => .ok ('\n', s)
  | some 'r' :: s => .ok ('\r', s)
  | some 't' :: s => .ok ('\t', s)
  | some 'u' :: s => readCodePoint s
  | s => failPast .invalidEscape s

/-- Reads the rest of a string, from behind its opening quote or any later
character. `read` holds the characters so far, last one first, and `broken`
the source from the first byte on that was no part of a character. -/
def readString : Nat → List Char → Option Source → Source → Except Failure (String × Source)
  | 0, _, _, s => failAt .endInString s
  | _ + 1, _, _, [] => failAt .endInString []
  | _ + 1, read, broken, some '"' :: s =>
    match broken with
    | some t => failPast .notUnicode t
    | none => .ok (String.ofList read.reverse, s)
  | fuel + 1, read, broken, some '\\' :: s => do
    let (c, s) ← readEscape s
    readString fuel (c :: read) broken s
  | fuel + 1, read, broken, some c :: s =>
    if c.toNat < 0x20 then failPast .controlCharacter (some c :: s)
    else readString fuel (c :: read) broken s
  | fuel + 1, read, broken, none :: s => readString fuel read (broken <|> some (none :: s)) s

/-- Reads a string from behind its opening quote. -/
def readStringBody (s : Source) : Except Failure (String × Source) :=
  readString (s.length + 1) [] none s

/-! ## Numbers -/

/-- The digit that stands next. -/
def digit? : Source → Option Nat
  | some c :: _ => if c.isDigit then some (c.toNat - '0'.toNat) else none
  | _ => none

/-- How many digits stand next. -/
def digitRun (s : Source) : Nat := (s.takeWhile (·.any Char.isDigit)).length

/-- The source behind the digits that stand next. -/
def skipDigits (s : Source) : Source := s.dropWhile (·.any Char.isDigit)

/-- Takes digits into `n` while the result is below `2^64`: the result, how
many were taken, and what is left. -/
def takeDigits (n taken : Nat) : Source → Nat × Nat × Source
  | some c :: s =>
    if c.isDigit ∧ n * 10 + (c.toNat - '0'.toNat) < 2 ^ 64 then
      takeDigits (n * 10 + (c.toNat - '0'.toNat)) (taken + 1) s
    else (n, taken, some c :: s)
  | s => (n, taken, s)

/-- The power of ten rounded to binary64. -/
def powerOfTen (k : Nat) : Binary64 := .ofDecimal false 1 k

/-- Scales `x` by `10^k`, in steps of at most `10^308`. -/
def scaleByTen (x : Binary64) (k : Int) : Nat → Binary64
  | 0 => x
  | steps + 1 =>
    if k.natAbs ≤ 308 then
      if 0 ≤ k then x.mul (powerOfTen k.natAbs) else x.div (powerOfTen k.natAbs)
    else if x.beq (.ofInt 0) then x
    else if 0 ≤ k then .infinite false
    else scaleByTen (x.div (powerOfTen 308)) (k + 308) steps

/-- The number `±n * 10^k`, with what is left to read behind it. -/
def scaled (negative : Bool) (n : Nat) (k : Int) (rest : Source) : Except Failure (Number × Source) :=
  match scaleByTen (.ofInt n) k 5 with
  | .finite x => .ok (.float (if negative then x.neg else x), rest)
  | _ => failAt .numberOutOfRange rest

/-- Takes the digits of an exponent into `e` while it is below `2^31`; a `none`
says that it grew past that, with what was left then. -/
def takeExponent (e : Nat) : Source → Option Nat × Source
  | some c :: s =>
    if c.isDigit then
      if e * 10 + (c.toNat - '0'.toNat) < 2 ^ 31 then
        takeExponent (e * 10 + (c.toNat - '0'.toNat)) s
      else (none, s)
    else (some e, some c :: s)
  | s => (some e, s)

/-- Reads the exponent, from behind its letter, of a number whose digits so far
are `n * 10^k`. -/
def readExponent (negative : Bool) (n : Nat) (k : Int) (s : Source) : Except Failure (Number × Source) :=
  let (below, s) : Bool × Source := match s with
    | some '+' :: r => (false, r)
    | some '-' :: r => (true, r)
    | r => (false, r)
  match s with
  | [] => failAt .endInValue []
  | x :: _ =>
    if !x.any Char.isDigit then failPast .invalidNumber s
    else match takeExponent 0 s with
      | (some e, rest) => scaled negative n (if below then k - e else k + e) rest
      | (none, rest) =>
        -- With so large an exponent the number is zero, or past the range.
        if n ≠ 0 ∧ !below then failAt .numberOutOfRange rest
        else .ok (.float (.zero negative), skipDigits rest)

/-- Reads what may follow a number's digits `n * 10^k`: an exponent. -/
def readScale (negative : Bool) (n : Nat) (k : Int) : Source → Except Failure (Number × Source)
  | some 'e' :: s => readExponent negative n k s
  | some 'E' :: s => readExponent negative n k s
  | s => scaled negative n k s

/-- Reads the digits behind a point. Those that no longer fit are dropped. -/
def readFraction (negative : Bool) (n : Nat) (k : Int) (s : Source) : Except Failure (Number × Source) :=
  if digitRun s = 0 then
    if s = [] then failAt .endInValue [] else failPast .invalidNumber s
  else
    let (n, taken, s) := takeDigits n 0 s
    readScale negative n (k - taken) (skipDigits s)

/-- Reads what follows the whole digits `n * 10^k` of a binary64 number. -/
def readFloat (negative : Bool) (n : Nat) (k : Int) : Source → Except Failure (Number × Source)
  | some '.' :: s => readFraction negative n k s
  | s => readScale negative n k s

/-- A number without point and exponent: whole if it fits, and a negative zero
is a binary64 number. -/
def wholeNumber (negative : Bool) (n : Nat) (rest : Source) : Except Failure (Number × Source) :=
  if negative ∧ n = 0 then .ok (.float (.zero true), rest)
  else if h : FitsWord (if negative then -(n : Int) else n) then .ok (.whole _ h, rest)
  else scaled negative n 0 rest

/-- Reads what follows the whole digits of a number. -/
def readNumberRest (negative : Bool) (n : Nat) (s : Source) : Except Failure (Number × Source) :=
  if digitRun s ≠ 0 then readFloat negative n (digitRun s) (skipDigits s)
  else match s with
    | some '.' :: _ => readFloat negative n 0 s
    | some 'e' :: _ => readFloat negative n 0 s
    | some 'E' :: _ => readFloat negative n 0 s
    | _ => wholeNumber negative n s

/-- Reads a number from behind its sign. A zero that leads stands alone. -/
def readNumber (negative : Bool) : Source → Except Failure (Number × Source)
  | [] => failAt .endInValue []
  | some '0' :: s =>
    if digitRun s ≠ 0 then failPast .invalidNumber s else readNumberRest negative 0 s
  | s =>
    if digitRun s = 0 then failPast .invalidNumber s
    else
      let (n, _, rest) := takeDigits 0 0 s
      readNumberRest negative n rest

/-! ## Values -/

/-- How deep values may nest. -/
def nestingLimit : Nat := 128

/-- Reads the colon between a field's name and its value. -/
def readColon (s : Source) : Except Failure Source :=
  match skipBlanks s with
  | [] => failPast .endInObject []
  | some ':' :: s => .ok s
  | s => failPast .expectedColon s

/-- Where the items of an array stand: `none` behind the last one, otherwise
the source from the next item on. -/
def nextItem (first : Bool) (s : Source) : Except Failure (Option Source) :=
  match skipBlanks s with
  | [] => failPast .endInArray []
  | some ']' :: _ => .ok none
  | some ',' :: s' =>
    if first then .ok (some (some ',' :: s'))
    else match skipBlanks s' with
      | [] => failPast .endInValue []
      | some ']' :: r => failPast .trailingComma (some ']' :: r)
      | r => .ok (some r)
  | s' => if first then .ok (some s') else failPast .expectedCommaOrBracket s'

/-- Where the fields of an object stand: `none` behind the last one, otherwise
the source from behind the opening quote of the next name. -/
def nextField (first : Bool) (s : Source) : Except Failure (Option Source) :=
  match skipBlanks s with
  | [] => failPast .endInObject []
  | some '}' :: _ => .ok none
  | s' =>
    if first then match s' with
      | some '"' :: r => .ok (some r)
      | r => failPast .keyNotString r
    else match s' with
      | some ',' :: r => match skipBlanks r with
        | [] => failPast .endInValue []
        | some '"' :: r => .ok (some r)
        | some '}' :: r => failPast .trailingComma (some '}' :: r)
        | r => failPast .keyNotString r
      | r => failPast .expectedCommaOrBrace r

mutual

/-- Reads a value; `depth` levels of nesting are left. -/
def readValue : Nat → Nat → Source → Except Failure (Json × Source)
  | 0, _, s => failPast .nestedTooDeep s
  | fuel + 1, depth, s =>
    match skipBlanks s with
    | [] => failPast .endInValue []
    | some 'n' :: s => do return (.null, ← readWord ['u', 'l', 'l'] s)
    | some 't' :: s => do return (.bool true, ← readWord ['r', 'u', 'e'] s)
    | some 'f' :: s => do return (.bool false, ← readWord ['a', 'l', 's', 'e'] s)
    | some '-' :: s => do
      let (n, s) ← readNumber true s
      return (.number n, s)
    | some '"' :: s => do
      let (t, s) ← readStringBody s
      return (.string t, s)
    | some '[' :: s =>
      if depth ≤ 1 then failPast .nestedTooDeep (some '[' :: s)
      else do
        let (items, s) ← readItems fuel (depth - 1) true s
        return (.array items, s)
    | some '{' :: s =>
      if depth ≤ 1 then failPast .nestedTooDeep (some '{' :: s)
      else do
        let (fields, s) ← readFields fuel (depth - 1) true [] s
        return (.object fields, s)
    | s =>
      if (digit? s).isSome then do
        let (n, s) ← readNumber false s
        return (.number n, s)
      else failPast .expectedValue s

/-- Reads the items left of an array, with its closing bracket. -/
def readItems : Nat → Nat → Bool → Source → Except Failure (List Json × Source)
  | 0, _, _, s => failPast .nestedTooDeep s
  | fuel + 1, depth, first, s => do
    match ← nextItem first s with
    | none => return ([], (skipBlanks s).drop 1)
    | some s =>
      let (x, s) ← readValue fuel depth s
      let (xs, s) ← readItems fuel depth false s
      return (x :: xs, s)

/-- Reads the fields left of an object, with its closing brace, into those read
before. -/
def readFields : Nat → Nat → Bool → Fields → Source → Except Failure (Fields × Source)
  | 0, _, _, _, s => failPast .nestedTooDeep s
  | fuel + 1, depth, first, fields, s => do
    match ← nextField first s with
    | none => return (fields, (skipBlanks s).drop 1)
    | some s =>
      let (name, s) ← readStringBody s
      let s ← readColon s
      let (x, s) ← readValue fuel depth s
      readFields fuel depth false (insertField name x fields) s

end

/-! ## Whole texts -/

/-- Enough fuel to read a value from a source: no call is made without a
character since the last but one. -/
def enoughFuel (s : Source) : Nat := 2 * s.length + 2

/-- Reads a whole text with a reader for its only value; blanks may follow. -/
def parseWith {α : Type} (read : Nat → Nat → Source → Except Failure (α × Source)) (s : Source) :
    Except Failure α := do
  let (x, rest) ← read (enoughFuel s) nestingLimit s
  match skipBlanks rest with
  | [] => return x
  | rest => failPast .trailingCharacters rest

/-- The value of a whole text, or the message that says why there is none. -/
def parseSource (s : Source) : Except String Json :=
  (parseWith readValue s).mapError (Failure.message s)

/-- The value of a whole text, or the message that says why there is none. -/
def parse (text : String) : Except String Json := parseSource (.ofString text)

end Json

end Switchboard
