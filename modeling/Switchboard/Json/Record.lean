import Switchboard.Json.Reader
/-!
# Reading typed documents

Readers for text whose shape is known: strings, truth values, lists, optional
values, named alternatives and records. They read straight from the source, so
that a failure knows its place, and a reader is told how many levels of nesting
are left.

A record is written as an object or as an array of its fields in order
(`readRecord`). Fields of other names are skipped, a field given twice is
refused, and so is a required one that is not given.
-/

namespace Switchboard

namespace Json

/-- A reader of an `α`, given the levels of nesting that are left. -/
abbrev Reader (α : Type) := Nat → Source → Except Failure (α × Source)

/-! ## Skipping -/

/-- Skips the rest of a string whose content does not matter. -/
def skipString : Nat → Source → Except Failure Source
  | 0, s => failAt .endInString s
  | _ + 1, [] => failAt .endInString []
  | _ + 1, some '"' :: s => .ok s
  | fuel + 1, some '\\' :: s =>
    match s with
    | [] => failAt .endInString []
    | some 'u' :: r => do
      let (_, r) ← readHex r
      skipString fuel r
    | x :: r =>
      if x.any fun c => "\"\\/bfnrt".toList.contains c then skipString fuel r
      else failPast .invalidEscape (x :: r)
  | fuel + 1, some c :: s =>
    if c.toNat < 0x20 then failAt .controlCharacter (some c :: s) else skipString fuel s
  | fuel + 1, none :: s => skipString fuel s

/-- Skips an exponent, from behind its letter. -/
def skipExponent (s : Source) : Except Failure Source :=
  let s := match s with
    | some '+' :: r => r
    | some '-' :: r => r
    | r => r
  match s with
  | [] => failAt .invalidNumber []
  | x :: r => if x.any Char.isDigit then .ok (skipDigits r) else failPast .invalidNumber (x :: r)

/-- Skips what may follow the digits of a number. -/
def skipScale : Source → Except Failure Source
  | some 'e' :: s => skipExponent s
  | some 'E' :: s => skipExponent s
  | s => .ok s

/-- Skips what may follow the whole digits of a number. -/
def skipFraction : Source → Except Failure Source
  | some '.' :: s =>
    if digitRun s = 0 then failPast .invalidNumber s else skipScale (skipDigits s)
  | s => skipScale s

/-- Skips a number, from behind its sign. -/
def skipNumber : Source → Except Failure Source
  | [] => failAt .invalidNumber []
  | some '0' :: s => if digitRun s ≠ 0 then failPast .invalidNumber s else skipFraction s
  | s => if digitRun s = 0 then failPast .invalidNumber s else skipFraction (skipDigits s)

mutual

/-- Skips a value, which may nest as deep as it likes. -/
def skipValue : Nat → Source → Except Failure Source
  | 0, s => failPast .expectedValue s
  | fuel + 1, s =>
    match skipBlanks s with
    | [] => failPast .endInValue []
    | some 'n' :: s => readWord ['u', 'l', 'l'] s
    | some 't' :: s => readWord ['r', 'u', 'e'] s
    | some 'f' :: s => readWord ['a', 'l', 's', 'e'] s
    | some '-' :: s => skipNumber s
    | some '"' :: s => skipString (s.length + 1) s
    | some '[' :: s =>
      match skipBlanks s with
      | [] => failPast .endInArray []
      | some ']' :: s => .ok s
      | s => do skipItems fuel (← skipValue fuel s)
    | some '{' :: s =>
      match skipBlanks s with
      | [] => failPast .endInObject []
      | some '}' :: s => .ok s
      | s => skipField fuel s
    | s => if (digit? s).isSome then skipNumber s else failPast .expectedValue s

/-- Skips what follows an item of an array, up to its end. -/
def skipItems : Nat → Source → Except Failure Source
  | 0, s => failPast .expectedValue s
  | fuel + 1, s =>
    match skipBlanks s with
    | [] => failPast .endInArray []
    | some ']' :: s => .ok s
    | some ',' :: s => do skipItems fuel (← skipValue fuel s)
    | s => failPast .expectedCommaOrBracket s

/-- Skips a field of an object and what follows it, up to its end. -/
def skipField : Nat → Source → Except Failure Source
  | 0, s => failPast .expectedValue s
  | fuel + 1, s =>
    match skipBlanks s with
    | [] => failPast .endInObject []
    | some '"' :: s => do
      let s ← skipString (s.length + 1) s
      let s ← readColon s
      let s ← skipValue fuel s
      match skipBlanks s with
      | [] => failPast .endInObject []
      | some '}' :: s => return s
      | some ',' :: s => skipField fuel s
      | s => failPast .expectedCommaOrBrace s
    | s => failPast .keyNotString s

end

/-! ## Simple readers -/

/-- Refuses a value that is not what is expected, having read it as far as the
message needs. -/
def refuse {α : Type} (expected : String) (s : Source) : Except Failure α :=
  let refused (found : Found) (s : Source) : Except Failure α :=
    failAt (.invalidType found expected) s
  match s with
  | some 'n' :: s => do refused .null (← readWord ['u', 'l', 'l'] s)
  | some 't' :: s => do refused (.bool true) (← readWord ['r', 'u', 'e'] s)
  | some 'f' :: s => do refused (.bool false) (← readWord ['a', 'l', 's', 'e'] s)
  | some '-' :: s => do
    let (n, s) ← readNumber true s
    refused (.number n) s
  | some '"' :: s => do
    let (t, s) ← readStringBody s
    refused (.string t) s
  | some '[' :: s => refused .array (some '[' :: s)
  | some '{' :: s => refused .object (some '{' :: s)
  | s =>
    if (digit? s).isSome then do
      let (n, s) ← readNumber false s
      refused (.number n) s
    else failPast .expectedValue s

/-- Reads any value. -/
def anyValue : Reader Json := fun depth s => readValue (enoughFuel s) depth s

/-- Reads a string. -/
def aString : Reader String := fun _ s =>
  match skipBlanks s with
  | [] => failPast .endInValue []
  | some '"' :: s => readStringBody s
  | s => refuse "a string" s

/-- Reads a truth value. -/
def aBoolean : Reader Bool := fun _ s =>
  match skipBlanks s with
  | [] => failPast .endInValue []
  | some 't' :: s => do return (true, ← readWord ['r', 'u', 'e'] s)
  | some 'f' :: s => do return (false, ← readWord ['a', 'l', 's', 'e'] s)
  | s => refuse "a boolean" s

/-- Reads null as nothing, and anything else as the reader for it does. -/
def optional {α : Type} (read : Reader α) : Reader (Option α) := fun depth s =>
  match skipBlanks s with
  | some 'n' :: s => do return (none, ← readWord ['u', 'l', 'l'] s)
  | s => do
    let (x, s) ← read depth s
    return (some x, s)

/-! ## Lists -/

/-- Reads the items left of a list, up to its closing bracket. -/
def readListItems {α : Type} (read : Reader α) (depth : Nat) :
    Nat → Bool → Source → Except Failure (List α × Source)
  | 0, _, s => failPast .expectedValue s
  | fuel + 1, first, s => do
    match ← nextItem first s with
    | none => return ([], (skipBlanks s).drop 1)
    | some s =>
      let (x, s) ← read depth s
      let (xs, s) ← readListItems read depth fuel false s
      return (x :: xs, s)

/-- Reads a list of what the reader for its items reads. -/
def listOf {α : Type} (read : Reader α) : Reader (List α) := fun depth s =>
  match skipBlanks s with
  | [] => failPast .endInValue []
  | some '[' :: s =>
    if depth ≤ 1 then failPast .nestedTooDeep (some '[' :: s)
    else readListItems read (depth - 1) (s.length + 1) true s
  | s => refuse "a sequence" s

/-! ## Named alternatives -/

/-- The alternative of a name that has been read. -/
def alternative {α : Type} (choices : List (String × α)) (name : String) (s : Source) :
    Except Failure (α × Source) :=
  match choices.lookup name with
  | some x => .ok (x, s)
  | none => failAt (.unknownVariant name (choices.map (·.1))) s

/-- Reads one of several names, alone or as the name of an object's only field,
whose value is then null. -/
def oneOf {α : Type} (choices : List (String × α)) : Reader α := fun depth s =>
  match skipBlanks s with
  | [] => failPast .endInValue []
  | some '"' :: s => do
    let (name, s) ← readStringBody s
    alternative choices name s
  | some '{' :: s =>
    if depth ≤ 1 then failPast .nestedTooDeep (some '{' :: s)
    else match skipBlanks s with
      | [] => failPast .endInValue []
      | some '"' :: s => do
        let (name, s) ← readStringBody s
        let (x, s) ← alternative choices name s
        let s ← readColon s
        let s ← match skipBlanks s with
          | [] => failPast .endInValue []
          | some 'n' :: s => readWord ['u', 'l', 'l'] s
          | s => refuse "unit" s
        match skipBlanks s with
        | [] => failAt .endInObject []
        | some '}' :: s => return (x, s)
        | s => failAt .expectedValue s
      | s => refuse "variant identifier" s
  | s => failPast .expectedValue s

/-! ## Records -/

/-- A field of a record `α`: its name, the names it may also go by, whether it
must be given, and how its value is read into the record. -/
structure FieldReader (α : Type) where
  name : String
  others : List String
  required : Bool
  read : Nat → Source → Except Failure ((α → α) × Source)

/-- A field that is read by a reader and stored by a setter. -/
def fieldReader {α β : Type} (name : String) (required : Bool) (read : Reader β)
    (set : β → α → α) (others : List String) : FieldReader α where
  name := name
  others := others
  required := required
  read depth s := do
    let (x, s) ← read depth s
    return (set x, s)

/-- Whether a field goes by a name. -/
def FieldReader.answersTo {α : Type} (f : FieldReader α) (name : String) : Bool :=
  f.name = name || f.others.contains name

/-- Why a record is refused: by a failure that knows its place, or by one that
is placed behind the record's end if that can be read. -/
inductive Refusal where
  | placed (f : Failure)
  | unplaced (cause : Fault) (rest : Source)

/-- Reads the closing bracket of a record written as an array: what is left, and
on failure how far reading got. -/
def closeBracket (s : Source) : Except (Failure × Source) Source :=
  match skipBlanks s with
  | [] => .error (⟨.endInArray, [], 1⟩, [])
  | some ']' :: s => .ok s
  | some ',' :: s => match skipBlanks s with
    | some ']' :: s => .error (⟨.trailingComma, some ']' :: s, 1⟩, some ']' :: s)
    | s => .error (⟨.trailingCharacters, s, 1⟩, s)
  | s => .error (⟨.trailingCharacters, s, 1⟩, s)

/-- Reads the closing brace of a record: what is left, and on failure how far
reading got. -/
def closeBrace (s : Source) : Except (Failure × Source) Source :=
  match skipBlanks s with
  | [] => .error (⟨.endInObject, [], 1⟩, [])
  | some '}' :: s => .ok s
  | some ',' :: s => .error (⟨.trailingComma, some ',' :: s, 1⟩, some ',' :: s)
  | s => .error (⟨.trailingCharacters, s, 1⟩, s)

/-- Ends a record: reads its close, and places a failure that has no place. -/
def finishRecord {α : Type} (close : Source → Except (Failure × Source) Source)
    (result : Except Refusal (α × Source)) : Except Failure (α × Source) :=
  match result with
  | .ok (x, s) =>
    match close s with
    | .ok s => .ok (x, s)
    | .error (f, _) => .error f
  | .error (.placed f) => .error f
  | .error (.unplaced cause s) =>
    match close s with
    | .ok s => failAt cause s
    | .error (_, s) => failAt cause s

/-- The number of fields, as messages give it. -/
def countElements (n : Nat) : String :=
  toString n ++ (if n = 1 then " element" else " elements")

/-- Reads fields by position, from the `i`-th on. -/
def readPositional {α : Type} (expected : String) (depth : Nat) :
    List (FieldReader α) → Nat → α → Source → Except Refusal (α × Source)
  | [], _, x, s => .ok (x, s)
  | f :: rest, i, x, s =>
    match nextItem (i = 0) s with
    | .error e => .error (.placed e)
    | .ok none =>
      if f.required then .error (.unplaced (.invalidLength i expected) s)
      else readPositional expected depth rest (i + 1) x s
    | .ok (some s) =>
      match f.read depth s with
      | .error e => .error (.placed e)
      | .ok (set, s) => readPositional expected depth rest (i + 1) (set x) s

/-- Reads fields by name up to the closing brace. -/
def readNamed {α : Type} (fields : List (FieldReader α)) (depth : Nat) :
    Nat → Bool → List String → α → Source → Except Refusal (α × Source)
  | 0, _, _, _, s => .error (.unplaced .expectedValue s)
  | fuel + 1, first, seen, x, s => do
    match ← (nextField first s).mapError .placed with
    | none =>
      match fields.find? fun f => f.required && !seen.contains f.name with
      | some f => throw (.unplaced (.missingField f.name) s)
      | none => return (x, s)
    | some s =>
      let (name, s) ← (readStringBody s).mapError .placed
      match fields.find? (·.answersTo name) with
      | none =>
        let s ← (readColon s).mapError .placed
        let s ← (skipValue (s.length + 1) s).mapError .placed
        readNamed fields depth fuel false seen x s
      | some f =>
        if seen.contains f.name then throw (.unplaced (.duplicateField f.name) s)
        else
          let s ← (readColon s).mapError .placed
          let (set, s) ← (f.read depth s).mapError .placed
          readNamed fields depth fuel false (f.name :: seen) (set x) s

/-- **Reads a record** with the given fields, starting from one in which they
have their defaults. -/
def readRecord {α : Type} (title : String) (fields : List (FieldReader α)) (start : α) :
    Reader α := fun depth s =>
  match skipBlanks s with
  | [] => failPast .endInValue []
  | some '[' :: s =>
    if depth ≤ 1 then failPast .nestedTooDeep (some '[' :: s)
    else
      finishRecord closeBracket
        (readPositional (title ++ " with " ++ countElements fields.length) (depth - 1)
          fields 0 start s)
  | some '{' :: s =>
    if depth ≤ 1 then failPast .nestedTooDeep (some '{' :: s)
    else finishRecord closeBrace (readNamed fields (depth - 1) (s.length + 1) true [] start s)
  | s => refuse title s

/-- Reads a whole text, or says why it cannot be read. -/
def readDocument {α : Type} (read : Reader α) (text : String) : Except String α :=
  let s := Source.ofString text
  (parseWith (fun _ depth s => read depth s) s).mapError (Failure.message s)

end Json

end Switchboard
