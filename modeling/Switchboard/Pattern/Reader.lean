import Switchboard.Pattern.Bracket
import Switchboard.Unicode.Property
/-!
# Reading patterns

A pattern is read from left to right. The reader keeps a level for each group that is
open: its finished branches, and the parts of the branch it is in. A repetition takes
the part in front of it.
-/

namespace Switchboard

namespace Pattern

open Reading

/-! ## Repetitions -/

/-- The digits that are next, of which blanks between them are no part in a spaced
pattern. -/
def digits : (fuel : Nat) → List Char → Reading (List Char)
  | 0, read => return read.reverse
  | fuel + 1, read => do
    match ← peek with
    | some c =>
      if c.isDigit then
        let _ ← advanceOverBlanks
        digits fuel (c :: read)
      else return read.reverse
    | none => return read.reverse

/-- Steps over characters that are blank, in every pattern. -/
def skipWhite : (fuel : Nat) → Reading Unit
  | 0 => return
  | fuel + 1 => do
    if (← peek).any Text.isBlank then
      let _ ← advance
      skipWhite fuel

/-- The largest count. -/
def largestCount : Nat := 4294967295

/-- Reads a count. What is wrong with it is part of the answer, as it does not always
matter. -/
def readCount : Reading (Except Fault Nat) := do
  let fuel := (← get).rest.length
  skipWhite fuel
  let start ← here
  let read ← digits fuel []
  let span ← spanFrom start
  skipWhite fuel
  let value := read.foldl (fun n c => n * 10 + (c.toNat - '0'.toNat)) 0
  if read.isEmpty then return .error ⟨.repetitionCountEmpty, span, none⟩
  else if largestCount < value then return .error ⟨.decimalInvalid, span, none⟩
  else return .ok value

/-- Reads the counts of a repetition up to the closing brace, which stays next. The
opening brace is at a place. -/
def readCounts (start : Place) : Reading (Nat × Option Nat) := do
  let unclosed {α : Type} : Reading α := do refuse .repetitionCountUnclosed (← spanFrom start)
  if !(← advanceOverBlanks) then unclosed
  -- What is wrong with the first count is said only once something follows it.
  let low ← readCount
  match ← peek with
  | none => unclosed
  | some ',' =>
    if !(← advanceOverBlanks) then unclosed
    if (← peek) = some '\x7d' then return (← low, none)
    let min ← low
    let max ← (← readCount)
    if (← peek) ≠ some '\x7d' then unclosed
    return (min, some max)
  | some c =>
    let count ← low
    if c ≠ '\x7d' then unclosed
    return (count, some count)

/-- Whether the question mark that makes a repetition lazy is next; it is stepped
over. -/
def readLazy : Reading Bool := accept ['?']

/-- Reads a repetition of the last of some parts, which stand in reverse. -/
def readRepetition (sign : Char) (parts : List Node) : Reading (List Node) := do
  let start ← here
  match parts with
  | [] => refuse .repetitionMissing (.point start)
  | body :: before =>
    if !body.isRepeatable then refuse .repetitionMissing (.point start)
    let (min, max) ←
      if sign = '?' then pure (0, some 1)
      else if sign = '*' then pure (0, none)
      else if sign = '+' then pure (1, none)
      else readCounts start
    if sign = '\x7b' then
      let _ ← advanceOverBlanks
    else
      let _ ← advance
    let isLazy ← readLazy
    let stop ← here
    if max.any (· < min) then refuse .repetitionCountInvalid ⟨start, stop⟩
    return .repetition ⟨body.span.start, stop⟩ body min max (!isLazy) :: before

/-! ## Groups -/

/-- The flags of a group as they are written, each where it stands; `none` is the minus
sign. -/
abbrev WrittenFlags := List (Option Flag × Span)

/-- What written flags ask for. -/
def FlagChange.ofWritten (written : WrittenFlags) : FlagChange :=
  let flags := written.map (·.1)
  ⟨(flags.takeWhile Option.isSome).filterMap id, (flags.dropWhile Option.isSome).filterMap id⟩

/-- Reads flags up to a colon or a closing parenthesis, which stays next. -/
def readFlags : (fuel : Nat) → WrittenFlags → Reading WrittenFlags
  | 0, written => return written
  | fuel + 1, written => do
    match ← peek with
    | none => refuse .flagsEnd (← pointHere)
    | some c =>
      if c = ':' ∨ c = ')' then
        match written.getLast? with
        | some (none, span) => refuse .flagDanglingNegation span
        | _ => return written
      else
        let span ← nextSpan
        let flag ←
          if c = '-' then pure none
          else match Flag.lettered.lookup c with
            | some flag => pure (some flag)
            | none => refuse .flagUnrecognized span
        match written.lookup flag with
        | some earlier =>
          throw ⟨if flag.isNone then .flagRepeatedNegation else .flagDuplicate, span, some earlier⟩
        | none =>
          if ← advance then readFlags fuel (written ++ [(flag, span)])
          else refuse .flagsEnd (← pointHere)

/-- Whether a character can be part of the name of a group. -/
def isNameChar (isFirst : Bool) (c : Char) : Bool :=
  c = '_' || Unicode.alphabetic.contains c
    || !isFirst && (c = '.' || c = '[' || c = ']' || Unicode.numbers.contains c)

/-- The characters of a name that are next, up to an angle bracket. -/
def groupName : (fuel : Nat) → List Char → Reading (List Char)
  | 0, read => return read.reverse
  | fuel + 1, read => do
    match ← peek with
    | none => refuse .groupNameUnclosed (← pointHere)
    | some '>' => return read.reverse
    | some c =>
      if !isNameChar read.isEmpty c then refuse .groupNameInvalid (← nextSpan)
      let _ ← advance
      groupName fuel (c :: read)

/-- The names of groups, each where it stands. -/
abbrev GroupNames := List (List Char × Span)

/-- Reads the name of a group and the angle bracket behind it. -/
def readGroupName (names : GroupNames) : Reading GroupNames := do
  let start ← here
  let name ← groupName ((← get).rest.length + 1) []
  let span ← spanFrom start
  let _ ← advance
  if name.isEmpty then refuse .groupNameEmpty (.point start)
  match names.lookup name with
  | some earlier => throw ⟨.groupNameDuplicate, span, some earlier⟩
  | none => return (name, span) :: names

/-- What the opening of a group turns out to be. -/
inductive Opening where
  | flags (change : FlagChange)
  | plain (change : FlagChange)
  | capturing
  | named (names : GroupNames)

/-- The beginnings of groups that look around. -/
def lookArounds : List (List Char) := [['?', '='], ['?', '!'], ['?', '<', '='], ['?', '<', '!']]

/-- Reads the opening of a group, of which the parenthesis is next. -/
def readOpening (names : GroupNames) : Reading Opening := do
  let whole ← nextSpan
  let _ ← advance
  skipBlanks
  let rest := (← get).rest
  if let some beginning := lookArounds.find? (·.isPrefixOf rest) then
    let _ ← accept beginning
    refuse .lookAround (← spanFrom whole.start)
  let inside ← pointHere
  if ← accept ['?', 'P', '<'] then return .named (← readGroupName names)
  else if ← accept ['?', '<'] then return .named (← readGroupName names)
  else if ← accept ['?'] then
    if ← atEnd then refuse .groupUnclosed whole
    let written ← readFlags ((← get).rest.length + 1) []
    let closes := (← peek) = some ')'
    let _ ← advance
    -- A colon opens a group; a parenthesis ends flags for what follows.
    if !closes then return .plain (.ofWritten written)
    if written.isEmpty then refuse .repetitionMissing inside
    return .flags (.ofWritten written)
  else return .capturing

/-! ## Levels -/

/-- What has been read of a group since it was opened: the branches that are finished
and the parts of the one that is not, in reverse each. -/
structure Level where
  start : Place
  branches : List Node
  branchStart : Place
  parts : List Node

namespace Level

/-- The level that starts at a place. -/
def opened (p : Place) : Level := ⟨p, [], p, []⟩

/-- The level with one more part. -/
def add (level : Level) (part : Node) : Level := { level with parts := part :: level.parts }

/-- The branch that ends at a place. -/
def branch (level : Level) (stop : Place) : Node :=
  match level.parts with
  | [] => .nothing ⟨level.branchStart, stop⟩
  | [part] => part
  | parts => .sequence ⟨level.branchStart, stop⟩ parts.reverse

/-- The level with a branch that ends at a place and another that starts at a place. -/
def split (level : Level) (stop start : Place) : Level :=
  { level with branches := level.branch stop :: level.branches, branchStart := start, parts := [] }

/-- All of the level, which ends at a place. -/
def close (level : Level) (stop : Place) : Node :=
  match level.branches with
  | [] => level.branch stop
  | branches => .choice ⟨level.start, stop⟩ (level.branch stop :: branches).reverse

end Level

/-- A group that is open: its parenthesis, what it is, whether the pattern was spaced in
front of it, and the level that it stands in. -/
structure OpenGroup where
  parenthesis : Span
  kind : GroupKind
  spaced : Bool
  outer : Level

/-- What has been read of a pattern: the level reached, the open groups around it, the
innermost first, and the groups that capture, by number and by name. -/
structure Progress where
  level : Level
  groups : List OpenGroup
  captures : Nat
  names : GroupNames

namespace Progress

/-- The progress with one more part. -/
def add (p : Progress) (part : Node) : Progress := { p with level := p.level.add part }

/-- The progress within a group that has just been opened. -/
def enter (p : Progress) (parenthesis : Span) (kind : GroupKind) (spaced : Bool) (start : Place) :
    Progress :=
  { p with level := .opened start, groups := ⟨parenthesis, kind, spaced, p.level⟩ :: p.groups }

end Progress

/-- Switches to a spaced pattern or back, if flags say so. -/
def setSpaced (change : FlagChange) : Reading Unit := do
  match change.state? .spaced with
  | some spaced => modify fun i => { i with spaced := spaced }
  | none => return

/-- Reads the opening of a group. -/
def openGroup (p : Progress) : Reading Progress := do
  let parenthesis ← nextSpan
  let spaced := (← get).spaced
  match ← readOpening p.names with
  | .flags change =>
    setSpaced change
    return p.add (.flags (← spanFrom parenthesis.start) change)
  | .plain change =>
    setSpaced change
    return p.enter parenthesis (.plain change) spaced (← here)
  | .capturing =>
    let p := { p with captures := p.captures + 1 }
    return p.enter parenthesis (.capturing p.captures) spaced (← here)
  | .named names =>
    let p := { p with captures := p.captures + 1, names := names }
    return p.enter parenthesis (.capturing p.captures) spaced (← here)

/-- Reads the parenthesis that closes a group. -/
def closeGroup (p : Progress) : Reading Progress := do
  match p.groups with
  | [] => refuse .groupUnopened (← nextSpan)
  | group :: groups =>
    let body := p.level.close (← here)
    -- Blanks count again, or not, as they did in front of the group.
    modify fun i => { i with spaced := group.spaced }
    let _ ← advance
    let span ← spanFrom group.parenthesis.start
    return { p with level := group.outer.add (.group span group.kind body), groups := groups }

/-- Reads the sign between two branches. -/
def nextBranch (p : Progress) : Reading Progress := do
  let stop ← here
  let _ ← advance
  return { p with level := p.level.split stop (← here) }

/-- Reads a character, or what a sign or a backslash makes. -/
def readPart (c : Char) : Reading Node := do
  let span ← nextSpan
  if c = '[' then readBracket
  else if c = '\\' then readEscape
  else
    let _ ← advance
    if c = '.' then return .dot span
    else if c = '^' then return .anchor span .lineStart
    else if c = '$' then return .anchor span .lineEnd
    else return .literal ⟨span, c, false⟩

/-- The signs that repeat what stands in front of them. -/
def isRepetitionSign (c : Char) : Bool := c = '?' || c = '*' || c = '+' || c = '\x7b'

/-- Reads on to the end of the pattern. -/
def readFrom : (fuel : Nat) → Progress → Reading Progress
  | 0, p => return p
  | fuel + 1, p => do
    skipBlanks
    match ← peek with
    | none => return p
    | some c =>
      let p ←
        if c = '(' then openGroup p
        else if c = ')' then closeGroup p
        else if c = '|' then nextBranch p
        else if isRepetitionSign c then do
          let parts ← readRepetition c p.level.parts
          pure { p with level := { p.level with parts := parts } }
        else do pure (p.add (← readPart c))
      readFrom fuel p

/-- Reads a whole pattern. -/
def readWhole : Reading Node := do
  let fuel := (← get).rest.length + 1
  let p ← readFrom fuel ⟨.opened .start, [], 0, []⟩
  match p.groups with
  | [] => return p.level.close (← here)
  | group :: _ => refuse .groupUnclosed group.parenthesis

/-! ## Nesting -/

/-- How deep parentheses, brackets and what else holds parts may be nested. -/
def nestingLimit : Nat := 250

/-- Refuses something at a span that is nested deeper than the limit. -/
def checkDepth (depth : Nat) (span : Span) : Except Fault Unit :=
  if nestingLimit < depth then .error ⟨.nestedTooDeep nestingLimit, span, none⟩ else .ok ()

mutual

/-- Refuses an item, of those within brackets, that is nested too deep below so many
levels. -/
def ClassItem.checkNesting (depth : Nat) : ClassItem → Except Fault Unit
  | .bracketed span _ items => do
    checkDepth (depth + 1) span
    items.checkNesting (depth + 1)
  | .union span items => do
    checkDepth (depth + 1) span
    ClassItem.checkAllNesting (depth + 1) items
  | .combined span _ left right => do
    checkDepth (depth + 1) span
    left.checkNesting (depth + 1)
    right.checkNesting (depth + 1)
  | _ => .ok ()

/-- Refuses items that are nested too deep. -/
def ClassItem.checkAllNesting (depth : Nat) : List ClassItem → Except Fault Unit
  | [] => .ok ()
  | item :: rest =>
    match item.checkNesting depth with
    | .error e => .error e
    | .ok () => ClassItem.checkAllNesting depth rest

end

mutual

/-- Refuses a part that is nested too deep below so many levels. -/
def Node.checkNesting (depth : Nat) : Node → Except Fault Unit
  | .bracketed span _ items => do
    checkDepth (depth + 1) span
    items.checkNesting (depth + 1)
  | .repetition span body _ _ _ => do
    checkDepth (depth + 1) span
    body.checkNesting (depth + 1)
  | .group span _ body => do
    checkDepth (depth + 1) span
    body.checkNesting (depth + 1)
  | .choice span branches => do
    checkDepth (depth + 1) span
    Node.checkAllNesting (depth + 1) branches
  | .sequence span parts => do
    checkDepth (depth + 1) span
    Node.checkAllNesting (depth + 1) parts
  | _ => .ok ()

/-- Refuses parts that are nested too deep. -/
def Node.checkAllNesting (depth : Nat) : List Node → Except Fault Unit
  | [] => .ok ()
  | part :: rest =>
    match part.checkNesting depth with
    | .error e => .error e
    | .ok () => Node.checkAllNesting depth rest

end

/-- **Reading.** The pattern that a text writes. -/
def Node.ofText (text : List Char) : Except Fault Node := do
  let (node, _) ← readWhole.run ⟨text, .start, false⟩
  node.checkNesting 0
  return node

end Pattern

end Switchboard
