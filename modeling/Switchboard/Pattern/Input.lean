import Switchboard.Pattern.Fault
import Switchboard.Text.Blank
/-!
# Reading a pattern

What is left of a pattern, and the steps that a reader takes through it. While a
pattern is spaced, readers may step over blanks, and over notes from a number sign to
the end of the line.
-/

namespace Switchboard

namespace Pattern

/-- What is left to read, where it starts, and whether blanks in it count for nothing. -/
structure Input where
  rest : List Char
  place : Place
  spaced : Bool

/-- A reader, which may refuse what it finds. -/
abbrev Reading := StateT Input (Except Fault)

namespace Input

/-- The input behind the next character. -/
def next (i : Input) : Input :=
  match i.rest with
  | [] => i
  | c :: cs => { i with rest := cs, place := i.place.after c }

/-- Reading on over characters while `inNote` says whether a note is being read. -/
def afterBlanks (inNote : Bool) : List Char → Place → List Char × Place
  | [], p => ([], p)
  | c :: cs, p =>
    if inNote then afterBlanks (c ≠ '\n') cs (p.after c)
    else if Text.isBlank c then afterBlanks false cs (p.after c)
    else if c = '#' then afterBlanks true cs (p.after c)
    else (c :: cs, p)

/-- The input behind the blanks and notes that are next, if it is spaced. -/
def skipBlanks (i : Input) : Input :=
  if i.spaced then
    let (rest, place) := afterBlanks false i.rest i.place
    { i with rest := rest, place := place }
  else i

end Input

namespace Reading

/-- Refuses what stands at a span. -/
def refuse {α : Type} (cause : Cause) (span : Span) : Reading α := throw ⟨cause, span, none⟩

/-- The next character, if there is one. -/
def peek : Reading (Option Char) := do return (← get).rest.head?

/-- The character behind the next one. -/
def peekSecond : Reading (Option Char) := do return (← get).rest[1]?

/-- The character behind the next one and the blanks after that. In a spaced pattern one
number sign counts as a blank here; where only blanks are left, the first of them is the
answer. -/
def peekOverBlanks : Reading (Option Char) := do
  let i ← get
  let behind := i.rest.tail
  if i.spaced then
    let sign := behind.dropWhile Text.isBlank
    let ahead := if sign.head? = some '#' then sign.tail.dropWhile Text.isBlank else sign
    return ahead.head? <|> behind.head?
  else return behind.head?

/-- Where the input starts. -/
def here : Reading Place := do return (← get).place

/-- The span of the next character. -/
def nextSpan : Reading Span := do
  let i ← get
  return ⟨i.place, i.next.place⟩

/-- The span from a place to here. -/
def spanFrom (start : Place) : Reading Span := do return ⟨start, ← here⟩

/-- The empty span here. -/
def pointHere : Reading Span := do return .point (← here)

/-- Whether nothing is left. -/
def atEnd : Reading Bool := do return (← get).rest.isEmpty

/-- Steps over the next character, and says whether any are left. -/
def advance : Reading Bool := do
  modify Input.next
  return !(← atEnd)

/-- Steps over blanks and notes. -/
def skipBlanks : Reading Unit := modify Input.skipBlanks

/-- Steps over the next character and the blanks behind it, and says whether any
characters are left. -/
def advanceOverBlanks : Reading Bool := do
  modify fun i => i.next.skipBlanks
  return !(← atEnd)

/-- Steps over some characters, and says so, if they are next. -/
def accept (word : List Char) : Reading Bool := do
  if word.isPrefixOf (← get).rest then
    modify fun i => word.foldl (fun i _ => i.next) i
    return true
  else return false

end Reading

end Pattern

end Switchboard
