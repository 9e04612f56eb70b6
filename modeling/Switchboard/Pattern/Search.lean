import Switchboard.Pattern.Program
import Switchboard.Unicode.Property
/-!
# Searching

A program is run in step with the text: threads, the preferred ones first, wait for the
same character. At a place no instruction is entered twice, for the thread that came
first is preferred. A thread that accepts puts an end to those behind it, and the search
ends when no thread is left.
-/

namespace Switchboard

namespace Pattern

/-! ## Places in a text -/

/-- A place in a text: how many characters are before it, the last of them, and the
characters behind it. -/
structure Spot where
  index : Nat
  before : Option Char
  rest : List Char

namespace Spot

/-- The place in front of a text. -/
def start (text : List Char) : Spot := ⟨0, none, text⟩

/-- The place behind the next character. -/
def next? (s : Spot) : Option Spot :=
  match s.rest with
  | [] => none
  | c :: cs => some ⟨s.index + 1, some c, cs⟩

/-- The text between a place and a later one. -/
def textTo (s t : Spot) : List Char := s.rest.take (t.index - s.index)

end Spot

/-- Whether a character is one of words. -/
def isWordChar (unicode : Bool) (c : Char) : Bool :=
  if unicode then Unicode.word.contains c else c.isAlphanum || c = '_'

/-- Whether a condition holds between two characters, where there are such. -/
def Condition.holds (condition : Condition) (before after : Option Char) : Bool :=
  match condition with
  | .textStart => before.isNone
  | .textEnd => after.isNone
  | .lineStart => before.all (· = '\n')
  | .lineEnd => after.all (· = '\n')
  | .returnLineStart => before.all (· = '\n') || before = some '\r' && after ≠ some '\n'
  | .returnLineEnd => after.all (· = '\r') || after = some '\n' && before ≠ some '\r'
  | .wordBoundary u => before.any (isWordChar u) != after.any (isWordChar u)
  | .noWordBoundary u => before.any (isWordChar u) == after.any (isWordChar u)
  | .wordStart u => !before.any (isWordChar u) && after.any (isWordChar u)
  | .wordEnd u => before.any (isWordChar u) && !after.any (isWordChar u)
  | .wordStartHalf u => !before.any (isWordChar u)
  | .wordEndHalf u => !after.any (isWordChar u)

/-! ## Threads -/

/-- The places noted, the last one first. -/
abbrev Notes := List (Nat × Spot)

/-- An instruction that waits, with what has been noted on the way. -/
structure Thread where
  instruction : Nat
  notes : Notes

/-- The threads at a place, the least preferred first, and for each instruction the
number of the last place at which it was entered. -/
structure Front where
  entered : Array Nat
  threads : List Thread

namespace Program

variable (p : Program)

/-- The front with those threads that some can become without reading, the preferred
ones first. Places are numbered from one. -/
def enter (spot : Spot) : (fuel : Nat) → List Thread → Front → Front
  | 0, _, front => front
  | _, [], front => front
  | fuel + 1, t :: rest, ⟨entered, threads⟩ =>
    if entered[t.instruction]? = some (spot.index + 1) then
      -- A preferred thread has been here: this one could only do the same, later.
      enter spot fuel rest ⟨entered, threads⟩
    else
      let entered := entered.setIfInBounds t.instruction (spot.index + 1)
      match p.code[t.instruction]? with
      | none => enter spot fuel rest ⟨entered, threads⟩
      | some .accept => enter spot fuel rest ⟨entered, t :: threads⟩
      | some (.read _ _) => enter spot fuel rest ⟨entered, t :: threads⟩
      | some (.require condition next) =>
        if condition.holds spot.before spot.rest.head? then
          enter spot fuel (⟨next, t.notes⟩ :: rest) ⟨entered, threads⟩
        else enter spot fuel rest ⟨entered, threads⟩
      | some (.note slot next) =>
        enter spot fuel (⟨next, (slot, spot) :: t.notes⟩ :: rest) ⟨entered, threads⟩
      | some (.split first second) =>
        enter spot fuel (⟨first, t.notes⟩ :: ⟨second, t.notes⟩ :: rest) ⟨entered, threads⟩

/-- How many threads can be entered at a place at most: one to begin with, and two for
each instruction. -/
def enterFuel : Nat := 2 * p.code.size + 1

/-- Whether a thread accepts. -/
def accepts (t : Thread) : Bool := p.code[t.instruction]? matches some .accept

/-- The front at the next place, which a thread has reached by reading a character. -/
def step (c : Char) (spot : Spot) (front : Front) (t : Thread) : Front :=
  match p.code[t.instruction]? with
  | some (.read set next) =>
    if set.contains c then p.enter spot p.enterFuel [⟨next, t.notes⟩] front else front
  | _ => front

/-- The notes of the first match that can be had from a place on, where `found` is the
one that is had so far. As long as there is none, a search starts at every place. -/
def searchFrom (index : Nat) (before : Option Char) (front : Front) (found : Option Notes) :
    List Char → Option Notes
  | [] =>
    let front := if found.isSome then front
      else p.enter ⟨index, before, []⟩ p.enterFuel [⟨p.entry, []⟩] front
    ((front.threads.reverse.find? p.accepts).map Thread.notes) <|> found
  | c :: cs =>
    let front := if found.isSome then front
      else p.enter ⟨index, before, c :: cs⟩ p.enterFuel [⟨p.entry, []⟩] front
    let threads := front.threads.reverse
    let found := ((threads.find? p.accepts).map Thread.notes) <|> found
    let next : Spot := ⟨index + 1, some c, cs⟩
    -- Threads behind the first that accepts are less preferred than the match it has.
    let front := (threads.takeWhile (!p.accepts ·)).foldl (p.step c next) ⟨front.entered, []⟩
    if found.isSome ∧ front.threads.isEmpty then found
    else searchFrom (index + 1) (some c) front found cs

/-- **Searching.** The notes of the first match from a place on. -/
def search? (spot : Spot) : Option Notes :=
  p.searchFrom spot.index spot.before ⟨Array.replicate p.code.size 0, []⟩ none spot.rest

end Program

end Pattern

end Switchboard
