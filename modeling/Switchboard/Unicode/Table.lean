import Switchboard.Text.Digit
import Switchboard.Unicode.CharSet
/-!
# Tables in writing

The data of Unicode is written as words: numbers in hexadecimal, with a tag of
capitalized codes behind some of them. This module reads such words, and makes sets
of them.
-/

namespace Switchboard

namespace Unicode

/-- Whether a character is a digit of the numbers in tables. -/
def isTableDigit (c : Char) : Bool := c.isDigit || ('a' ≤ c && c ≤ 'f')

/-- The number in hexadecimal that some characters write. -/
def tableNumber (cs : List Char) : Nat :=
  cs.foldl (fun n c => n * 16 + (Text.hexValue? c).getD 0) 0

/-- The words of a line, of which blanks are no part. -/
def lineWords (text : String) : List (List Char) :=
  let step (w : List Char × List (List Char)) (c : Char) : List Char × List (List Char) :=
    if c = ' ' then ([], w.1.reverse :: w.2) else (c :: w.1, w.2)
  let (last, before) := text.toList.foldl step ([], [])
  (last.reverse :: before).reverse.filter (!·.isEmpty)

/-- The words of a table, line by line. -/
def words (lines : List String) : List (List Char) := lines.flatMap lineWords

/-- The number in front of a word, and the tag behind it. -/
def taggedNumber (word : List Char) : Nat × List Char :=
  (tableNumber (word.takeWhile isTableDigit), word.dropWhile isTableDigit)

/-- The runs that words tell the lengths and tags of, from a code point on. -/
def runsFrom (start : Nat) : List (List Char) → List (CharRange × List Char)
  | [] => []
  | w :: rest =>
    let (length, tag) := taggedNumber w
    (⟨start, start + length - 1⟩, tag) :: runsFrom (start + length) rest

/-- The runs of a table that covers all code points. -/
def runs (table : List String) : List (CharRange × List Char) := runsFrom 0 (words table)

/-- The ranges that words tell of, from a code point on: how far to go, and how far
the range goes on then. -/
def spacedRuns (start : Nat) : List (List Char) → List (CharRange × List Char)
  | gap :: w :: rest =>
    let first := start + tableNumber gap
    let (length, tag) := taggedNumber w
    (⟨first, first + length - 1⟩, tag) :: spacedRuns (first + length) rest
  | _ => []

/-- The set that a table of gaps and lengths writes. -/
def setOf (table : List String) : CharSet := ⟨(spacedRuns 0 (words table)).map (·.1)⟩

end Unicode

end Switchboard
