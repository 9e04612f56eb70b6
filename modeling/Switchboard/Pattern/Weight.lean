import Switchboard.Pattern.Core
/-!
# How large a pattern is

A pattern must not take more room than a limit. Its room is that of the automaton which
reads the text byte by byte, or of the one which reads it backwards, whichever is
larger. Each has states, states with several ways on, and for each set the byte
sequences that write its characters: forwards what they have in common at the end is
shared, backwards what they have in common at the beginning. Branches that are texts
make up a tree.
-/

namespace Switchboard

namespace Pattern

/-! ## Byte sequences -/

/-- A range of bytes. -/
abbrev ByteRange := Nat × Nat

/-- The bytes that write a code point. -/
def codeBytes (n : Nat) : List Nat :=
  if n < 0x80 then [n]
  else if n < 0x800 then [0xc0 + n / 0x40, 0x80 + n % 0x40]
  else if n < 0x10000 then [0xe0 + n / 0x1000, 0x80 + n / 0x40 % 0x40, 0x80 + n % 0x40]
  else [0xf0 + n / 0x40000, 0x80 + n / 0x1000 % 0x40, 0x80 + n / 0x40 % 0x40, 0x80 + n % 0x40]

/-- Where a range has to be cut so that both parts are closer to be written by ranges of
bytes: between code points that are written with different numbers of bytes, and before
and behind blocks of code points that end in the same bytes. The answer is where the
second part starts. -/
def cut? (first last : Nat) : Option Nat :=
  match [0x80, 0x800, 0x10000].find? fun n => first < n && n ≤ last with
  | some n => some n
  | none =>
    if last < 0x80 then none
    else [0x40, 0x1000, 0x40000].findSome? fun block =>
      if first / block = last / block then none
      else if first % block ≠ 0 then some ((first / block + 1) * block)
      else if last % block ≠ block - 1 then some (last / block * block)
      else none

/-- The sequences of ranges of bytes that write the code points of a range. -/
def sequencesOfRange : (fuel : Nat) → Nat → Nat → List (List ByteRange)
  | 0, _, _ => []
  | fuel + 1, first, last =>
    match cut? first last with
    | some n => sequencesOfRange fuel first (n - 1) ++ sequencesOfRange fuel n last
    | none => [(codeBytes first).zip (codeBytes last)]

/-- The code points that are no characters by themselves. -/
def surrogates : CharSet := .ofRange 0xd800 0xdfff

/-- The sequences of ranges of bytes that write the characters of a set. -/
def byteSequences (set : CharSet) : List (List ByteRange) :=
  (set \ surrogates).ranges.flatMap fun r => sequencesOfRange 24 r.first r.last

/-! ## Sets -/

-- A sum starts at the core zero, whatever else is imported.
attribute [local instance (5000)] Zero.ofOfNat0

/-- Room forwards and backwards, in bytes. -/
structure Weight where
  forwards : Nat
  backwards : Nat

namespace Weight

instance : Add Weight := ⟨fun a b => ⟨a.forwards + b.forwards, a.backwards + b.backwards⟩⟩

instance : Zero Weight := ⟨⟨0, 0⟩⟩

/-- The same room in both directions. -/
def both (n : Nat) : Weight := ⟨n, n⟩

/-- So many times the room. -/
def scale (n : Nat) (w : Weight) : Weight := ⟨n * w.forwards, n * w.backwards⟩

/-- A state. -/
def state : Nat := 32

/-- A way on from a state that has several. -/
def way : Nat := 4

/-- A way on from a state for a range of bytes. -/
def rangeWay : Nat := 8

/-- How long the common beginning of two sequences is. -/
def commonPrefix : List ByteRange → List ByteRange → Nat
  | a :: as, b :: bs => if a = b then commonPrefix as bs + 1 else 0
  | _, _ => 0

/-- How many ranges sequences have, where what one has in common with the one before at
the beginning does not count again. -/
def sharedRanges (before : List ByteRange) : List (List ByteRange) → Nat
  | [] => 0
  | s :: rest => s.length - commonPrefix before s + sharedRanges s rest

/-- The sequences by the ranges they begin with: what follows each. -/
def byFirst : List (List ByteRange) → List (ByteRange × List (List ByteRange))
  | [] => []
  | [] :: rest => byFirst rest
  | (r :: s) :: rest =>
    match byFirst rest with
    | (r', tails) :: groups =>
      if r = r' then (r, s :: tails) :: groups else (r, [s]) :: (r', tails) :: groups
    | [] => [(r, [s])]

/-- The states that read sequences of at most `fuel` ranges, each as what it reads. -/
def statesOf : (fuel : Nat) → List (List ByteRange) → List (List (List ByteRange))
  | 0, _ => []
  | fuel + 1, sequences =>
    sequences :: (byFirst sequences).flatMap fun (_, tails) =>
      if tails.all List.isEmpty then [] else statesOf fuel tails

/-- The room for reading a character of a set. -/
def ofSet (set : CharSet) : Weight :=
  if set.isAscii then both (2 * state + rangeWay * set.ranges.length)
  else
    let sequences := byteSequences set
    let states := (statesOf 4 sequences).eraseDups
    { forwards := state + (states.map fun s => state + rangeWay * (byFirst s).length).sum
      backwards := 2 * state + state * sharedRanges [] sequences + way * sequences.length }

/-! ## Branches that are texts -/

/-- Adds a word to groups of words, the last group first: to the last one, or behind a
new cut if the word is at its end. Cuts in front of all words count once. -/
def addWord (groups : List (List (List Nat))) (word : List Nat) : List (List (List Nat)) :=
  match word, groups with
  | [], _ =>
    if groups.length ≠ 1 && groups.all List.isEmpty then groups else [] :: groups
  | word, group :: before => (word :: group) :: before
  | word, [] => [[word]]

/-- What follows each of the bytes that some words begin with. -/
def tailsByFirst (words : List (List Nat)) : List (List (List Nat)) :=
  (words.filterMap List.head?).eraseDups.map fun b =>
    (words.filter fun w => w.head? = some b).map List.tail

/-- The room for a tree of words, of which those with a common beginning share it. A
word that ends within another separates what came before it from what comes after. -/
def tree : (fuel : Nat) → List (List Nat) → Nat
  | 0, _ => 0
  | fuel + 1, words =>
    let groups := words.foldl addWord [[]]
    let branches := (groups.map tailsByFirst).filter (!·.isEmpty)
    let reads := branches.map fun tails =>
      if tails.length = 1 then state else state + rangeWay * tails.length
    let below := branches.flatten.map fun tails =>
      if tails.all List.isEmpty then 0 else tree fuel tails
    state + way * (branches.length + (groups.length - 1)) + reads.sum + below.sum

/-- The bytes that write a text. -/
def textBytes (text : List Char) : List Nat := text.flatMap fun c => codeBytes c.toNat

/-- The room for one of some texts. -/
def ofTexts (texts : List (List Char)) : Weight :=
  let words := texts.map textBytes
  let fuel := (words.map List.length).foldl max 0 + 1
  both state + ⟨tree fuel words, tree fuel (words.map List.reverse)⟩

end Weight

/-! ## Patterns -/

namespace Core

open Weight

mutual

/-- The sets of which characters are read, in addition to others. -/
def sets (others : List CharSet) : Core → List CharSet
  | .oneOf set => set :: others
  | .repeated body _ _ _ => body.sets others
  | .group _ body => body.sets others
  | .sequence parts => setsOfAll others parts
  | .choice branches => setsOfAll others branches
  | _ => others

/-- The sets of which some parts read characters, in addition to others. -/
def setsOfAll (others : List CharSet) : List Core → List CharSet
  | [] => others
  | part :: rest => setsOfAll (part.sets others) rest

end

/-- The text that a part reads, if it reads just one. -/
def text? : Core → Option (List Char)
  | .literal cs => some cs
  | _ => none

variable (setWeight : CharSet → Weight)

mutual

/-- The room for a meaning, given the room for sets. -/
def weight : Core → Weight
  | .nothing => both state
  | .literal cs => both (state * (cs.map Char.utf8Size).sum)
  | .oneOf set => setWeight set
  | .require _ => both state
  | .repeated body min max _ =>
    let w := body.weight
    let turn := both (state + 2 * way)
    match max with
    | none =>
      if min = 0 then
        if body.minLength?.getD 0 = 0 then w + turn + turn + both state else w + turn
      else w.scale min + turn
    | some max =>
      if min = max then w.scale min
      else
        let exit := if min = 0 ∧ max ≠ 1 then both (2 * state) else both state
        w.scale max + turn.scale (max - min) + exit
  | .group _ body => body.weight + ⟨2 * state, 0⟩
  | .sequence parts => weightOfAll 0 parts
  | .choice branches =>
    match branches.mapM text? with
    | some texts => ofTexts texts
    | none => both (2 * state + way * branches.length) + weightOfAll 0 branches

/-- The room for some parts, in addition to other room. -/
def weightOfAll (sum : Weight) : List Core → Weight
  | [] => sum
  | part :: rest => weightOfAll (sum + part.weight) rest

end

/-- **Size.** The room for a pattern that means something: for searching the places
where it starts, for noting where it starts and stops, and for accepting it. -/
def size (core : Core) : Nat :=
  let weights := (core.sets []).eraseDups.map fun set => (set, Weight.ofSet set)
  let search := both (3 * state + 2 * way + rangeWay)
  let w := core.weight (fun set => (weights.lookup set).getD (Weight.ofSet set))
    + search + ⟨3 * state, state⟩
  Nat.max w.forwards w.backwards

end Core

/-- The room that a pattern may take. -/
def sizeLimit : Nat := 10485760

end Pattern

end Switchboard
