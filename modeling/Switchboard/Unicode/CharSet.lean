/-!
# Sets of characters

A set of code points is a list of ranges in order, with gaps between them, so that
equal sets are equal lists. Sets are joined, met, subtracted and complemented within
the code points of Unicode.
-/

namespace Switchboard

/-- The code points from the first to the last. -/
structure CharRange where
  first : Nat
  last : Nat
  deriving DecidableEq

/-- A set of code points. -/
structure CharSet where
  ranges : List CharRange
  deriving DecidableEq

namespace CharSet

/-- The last code point of Unicode. -/
def lastCodePoint : Nat := 0x10ffff

/-- No code point. -/
def empty : CharSet := ⟨[]⟩

/-- Ranges that are in order of their first code points, with those that touch
joined. -/
def join : List CharRange → List CharRange
  | [] => []
  | [r] => [r]
  | r :: s :: rest =>
    if s.first ≤ r.last + 1 then join (⟨r.first, max r.last s.last⟩ :: rest)
    else r :: join (s :: rest)
termination_by rs => rs.length

/-- The set of the code points in some ranges. -/
def ofRanges (rs : List CharRange) : CharSet :=
  ⟨join (rs.mergeSort fun r s => r.first ≤ s.first)⟩

/-- The set of one range. -/
def ofRange (first last : Nat) : CharSet := ⟨[⟨first, last⟩]⟩

/-- The set of one code point. -/
def singleton (n : Nat) : CharSet := ofRange n n

/-- The set of some code points. -/
def ofList (ns : List Nat) : CharSet := ofRanges (ns.map fun n => ⟨n, n⟩)

/-- Whether a code point is in ranges that are in order. -/
def inRanges (n : Nat) : List CharRange → Bool
  | [] => false
  | r :: rest => r.first ≤ n && (n ≤ r.last || inRanges n rest)

/-- Whether a code point is in the set. -/
def has (s : CharSet) (n : Nat) : Bool := inRanges n s.ranges

/-- Whether a character is in the set. -/
def contains (s : CharSet) (c : Char) : Bool := s.has c.toNat

/-- Whether there is no code point in the set. -/
def isEmpty (s : CharSet) : Bool := s.ranges.isEmpty

/-- Whether there are only code points of ASCII in the set. -/
def isAscii (s : CharSet) : Bool := s.ranges.all fun r => r.last < 0x80

/-- The code points of both sets. -/
def union (s t : CharSet) : CharSet := ofRanges (s.ranges ++ t.ranges)

/-- The code points from `first` on that are in none of the ranges. -/
def gaps (first : Nat) : List CharRange → List CharRange
  | [] => if first ≤ lastCodePoint then [⟨first, lastCodePoint⟩] else []
  | r :: rest =>
    (if first < r.first then [⟨first, r.first - 1⟩] else []) ++ gaps (r.last + 1) rest

/-- The code points that are not in the set. -/
def complement (s : CharSet) : CharSet := ⟨gaps 0 s.ranges⟩

/-- The code points in both sets. -/
def inter (s t : CharSet) : CharSet := (union s.complement t.complement).complement

/-- The code points of one set that are not in another. -/
def diff (s t : CharSet) : CharSet := s.inter t.complement

/-- The code points in exactly one of two sets. -/
def symmDiff (s t : CharSet) : CharSet := (s.union t).diff (s.inter t)

instance : Union CharSet := ⟨union⟩

instance : Inter CharSet := ⟨inter⟩

instance : SDiff CharSet := ⟨diff⟩

end CharSet

end Switchboard
