import Switchboard.Unicode.FoldingTable
import Switchboard.Unicode.Table
/-!
# Case folding

The code points fall into classes that differ in case only. A set is folded by adding,
for each of its members, the others of its class.
-/

namespace Switchboard

namespace Unicode

/-- The parts of a word between marks. -/
def splitAtMark (mark : Char) : List Char → List (List Char)
  | [] => [[]]
  | c :: cs =>
    if c = mark then [] :: splitAtMark mark cs
    else match splitAtMark mark cs with
      | [] => [[c]]
      | part :: rest => (c :: part) :: rest

/-- How a word describes a class: how far its members lie apart, and how often such a
class is repeated. -/
def foldingWord (w : List Char) : List Nat × Nat :=
  match splitAtMark '*' w with
  | [steps, count] => ((splitAtMark '+' steps).map tableNumber, tableNumber count)
  | _ => ((splitAtMark '+' w).map tableNumber, 1)

/-- The code points at some distances, each from the one before. -/
def walk (start : Nat) : List Nat → List Nat
  | [] => []
  | step :: rest => (start + step) :: walk (start + step) rest

/-- Classes of the same shape, each as far from the one before as the first is from
`start`. -/
def repeatClass (start : Nat) (steps : List Nat) : Nat → List (List Nat)
  | 0 => []
  | n + 1 => walk start steps :: repeatClass (start + steps.headD 0) steps n

/-- The classes that words describe. -/
def foldingClassesFrom (start : Nat) : List (List Char) → List (List Nat)
  | [] => []
  | w :: rest =>
    let (steps, count) := foldingWord w
    repeatClass start steps count
      ++ foldingClassesFrom (start + count * steps.headD 0) rest

/-- The classes of code points that differ in case only. -/
def foldingClasses : List (List Nat) := foldingClassesFrom 0 (words foldingTable)

end Unicode

/-- The set with what differs from its members in case only. -/
def CharSet.foldCase (s : CharSet) : CharSet :=
  s ∪ .ofList ((Unicode.foldingClasses.filter fun members => members.any s.has).flatten)

/-- The set with what differs from its members in case only, within ASCII. -/
def CharSet.foldAsciiCase (s : CharSet) : CharSet :=
  let small := CharSet.ofRange 'a'.toNat 'z'.toNat
  let large := CharSet.ofRange 'A'.toNat 'Z'.toNat
  s ∪ .ofRanges ((s ∩ small).ranges.map fun r => ⟨r.first - 32, r.last - 32⟩)
    ∪ .ofRanges ((s ∩ large).ranges.map fun r => ⟨r.first + 32, r.last + 32⟩)

end Switchboard
