import Switchboard.Unicode.CharSet
/-!
# What patterns mean

A pattern comes down to characters, sets of characters, conditions on places, and
sequences, choices, repetitions and groups of these. The parts of this type are built
by functions that keep them simple: a sequence holds no sequence, a choice no choice,
and nothing is repeated that can be said without a repetition.

Simplifying a choice may move what its branches begin with in front of it. That makes
the way one begins decide before the branches do.
-/

namespace Switchboard

namespace Pattern

/-! ## Conditions -/

/-- A condition on a place, which reads nothing. -/
inductive Condition where
  | textStart
  | textEnd
  | lineStart
  | lineEnd
  | returnLineStart
  | returnLineEnd
  | wordBoundary (unicode : Bool)
  | noWordBoundary (unicode : Bool)
  | wordStart (unicode : Bool)
  | wordEnd (unicode : Bool)
  | wordStartHalf (unicode : Bool)
  | wordEndHalf (unicode : Bool)
  deriving DecidableEq

/-! ## Meanings -/

/-- What a pattern means. -/
inductive Core where
  | nothing
  | literal (chars : List Char)
  | oneOf (set : CharSet)
  | require (condition : Condition)
  | repeated (body : Core) (min : Nat) (max : Option Nat) (greedy : Bool)
  | group (index : Nat) (body : Core)
  | sequence (parts : List Core)
  | choice (branches : List Core)

namespace Core

mutual

/-- Whether two meanings are built in the same way. -/
def beq : Core → Core → Bool
  | .nothing, .nothing => true
  | .literal a, .literal b => a == b
  | .oneOf a, .oneOf b => a == b
  | .require a, .require b => a == b
  | .repeated a min max greedy, .repeated b min' max' greedy' =>
    min == min' && max == max' && greedy == greedy' && beq a b
  | .group i a, .group j b => i == j && beq a b
  | .sequence a, .sequence b => beqAll a b
  | .choice a, .choice b => beqAll a b
  | _, _ => false

/-- Whether the meanings of two lists are built in the same way. -/
def beqAll : List Core → List Core → Bool
  | [], [] => true
  | a :: as, b :: bs => beq a b && beqAll as bs
  | _, _ => false

end

instance : BEq Core := ⟨beq⟩

/-! ## Lengths -/

/-- The sum of two lengths, if there are such. -/
def addLengths (a b : Option Nat) : Option Nat := do return (← a) + (← b)

/-- One of two lengths, if there are both. -/
def chooseLength (choose : Nat → Nat → Nat) (a b : Option Nat) : Option Nat := do
  return choose (← a) (← b)

mutual

/-- How many characters are read at least. There is no such number where nothing can be
read at all. -/
def minLength? : Core → Option Nat
  | .nothing => some 0
  | .literal cs => some cs.length
  | .oneOf set => if set.isEmpty then none else some 1
  | .require _ => some 0
  | .repeated body min _ _ => body.minLength?.map (· * min)
  | .group _ body => body.minLength?
  | .sequence parts => sumMinLengths (some 0) parts
  | .choice branches => leastMinLength branches

/-- The least lengths of some parts together, on top of a length. -/
def sumMinLengths (sum : Option Nat) : List Core → Option Nat
  | [] => sum
  | part :: rest => sumMinLengths (addLengths sum part.minLength?) rest

/-- The least of the least lengths of some branches. -/
def leastMinLength : List Core → Option Nat
  | [] => none
  | [branch] => branch.minLength?
  | branch :: rest => chooseLength Nat.min branch.minLength? (leastMinLength rest)

end

mutual

/-- How many characters are read at most, if there is such a number. -/
def maxLength? : Core → Option Nat
  | .nothing => some 0
  | .literal cs => some cs.length
  | .oneOf set => if set.isEmpty then none else some 1
  | .require _ => some 0
  | .repeated body _ max _ => chooseLength Nat.mul body.maxLength? max
  | .group _ body => body.maxLength?
  | .sequence parts => sumMaxLengths (some 0) parts
  | .choice branches => greatestMaxLength branches

/-- The greatest lengths of some parts together, on top of a length. -/
def sumMaxLengths (sum : Option Nat) : List Core → Option Nat
  | [] => sum
  | part :: rest => sumMaxLengths (addLengths sum part.maxLength?) rest

/-- The greatest of the greatest lengths of some branches. -/
def greatestMaxLength : List Core → Option Nat
  | [] => none
  | [branch] => branch.maxLength?
  | branch :: rest => chooseLength Nat.max branch.maxLength? (greatestMaxLength rest)

end

/-! ## Building -/

/-- What reads nothing and holds nowhere. -/
def fail : Core := .oneOf .empty

/-- Reading one character of a set. -/
def ofSet (set : CharSet) : Core :=
  match set.ranges with
  | [⟨first, last⟩] =>
    if h : first = last ∧ first.isValidChar then .literal [Char.ofNatAux first h.2] else .oneOf set
  | _ => .oneOf set

/-- Reading something again and again. What reads nothing is not repeated: once is
enough. -/
def ofRepetition (body : Core) (min : Nat) (max : Option Nat) (greedy : Bool) : Core :=
  let readsNothing := body.maxLength? = some 0
  let min := if readsNothing then Nat.min min 1 else min
  let max := if readsNothing then some ((max.map (Nat.min · 1)).getD 1) else max
  if min = 0 ∧ max = some 0 then .nothing
  else if min = 1 ∧ max = some 1 then body
  else .repeated body min max greedy

/-- A part in front of others, with adjacent characters joined. -/
def consPart (part : Core) (behind : List Core) : List Core :=
  match part, behind with
  | .nothing, _ => behind
  | .literal cs, .literal ds :: rest => .literal (cs ++ ds) :: rest
  | part, _ => part :: behind

/-- The parts that a part of a sequence stands for. -/
def partsOf : Core → List Core
  | .sequence parts => parts
  | part => [part]

/-- One thing after the other. -/
def ofParts (parts : List Core) : Core :=
  match (parts.flatMap partsOf).foldr consPart [] with
  | [] => .nothing
  | [part] => part
  | parts => .sequence parts

/-- The branches that a branch of a choice stands for. -/
def branchesOf : Core → List Core
  | .choice branches => branches
  | branch => [branch]

/-- The character that something reads, if it is but one. -/
def char? : Core → Option Nat
  | .literal [c] => some c.toNat
  | _ => none

/-- The set of characters that something reads one of, unless it is but one character. -/
def set? : Core → Option CharSet
  | .oneOf set => some set
  | _ => none

/-- The set of the characters of some branches, if all are single characters, or all
sets. -/
def setOfBranches? (branches : List Core) : Option CharSet :=
  (branches.mapM char?).map CharSet.ofList
    <|> (branches.mapM set?).map fun sets => .ofRanges (sets.flatMap CharSet.ranges)

/-- One branch or another, with nothing moved in front. -/
def ofPlainBranches (branches : List Core) : Core :=
  match branches with
  | [] => fail
  | [branch] => branch
  | branches =>
    match setOfBranches? branches with
    | some set => ofSet set
    | none => .choice branches

/-- The parts of something in sequence. -/
def sequence? : Core → Option (List Core)
  | .sequence parts => some parts
  | _ => none

/-- How many parts two sequences have in common at the beginning. -/
def commonLength : List Core → List Core → Nat
  | a :: as, b :: bs => if a == b then commonLength as bs + 1 else 0
  | _, _ => 0

/-- How many parts a sequence has in common with each of others at the beginning. -/
def sharedLength (first : List Core) (rest : List (List Core)) : Nat :=
  rest.foldl (fun n parts => commonLength (first.take n) parts) first.length

/-- One branch or another, the first that can be had. What sequences have in common at
the beginning is moved in front. -/
def ofBranches (branches : List Core) : Core :=
  let flat := branches.flatMap branchesOf
  match flat.mapM sequence? with
  | some (first :: second :: rest) =>
    let n := sharedLength first (second :: rest)
    if n = 0 then .choice flat
    else
      let behind := (first :: second :: rest).map fun parts => ofParts (parts.drop n)
      ofParts (first.take n ++ [ofPlainBranches (behind.flatMap branchesOf)])
  | _ => ofPlainBranches flat

end Core

end Pattern

end Switchboard
