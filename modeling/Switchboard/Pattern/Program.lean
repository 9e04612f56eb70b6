import Switchboard.Pattern.Core
/-!
# Programs

A pattern is run as a program: instructions that read a character, note a place, ask
for a condition, or go two ways, one of them first. A program is assembled from behind:
everything is assembled in front of the instruction that it goes on with.
-/

namespace Switchboard

namespace Pattern

/-- A step of a program, with the number of the instruction behind it. Places are noted
in slots: group `i` starts in slot `2 * i` and stops in the next. -/
inductive Instruction where
  | accept
  | read (set : CharSet) (next : Nat)
  | require (condition : Condition) (next : Nat)
  | note (slot next : Nat)
  | split (first second : Nat)

/-- Instructions by number. -/
abbrev Code := Array Instruction

/-- A program, and the instruction that it starts with. -/
structure Program where
  code : Code
  entry : Nat

/-! ## Assembling -/

/-- Assembling some instructions. -/
abbrev Assembly := StateM Code

namespace Assembly

/-- What assembles something in front of an instruction, and answers the instruction
that it starts with. -/
abbrev Part := Nat → Assembly Nat

/-- The number of a new instruction. -/
def emit (i : Instruction) : Assembly Nat := do
  modifyGet fun code => (code.size, code.push i)

/-- A new instruction that goes two ways, the first of which is the way in if the
repetition is greedy. -/
def branch (greedy : Bool) (inside outside : Nat) : Instruction :=
  if greedy then .split inside outside else .split outside inside

/-- One part in front of the other; the parts stand in reverse. -/
def inReverse (parts : List Part) : Part := fun next =>
  parts.foldlM (fun next part => part next) next

/-- So many copies of a part. -/
def copies (part : Part) : Nat → Part
  | 0, next => return next
  | n + 1, next => do copies part n (← part next)

/-- A part at most so often, where leaving out one copy leaves out those behind it:
all go on with the same instruction. -/
def atMost (greedy : Bool) (part : Part) (exit : Nat) : Nat → Part
  | 0, next => return next
  | n + 1, next => do atMost greedy part exit n (← emit (branch greedy (← part next) exit))

/-- A part that can be repeated: the instruction that goes round or on, and the one the
part starts with. -/
def loop (greedy : Bool) (part : Part) (next : Nat) : Assembly (Nat × Nat) := do
  let turn ← emit (.split next next)
  let entry ← part turn
  modify fun code => code.setIfInBounds turn (branch greedy entry next)
  return (turn, entry)

/-- A part any number of times. A part that can read nothing is entered once more from
outside, so that going round without reading is told from not going in. -/
def anyNumber (greedy readsNothing : Bool) (part : Part) : Part := fun next => do
  let (turn, entry) ← loop greedy part next
  if readsNothing then emit (branch greedy entry next) else return turn

/-- A part at least so often. -/
def atLeast (greedy readsNothing : Bool) (part : Part) : Nat → Part
  | 0, next => anyNumber greedy readsNothing part next
  | n + 1, next => do copies part n (← loop greedy part next).2

/-- A part at least and at most so often. -/
def repeated (min : Nat) (max : Option Nat) (greedy readsNothing : Bool) (part : Part) :
    Part := fun next =>
  match max with
  | none => atLeast greedy readsNothing part min next
  | some max => do copies part min (← atMost greedy part next (max - min) next)

/-- The first of some parts, or the second, and so on. -/
def oneOfParts (parts : List Part) : Part := fun next => do
  match (← parts.mapM fun part => part next).reverse with
  | [] => emit (.read .empty next)
  | last :: before => before.foldlM (fun second first => emit (.split first second)) last

end Assembly

open Assembly

mutual

/-- What assembles a meaning. -/
def Core.assemble : Core → Part
  | .nothing => fun next => return next
  | .literal cs => fun next =>
    cs.reverse.foldlM (fun next c => emit (.read (.singleton c.toNat) next)) next
  | .oneOf set => fun next => emit (.read set next)
  | .require condition => fun next => emit (.require condition next)
  | .repeated body min max greedy =>
    Assembly.repeated min max greedy (body.minLength?.getD 0 = 0) body.assemble
  | .group index body => fun next => do
    let entry ← body.assemble (← emit (.note (2 * index + 1) next))
    emit (.note (2 * index) entry)
  | .sequence parts => inReverse (Core.assembleAll [] parts)
  | .choice branches => oneOfParts (Core.assembleAll [] branches).reverse

/-- What assembles some meanings, in reverse. -/
def Core.assembleAll (before : List Part) : List Core → List Part
  | [] => before
  | part :: rest => Core.assembleAll (part.assemble :: before) rest

end

/-- **Assembling.** The program for a pattern that means something. The whole counts as
group zero. -/
def Program.ofCore (core : Core) : Program :=
  let (entry, code) := (Core.assemble (.group 0 core) 0).run #[.accept]
  ⟨code, entry⟩

/-- How many groups a program notes, the whole among them. -/
def Program.groupCount (p : Program) : Nat :=
  p.code.foldl (fun n i => match i with
    | .note slot _ => max n (slot / 2 + 1)
    | _ => n) 0

end Pattern

end Switchboard
