import Switchboard.Registry.Dispatch
import Switchboard.Traffic.Admission
/-!
# Calls under way

A call is made of a server with a limited number of permits, and may have a
limited time (`Flight.make`). Admission is decided when the call is made. Its time
counts from when it is first run, and so do the waits of its task; then it is
either over or asleep (`Flight.start`), and it can be run to its end later
(`Flight.finish`). Whenever both the task and the time limit are due, the task goes
first.
-/

namespace Switchboard

/-- What stands between a caller and an operation: whether calls need a permit,
and whether their time is limited. -/
structure Guards where
  admission : Bool
  timeLimit : Bool

/-- Both guards: every ordinary call passes them. -/
def Guards.full : Guards := ⟨true, true⟩

/-- A call that is not over. -/
structure Flight where
  /-- Whether it holds a permit. -/
  holdsPermit : Bool
  /-- How many milliseconds it may take. -/
  allowance : Option Nat
  /-- When it was first run. -/
  startedAt : Option Nat := none
  /-- When it goes on. -/
  wakesAt : Nat := 0
  /-- What is left of it. -/
  task : CallTask

namespace Flight

/-- **Makes a call:** it is let in or turned away, and nothing of it runs yet. -/
def make (guards : Guards) (a : Admission) (allowance : Nat) (task : CallTask) :
    Flight × Admission :=
  let allowance := if guards.timeLimit then some allowance else none
  if guards.admission then
    match a.take with
    | (true, a) => (⟨true, allowance, none, 0, task⟩, a)
    | (false, a) => (⟨false, none, none, 0, .done (.error .overloaded)⟩, a)
  else (⟨false, allowance, none, 0, task⟩, a)

/-- The permits after the call is over. -/
def giveBack (f : Flight) (a : Admission) : Admission := if f.holdsPermit then a.release else a

/-- When the call is given up, with the time it may take. -/
def deadline? (f : Flight) (c : Task.Clock) : Option (Nat × Nat) :=
  f.allowance.map fun ms => (f.startedAt.getD c.now + ms, ms)

/-- The first run of a call: its result, or the call asleep. -/
def start (see : Nat → Moment) (c : Task.Clock) (f : Flight) :
    (Except CallError Json ⊕ Flight) × Task.Clock :=
  match f.task.poll see c with
  | (.finished outcome, c) => (.inl outcome, c)
  | (.asleep ms next, c) =>
    match f.allowance with
    | some 0 => (.inl (.error (.timedOut 0)), c)
    | _ => (.inr { f with startedAt := some c.now, wakesAt := c.now + ms, task := next }, c)

/-- Runs a call to its end, or to the end of its time. -/
def finish (see : Nat → Moment) (c : Task.Clock) (f : Flight) :
    Except CallError Json × Task.Clock :=
  let rest := Task.sleep (f.wakesAt - c.now) f.task
  match f.deadline? c with
  | none => rest.run see c
  | some (deadline, ms) =>
    match rest.runUntil deadline see c with
    | (some outcome, c) => (outcome, c)
    | (none, c) => (.error (.timedOut ms), c)

end Flight

end Switchboard
