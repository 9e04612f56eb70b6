/-!
# Tasks

A task is a computation that may look at its surroundings and may let time
pass before it finishes. Whoever runs it shows it the surroundings as they are
at that moment, and decides when the time has passed. Tasks are sequenced by
`Task.bind`, which makes them a lawful monad.

`Task.outcome` runs a task in surroundings that do not change; `Task.run` runs
one on a clock, `Task.poll` up to its next wait, and `Task.runUntil` up to a
deadline.
-/

namespace Switchboard

/-- A computation of an `α` in surroundings of type `ρ`. -/
inductive Task (ρ α : Type) where
  /-- Finished, with a result. -/
  | done (result : α)
  /-- Goes on by what it sees around it. -/
  | look (next : ρ → Task ρ α)
  /-- Goes on once the milliseconds have passed. -/
  | sleep (milliseconds : Nat) (next : Task ρ α)

namespace Task

variable {ρ σ α β : Type}

/-! ## Sequencing -/

/-- The first task, then the one that its result gives. -/
def bind : Task ρ α → (α → Task ρ β) → Task ρ β
  | .done a, f => f a
  | .look k, f => .look fun r => bind (k r) f
  | .sleep ms next, f => .sleep ms (bind next f)

instance : Monad (Task ρ) where
  pure := .done
  bind := bind

@[simp] theorem pure_eq (a : α) : (pure a : Task ρ α) = .done a := rfl

@[simp] theorem bind_done (a : α) (f : α → Task ρ β) : (Task.done a >>= f) = f a := rfl

@[simp] theorem bind_look (k : ρ → Task ρ α) (f : α → Task ρ β) :
    (Task.look k >>= f) = .look fun r => k r >>= f := rfl

@[simp] theorem bind_sleep (ms : Nat) (next : Task ρ α) (f : α → Task ρ β) :
    (Task.sleep ms next >>= f) = .sleep ms (next >>= f) := rfl

theorem bind_pure' (x : Task ρ α) : x.bind .done = x := by
  induction x with
  | done => rfl
  | look k ih => exact congrArg look (funext ih)
  | sleep ms next ih => exact congrArg (sleep ms) ih

theorem bind_assoc' {γ : Type} (x : Task ρ α) (f : α → Task ρ β) (g : β → Task ρ γ) :
    (x.bind f).bind g = x.bind fun a => (f a).bind g := by
  induction x with
  | done => rfl
  | look k ih => exact congrArg look (funext ih)
  | sleep ms next ih => exact congrArg (sleep ms) ih

instance : LawfulMonad (Task ρ) :=
  LawfulMonad.mk' (Task ρ) bind_pure' (fun _ _ => rfl) bind_assoc'

/-- The surroundings. -/
def surroundings : Task ρ ρ := .look .done

/-- The task in richer surroundings, of which it sees a part. -/
def within (part : σ → ρ) : Task ρ α → Task σ α
  | .done a => .done a
  | .look k => .look fun s => within part (k (part s))
  | .sleep ms next => .sleep ms (within part next)

/-! ## Running in still surroundings -/

/-- The result in surroundings that stay as they are. -/
def outcome (r : ρ) : Task ρ α → α
  | .done a => a
  | .look k => outcome r (k r)
  | .sleep _ next => outcome r next

@[simp] theorem outcome_pure (r : ρ) (a : α) : outcome r (pure a : Task ρ α) = a := rfl

@[simp] theorem outcome_bind (r : ρ) (x : Task ρ α) (f : α → Task ρ β) :
    outcome r (x >>= f) = outcome r (f (outcome r x)) := by
  induction x with
  | done => rfl
  | look k ih => exact ih r
  | sleep ms next ih => exact ih

/-! ## Running on a clock -/

/-- A clock that tells the time in milliseconds and counts the looks that have
been taken. -/
structure Clock where
  now : Nat := 0
  looks : Nat := 0

/-- The clock after the milliseconds. -/
def Clock.after (c : Clock) (milliseconds : Nat) : Clock :=
  { c with now := c.now + milliseconds }

/-- The clock after a look. -/
def Clock.looked (c : Clock) : Clock := { c with looks := c.looks + 1 }

/-- Runs the task to its end, where the `i`-th look sees `see i`. -/
def run (see : Nat → ρ) (c : Clock) : Task ρ α → α × Clock
  | .done a => (a, c)
  | .look k => run see c.looked (k (see c.looks))
  | .sleep ms next => run see (c.after ms) next

/-- In still surroundings a run ends with the outcome. -/
theorem run_still (r : ρ) (c : Clock) (x : Task ρ α) :
    (run (fun _ => r) c x).1 = outcome r x := by
  induction x generalizing c with
  | done => rfl
  | look k ih => exact ih r c.looked
  | sleep ms next ih => exact ih (c.after ms)

/-- What running up to the next wait leaves: a result, or a wait and the task
behind it. -/
inductive Progress (ρ α : Type) where
  | finished (result : α)
  | asleep (milliseconds : Nat) (next : Task ρ α)

/-- Runs the task up to its next wait. A wait of no time is none. -/
def poll (see : Nat → ρ) (c : Clock) : Task ρ α → Progress ρ α × Clock
  | .done a => (.finished a, c)
  | .look k => poll see c.looked (k (see c.looks))
  | .sleep 0 next => poll see c next
  | .sleep (ms + 1) next => (.asleep (ms + 1) next, c)

/-- Runs the task until it ends or would wait beyond the deadline. In the latter
case there is no result, and the clock stands at the deadline, unless that has
passed before. -/
def runUntil (deadline : Nat) (see : Nat → ρ) (c : Clock) : Task ρ α → Option α × Clock
  | .done a => (some a, c)
  | .look k => runUntil deadline see c.looked (k (see c.looks))
  | .sleep 0 next => runUntil deadline see c next
  | .sleep (ms + 1) next =>
    if c.now + (ms + 1) ≤ deadline then runUntil deadline see (c.after (ms + 1)) next
    else (none, { c with now := max c.now deadline })

end Task

end Switchboard
