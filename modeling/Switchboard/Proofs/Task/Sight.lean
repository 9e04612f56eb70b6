import Switchboard.Proofs.Task.Runs
/-!
# What a task sees of its surroundings

A task may be one that sees a part of its surroundings only (`SeesOnly`), whatever else there is. So
it goes alike wherever that part is the same: to its end (`SeesOnly.run_congr`) and up to a deadline
(`SeesOnly.runUntil_congr`). What is left of it meanwhile sees no more than it did
(`SeesOnly.of_poll`).
-/

namespace Switchboard

namespace Task

variable {ρ σ α : Type} {part : σ → ρ} {see see' : Nat → σ} {c c' : Clock} {x next : Task σ α}
variable {ms : Nat}

/-- **All that the task sees of its surroundings is a part of them.** -/
def SeesOnly (part : σ → ρ) (x : Task σ α) : Prop := ∃ y : Task ρ α, x = y.within part

theorem seesOnly_done (part : σ → ρ) (a : α) : SeesOnly part (.done a) := ⟨.done a, rfl⟩

theorem seesOnly_within (part : σ → ρ) (y : Task ρ α) : SeesOnly part (y.within part) := ⟨y, rfl⟩

theorem SeesOnly.sleep (h : SeesOnly part x) (ms : Nat) : SeesOnly part (.sleep ms x) := by
  obtain ⟨y, rfl⟩ := h
  exact seesOnly_within part (.sleep ms y)

/-! ## Where that part is the same -/

/-- Its run is the same. -/
theorem SeesOnly.run_congr (h : SeesOnly part x) (hsee : ∀ i, part (see i) = part (see' i))
    (c : Clock) : run see c x = run see' c x := by
  obtain ⟨y, rfl⟩ := h
  rw [run_within, run_within, funext hsee]

theorem runUntil_within (deadline : Nat) (see : Nat → σ) (part : σ → ρ) (c : Clock)
    (x : Task ρ α) :
    runUntil deadline see c (x.within part) = runUntil deadline (fun i => part (see i)) c x := by
  induction x generalizing c with
  | done a => rfl
  | look k ih => exact ih (part (see c.looks)) c.looked
  | sleep ms next ih =>
    cases ms with
    | zero => exact ih c
    | succ ms => rw [within, runUntil, runUntil, ih]

/-- So is its run up to a deadline. -/
theorem SeesOnly.runUntil_congr (h : SeesOnly part x) (hsee : ∀ i, part (see i) = part (see' i))
    (deadline : Nat) (c : Clock) : runUntil deadline see c x = runUntil deadline see' c x := by
  obtain ⟨y, rfl⟩ := h
  rw [runUntil_within, runUntil_within, funext hsee]

/-! ## What is left of it -/

/-- What waits at the first poll sees no more than the whole. -/
theorem SeesOnly.of_poll (h : SeesOnly part x) (hpoll : poll see c x = (.asleep ms next, c')) :
    SeesOnly part next := by
  obtain ⟨y, rfl⟩ := h
  induction y generalizing c with
  | done a => cases hpoll
  | look k ih => exact ih (part (see c.looks)) hpoll
  | sleep ms' next' ih =>
    cases ms' with
    | zero => exact ih hpoll
    | succ ms' =>
      cases hpoll
      exact seesOnly_within part next'

end Task

end Switchboard
