import Switchboard.Task
/-!
# Tasks against a deadline

How the three ways to run a task go together. A run never turns the clock back
(`now_le_run`). Up to a deadline a task comes to the end of its run if that is no later
than the deadline, or takes no time from where the clock stands
(`runUntil_of_le`), and to none otherwise (`runUntil_of_lt`). Its first poll takes no
time, and what is left then goes on to the same end (`run_of_poll_asleep`).
-/

namespace Switchboard

namespace Task

variable {ρ α : Type} {see : Nat → ρ} {c c' : Clock} {x next : Task ρ α}
variable {deadline ms : Nat}

/-! ## Time goes on -/

theorem now_le_run (see : Nat → ρ) (c : Clock) (x : Task ρ α) : c.now ≤ (run see c x).2.now := by
  induction x generalizing c with
  | done a => exact Nat.le_refl _
  | look k ih => exact ih (see c.looks) c.looked
  | sleep ms next ih => exact Nat.le_trans (Nat.le_add_right _ _) (ih (c.after ms))

/-! ## Up to a deadline -/

/-- **A task that is done by the deadline ends as it would without one,** and so does one that takes
no time. -/
theorem runUntil_of_le (h : (run see c x).2.now ≤ max c.now deadline) :
    runUntil deadline see c x = (some (run see c x).1, (run see c x).2) := by
  induction x generalizing c with
  | done a => rfl
  | look k ih => exact ih (see c.looks) h
  | sleep ms next ih =>
    cases ms with
    | zero => exact ih h
    | succ ms =>
      -- the wait itself is over by the deadline, since what follows takes no less
      have hwait : c.now + (ms + 1) ≤ (run see (c.after (ms + 1)) next).2.now :=
        now_le_run see (c.after (ms + 1)) next
      have hend : (run see (c.after (ms + 1)) next).2.now ≤ max c.now deadline := h
      have hle : c.now + (ms + 1) ≤ deadline := by omega
      rw [runUntil, if_pos hle]
      exact ih (Nat.le_trans hend (by omega))

/-- **One that is not has no result,** and the clock stands at the deadline, unless that has passed
before. -/
theorem runUntil_of_lt (h : max c.now deadline < (run see c x).2.now) :
    (runUntil deadline see c x).1 = none ∧
      (runUntil deadline see c x).2.now = max c.now deadline := by
  induction x generalizing c with
  | done a =>
    have hnow : max c.now deadline < c.now := h
    omega
  | look k ih => exact ih (see c.looks) h
  | sleep ms next ih =>
    cases ms with
    | zero => exact ih h
    | succ ms =>
      rw [runUntil]
      split
      · next hle =>
        have hmax : max (c.after (ms + 1)).now deadline = max c.now deadline := by
          simp only [Clock.after]
          omega
        have hrest := @ih (c.after (ms + 1)) (hmax ▸ h)
        rwa [hmax] at hrest
      · exact ⟨rfl, rfl⟩

/-! ## Up to the first wait -/

/-- What waits at the first poll goes on to the end of its run. -/
theorem run_of_poll_asleep (h : poll see c x = (.asleep ms next, c')) :
    run see c x = run see (c'.after ms) next ∧ c'.now = c.now ∧ 0 < ms := by
  induction x generalizing c with
  | done b => cases h
  | look k ih => exact ih (see c.looks) h
  | sleep ms' next' ih =>
    cases ms' with
    | zero => exact ih h
    | succ ms' =>
      cases h
      exact ⟨rfl, rfl, Nat.succ_pos _⟩

end Task

end Switchboard
