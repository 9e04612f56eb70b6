import Switchboard.Proofs.Task.Runs
/-!
# What a task ends with

A task is shown its surroundings as it goes, so what it is sure to end with can be
said of the task itself (`Ends`): whatever it is shown, of a kind, it ends with a
result of a kind. That holds of every way to run it: to its end, up to a wait, or
up to a deadline, and of what is left of it meanwhile. Conversely what holds of every run
holds of the task (`ends_of_runs`).
-/

namespace Switchboard

namespace Task

variable {ρ σ α β : Type} {M : ρ → Prop} {P P' : α → Prop} {Q : β → Prop} {x : Task ρ α}
variable {f : α → Task ρ β} {see see' : Nat → ρ} {c c' : Clock}

/-- **Whatever it sees of the kind, the task ends with a result of the kind.** -/
def Ends (M : ρ → Prop) (P : α → Prop) : Task ρ α → Prop
  | .done a => P a
  | .look k => ∀ r, M r → Ends M P (k r)
  | .sleep _ next => Ends M P next

theorem ends_look {k : ρ → Task ρ α} (h : ∀ r, M r → Ends M P (k r)) : Ends M P (.look k) := h

theorem Ends.bind (hx : Ends M P x) (hf : ∀ a, P a → Ends M Q (f a)) : Ends M Q (x >>= f) := by
  induction x with
  | done a => exact hf a hx
  | look k ih => exact fun r hr => ih r (hx r hr)
  | sleep ms next ih => exact ih hx

/-- What holds of all results, it ends with. -/
theorem ends_of_forall (h : ∀ a, P a) (x : Task ρ α) : Ends M P x := by
  induction x with
  | done a => exact h a
  | look k ih => exact fun r _ => ih r
  | sleep ms next ih => exact ih

/-- What comes behind a task matters for the results only that it can end with. -/
theorem Ends.bind_congr {g : α → Task ρ β} (hx : Ends (fun _ => True) P x)
    (hf : ∀ a, P a → f a = g a) : x >>= f = x >>= g := by
  induction x with
  | done a => exact hf a hx
  | look k ih => exact congrArg look (funext fun r => ih r (hx r trivial))
  | sleep ms next ih => exact congrArg (sleep ms) (ih hx)

/-- A task that sees a part of its surroundings ends as it does where that part is all there is. -/
theorem ends_within {part : σ → ρ} {M : σ → Prop} (h : Ends (fun _ => True) P x) :
    Ends M P (x.within part) := by
  induction x with
  | done a => exact h
  | look k ih => exact fun s _ => ih (part s) (h (part s) trivial)
  | sleep ms next ih => exact ih h

/-! ## However it is run -/

/-- Whenever it starts, its run ends so. -/
theorem Ends.run (h : Ends M P x) (hsee : ∀ i, M (see i)) (c : Clock) : P (run see c x).1 := by
  induction x generalizing c with
  | done a => exact h
  | look k ih => exact ih (see c.looks) (h _ (hsee _)) c.looked
  | sleep ms next ih => exact ih h (c.after ms)

/-- Up to its next wait, it ends so, or what is left of it does. -/
def Progress.Ends (M : ρ → Prop) (P : α → Prop) : Progress ρ α → Prop
  | .finished a => P a
  | .asleep _ next => next.Ends M P

theorem Ends.poll (h : Ends M P x) (hsee : ∀ i, M (see i)) (c : Clock) :
    (poll see c x).1.Ends M P := by
  induction x generalizing c with
  | done a => exact h
  | look k ih => exact ih (see c.looks) (h _ (hsee _)) c.looked
  | sleep ms next ih =>
    cases ms with
    | zero => exact ih h c
    | succ ms => exact h

/-- Up to a deadline, it ends so if it ends. -/
theorem Ends.runUntil (h : Ends M P x) (hsee : ∀ i, M (see i)) {deadline : Nat} {a : α}
    (ha : (runUntil deadline see c x).1 = some a) : P a := by
  induction x generalizing c with
  | done b =>
    cases ha
    exact h
  | look k ih => exact ih (see c.looks) (h _ (hsee _)) ha
  | sleep ms next ih =>
    cases ms with
    | zero => exact ih h ha
    | succ ms =>
      rw [Task.runUntil] at ha
      split at ha
      · exact ih h ha
      · cases ha

/-! ## What holds of every run -/

/-- A run ends by what is seen from where the clock stands on; when it starts does not matter. -/
theorem run_fst_eq (h : ∀ j, see' (c'.looks + j) = see (c.looks + j)) (x : Task ρ α) :
    (run see' c' x).1 = (run see c x).1 := by
  induction x generalizing c c' with
  | done a => rfl
  | look k ih =>
    have hsame : see' c'.looks = see c.looks := h 0
    rw [run, run, hsame]
    refine ih (see c.looks) fun j => ?_
    have hnext := h (j + 1)
    rwa [← Nat.add_assoc, ← Nat.add_assoc, Nat.add_right_comm, Nat.add_right_comm c.looks] at hnext
  | sleep ms next ih => exact @ih (c.after ms) (c'.after ms) h

/-- **What every run ends with, the task does.** -/
theorem ends_of_runs [Inhabited ρ] (h : ∀ see c, P (run see c x).1) : Ends (fun _ => True) P x := by
  induction x with
  | done a => exact h (fun _ => default) {}
  | look k ih =>
    intro r _
    refine ih r fun see c => ?_
    -- what is seen first is `r`, and from then on what this run sees
    have hrun := h (fun i => if i = c.looks then r else see (i - 1)) c
    rw [run, if_pos rfl] at hrun
    have hshift : ∀ j, (fun i => if i = c.looks then r else see (i - 1)) (c.looked.looks + j) =
        see (c.looks + j) := by
      intro j
      have hpast : c.looks + 1 + j ≠ c.looks := by omega
      have hback : c.looks + 1 + j - 1 = c.looks + j := by omega
      simp only [Clock.looked, if_neg hpast, hback]
    rwa [run_fst_eq hshift] at hrun
  | sleep ms next ih =>
    refine ih fun see c => ?_
    have hrun : P (run see (c.after ms) next).1 := h see c
    have hshift : ∀ j, see ((c.after ms).looks + j) = see (c.looks + j) := fun _ => rfl
    rwa [run_fst_eq hshift] at hrun

end Task

end Switchboard
