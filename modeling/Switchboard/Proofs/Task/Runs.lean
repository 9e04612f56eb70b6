import Switchboard.Task
import Mathlib.Logic.Function.Iterate
/-!
# Runs of tasks

How the run of a composed task comes from the runs of its parts. The
surroundings may change from look to look and are given once for all; the
clock may stand anywhere when a task starts. Of one task there are kinds of
results it is sure to end with (`Ensures`), and of two there is agreement up
to refusal (`AgreesUnless`): where the first does not end in a result that is
refused, they end alike and at the same time. Two tasks in surroundings of their
own can be alike (`Alike`): on clocks that are related they end alike, and leave
clocks that are. These two go through sequencing. What a run does on its way is
said by the tasks that it comes to (`ComesTo`).
-/

namespace Switchboard

namespace Task

variable {ρ σ α β : Type} {see : Nat → ρ} {c : Clock} {x y : Task ρ α}
variable {f g : α → Task ρ β} {P : α → Prop} {Q : β → Prop}

/-- The run of a sequence is that of the first task, then of the second on the clock it left. -/
theorem run_bind (see : Nat → ρ) (c : Clock) (x : Task ρ α) (f : α → Task ρ β) :
    run see c (x >>= f) = run see (run see c x).2 (f (run see c x).1) := by
  induction x generalizing c with
  | done a => rfl
  | look k ih => exact ih (see c.looks) c.looked
  | sleep ms next ih => exact ih (c.after ms)

/-- A task that sees a part of its surroundings runs as it does where that part is all there is. -/
theorem run_within (see : Nat → σ) (part : σ → ρ) (c : Clock) (x : Task ρ α) :
    run see c (x.within part) = run (fun i => part (see i)) c x := by
  induction x generalizing c with
  | done a => rfl
  | look k ih => exact ih (part (see c.looks)) c.looked
  | sleep ms next ih => exact ih (c.after ms)

/-! ## What a task is sure to end with -/

/-- Whenever it starts, the task ends with a result of the kind. -/
def Ensures (see : Nat → ρ) (P : α → Prop) (x : Task ρ α) : Prop :=
  ∀ c, P (run see c x).1

theorem ensures_done {a : α} (h : P a) : Ensures see P (.done a) := fun _ => h

/-- A look sees what there is at some moment. -/
theorem ensures_look {k : ρ → Task ρ α} (h : ∀ i, Ensures see P (k (see i))) :
    Ensures see P (.look k) :=
  fun c => h c.looks c.looked

/-! ## Agreement up to refusal -/

/-- Whenever both start, the first ends in a result that is refused, or the second ends alike. -/
def AgreesUnless (see : Nat → ρ) (P : α → Prop) (x y : Task ρ α) : Prop :=
  ∀ c, P (run see c x).1 ∨ run see c y = run see c x

theorem AgreesUnless.refl (see : Nat → ρ) (P : α → Prop) (x : Task ρ α) :
    AgreesUnless see P x x :=
  fun _ => .inr rfl

/-- What is refused agrees with anything. -/
theorem agreesUnless_of_ensures (hx : Ensures see P x) : AgreesUnless see P x y :=
  fun c => .inl (hx c)

/-- Sequences agree when their parts do, if what is refused of the first part is refused of the
whole. -/
theorem AgreesUnless.bind (hx : AgreesUnless see P x y)
    (hf : ∀ a, AgreesUnless see Q (f a) (g a)) (hP : ∀ a, P a → Ensures see Q (f a)) :
    AgreesUnless see Q (x >>= f) (y >>= g) := by
  intro c
  rw [run_bind, run_bind]
  rcases hx c with hr | heq
  · exact .inl (hP _ hr _)
  · rw [heq]
    exact hf _ _

theorem agreesUnless_look {k l : ρ → Task ρ α}
    (h : ∀ i, AgreesUnless see P (k (see i)) (l (see i))) :
    AgreesUnless see P (.look k) (.look l) :=
  fun c => h c.looks c.looked

/-! ## Alike in two surroundings -/

variable {K : Clock → Clock → Prop} {see' : Nat → ρ}

/-- On clocks that are related the two tasks end alike, each in its surroundings, and leave clocks
that are related. -/
def Alike (K : Clock → Clock → Prop) (see see' : Nat → ρ) (x y : Task ρ α) : Prop :=
  ∀ c c', K c c' → (run see c x).1 = (run see' c' y).1 ∧ K (run see c x).2 (run see' c' y).2

theorem alike_done (a : α) : Alike K see see' (.done a) (.done a) := fun _ _ hK => ⟨rfl, hK⟩

theorem Alike.bind (hx : Alike K see see' x y) (hf : ∀ a, Alike K see see' (f a) (g a)) :
    Alike K see see' (x >>= f) (y >>= g) := by
  intro c c' hK
  obtain ⟨hresult, hleft⟩ := hx c c' hK
  rw [run_bind, run_bind, ← hresult]
  exact hf _ _ _ hleft

/-- Looks keep the clocks related, if that does not depend on how often was looked before. -/
theorem alike_look (hK : ∀ c c', K c c' → K c.looked c'.looked) {k l : ρ → Task ρ α}
    (h : ∀ i j, Alike K see see' (k (see i)) (l (see' j))) :
    Alike K see see' (.look k) (.look l) :=
  fun c c' hc => h c.looks c'.looks c.looked c'.looked (hK c c' hc)

theorem alike_within {part : σ → ρ} {see see' : Nat → σ}
    (h : Alike K (fun i => part (see i)) (fun i => part (see' i)) x y) :
    Alike K see see' (x.within part) (y.within part) := by
  intro c c' hK
  rw [run_within, run_within]
  exact h c c' hK

/-! ## One step after the other -/

/-- One elementary step of a task on a clock: a look or a wait. -/
def advance (see : Nat → ρ) : Clock × Task ρ α → Clock × Task ρ α
  | (c, .done a) => (c, .done a)
  | (c, .look k) => (c.looked, k (see c.looks))
  | (c, .sleep ms next) => (c.after ms, next)

/-- **Every task is done after some number of steps,** and with what its run ends with. -/
theorem exists_advance_done (see : Nat → ρ) (c : Clock) (x : Task ρ α) :
    ∃ n, (advance see)^[n] (c, x) = ((run see c x).2, .done (run see c x).1) := by
  induction x generalizing c with
  | done a => exact ⟨0, rfl⟩
  | look k ih =>
    obtain ⟨n, hn⟩ := ih (see c.looks) c.looked
    exact ⟨n + 1, by rw [Function.iterate_succ_apply]; exact hn⟩
  | sleep ms next ih =>
    obtain ⟨n, hn⟩ := ih (c.after ms)
    exact ⟨n + 1, by rw [Function.iterate_succ_apply]; exact hn⟩

/-! ## What a run comes to -/

variable {γ : Type} {c' c'' : Clock} {z : Task ρ γ}

/-- **The run of a task comes to another one:** after some steps, that is what is to be done
next. -/
def ComesTo (see : Nat → ρ) (c : Clock) (x : Task ρ α) (c' : Clock) (y : Task ρ β) : Prop :=
  ∃ steps rest, (advance see)^[steps] (c, x) = (c', y >>= rest)

theorem ComesTo.refl (see : Nat → ρ) (c : Clock) (x : Task ρ α) : ComesTo see c x c x :=
  ⟨0, pure, by rw [bind_pure, Function.iterate_zero, id]⟩

theorem comesTo_look {k : ρ → Task ρ α} {y : Task ρ β}
    (h : ComesTo see c.looked (k (see c.looks)) c' y) : ComesTo see c (.look k) c' y := by
  obtain ⟨steps, rest, hsteps⟩ := h
  exact ⟨steps + 1, rest, by rw [Function.iterate_succ_apply]; exact hsteps⟩

/-- What comes behind a task does not keep it from going on. -/
theorem advance_bind {steps : Nat} (h : (advance see)^[steps] (c, x) = (c', y)) (f : α → Task ρ β) :
    ∃ steps', (advance see)^[steps'] (c, x >>= f) = (c', y >>= f) := by
  induction steps generalizing c x with
  | zero =>
    rw [Function.iterate_zero, id, Prod.mk.injEq] at h
    obtain ⟨rfl, rfl⟩ := h
    exact ⟨0, rfl⟩
  | succ steps ih =>
    rw [Function.iterate_succ_apply] at h
    cases x with
    | done a => exact ih h
    | look k =>
      obtain ⟨steps', hsteps⟩ := ih h
      exact ⟨steps' + 1, by rw [Function.iterate_succ_apply]; exact hsteps⟩
    | sleep ms next =>
      obtain ⟨steps', hsteps⟩ := ih h
      exact ⟨steps' + 1, by rw [Function.iterate_succ_apply]; exact hsteps⟩

theorem ComesTo.bind {y : Task ρ β} (h : ComesTo see c x c' y) (f : α → Task ρ γ) :
    ComesTo see c (x >>= f) c' y := by
  obtain ⟨steps, rest, hsteps⟩ := h
  obtain ⟨steps', hsteps'⟩ := advance_bind hsteps f
  exact ⟨steps', fun b => rest b >>= f, by rw [hsteps', bind_assoc]⟩

/-- A sequence comes to what its second part comes to, where the first has left the clock. -/
theorem comesTo_bind {y : Task ρ γ} (h : ComesTo see (run see c x).2 (f (run see c x).1) c' y) :
    ComesTo see c (x >>= f) c' y := by
  obtain ⟨steps, hdone⟩ := exists_advance_done see c x
  obtain ⟨steps', hsteps'⟩ := advance_bind hdone f
  obtain ⟨more, rest, hmore⟩ := h
  exact ⟨more + steps', rest, by rw [Function.iterate_add_apply, hsteps']; exact hmore⟩

theorem ComesTo.trans {y : Task ρ β} (hxy : ComesTo see c x c' y) (hyz : ComesTo see c' y c'' z) :
    ComesTo see c x c'' z := by
  obtain ⟨steps, rest, hsteps⟩ := hxy
  obtain ⟨more, rest', hmore⟩ := hyz.bind rest
  exact ⟨more + steps, rest', by rw [Function.iterate_add_apply, hsteps]; exact hmore⟩

end Task

end Switchboard
