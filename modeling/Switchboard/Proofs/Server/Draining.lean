import Switchboard.Proofs.Server.Phases
/-!
# Waiting for requests

Whoever works on a request holds a guard of the server (`Watch`). Guards are given out and dropped
at any time, also while the server waits for them: what is done with them in each millisecond is
then the schedule of the wait. In every run of these the requests in flight are the guards that
are held, so that no drop counts below zero (`Counted`); and whatever the schedule, a wait ends at
the first look at which no guard is held or the time is up, and tells which (`drainLaws`).
-/

namespace Switchboard

namespace Health

variable {busy : Nat → Nat} {timeout elapsed : Nat}

/-! ## Looks -/

/-- **A wait ends at a look:** there is no work, or the time is up, and neither was so at any look
before. -/
theorem exists_drainFrom (busy : Nat → Nat) (timeout elapsed : Nat) :
    ∃ k, (drainFrom busy timeout elapsed).2 = elapsed + interval * k ∧
      (busy (elapsed + interval * k) = 0 ∨ timeout ≤ elapsed + interval * k) ∧
      ∀ j < k, ¬ (busy (elapsed + interval * j) = 0 ∨ timeout ≤ elapsed + interval * j) := by
  induction elapsed using drainFrom.induct busy timeout with
  | case1 elapsed hidle =>
    refine ⟨0, ?_, .inl hidle, fun j hj => absurd hj (Nat.not_lt_zero j)⟩
    rw [drainFrom, if_pos hidle]
    rfl
  | case2 elapsed hbusy hlate =>
    refine ⟨0, ?_, .inr hlate, fun j hj => absurd hj (Nat.not_lt_zero j)⟩
    rw [drainFrom, if_neg hbusy, if_pos hlate]
    rfl
  | case3 elapsed hbusy hlate ih =>
    -- The looks from the next one on are those of the rest of the wait, one further each.
    have hnext : ∀ j, elapsed + interval + interval * j = elapsed + interval * (j + 1) := by
      intro j
      rw [Nat.mul_succ]
      omega
    obtain ⟨k, hk, hends, hbefore⟩ := ih
    refine ⟨k + 1, ?_, ?_, fun j hj => ?_⟩
    · rw [drainFrom, if_neg hbusy, if_neg hlate, hk, hnext]
    · rwa [hnext] at hends
    · cases j with
      | zero => exact fun h => h.elim hbusy hlate
      | succ j =>
        rw [← hnext]
        exact hbefore j (Nat.lt_of_succ_lt_succ hj)

end Health

/-! ## Guards -/

/-- A server's health, and its guards: which are held, and how many have been given out. A guard
is known by how many there were before it. -/
structure Watch where
  health : Health := {}
  held : List Nat := []
  issued : Nat := 0

namespace Watch

/-- What is done with guards. -/
inductive Move where
  | take
  | drop (guard : Nat)

/-- A guard is taken for a request, or dropped by whoever holds it. -/
def move (w : Watch) : Move → Watch
  | .take => ⟨w.health.enter, w.issued :: w.held, w.issued + 1⟩
  | .drop guard =>
    if guard ∈ w.held then { w with health := w.health.leave, held := w.held.erase guard } else w

/-- What has been done after so many milliseconds, when `moves i` is done in the `i`-th. -/
def made (moves : Nat → List Move) (elapsed : Nat) : List Move :=
  (List.range (elapsed + 1)).flatMap moves

/-- The server so many milliseconds after a wait began. -/
def during (w : Watch) (moves : Nat → List Move) (elapsed : Nat) : Watch :=
  (made moves elapsed).foldl move w

/-- The requests in flight then. -/
def busy (w : Watch) (moves : Nat → List Move) (elapsed : Nat) : Nat :=
  (w.during moves elapsed).health.inFlight

/-- **Waits for the guards that are held,** while `moves i` is done in the `i`-th millisecond:
whether there were none left, after how many milliseconds, and the server then. -/
def wait (w : Watch) (moves : Nat → List Move) (timeout : Nat) : Bool × Nat × Watch :=
  let (drained, elapsed, health) := w.health.waitForDrain (w.busy moves) timeout
  (drained, elapsed, { w.during moves elapsed with health := health })

/-- A step of a run. -/
inductive Act where
  | move (m : Move)
  | setReady
  | beginDrain
  | wait (moves : Nat → List Move) (timeout : Nat)

def act (w : Watch) : Act → Watch
  | .move m => w.move m
  | .setReady => { w with health := w.health.setReady }
  | .beginDrain => { w with health := w.health.beginDrain }
  | .wait moves timeout => (w.wait moves timeout).2.2

/-- A run of a server that has just come up. -/
def run (acts : List Act) : Watch := acts.foldl act {}

variable {w : Watch} {moves : Nat → List Move} {timeout elapsed guard : Nat}

/-! ## Counting -/

/-- **The requests in flight are the guards that are held.** -/
structure Counted (w : Watch) : Prop where
  inFlight : w.health.inFlight = w.held.length
  distinct : w.held.Nodup
  known : ∀ guard ∈ w.held, guard < w.issued

/-- What is counted can be counted down. -/
theorem Counted.pos (hw : w.Counted) (hheld : guard ∈ w.held) : 0 < w.health.inFlight := by
  rw [hw.inFlight]
  exact List.length_pos_of_mem hheld

/-- A drop counts one less, as whole numbers do. -/
theorem Counted.inFlight_drop (hw : w.Counted) (hheld : guard ∈ w.held) :
    ((w.move (.drop guard)).health.inFlight : Int) = w.health.inFlight - 1 := by
  have hpos := hw.pos hheld
  rw [move, if_pos hheld]
  change ((w.health.inFlight - 1 : Nat) : Int) = w.health.inFlight - 1
  omega

theorem Counted.move (hw : w.Counted) (m : Move) : (w.move m).Counted := by
  cases m with
  | take =>
    refine ⟨congrArg (· + 1) hw.inFlight, ?_, ?_⟩
    · refine List.nodup_cons.2 ⟨fun hmem => ?_, hw.distinct⟩
      exact Nat.lt_irrefl _ (hw.known _ hmem)
    · intro guard hmem
      rcases List.mem_cons.1 hmem with rfl | hmem
      · exact Nat.lt_succ_self _
      · exact Nat.lt_succ_of_lt (hw.known guard hmem)
  | drop guard =>
    rw [Watch.move]
    split
    · next hheld =>
      refine ⟨?_, hw.distinct.erase guard, fun other hmem => ?_⟩
      · rw [List.length_erase_of_mem hheld, ← hw.inFlight]
        rfl
      · exact hw.known other (List.mem_of_mem_erase hmem)
    · exact hw

theorem Counted.moveAll (hw : w.Counted) (ms : List Move) : (ms.foldl Watch.move w).Counted := by
  induction ms generalizing w with
  | nil => exact hw
  | cons m rest ih => exact ih (hw.move m)

theorem Counted.during (hw : w.Counted) (moves : Nat → List Move) (elapsed : Nat) :
    (w.during moves elapsed).Counted :=
  hw.moveAll (made moves elapsed)

/-- What is done with guards is nothing to the phase. -/
theorem phase_moveAll (w : Watch) (ms : List Move) :
    (ms.foldl move w).health.phase = w.health.phase := by
  induction ms generalizing w with
  | nil => rfl
  | cons m rest ih =>
    rw [List.foldl_cons, ih]
    cases m with
    | take => rfl
    | drop guard =>
      rw [move]
      split
      · rfl
      · rfl

/-! ## Waits -/

/-- The server, which has stopped if it was drained. -/
def stoppedIf (drained : Bool) (w : Watch) : Watch :=
  if drained then { w with health := { w.health with phase := .stopped } } else w

theorem phase_stoppedIf (drained : Bool) (w : Watch) :
    (w.stoppedIf drained).health.phase = if drained then .stopped else w.health.phase := by
  cases drained with
  | true => rfl
  | false => rfl

theorem stoppedIf_false (w : Watch) : w.stoppedIf false = w := rfl

/-- **A wait does nothing but stop the server,** and that exactly if it succeeds. -/
theorem wait_eq (w : Watch) (moves : Nat → List Move) (timeout : Nat) :
    w.wait moves timeout =
      ((Health.drainFrom (w.busy moves) timeout 0).1, (Health.drainFrom (w.busy moves) timeout 0).2,
        (w.during moves (Health.drainFrom (w.busy moves) timeout 0).2).stoppedIf
          (Health.drainFrom (w.busy moves) timeout 0).1) := by
  rw [wait, Health.waitForDrain]
  cases hdrain : Health.drainFrom (w.busy moves) timeout 0 with
  | mk drained elapsed =>
    dsimp only
    cases drained with
    | true => rfl
    | false =>
      have hphase : (w.during moves elapsed).health.phase = w.health.phase :=
        phase_moveAll w (made moves elapsed)
      rw [stoppedIf_false, ← hphase]
      rfl

/-- **No guard is left** exactly if nothing is counted. -/
theorem Counted.busy_eq_zero_iff (hw : w.Counted) (moves : Nat → List Move) (elapsed : Nat) :
    w.busy moves elapsed = 0 ↔ (w.during moves elapsed).held = [] := by
  rw [busy, (hw.during moves elapsed).inFlight, List.length_eq_zero_iff]

theorem Counted.act (hw : w.Counted) (a : Act) : (w.act a).Counted := by
  cases a with
  | move m => exact hw.move m
  | setReady => exact ⟨hw.inFlight, hw.distinct, hw.known⟩
  | beginDrain => exact ⟨hw.inFlight, hw.distinct, hw.known⟩
  | wait moves timeout =>
    have hduring := hw.during moves (Health.drainFrom (w.busy moves) timeout 0).2
    rw [Watch.act, wait_eq]
    dsimp only
    cases (Health.drainFrom (w.busy moves) timeout 0).1 with
    | true => exact ⟨hduring.inFlight, hduring.distinct, hduring.known⟩
    | false => exact hduring

/-- **In every run** the requests in flight are the guards that are held. -/
theorem counted_run (acts : List Act) : (run acts).Counted := by
  have hall : ∀ w : Watch, w.Counted → (acts.foldl Watch.act w).Counted := by
    induction acts with
    | nil => exact fun _ hw => hw
    | cons a rest ih => exact fun w hw => ih (w.act a) (hw.act a)
  exact hall {} ⟨rfl, List.nodup_nil, fun _ hmem => absurd hmem List.not_mem_nil⟩

/-- **A wait is a run of what is done meanwhile,** so that this holds throughout. -/
theorem during_run (acts : List Act) (moves : Nat → List Move) (elapsed : Nat) :
    (run acts).during moves elapsed = run (acts ++ (made moves elapsed).map .move) := by
  rw [during, run, run, List.foldl_append, List.foldl_map]
  rfl

/-! ## The laws of waiting -/

/-- The wait can end at its `k`-th look: no guard is held, or the time is up. -/
def CanEnd (w : Watch) (moves : Nat → List Move) (timeout k : Nat) : Prop :=
  (w.during moves (10 * k)).held = [] ∨ timeout ≤ 10 * k

theorem Counted.canEnd_iff (hw : w.Counted) (moves : Nat → List Move) (timeout k : Nat) :
    w.CanEnd moves timeout k ↔
      (w.busy moves (0 + Health.interval * k) = 0 ∨ timeout ≤ 0 + Health.interval * k) := by
  rw [Nat.zero_add, hw.busy_eq_zero_iff, CanEnd, Health.interval]

/-- **A wait ends at the first look at which it can.** -/
theorem Counted.exists_canEnd (hw : w.Counted) (moves : Nat → List Move) (timeout : Nat) :
    ∃ k, w.CanEnd moves timeout k ∧ (∀ j < k, ¬ w.CanEnd moves timeout j) ∧
      (w.wait moves timeout).2.1 = 10 * k := by
  obtain ⟨k, helapsed, hends, hbefore⟩ := Health.exists_drainFrom (w.busy moves) timeout 0
  refine ⟨k, (hw.canEnd_iff moves timeout k).2 hends, fun j hj => ?_, ?_⟩
  · rw [hw.canEnd_iff]
    exact hbefore j hj
  · rw [wait_eq, helapsed, Nat.zero_add, Health.interval]

/-- It is not the first that can end after the timeout, since the time was up at that one. -/
theorem Counted.elapsed_le (hw : w.Counted) (moves : Nat → List Move) (timeout : Nat) :
    (w.wait moves timeout).2.1 ≤ 10 * ((timeout + 9) / 10) := by
  obtain ⟨k, -, hbefore, helapsed⟩ := hw.exists_canEnd moves timeout
  rw [helapsed]
  cases k with
  | zero => exact Nat.zero_le _
  | succ j =>
    have hearly : ¬ timeout ≤ 10 * j := fun hlate => hbefore j (Nat.lt_succ_self j) (.inr hlate)
    omega

theorem Counted.drained_iff (hw : w.Counted) (moves : Nat → List Move) (timeout : Nat) :
    (w.wait moves timeout).1 = true ↔
      (w.during moves (w.wait moves timeout).2.1).held = [] := by
  rw [wait_eq]
  dsimp only
  rw [Health.drainFrom_eq_true_iff, hw.busy_eq_zero_iff]

/-- **What a server counts, and how it waits,** after any run and whatever is done meanwhile. -/
structure DrainLaws (acts : List Act) (moves : Nat → List Move) (timeout : Nat) : Prop where
  /-- As many requests are in flight as guards are held, and no guard is held twice. -/
  count : (run acts).health.inFlight = (run acts).held.length ∧ (run acts).held.Nodup
  /-- Dropping any of them counts one less, and never below zero. -/
  exact : ∀ guard ∈ (run acts).held,
    ((run acts).move (.drop guard)).health.inFlight = ((run acts).health.inFlight : Int) - 1
  /-- While the server waits it is as in a run, so that both hold then, too. -/
  throughout : ∀ elapsed,
    (run acts).during moves elapsed = run (acts ++ (made moves elapsed).map .move)
  /-- **It waits until the first look at which it can end,** looking every ten milliseconds, -/
  least : ∃ k, (run acts).CanEnd moves timeout k ∧ (∀ j < k, ¬ (run acts).CanEnd moves timeout j) ∧
    ((run acts).wait moves timeout).2.1 = 10 * k
  /-- so not beyond the first of them at or after the timeout. -/
  bounded : ((run acts).wait moves timeout).2.1 ≤ 10 * ((timeout + 9) / 10)
  /-- The wait succeeds exactly if no guard is held then. -/
  drained : ((run acts).wait moves timeout).1 = true ↔
    ((run acts).during moves ((run acts).wait moves timeout).2.1).held = []
  /-- **The server has stopped exactly if the wait succeeds,** and is otherwise left as it is. -/
  left : ((run acts).wait moves timeout).2.2 =
    ((run acts).during moves ((run acts).wait moves timeout).2.1).stoppedIf
      ((run acts).wait moves timeout).1
  /-- So its phase changes then only. -/
  phase : ((run acts).wait moves timeout).2.2.health.phase =
    if ((run acts).wait moves timeout).1 then .stopped else (run acts).health.phase

theorem drainLaws (acts : List Act) (moves : Nat → List Move) (timeout : Nat) :
    DrainLaws acts moves timeout where
  count := ⟨(counted_run acts).inFlight, (counted_run acts).distinct⟩
  exact _ hheld := (counted_run acts).inFlight_drop hheld
  throughout := during_run acts moves
  least := (counted_run acts).exists_canEnd moves timeout
  bounded := (counted_run acts).elapsed_le moves timeout
  drained := (counted_run acts).drained_iff moves timeout
  left := by rw [wait_eq]
  phase := by
    rw [wait_eq, phase_stoppedIf]
    exact congrArg _ (phase_moveAll _ _)

end Watch

end Switchboard
