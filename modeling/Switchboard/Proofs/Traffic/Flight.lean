import Switchboard.Proofs.Task.Ends
import Switchboard.Server.Basic
/-!
# The course of a call

How a call is made, first run, and run to its end. A call that is let in takes one permit
(`make_of_free`), keeps it through its first run if it is not over then
(`holdsPermit_of_start`), and gives it back when it is over. A call that is turned away is
nothing but the news that it was (`Flight.turnedAway`): it tells them whenever it is run,
and no time passes. What a call that is let in can come to is what its task can, or
the end of its time (`outcome_of_start`, `outcome_of_finish`).
-/

namespace Switchboard

namespace Admission

variable {a : Admission}

/-- How many permits there are never changes. -/
theorem limit_take (a : Admission) : a.take.2.limit = a.limit := by
  unfold take
  split <;> rfl

/-- Where a permit is left, it is taken. -/
theorem take_of_free (h : 0 < a.available) : a.take = (true, a.take.2) :=
  Prod.ext (a.take_fst.trans (decide_eq_true h)) rfl

theorem taken_take (h : 0 < a.available) : a.take.2.taken = a.taken + 1 := by
  have hlt : a.taken < a.limit := by
    unfold available at h
    omega
  rw [take, dif_pos hlt]

theorem rejected_take_of_free (h : 0 < a.available) : a.take.2.rejected = a.rejected := by
  rw [rejected_take, take_of_free h]
  rfl

/-- Where none is left, that is counted, and nothing else changes. -/
theorem take_eq_of_full (h : a.available = 0) :
    a.take = (false, { a with rejected := a.rejected + 1 }) := by
  have hle : ¬ a.taken < a.limit := by
    unfold available at h
    omega
  rw [take, dif_neg hle]

theorem release_taken (a : Admission) : a.release.taken = a.taken - 1 := rfl

/-- A permit that is taken and given back is there again, and nothing has changed. -/
theorem release_take (h : 0 < a.available) : a.take.2.release = a := by
  have hlt : a.taken < a.limit := by
    unfold available at h
    omega
  rw [take, dif_pos hlt]
  rfl

theorem available_release_take (h : 0 < a.available) : a.take.2.release.available = a.available := by
  rw [release_take h]

end Admission

namespace Flight

variable {see : Nat → Moment} {c : Task.Clock} {f f' : Flight} {a : Admission} {allowance : Nat}
variable {task : CallTask} {timeLimit : Bool} {M : Moment → Prop}
variable {P : Except CallError Json → Prop}

/-! ## Making a call -/

/-- A call that was turned away. -/
def turnedAway : Flight where
  holdsPermit := false
  allowance := none
  task := .done (.error .overloaded)

/-- A call that is let in keeps its task, and its allowance if there is a limit to its time; -/
theorem make_of_free (h : 0 < a.available) :
    make ⟨true, timeLimit⟩ a allowance task =
      (⟨true, if timeLimit then some allowance else none, none, 0, task⟩, a.take.2) := by
  rw [make, if_pos rfl, Admission.take_of_free h]

/-- one that is not has neither. -/
theorem make_of_full (h : a.available = 0) :
    make ⟨true, timeLimit⟩ a allowance task = (turnedAway, a.take.2) := by
  rw [make, if_pos rfl, Admission.take_eq_of_full h]
  rfl

/-! ## Giving the permit back -/

/-- Only a call that holds a permit gives one back. -/
theorem giveBack_taken (f : Flight) (a : Admission) :
    (f.giveBack a).taken = a.taken - if f.holdsPermit then 1 else 0 := by
  rw [giveBack]
  split <;> rfl

theorem giveBack_limit (f : Flight) (a : Admission) : (f.giveBack a).limit = a.limit := by
  rw [giveBack]
  split <;> rfl

theorem giveBack_rejected (f : Flight) (a : Admission) :
    (f.giveBack a).rejected = a.rejected := by
  rw [giveBack]
  split <;> rfl

/-! ## Running it -/

theorem start_turnedAway (see : Nat → Moment) (c : Task.Clock) :
    start see c turnedAway = (.inl (.error .overloaded), c) := rfl

/-- A call that was turned away tells so whenever it is awaited, at once. -/
theorem finish_turnedAway (see : Nat → Moment) (c : Task.Clock) :
    finish see c turnedAway = (.error .overloaded, c) := by
  have hnow : turnedAway.wakesAt - c.now = 0 := Nat.zero_sub c.now
  rw [finish, hnow]
  rfl

/-- What is left of a call after its first run holds the permit that the call did. -/
theorem holdsPermit_of_start (h : (start see c f).1 = .inr f') : f'.holdsPermit = f.holdsPermit := by
  rw [start] at h
  split at h
  · cases h
  · split at h
    · cases h
    · cases h
      rfl

/-- **After its first run a call is over as its task can be,** or for want of time; or what is left
of its task can end so. -/
theorem outcome_of_start (hf : f.task.Ends M P) (htime : ∀ ms, P (.error (.timedOut ms)))
    (hsee : ∀ i, M (see i)) :
    (∀ outcome, (start see c f).1 = .inl outcome → P outcome) ∧
      ∀ f', (start see c f).1 = .inr f' → f'.task.Ends M P := by
  have hpoll := hf.poll hsee c
  rw [start]
  split
  · next result c' heq =>
    rw [heq] at hpoll
    refine ⟨fun outcome h => ?_, nofun⟩
    cases h
    exact hpoll
  · next ms next c' heq =>
    rw [heq] at hpoll
    split
    · refine ⟨fun outcome h => ?_, nofun⟩
      cases h
      exact htime 0
    · refine ⟨nofun, fun f' h => ?_⟩
      cases h
      exact hpoll

/-- **At its end a call is over as its task can be,** or for want of time. -/
theorem outcome_of_finish (hf : f.task.Ends M P) (htime : ∀ ms, P (.error (.timedOut ms)))
    (hsee : ∀ i, M (see i)) (c : Task.Clock) : P (finish see c f).1 := by
  have hrest : (Task.sleep (f.wakesAt - c.now) f.task).Ends M P := hf
  rw [finish]
  split
  · exact hrest.run hsee c
  · next deadline ms _ =>
    split
    · next outcome c' heq => exact hrest.runUntil hsee (congrArg Prod.fst heq)
    · exact htime ms

end Flight

/-! ## The calls of a server -/

namespace Server

variable {s s' : Server} {guards : Guards} {timeout : Nat} {method : String} {params : Json}
variable {f f' : Flight} {clock : Task.Clock} {outcome : Except CallError Json}

theorem awaitCall_eq (f : Flight) (s : Server) :
    s.awaitCall f = ((f.finish s.see s.clock).1,
      { s with
        admission := f.giveBack s.admission
        clock := (f.finish s.see s.clock).2 }) := rfl

/-- A call that is over after its first run gives its permit back; -/
theorem beginCall_of_over (hmake : s.makeCall guards timeout method params = (f, s'))
    (hstart : f.start s'.see s'.clock = (.inl outcome, clock)) :
    s.beginCall guards timeout method params =
      (.inl outcome, endCall f { s' with clock := clock }) := by
  rw [beginCall, hmake]
  dsimp only
  rw [hstart]

/-- one that is not keeps it. -/
theorem beginCall_of_waits (hmake : s.makeCall guards timeout method params = (f, s'))
    (hstart : f.start s'.see s'.clock = (.inr f', clock)) :
    s.beginCall guards timeout method params = (.inr f', { s' with clock := clock }) := by
  rw [beginCall, hmake]
  dsimp only
  rw [hstart]

end Server

end Switchboard
