/-!
# Admission

At most so many calls run at a time. A call takes a permit when it is made and
gives it back when it is over; a call made while no permit is left is turned
away, and counted.
-/

namespace Switchboard

/-- The permits of a server, and how many calls have been turned away. -/
structure Admission where
  limit : Nat
  taken : Nat := 0
  rejected : Nat := 0
  taken_le_limit : taken ≤ limit := by omega

namespace Admission

/-- All permits are there. -/
def ofLimit (limit : Nat) : Admission where
  limit := limit

/-- How many more calls could be let in now. -/
def available (a : Admission) : Nat := a.limit - a.taken

/-- Whether a call is let in, and the permits after it has been made. -/
def take (a : Admission) : Bool × Admission :=
  if h : a.taken < a.limit then (true, { a with taken := a.taken + 1, taken_le_limit := h })
  else (false, { a with rejected := a.rejected + 1 })

/-- A call that was let in is over. -/
def release (a : Admission) : Admission :=
  { a with taken := a.taken - 1, taken_le_limit := Nat.le_trans (Nat.sub_le ..) a.taken_le_limit }

/-- A call is let in exactly when a permit is left. -/
theorem take_fst (a : Admission) : a.take.1 = decide (0 < a.available) := by
  unfold take available
  split <;> simp <;> omega

theorem available_take (a : Admission) : a.take.2.available = a.available - 1 := by
  unfold take available
  split <;> simp <;> omega

theorem rejected_take (a : Admission) :
    a.take.2.rejected = a.rejected + if a.take.1 then 0 else 1 := by
  unfold take
  split <;> simp

end Admission

end Switchboard
