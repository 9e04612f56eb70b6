import Switchboard.Proofs.Dispatch.Depth
import Switchboard.Proofs.Expression.Invocation
/-!
# Without the limit

That calls end is the limit's doing. Take it out of the rule of calls, and no
family of hosts keeps the rule (`not_follows_unlimited`): an operation that
calls itself would look at the registry twice more at each depth than at the
next, and a task looks only so often.
-/

namespace Switchboard

open Switchboard.Expr

/-! ## Counting looks -/

namespace Task

variable {ρ α β : Type}

/-- How often the task looks in surroundings that stay as they are. -/
def looks (r : ρ) : Task ρ α → Nat
  | .done _ => 0
  | .look k => looks r (k r) + 1
  | .sleep _ next => looks r next

theorem looks_bind (r : ρ) (x : Task ρ α) (f : α → Task ρ β) :
    looks r (x >>= f) = looks r x + looks r (f (outcome r x)) := by
  induction x with
  | done a => exact (Nat.zero_add _).symm
  | look k ih =>
    rw [bind_look, looks, looks, outcome, ih r]
    omega
  | sleep ms next ih => exact ih

end Task

/-! ## An operation that calls itself -/

/-- An operation that does nothing but call the one of its name. -/
def selfCalling (name : String) : Operation where
  name := name
  handler := .expression (callOf name) .registry

/-- The moment at which it is all there is. -/
def aloneAt (name : String) : Moment := ⟨⟨[⟨0, selfCalling name⟩], 1⟩, 0⟩

namespace Hosts

variable {h deeper : Hosts} {name : String}

/-- The rule of calls, less the limit. -/
def unlimitedRule (deeper : Hosts) : Hosts :=
  ⟨⟨some (admitted deeper)⟩, ⟨some fun _ _ => throw .registryGone⟩⟩

theorem lookup?_aloneAt (name : String) :
    (aloneAt name).registry.lookup? name = some (selfCalling name) := by
  simp [aloneAt, Registry.lookup?, Registry.operations, selfCalling]

/-- A call of it is a look, and then the call that its expression makes. -/
theorem looks_call_selfCalling (hlive : h.live = ⟨some (admitted deeper)⟩) :
    Task.looks (aloneAt name) (h.call name (.object [])) =
      Task.looks (aloneAt name) (admitted deeper name (pure (.object []))).run + 1 := by
  have heval : (Expr.ofJson (callOf name)).eval h.live (.object []) =
      admitted deeper name (pure (.object [])) := by
    rw [Expr.ofJson_callOf, hlive]
    rfl
  rw [call, callByName, Task.looks, lookup?_aloneAt]
  -- the operation takes no arguments, so its expression is evaluated at once
  change Task.looks _ (((Expr.ofJson (callOf name)).eval h.live (.object [])).run >>= _) + 1 = _
  rw [heval, Task.looks_bind]
  cases Task.outcome (aloneAt name) (admitted deeper name (pure (.object []))).run <;> rfl

/-- And that is a look, and then a call of it at the next depth. -/
theorem looks_admitted (name : String) (payload : Json) :
    Task.looks (aloneAt name) (admitted deeper name (pure payload)).run =
      Task.looks (aloneAt name) (deeper.call name payload) + 1 := by
  have hcontains : (aloneAt name).registry.contains name = true := by
    rw [Registry.contains, lookup?_aloneAt]
    rfl
  rw [admitted, run_lift_bind, Task.looks_bind]
  change 1 + Task.looks _
    (ExceptT.run (if !(aloneAt name).registry.contains name then _ else _)) = _
  rw [hcontains]
  change 1 + Task.looks _ (ExceptT.run (liftM (deeper.call name payload) >>= answer name)) = _
  rw [run_lift_bind, Task.looks_bind, Nat.add_comm]
  cases Task.outcome (aloneAt name) (deeper.call name payload) <;> rfl

/-- **Without the limit no family of hosts keeps the rule of calls.** -/
theorem not_follows_unlimited :
    ¬ ∃ hosts : Nat → Hosts, ∀ d, hosts d = unlimitedRule (hosts (d + 1)) := by
  rintro ⟨hosts, hrule⟩
  have hstep (d : Nat) : Task.looks (aloneAt "") ((hosts d).call "" (.object [])) =
      Task.looks (aloneAt "") ((hosts (d + 1)).call "" (.object [])) + 2 := by
    have hlive : (hosts d).live = ⟨some (admitted (hosts (d + 1)))⟩ := by
      rw [hrule d]
      rfl
    rw [looks_call_selfCalling hlive, looks_admitted]
  have hleast (d : Nat) : Task.looks (aloneAt "") ((hosts 0).call "" (.object [])) =
      Task.looks (aloneAt "") ((hosts d).call "" (.object [])) + 2 * d := by
    induction d with
    | zero => rfl
    | succ d ih =>
      rw [ih, hstep d]
      omega
  have := hleast (Task.looks (aloneAt "") ((hosts 0).call "" (.object [])) + 1)
  omega

end Hosts

end Switchboard
