import Switchboard.Proofs.Dispatch.Graph
import Switchboard.Proofs.Operation.Outcomes
import Switchboard.Proofs.Server.Lifecycle
import Switchboard.Toolbox.Basic
/-!
# Calls of built-in operations

A built-in operation finishes at once. So where a registry has it, a call of it is binding and then
its code (`Registry.CarriesOut.outcome_eq`), whatever the time and the random bits are. A server has
all of them at every moment of its life (`Deployment.carriesOut_of_mem`).
-/

namespace Switchboard

/-- Calls of the name are carried out by code that finishes at once, for these parameters. -/
def Registry.CarriesOut (r : Registry) (name : String) (ps : List Parameter)
    (f : Arguments → Except CallError Json) : Prop :=
  ∃ op, r.lookup? name = some op ∧ op.name = name ∧ op.parameters = ps ∧
    op.handler = Toolbox.immediate f

variable {r : Registry} {name : String} {ps : List Parameter} {payload : Json}
variable {f : Arguments → Except CallError Json} {bits : Nat → Nat} {c : Task.Clock}

/-- **Such a call is binding, and then the code.** -/
theorem Registry.CarriesOut.outcome_eq (h : r.CarriesOut name ps f) (bits : Nat → Nat)
    (c : Task.Clock) (payload : Json) :
    r.outcome bits c name payload = Arguments.bind name ps payload >>= f := by
  obtain ⟨op, hop, rfl, rfl, hhandler⟩ := h
  rw [outcome, dispatch, callByName, Task.run, still_registry, hop]
  dsimp only
  rw [← Operation.bind]
  cases hbind : op.bind payload with
  | error e =>
    rw [Operation.invoke_of_unbound hbind]
    rfl
  | ok args =>
    rw [Operation.invoke_of_native hhandler hbind, Task.run_within]
    rfl

namespace Deployment

/-- A server carries out the built-in operations, whatever has happened to it. -/
theorem carriesOut_of_mem {op : Operation} (hop : op ∈ Toolbox.operations)
    (hhandler : op.handler = Toolbox.immediate f) (settings : Settings) (randomBits : Nat → Nat)
    (calls : List Call) :
    ((new settings randomBits).run calls).registry.CarriesOut op.name op.parameters f :=
  ⟨op, ((Accounted.start settings randomBits).run calls).lookup?_standard
    (List.mem_append_left _ hop), rfl, rfl, hhandler⟩

end Deployment

end Switchboard
