import Switchboard.Operation.Basic
/-!
# The registry

The operations that can be called, each under its own name, in the order of
their registration (`Registry.operations`). Every registration has a serial
number of its own. A `Handle` removes the registration it was issued for and no
other one, even when the name has been registered again since.
-/

namespace Switchboard

/-- An operation with the serial number of its registration. -/
structure Registration where
  serial : Nat
  operation : Operation

/-- The registered operations in order of registration, and the next serial
number. -/
structure Registry where
  registrations : List Registration := []
  nextSerial : Nat := 0

/-- The right to remove one registration, once. -/
structure Handle where
  name : String
  serial : Nat
  revoked : Bool := false

namespace Registry

/-- The registry without operations. -/
def empty : Registry := {}

/-- The operations in order of registration. -/
def operations (r : Registry) : List Operation := r.registrations.map (·.operation)

/-- How many operations there are. -/
def size (r : Registry) : Nat := r.registrations.length

/-- The operation of a name. -/
def lookup? (r : Registry) (name : String) : Option Operation :=
  r.operations.find? fun op => op.name = name

theorem mem_of_lookup? {r : Registry} {name : String} {op : Operation}
    (h : r.lookup? name = some op) : op ∈ r.operations :=
  List.mem_of_find?_eq_some h

/-- An operation is found under its own name only. -/
theorem name_of_lookup? {r : Registry} {name : String} {op : Operation}
    (h : r.lookup? name = some op) : op.name = name := by
  simpa using List.find?_some h

/-- Whether there is an operation of the name. -/
def contains (r : Registry) (name : String) : Bool := (r.lookup? name).isSome

/-- **Registration** at the end of the order, under a name that is free. -/
def register (r : Registry) (op : Operation) : Except CallError (Handle × Registry) :=
  if r.contains op.name then .error (.duplicateOperation op.name)
  else .ok (⟨op.name, r.nextSerial, false⟩,
    ⟨r.registrations ++ [⟨r.nextSerial, op⟩], r.nextSerial + 1⟩)

/-- Registration for good: there is no handle that could remove it. -/
def registerPermanently (r : Registry) (op : Operation) : Except CallError Registry :=
  (r.register op).map (·.2)

/-- The registry of some operations in their order; of two with one name, the
first. -/
def ofOperations (ops : List Operation) : Registry :=
  ops.foldl (fun r op => (r.registerPermanently op).toOption.getD r) .empty

/-- Whether a registration is the one a handle was issued for. -/
def Handle.issuedFor (h : Handle) (x : Registration) : Bool :=
  x.operation.name = h.name && x.serial = h.serial

/-- **Revocation.** Removes what the handle was issued for, if this is the first
time and it is still there: whether it removed something, the used handle, and
the registry after. -/
def revoke (r : Registry) (h : Handle) : Bool × Handle × Registry :=
  let used := { h with revoked := true }
  if h.revoked then (false, used, r)
  else
    let kept := r.registrations.filter fun x => !Handle.issuedFor h x
    (kept.length < r.registrations.length, used, { r with registrations := kept })

end Registry

end Switchboard
