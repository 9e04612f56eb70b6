import Switchboard.Definitions.Document
import Switchboard.Registry.Basic
/-!
# Loading definitions

A document is installed as a whole or not at all. It is read and checked first
(`Loading.start`); then its operations are registered one by one, and on the first
name that is taken those already registered are removed again, one by one
(`Loading.step`). Each of these steps is atomic, and other users of the registry
may act between them. `Loader.load` takes them all in a row.

A `Loader` keeps the handles of what it has installed until it is torn down.
-/

namespace Switchboard

/-! ## A load in steps -/

/-- A load under way, between two of its steps on the registry. -/
inductive Loading where
  /-- Operations still to be registered, and the handles of those that are. -/
  | installing (pending : List Operation) (installed : List Handle)
  /-- Handles still to be revoked, after a registration has failed. -/
  | undoing (cause : CallError) (handles : List Handle)
  /-- Ended, with the handles of all operations or with an error. -/
  | ended (result : Except LoadError (List Handle))

namespace Loading

/-- The load of a document, before it has touched the registry. -/
def start (text : String) : Loading :=
  match (do (← Definitions.ofText text).mapM Definition.toOperation) with
  | .error e => .ended (.error e)
  | .ok operations => .installing operations []

/-- The next step of a load. -/
def step (x : Loading) (r : Registry) : Loading × Registry :=
  match x with
  | .installing [] installed => (.ended (.ok installed), r)
  | .installing (op :: pending) installed =>
    match r.register op with
    | .ok (h, r) => (.installing pending (installed ++ [h]), r)
    | .error cause => (.undoing cause installed, r)
  | .undoing cause [] => (.ended (.error (.registration cause)), r)
  | .undoing cause (h :: handles) => (.undoing cause handles, (r.revoke h).2.2)
  | .ended result => (.ended result, r)

/-- How many steps are left at most. -/
def stepsLeft : Loading → Nat
  | .installing pending installed => 2 * pending.length + installed.length + 2
  | .undoing _ handles => handles.length + 1
  | .ended _ => 0

/-- Each step leaves fewer, until there are none. -/
theorem stepsLeft_step (x : Loading) (r : Registry) (h : x.stepsLeft ≠ 0) :
    (x.step r).1.stepsLeft < x.stepsLeft := by
  cases x with
  | installing pending installed =>
    cases pending with
    | nil => simp [step, stepsLeft]
    | cons op pending =>
      simp only [step]
      cases r.register op with
      | ok x => simp only [stepsLeft, List.length_cons, List.length_append, List.length_nil]; omega
      | error e => simp only [stepsLeft, List.length_cons]; omega
  | undoing cause handles => cases handles <;> simp [step, stepsLeft]
  | ended result => simp [stepsLeft] at h

/-- The result and the registry once all steps are taken in a row. -/
def finish (x : Loading) (r : Registry) : Except LoadError (List Handle) × Registry :=
  match x with
  | .ended result => (result, r)
  | .installing pending installed =>
    finish (step (.installing pending installed) r).1 (step (.installing pending installed) r).2
  | .undoing cause handles =>
    finish (step (.undoing cause handles) r).1 (step (.undoing cause handles) r).2
termination_by x.stepsLeft
decreasing_by
  · exact stepsLeft_step _ r (by simp [stepsLeft])
  · exact stepsLeft_step _ r (by simp [stepsLeft])

end Loading

/-! ## The loader -/

/-- The handles of the custom operations that are installed, in load order. -/
structure Loader where
  handles : List Handle := []

namespace Loader

/-- **Loads a document:** how many operations it installed, or why it installed
none. -/
def load (l : Loader) (r : Registry) (text : String) :
    Except LoadError Nat × Loader × Registry :=
  match (Loading.start text).finish r with
  | (.ok handles, r) => (.ok handles.length, ⟨l.handles ++ handles⟩, r)
  | (.error e, r) => (.error e, l, r)

/-- Revokes handles one by one: how many removed an operation. -/
def revokeAll : List Handle → Registry → Nat × Registry
  | [], r => (0, r)
  | h :: rest, r =>
    let (removed, _, r) := r.revoke h
    let (n, r) := revokeAll rest r
    ((if removed then 1 else 0) + n, r)

/-- **Removes all that is installed:** how many operations that were. -/
def teardown (l : Loader) (r : Registry) : Nat × Loader × Registry :=
  let (n, r) := revokeAll l.handles r
  (n, {}, r)

/-- The names of what is installed, in load order. -/
def installed (l : Loader) : List String :=
  (l.handles.filter (!·.revoked)).map (·.name)

end Loader

end Switchboard
