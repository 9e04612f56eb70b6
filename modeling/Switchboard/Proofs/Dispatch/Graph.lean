import Switchboard.Proofs.Expression.Callees
import Switchboard.Registry.Dispatch
import Mathlib.Data.List.Chain
import Mathlib.Logic.Relation
/-!
# The call graph

Who may call whom can be read off the expressions of a registry: one operation
calls another if a call of it is written in its expression (`Registry.Calls`).
What an operation reaches is the least set that holds the operation itself and
what is called by an operation in it (`Registry.Reaches`). Where no way along the
graph has more than so many edges, calls nest no deeper (`Registry.NestsWithin`).
-/

namespace Switchboard

/-- The methods that are called in the operation's expression, if it has one. -/
def Operation.callees (op : Operation) : List String :=
  match op.handler with
  | .expression logic _ => (Expr.ofJson logic).callees
  | _ => []

theorem Operation.callees_of_expression {op : Operation} {logic : Json} {reach : Reach}
    (h : op.handler = .expression logic reach) : op.callees = (Expr.ofJson logic).callees := by
  rw [callees, h]

namespace Registry

variable {r : Registry} {method callee : String}

/-- **An edge of the call graph:** a call of the second operation is written in the expression of
the first. Whether the second is registered does not matter. -/
def Calls (r : Registry) (method callee : String) : Prop :=
  ∃ op, r.lookup? method = some op ∧ callee ∈ op.callees

/-- What is written where: an edge comes from an expression that has the call in its text. -/
theorem Calls.writesCall (h : r.Calls method callee) :
    ∃ op logic reach, r.lookup? method = some op ∧ op.handler = .expression logic reach ∧
      logic.WritesCall callee := by
  obtain ⟨op, hop, hmem⟩ := h
  cases hhandler : op.handler with
  | expression logic reach =>
    rw [Operation.callees_of_expression hhandler] at hmem
    exact ⟨op, logic, reach, hop, hhandler, Expr.writesCall_of_mem_callees logic callee hmem⟩
  | _ =>
    rw [Operation.callees, hhandler] at hmem
    cases hmem

/-- **What an operation reaches:** itself, and whatever an operation that it reaches calls. -/
def Reaches (r : Registry) : String → String → Prop := Relation.ReflTransGen r.Calls

/-- **How deep calls nest:** no way along the call graph from the method has more edges. -/
def NestsWithin (r : Registry) (k : Nat) (method : String) : Prop :=
  ∀ path, List.IsChain r.Calls (method :: path) → path.length ≤ k

theorem not_calls_of_nestsWithin_zero (h : r.NestsWithin 0 method) : ¬ r.Calls method callee :=
  fun hcalls => absurd (h [callee] (.cons_cons hcalls (.singleton callee))) (by simp)

/-- From what is called, calls nest one less deep. -/
theorem NestsWithin.of_calls {k : Nat} (h : r.NestsWithin (k + 1) method)
    (hcalls : r.Calls method callee) : r.NestsWithin k callee :=
  fun path hpath => Nat.le_of_succ_le_succ (h (callee :: path) (.cons_cons hcalls hpath))

/-- The surroundings of a registry that stays as it is, with random bits at each look. -/
def still (r : Registry) (bits : Nat → Nat) : Nat → Moment := fun i => ⟨r, bits i⟩

@[simp] theorem still_registry (r : Registry) (bits : Nat → Nat) (i : Nat) :
    (r.still bits i).registry = r := rfl

/-- The outcome of a call that starts on the clock, where the registry stays as it is. -/
abbrev outcome (r : Registry) (bits : Nat → Nat) (c : Task.Clock) (method : String)
    (payload : Json) : Except CallError Json :=
  (Task.run (r.still bits) c (dispatch method payload)).1

end Registry

end Switchboard
