import Switchboard.Expression.Basic
/-!
# Calls as they are written

How calls of operations are read: what is given to `jsonrpc` says which method
is called and with which parameters, or why there is no call. `callOf` writes a
call without parameters, `literalCallOf` one whose parameters are a given value.
-/

namespace Switchboard

theorem ofName?_invocationName : Operator.ofName? Operator.invocationName = some .invocation := by
  decide

/-- An operator has its name as an operator on values, or in the list of those that are none. -/
theorem Operator.ofName?_cases {name : String} {op : Operator}
    (h : Operator.ofName? name = some op) :
    (∃ b, op = .builtin b ∧ name = b.name) ∨ (name, op) ∈ Operator.special := by
  unfold Operator.ofName? at h
  split at h
  · next b hb =>
    cases h
    rw [Builtin.ofName?] at hb
    have hname := List.find?_some hb
    exact .inl ⟨b, rfl, (of_decide_eq_true hname).symm⟩
  · obtain ⟨before, behind, hs, -⟩ := List.lookup_eq_some_iff.1 h
    exact .inr (by simp [hs])

/-- An operator on values goes by its own name, -/
theorem Builtin.eq_name {name : String} {b : Builtin}
    (h : Operator.ofName? name = some (.builtin b)) : name = b.name := by
  rcases Operator.ofName?_cases h with ⟨_, heq, hname⟩ | hspecial
  · cases heq
    exact hname
  · simp [Operator.special] at hspecial

/-- no other name stands for calls, -/
theorem eq_invocationName {name : String} (h : Operator.ofName? name = some .invocation) :
    name = Operator.invocationName := by
  rcases Operator.ofName?_cases h with ⟨_, heq, -⟩ | hspecial
  · cases heq
  · simpa [Operator.special] using hspecial

/-- and no other name stands for sequences. -/
theorem eq_sequenceName {name : String} (h : Operator.ofName? name = some .sequence) :
    name = Operator.sequenceName := by
  rcases Operator.ofName?_cases h with ⟨_, heq, -⟩ | hspecial
  · cases heq
  · simpa [Operator.special] using hspecial

/-- A call is read from what it is given. -/
theorem Expr.ofJson_invocation {args params : Json} {method : String}
    (h : invocationOf args = .ok (method, params)) :
    Expr.ofJson (.object [(Operator.invocationName, args)]) =
      .invoke (.ok method) (.ofTemplate params) := by
  rw [Expr.ofJson, Expr.ofCall, ofName?_invocationName]
  dsimp only
  split
  · next m p h' =>
    rw [h, Except.ok.injEq, Prod.mk.injEq] at h'
    obtain ⟨rfl, rfl⟩ := h'
    rfl
  · next reason h' =>
    rw [h] at h'
    cases h'

/-- What does not fit is read as why it does not. -/
theorem Expr.ofJson_malformed {args : Json} {reason : String}
    (h : invocationOf args = .error reason) :
    Expr.ofJson (.object [(Operator.invocationName, args)]) =
      .invoke (.error reason) (.literal .null) := by
  rw [Expr.ofJson, Expr.ofCall, ofName?_invocationName]
  dsimp only
  split
  · next m p h' =>
    rw [h] at h'
    cases h'
  · next reason' h' =>
    rw [h, Except.error.injEq] at h'
    rw [h']

/-- Whatever it is given, `jsonrpc` is read as a call of an operation or as none that fits. -/
theorem Expr.ofCall_invocation {name : String} (h : Operator.ofName? name = some .invocation)
    (args : Json) : ∃ target params, Expr.ofCall name args = .invoke target params := by
  obtain rfl := eq_invocationName h
  rw [← Expr.ofJson]
  cases hof : invocationOf args with
  | ok call => exact ⟨_, _, Expr.ofJson_invocation hof⟩
  | error reason => exact ⟨_, _, Expr.ofJson_malformed hof⟩

/-- What calls the method without parameters. -/
def callOf (method : String) : Json :=
  .object [(Operator.invocationName, .object [("method", .string method)])]

theorem Expr.ofJson_callOf (method : String) :
    Expr.ofJson (callOf method) = .invoke (.ok method) (.record []) := by
  have hargs : invocationOf (.object [("method", .string method)]) = .ok (method, .object []) := rfl
  have htemplate : Expr.ofTemplate (.object []) = .record [] := by simp [Expr.ofTemplate]
  rw [callOf, Expr.ofJson_invocation hargs, htemplate]

/-- What calls the method with the value for its parameters, whatever the value looks like. -/
def literalCallOf (method : String) (params : Json) : Json :=
  .object [(Operator.invocationName, .object [("method", .string method),
    ("params", .object [(Expr.literalMarker, params)])])]

theorem Expr.ofJson_literalCallOf (method : String) (params : Json) :
    Expr.ofJson (literalCallOf method params) = .invoke (.ok method) (.literal params) := by
  have hargs : invocationOf (.object [("method", .string method),
      ("params", .object [(Expr.literalMarker, params)])]) =
      .ok (method, .object [(Expr.literalMarker, params)]) := rfl
  have hne : Expr.literalMarker ≠ Expr.expressionMarker := by decide
  rw [literalCallOf, Expr.ofJson_invocation hargs, Expr.ofTemplate, if_neg hne, if_pos rfl]

end Switchboard
