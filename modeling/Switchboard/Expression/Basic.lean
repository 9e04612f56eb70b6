import Switchboard.Expression.Builtin
/-!
# Expressions

An expression is written as JSON: an object with a single field is an operator
call, keyed by the operator's name; an array is evaluated item by item; and any
other value stands for itself. `Expr.ofJson` reads one.

Operator calls take their operands from an array, or take any other value as
their only operand (`Json.operands`). Two operators compose operations:
`jsonrpc` calls one, with parameters written as a template, and `sequence` runs
named steps in a growing context. A template is any value, in which an object
with the only field `$jsonLogic` stands for the value of an expression, and one
with the only field `$literal` for what it holds (`Expr.ofTemplate`).
-/

namespace Switchboard

/-! ## Syntax -/

/-- The operators that evaluate a body on each item of an array. -/
inductive Iteration where
  | map
  | filter
  | all
  | some
  | none
  deriving DecidableEq

/-- The name an iteration is called by. -/
def Iteration.name : Iteration → String
  | .map => "map"
  | .filter => "filter"
  | .all => "all"
  | .some => "some"
  | .none => "none"

/-- An expression. -/
inductive Expr where
  /-- A value that stands for itself. -/
  | literal (value : Json)
  /-- An array, evaluated item by item. -/
  | list (items : List Expr)
  /-- An object, evaluated field by field; only templates contain one. -/
  | record (fields : List (String × Expr))
  /-- An operator on the operands' values. -/
  | apply (op : Builtin) (operands : List Expr)
  /-- Conditions and results in turn, and a last result for when no condition
  holds. -/
  | choice (operands : List Expr)
  /-- The first operand that is false, or the last one. -/
  | conjunction (operands : List Expr)
  /-- The first operand that is true, or the last one. -/
  | disjunction (operands : List Expr)
  /-- A body evaluated on each item of an array. -/
  | iterate (kind : Iteration) (source body : Expr)
  /-- A body that joins an accumulator with each item of an array in turn. -/
  | reduce (source body initial : Expr)
  /-- A call of an operation, or why it is no such call. -/
  | invoke (target : Except String String) (params : Expr)
  /-- Named steps up to the first one that is none, and what that one lacks. -/
  | sequence (steps : List (String × Expr)) (fault : Option String)
  /-- A call of something that is no operator. -/
  | unknown (name : String)

/-! ## Operators by name -/

/-- What an operator's name stands for. -/
inductive Operator where
  | builtin (op : Builtin)
  | choice
  | conjunction
  | disjunction
  | iteration (kind : Iteration)
  | reduction
  | invocation
  | sequence
  deriving DecidableEq

namespace Operator

/-- The name of the operator that calls an operation. -/
def invocationName : String := "jsonrpc"

/-- The name of the operator that runs steps. -/
def sequenceName : String := "sequence"

/-- The operators that do not evaluate all their operands, by name. -/
def special : List (String × Operator) :=
  [("if", .choice), ("?:", .choice), ("and", .conjunction), ("or", .disjunction),
   ("map", .iteration .map), ("filter", .iteration .filter), ("all", .iteration .all),
   ("some", .iteration .some), ("none", .iteration .none), ("reduce", .reduction),
   (invocationName, .invocation), (sequenceName, .sequence)]

/-- The operator of a name. -/
def ofName? (name : String) : Option Operator :=
  match Builtin.ofName? name with
  | some op => some (.builtin op)
  | none => special.lookup name

/-- Whether the operator composes operations. -/
def composes : Operator → Bool
  | .invocation => true
  | .sequence => true
  | _ => false

end Operator

/-! ## Reading -/

namespace Json

/-- The operands of a call: the items of an array, or any other value alone. -/
def operands : Json → List Json
  | .array items => items
  | v => [v]

theorem sizeOf_operand {x args : Json} (h : x ∈ args.operands) : sizeOf x ≤ sizeOf args := by
  unfold operands at h
  split at h
  · next items =>
    have := List.sizeOf_lt_of_mem h
    simp only [array.sizeOf_spec]; omega
  · simp only [List.mem_singleton] at h; subst h; exact Nat.le_refl _

theorem sizeOf_lookup {fields : Fields} {name : String} {v : Json}
    (h : fields.lookup name = some v) : sizeOf v < sizeOf fields := by
  induction fields with
  | nil => simp at h
  | cons f rest ih =>
    obtain ⟨n, w⟩ := f
    rw [List.lookup_cons] at h
    split at h
    · simp only [Option.some.injEq] at h
      subst h
      simp only [List.cons.sizeOf_spec, Prod.mk.sizeOf_spec]; omega
    · have := ih h
      simp only [List.cons.sizeOf_spec]; omega

theorem sizeOf_field {v x : Json} {name : String} (h : v.field? name = some x) :
    sizeOf x < sizeOf v := by
  unfold field? at h
  split at h
  · have := sizeOf_lookup h
    simp only [object.sizeOf_spec]; omega
  · simp at h

theorem sizeOf_field_mem {fields : Fields} {f : String × Json} (h : f ∈ fields) :
    sizeOf f.2 < sizeOf fields := by
  have h1 := List.sizeOf_lt_of_mem h
  have h2 : sizeOf f = 1 + sizeOf f.1 + sizeOf f.2 := by cases f; rfl
  omega

end Json

/-- What `jsonrpc` is given: the method to call and the template of its
parameters, an empty object when there is none; or why it is no such thing. -/
def invocationOf (args : Json) : Except String (String × Json) :=
  let ofFields (fields : Json.Fields) : Except String (String × Json) :=
    match fields.lookup "method" with
    | some (.string m) => .ok (m, (fields.lookup "params").getD (.object []))
    | _ => .error "`method` must be a string"
  match args with
  | .object fields => ofFields fields
  | .array [.object fields] => ofFields fields
  | .array _ => .error "expected a single object argument"
  | _ => .error "expected an object with `method` and `params`"

/-- The name and the expression of a step, or what it lacks. -/
def stepOf (i : Nat) (step : Json) : Except String (String × Json) :=
  match step.field? "resultName" with
  | some (.string name) =>
    match (step.field? "logic").or (step.field? "jsonLogic") with
    | some logic => .ok (name, logic)
    | none => .error ("step " ++ toString i ++ " has no `logic`")
  | _ => .error ("step " ++ toString i ++ " has no string `resultName`")

/-- The steps up to the first that lacks something, from the `i`-th on. -/
def stepsOf (i : Nat) : List Json → List (String × Json) × Option String
  | [] => ([], none)
  | step :: rest =>
    match stepOf i step with
    | .ok s => (s :: (stepsOf (i + 1) rest).1, (stepsOf (i + 1) rest).2)
    | .error reason => ([], some reason)

/-- What `sequence` is given: its steps, and why there are no more of them. -/
def sequenceOf (args : Json) : List (String × Json) × Option String :=
  match args.field? "operations" with
  | some (.array steps) => stepsOf 0 steps
  | some _ => ([], some "`operations` must be an array")
  | none => ([], some "missing `operations`")

theorem sizeOf_stepOf {i : Nat} {step : Json} {s : String × Json} (h : stepOf i step = .ok s) :
    sizeOf s.2 < sizeOf step := by
  unfold stepOf at h
  split at h
  · split at h
    · next logic hl =>
      cases h
      rcases Option.or_eq_some_iff.1 hl with h | ⟨-, h⟩ <;> exact Json.sizeOf_field h
    · cases h
  · cases h

theorem sizeOf_stepsOf {i : Nat} {steps : List Json} {s : String × Json}
    (h : s ∈ (stepsOf i steps).1) : sizeOf s.2 < sizeOf steps := by
  induction steps generalizing i with
  | nil => simp [stepsOf] at h
  | cons step rest ih =>
    rw [stepsOf] at h
    split at h
    · next hs =>
      rcases List.mem_cons.1 h with rfl | h
      · have := sizeOf_stepOf hs
        simp only [List.cons.sizeOf_spec]; omega
      · have := ih h
        simp only [List.cons.sizeOf_spec]; omega
    · simp at h

theorem sizeOf_sequenceOf {args : Json} {s : String × Json} (h : s ∈ (sequenceOf args).1) :
    sizeOf s.2 < sizeOf args := by
  unfold sequenceOf at h
  split at h
  · next steps hs =>
    have h1 := sizeOf_stepsOf h
    have h2 := Json.sizeOf_field hs
    simp only [Json.array.sizeOf_spec] at h2; omega
  · simp at h
  · simp at h

theorem sizeOf_invocationOf {args params : Json} {m : String}
    (h : invocationOf args = .ok (m, params)) : sizeOf params < 1 + sizeOf args := by
  have key : ∀ fields : Json.Fields,
      (match fields.lookup "method" with
        | some (.string m) => Except.ok (m, (fields.lookup "params").getD (.object []))
        | _ => .error "`method` must be a string") = .ok (m, params) →
      sizeOf params < 1 + sizeOf (Json.object fields) := by
    intro fields h
    split at h
    · simp only [Except.ok.injEq, Prod.mk.injEq] at h
      rw [← h.2]
      cases hp : fields.lookup "params" with
      | none =>
        simp only [Option.getD_none, Json.object.sizeOf_spec, List.nil.sizeOf_spec]
        have : 0 < sizeOf fields := by
          cases fields with
          | nil => simp
          | cons f rest => simp only [List.cons.sizeOf_spec]; omega
        omega
      | some p =>
        have := Json.sizeOf_lookup hp
        simp only [Option.getD_some, Json.object.sizeOf_spec]; omega
    · cases h
  unfold invocationOf at h
  split at h
  · exact key _ h
  · next fields =>
    have := key fields h
    simp only [Json.array.sizeOf_spec, List.cons.sizeOf_spec]; omega
  · cases h
  · cases h

namespace Expr

/-- The key of an object that stands for an expression's value in a template. -/
def expressionMarker : String := "$jsonLogic"

/-- The key of an object that stands for what it holds in a template. -/
def literalMarker : String := "$literal"

/-- The operand at a place; a missing one is null. -/
def operandAt (operands : List Expr) (i : Nat) : Expr := operands[i]?.getD (.literal .null)

mutual

/-- The expression written as a value. -/
def ofJson (v : Json) : Expr :=
  match v with
  | .object [(name, args)] => ofCall name args
  | .array items => .list (items.attach.map fun ⟨x, _⟩ => ofJson x)
  | v => .literal v
termination_by (sizeOf v, 0)

/-- The call of an operator by name. -/
def ofCall (name : String) (args : Json) : Expr :=
  match Operator.ofName? name with
  | some (.builtin op) => .apply op (ofOperands args)
  | some .choice => .choice (ofOperands args)
  | some .conjunction => .conjunction (ofOperands args)
  | some .disjunction => .disjunction (ofOperands args)
  | some (.iteration kind) =>
    .iterate kind (operandAt (ofOperands args) 0) (operandAt (ofOperands args) 1)
  | some .reduction =>
    .reduce (operandAt (ofOperands args) 0) (operandAt (ofOperands args) 1)
      (operandAt (ofOperands args) 2)
  | some .invocation =>
    match h : invocationOf args with
    | .ok (method, params) =>
      have := sizeOf_invocationOf h
      .invoke (.ok method) (ofTemplate params)
    | .error reason => .invoke (.error reason) (.literal .null)
  | some .sequence =>
    .sequence ((sequenceOf args).1.attach.map fun ⟨s, h⟩ =>
      have := sizeOf_sequenceOf h
      (s.1, ofJson s.2))
      (sequenceOf args).2
  | none => .unknown name
termination_by (1 + sizeOf args, 1)

/-- The operands of a call. -/
def ofOperands (args : Json) : List Expr :=
  args.operands.attach.map fun ⟨x, _⟩ => ofJson x
termination_by (1 + sizeOf args, 0)
decreasing_by
  have := Json.sizeOf_operand ‹x ∈ args.operands›
  exact Prod.Lex.left _ _ (by omega)

/-- The expression that builds a template's value. -/
def ofTemplate (v : Json) : Expr :=
  match v with
  | .object [(key, x)] =>
    if key = expressionMarker then ofJson x
    else if key = literalMarker then .literal x
    else .record [(key, ofTemplate x)]
  | .object fields => 
    .record (fields.attach.map fun ⟨f, h⟩ =>
      have := Json.sizeOf_field_mem h
      (f.1, ofTemplate f.2))
  | .array items => .list (items.attach.map fun ⟨x, _⟩ => ofTemplate x)
  | v => .literal v
termination_by (sizeOf v, 0)

end

end Expr

end Switchboard
