import Switchboard.Proofs.Expression.Invocation
import Switchboard.Proofs.Json.Shape
/-!
# Places in an expression

Where something stands in an expression as it is written. `Json.Within` says that a
value stands anywhere inside another one. `Json.Stands` tells the bodies of
iterations from the rest: the operators that evaluate an expression for each item
of an array are given it as their second operand (`Json.bodyOperators`), and it is
evaluated against the items, not against the data. In the template of a call
nothing is a call itself, whatever its key; but what is marked there as an
expression is evaluated against the data (`Json.Marked`), so it stands where the
call does.
-/

namespace Switchboard

namespace Json

/-! ## Anywhere -/

/-- The value stands somewhere inside another, or is that other. -/
inductive Within (x : Json) : Json → Prop where
  | self : Within x x
  | item {items : List Json} {v : Json} (mem : v ∈ items) (within : Within x v) :
      Within x (.array items)
  | field {fields : Fields} {f : String × Json} (mem : f ∈ fields) (within : Within x f.2) :
      Within x (.object fields)

theorem Within.trans {x y z : Json} (hxy : Within x y) (hyz : Within y z) : Within x z := by
  induction hyz with
  | self => exact hxy
  | item mem _ ih => exact .item mem ih
  | field mem _ ih => exact .field mem ih

/-- The parameters of a call are written in it, if there are any. -/
theorem within_invocationOf {args params : Json} {method : String}
    (h : invocationOf args = .ok (method, params)) : params = .object [] ∨ Within params args := by
  have key (fields : Fields) (h : invocationOf (.object fields) = .ok (method, params)) :
      params = .object [] ∨ Within params (.object fields) := by
    dsimp only [invocationOf] at h
    split at h
    · rw [Except.ok.injEq, Prod.mk.injEq] at h
      obtain ⟨-, rfl⟩ := h
      cases hp : fields.lookup "params" with
      | none => exact .inl rfl
      | some p => exact .inr (.field (mem_of_lookup hp) .self)
    · cases h
  unfold invocationOf at h
  split at h
  · exact key _ h
  · exact (key _ h).imp id fun hw => .item List.mem_cons_self hw
  · cases h
  · cases h

/-! ## Outside of bodies -/

/-- The operators that evaluate their second operand, the body, for each item of an array. -/
def bodyOperators : List String := ["map", "filter", "all", "some", "none", "reduce"]

/-- The value is a call of such an operator, with an array for its operands. -/
def HasBody (v : Json) : Prop :=
  ∃ name operands, name ∈ bodyOperators ∧ v = .object [(name, .array operands)]

/-- **What is marked in a template** as an expression to be evaluated. -/
inductive Marked (expression : Json) : Json → Prop where
  | self : Marked expression (.object [(Expr.expressionMarker, expression)])
  | item {items : List Json} {t : Json} (mem : t ∈ items) (marked : Marked expression t) :
      Marked expression (.array items)
  | field {fields : Fields} {f : String × Json} (mem : f ∈ fields)
      (plain : ∀ x, fields ≠ [(Expr.expressionMarker, x)] ∧ fields ≠ [(Expr.literalMarker, x)])
      (marked : Marked expression f.2) : Marked expression (.object fields)

/-- **Where a value stands in an expression:** anywhere, or outside of the bodies unless those
count. -/
inductive Stands (bodies : Prop) (x : Json) : Json → Prop where
  | self : Stands bodies x x
  | item {items : List Json} {v : Json} (mem : v ∈ items) (stands : Stands bodies x v) :
      Stands bodies x (.array items)
  | field {fields : Fields} {f : String × Json} (plain : ¬ HasBody (.object fields))
      (mem : f ∈ fields) (stands : Stands bodies x f.2) : Stands bodies x (.object fields)
  | operand {name : String} {operands : List Json} {i : Nat} {v : Json}
      (iterates : name ∈ bodyOperators) (here : operands[i]? = some v) (place : i = 1 → bodies)
      (stands : Stands bodies x v) : Stands bodies x (.object [(name, .array operands)])
  | marked {args template expression : Json} {method : String}
      (call : invocationOf args = .ok (method, template)) (marked : Marked expression template)
      (stands : Stands bodies x expression) :
      Stands bodies x (.object [(Operator.invocationName, args)])

variable {bodies : Prop} {x y z v args : Json} {name : String}

theorem Stands.trans (hxy : Stands bodies x y) (hyz : Stands bodies y z) :
    Stands bodies x z := by
  induction hyz with
  | self => exact hxy
  | item mem _ ih => exact .item mem ih
  | field plain mem _ ih => exact .field plain mem ih
  | operand iterates here place _ ih => exact .operand iterates here place ih
  | marked call marked _ ih => exact .marked call marked ih

theorem Marked.within {template : Json} (h : Marked x template) : Within x template := by
  induction h with
  | self => exact .field List.mem_cons_self .self
  | item mem _ ih => exact .item mem ih
  | field mem _ _ ih => exact .field mem ih

/-- What is marked in the template of a call is written in the call. -/
theorem Marked.within_call {template : Json} {method : String} (h : Marked x template)
    (call : invocationOf args = .ok (method, template)) : Within x args := by
  rcases within_invocationOf call with rfl | hw
  · cases h with
    | field mem => cases mem
  · exact h.within.trans hw

/-- What stands in an expression is written in it. -/
theorem Stands.within (h : Stands bodies x v) : Within x v := by
  induction h with
  | self => exact .self
  | item mem _ ih => exact .item mem ih
  | field _ mem _ ih => exact .field mem ih
  | operand _ here _ _ ih =>
    exact .field List.mem_cons_self (.item (List.mem_of_getElem? here) ih)
  | marked call marked _ ih =>
    exact .field List.mem_cons_self (ih.trans (marked.within_call call))

/-! ## The parts of a call -/

theorem not_hasBody_of_not_mem (h : name ∉ bodyOperators) : ¬ HasBody (.object [(name, args)]) := by
  rintro ⟨name', operands, hname, heq⟩
  cases heq
  exact h hname

/-- An operand is an item of the array of operands, or what is given is no array and the operand
itself. -/
theorem operand_cases {i : Nat} (h : args.operands[i]? = some v) :
    (∃ items, args = .array items ∧ items[i]? = some v) ∨
      (∀ items, args ≠ .array items) ∧ v = args := by
  unfold operands at h
  split at h
  · next items => exact .inl ⟨items, rfl, h⟩
  · next harray =>
    rw [List.getElem?_singleton] at h
    split at h
    · cases h
      exact .inr ⟨harray, rfl⟩
    · cases h

/-- The operands of a call stand in it, but for the body. -/
theorem stands_of_operand {i : Nat} (hv : args.operands[i]? = some v) (hx : Stands bodies x v)
    (hplace : i = 1 → name ∈ bodyOperators → bodies) :
    Stands bodies x (.object [(name, args)]) := by
  rcases operand_cases hv with ⟨items, rfl, hv⟩ | ⟨harray, rfl⟩
  · by_cases hname : name ∈ bodyOperators
    · exact .operand hname hv (fun hi => hplace hi hname) hx
    · exact .field (not_hasBody_of_not_mem hname) List.mem_cons_self
        (.item (List.mem_of_getElem? hv) hx)
  · refine .field ?_ List.mem_cons_self hx
    rintro ⟨_, items, -, heq⟩
    cases heq
    exact harray items rfl

/-- A field under another name than theirs stands in its object. -/
theorem stands_of_field? (h : v.field? name = some x) (hname : name ∉ bodyOperators) :
    Stands bodies x v := by
  unfold field? at h
  split at h
  · have hmem := mem_of_lookup h
    refine .field ?_ hmem .self
    rintro ⟨name', operands, hname', heq⟩
    cases heq
    cases List.mem_singleton.1 hmem
    exact hname hname'
  · cases h

theorem stands_of_stepOf {i : Nat} {step : Json} {s : String × Json}
    (h : stepOf i step = .ok s) : Stands bodies s.2 step := by
  unfold stepOf at h
  split at h
  · split at h
    · next logic hl =>
      cases h
      rcases Option.or_eq_some_iff.1 hl with h | ⟨-, h⟩
      · exact stands_of_field? h (by decide)
      · exact stands_of_field? h (by decide)
    · cases h
  · cases h

theorem stands_of_stepsOf {i : Nat} {steps : List Json} {s : String × Json}
    (h : s ∈ (stepsOf i steps).1) : Stands bodies s.2 (.array steps) := by
  suffices ∃ step ∈ steps, Stands bodies s.2 step by
    obtain ⟨step, hmem, hs⟩ := this
    exact .item hmem hs
  induction steps generalizing i with
  | nil => simp [stepsOf] at h
  | cons step rest ih =>
    rw [stepsOf] at h
    split at h
    · next hs =>
      rcases List.mem_cons.1 h with rfl | h
      · exact ⟨step, List.mem_cons_self, stands_of_stepOf hs⟩
      · obtain ⟨step', hmem, hw⟩ := ih h
        exact ⟨step', List.mem_cons_of_mem _ hmem, hw⟩
    · simp at h

/-- The steps of a sequence stand in what it is given. -/
theorem stands_of_sequenceOf {s : String × Json} (h : s ∈ (sequenceOf args).1) :
    Stands bodies s.2 args := by
  unfold sequenceOf at h
  split at h
  · next steps hs => exact (stands_of_stepsOf h).trans (stands_of_field? hs (by decide))
  · simp at h
  · simp at h

end Json

end Switchboard
