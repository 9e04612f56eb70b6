import Switchboard.Proofs.Expression.Places
import Mathlib.Logic.Relation
/-!
# The parts of an expression

The parts of an expression are evaluated against the same data as the whole
(`Expr.Beside`), or against data of their own (`Expr.Apart`): the bodies of
iterations and the steps of a sequence. Every operator call that is a part of an
expression was read from an object that stands in the value from which the
expression was read (`writtenIn_of_part`), and outside of the bodies there if it
is a part outside of the bodies.
-/

namespace Switchboard

namespace Expr

/-! ## Parts -/

/-- An immediate part, evaluated against the data of the whole. -/
inductive Beside : Expr → Expr → Prop where
  | item {items : List Expr} {e : Expr} (mem : e ∈ items) : Beside e (.list items)
  | field {fields : List (String × Expr)} {f : String × Expr} (mem : f ∈ fields) :
      Beside f.2 (.record fields)
  | operand {op : Builtin} {operands : List Expr} {e : Expr} (mem : e ∈ operands) :
      Beside e (.apply op operands)
  | choice {operands : List Expr} {e : Expr} (mem : e ∈ operands) : Beside e (.choice operands)
  | conjunct {operands : List Expr} {e : Expr} (mem : e ∈ operands) :
      Beside e (.conjunction operands)
  | disjunct {operands : List Expr} {e : Expr} (mem : e ∈ operands) :
      Beside e (.disjunction operands)
  | source (kind : Iteration) (source body : Expr) : Beside source (.iterate kind source body)
  | reduced (source body initial : Expr) : Beside source (.reduce source body initial)
  | initial (source body initial : Expr) : Beside initial (.reduce source body initial)
  | params (method : String) (params : Expr) : Beside params (.invoke (.ok method) params)

/-- An immediate part, evaluated against data of its own. -/
inductive Apart : Expr → Expr → Prop where
  | body (kind : Iteration) (source body : Expr) : Apart body (.iterate kind source body)
  | join (source body initial : Expr) : Apart body (.reduce source body initial)
  | step {steps : List (String × Expr)} {fault : Option String} {s : String × Expr}
      (mem : s ∈ steps) : Apart s.2 (.sequence steps fault)

/-- An immediate part, among which those that are evaluated against data of their own may count or
not. -/
def Immediate (bodies : Prop) (x e : Expr) : Prop := Beside x e ∨ bodies ∧ Apart x e

/-- **A part,** or the expression itself. -/
def Part (bodies : Prop) : Expr → Expr → Prop := Relation.ReflTransGen (Immediate bodies)

variable {bodies : Prop} {x y e : Expr}

theorem Part.beside (h : Part bodies x y) (hy : Beside y e) : Part bodies x e := h.tail (.inl hy)

theorem Part.apart (h : Part bodies x y) (hbodies : bodies) (hy : Apart y e) : Part bodies x e :=
  h.tail (.inr ⟨hbodies, hy⟩)

theorem part_iff : Part bodies x e ↔ x = e ∨ ∃ y, Part bodies x y ∧ Immediate bodies y e := by
  rw [Part, Relation.ReflTransGen.cases_tail_iff, eq_comm]

/-! ## Operator calls -/

/-- The expression is a call of an operator, known or not. -/
def IsCall : Expr → Prop
  | .literal _ => False
  | .list _ => False
  | .record _ => False
  | _ => True

/-- The call stands in the value. -/
def WrittenIn (bodies : Prop) (x : Expr) (v : Json) : Prop :=
  ∃ name args, Json.Stands bodies (.object [(name, args)]) v ∧ x = ofCall name args

theorem WrittenIn.of_stands {v w : Json} (h : WrittenIn bodies x v) (hv : Json.Stands bodies v w) :
    WrittenIn bodies x w := by
  obtain ⟨name, args, hstands, hx⟩ := h
  exact ⟨name, args, hstands.trans hv, hx⟩

/-- A call that is a part of a call is that call, or a part of its immediate parts. -/
theorem writtenIn_of_ofCall {name : String} {args : Json} (hx : Part bodies x (ofCall name args))
    (h : ∀ e, Immediate bodies e (ofCall name args) → Part bodies x e →
      WrittenIn bodies x (.object [(name, args)])) : WrittenIn bodies x (.object [(name, args)]) := by
  rcases part_iff.1 hx with rfl | ⟨e, hx, he⟩
  · exact ⟨name, args, .self, rfl⟩
  · exact h e he hx

/-- A call that is a part of what is none is a part of an immediate part. -/
theorem exists_immediate_of_part (hcall : x.IsCall) (h : Part bodies x e) (he : ¬ e.IsCall) :
    ∃ y, Part bodies x y ∧ Immediate bodies y e := by
  rcases part_iff.1 h with rfl | h
  · exact absurd hcall he
  · exact h

theorem not_part_literal (hcall : x.IsCall) (v : Json) : ¬ Part bodies x (.literal v) := by
  intro h
  obtain ⟨y, -, hy | ⟨-, hy⟩⟩ := exists_immediate_of_part hcall h id
  · cases hy
  · cases hy

/-- A part that is a call, of an operand that need not be given, is a part of one that is given. -/
theorem exists_of_operandAt {operands : List Expr} {i : Nat} (hx : x.IsCall)
    (h : Part bodies x (operandAt operands i)) : ∃ e, operands[i]? = some e ∧ Part bodies x e := by
  rw [operandAt] at h
  cases hi : operands[i]? with
  | none =>
    rw [hi] at h
    exact absurd h (not_part_literal hx .null)
  | some e =>
    rw [hi] at h
    exact ⟨e, rfl, h⟩

/-- The calls that are parts of operands stand in these. -/
def OperandsWrittenIn (bodies : Prop) (x : Expr) (args : Json) : Prop :=
  ∀ (i : Nat) (e : Expr), (ofOperands args)[i]? = some e → Part bodies x e →
    ∃ v : Json, args.operands[i]? = some v ∧ WrittenIn bodies x v

/-- What is written in an operand is written in the call, but for the body unless that counts. -/
theorem OperandsWrittenIn.writtenIn {args : Json} {name : String} {i : Nat}
    (h : OperandsWrittenIn bodies x args) (he : (ofOperands args)[i]? = some e)
    (hx : Part bodies x e) (hplace : i = 1 → name ∈ Json.bodyOperators → bodies) :
    WrittenIn bodies x (.object [(name, args)]) := by
  obtain ⟨v, hv, hw⟩ := h i e he hx
  exact hw.of_stands (Json.stands_of_operand hv .self hplace)

/-- The same of an operator that has no body. -/
theorem OperandsWrittenIn.of_mem {args : Json} {name : String} (h : OperandsWrittenIn bodies x args)
    (he : e ∈ ofOperands args) (hx : Part bodies x e) (hname : name ∉ Json.bodyOperators) :
    WrittenIn bodies x (.object [(name, args)]) := by
  obtain ⟨i, hi⟩ := List.getElem?_of_mem he
  exact h.writtenIn hi hx fun _ hmem => absurd hmem hname

/-- The same of an operator that may have a body, and of an operand that is none. -/
theorem OperandsWrittenIn.of_operandAt {args : Json} {name : String} {i : Nat} (hcall : x.IsCall)
    (h : OperandsWrittenIn bodies x args) (hx : Part bodies x (operandAt (ofOperands args) i))
    (hplace : i = 1 → bodies) : WrittenIn bodies x (.object [(name, args)]) := by
  obtain ⟨e, he, hx⟩ := exists_of_operandAt hcall hx
  exact h.writtenIn he hx fun hi _ => hplace hi

/-- The operator evaluates a body for each item of an array. -/
def hasBody : Operator → Bool
  | .iteration _ => true
  | .reduction => true
  | _ => false

/-- No other operator has such a name. -/
theorem not_mem_bodyOperators {name : String} {op : Operator} (h : Operator.ofName? name = some op)
    (hop : hasBody op = false) : name ∉ Json.bodyOperators := by
  intro hmem
  have hbodies : ∀ name ∈ Json.bodyOperators, (Operator.ofName? name).map hasBody = some true := by
    decide
  have hbody := hbodies name hmem
  rw [h, Option.map_some, hop] at hbody
  cases hbody

/-- **The parts of a call that evaluates operands** are operands, and what stands in these stands in
the call. -/
theorem OperandsWrittenIn.of_immediate {args : Json} {name : String} {op : Operator}
    (h : OperandsWrittenIn bodies x args) (hcall : x.IsCall)
    (hop : Operator.ofName? name = some op) (hoperands : op.composes = false)
    (he : Immediate bodies e (ofCall name args)) (hx : Part bodies x e) :
    WrittenIn bodies x (.object [(name, args)]) := by
  rw [ofCall, hop] at he
  cases op with
  | builtin op =>
    obtain he | ⟨-, he⟩ := he
    · cases he with
      | operand mem => exact h.of_mem mem hx (not_mem_bodyOperators hop rfl)
    · cases he
  | choice | conjunction | disjunction =>
    obtain he | ⟨-, he⟩ := he
    · cases he with
      | _ mem => exact h.of_mem mem hx (not_mem_bodyOperators hop rfl)
    · cases he
  | iteration kind =>
    obtain he | ⟨hbodies, he⟩ := he
    · cases he with
      | source => exact h.of_operandAt hcall hx (by omega)
    · cases he with
      | body => exact h.of_operandAt hcall hx fun _ => hbodies
  | reduction =>
    obtain he | ⟨hbodies, he⟩ := he
    · cases he with
      | reduced => exact h.of_operandAt hcall hx (by omega)
      | initial => exact h.of_operandAt hcall hx (by omega)
    · cases he with
      | join => exact h.of_operandAt hcall hx fun _ => hbodies
  | invocation => cases hoperands
  | sequence => cases hoperands

/-- The steps of a sequence stand in what it is given. -/
theorem WrittenIn.of_step {args : Json} {name : String} {s : String × Json}
    (hop : Operator.ofName? name = some .sequence) (hs : s ∈ (sequenceOf args).1)
    (h : WrittenIn bodies x s.2) : WrittenIn bodies x (.object [(name, args)]) := by
  have hname := not_mem_bodyOperators hop rfl
  exact (h.of_stands (Json.stands_of_sequenceOf hs)).of_stands
    (.field (Json.not_hasBody_of_not_mem hname) List.mem_cons_self .self)

/-! ## Templates -/

/-- The call stands in an expression that is marked in the template. -/
def MarkedIn (bodies : Prop) (x : Expr) (template : Json) : Prop :=
  ∃ expression, Json.Marked expression template ∧ WrittenIn bodies x expression

theorem MarkedIn.item {items : List Json} {v : Json} (hv : v ∈ items) (h : MarkedIn bodies x v) :
    MarkedIn bodies x (.array items) := by
  obtain ⟨expression, hmarked, hw⟩ := h
  exact ⟨expression, .item hv hmarked, hw⟩

theorem MarkedIn.field {fields : Json.Fields} {f : String × Json} (hf : f ∈ fields)
    (hplain : ∀ v, fields ≠ [(expressionMarker, v)] ∧ fields ≠ [(literalMarker, v)])
    (h : MarkedIn bodies x f.2) : MarkedIn bodies x (.object fields) := by
  obtain ⟨expression, hmarked, hw⟩ := h
  exact ⟨expression, .field hf hplain hmarked, hw⟩

/-- What is marked in the template of a call is written in the call. -/
theorem MarkedIn.writtenIn {args template : Json} {method : String}
    (h : MarkedIn bodies x template) (hof : invocationOf args = .ok (method, template)) :
    WrittenIn bodies x (.object [(Operator.invocationName, args)]) := by
  obtain ⟨expression, hmarked, hw⟩ := h
  exact hw.of_stands (.marked hof hmarked .self)

/-! ## Reading -/

/-- **The calls in an expression stand in the value from which it was read.** -/
theorem writtenIn_of_part (v : Json) (h : Part bodies x (ofJson v)) (hcall : x.IsCall) :
    WrittenIn bodies x v := by
  revert h
  -- along the reading of expressions, calls, templates and operands
  refine ofJson.induct
    (fun v => Part bodies x (ofJson v) → WrittenIn bodies x v)
    (fun name args => Part bodies x (ofCall name args) →
      WrittenIn bodies x (.object [(name, args)]))
    (fun v => Part bodies x (ofTemplate v) → MarkedIn bodies x v)
    (fun args => OperandsWrittenIn bodies x args)
    ?object ?array ?value ?builtin ?choice ?conjunction ?disjunction ?iteration ?reduction
    ?invocation ?malformed ?sequence ?unknown ?expression ?literal ?single ?record ?list ?scalar
    ?operands v
  case object =>
    intro name args ih hx
    rw [ofJson] at hx
    exact ih hx
  case array =>
    intro items ih hx
    rw [ofJson] at hx
    obtain ⟨e, hx, he | ⟨-, he⟩⟩ := exists_immediate_of_part hcall hx id
    · cases he with
      | item mem =>
        obtain ⟨⟨w, hw⟩, -, rfl⟩ := List.mem_map.1 mem
        exact (ih w hw hx).of_stands (.item hw .self)
    · cases he
  case value =>
    intro v hobject harray hx
    rw [ofJson.eq_3 v hobject harray] at hx
    exact absurd hx (not_part_literal hcall v)
  case builtin =>
    intro name args op hop ih hx
    exact writtenIn_of_ofCall hx fun e he hx => ih.of_immediate hcall hop rfl he hx
  case choice | conjunction | disjunction | reduction =>
    intro name args hop ih hx
    exact writtenIn_of_ofCall hx fun e he hx => ih.of_immediate hcall hop rfl he hx
  case iteration =>
    intro name args kind hop ih hx
    exact writtenIn_of_ofCall hx fun e he hx => ih.of_immediate hcall hop rfl he hx
  case invocation =>
    intro name args hop target template hof _ ih hx
    obtain rfl := eq_invocationName hop
    refine writtenIn_of_ofCall hx fun e he hx => ?_
    rw [← ofJson, ofJson_invocation hof] at he
    obtain he | ⟨-, he⟩ := he
    · cases he
      exact (ih hx).writtenIn hof
    · cases he
  case malformed =>
    intro name args hop reason hof hx
    obtain rfl := eq_invocationName hop
    refine writtenIn_of_ofCall hx fun e he hx => ?_
    rw [← ofJson, ofJson_malformed hof] at he
    obtain he | ⟨-, he⟩ := he
    · cases he
    · cases he
  case sequence =>
    intro name args hop ih hx
    refine writtenIn_of_ofCall hx fun e he hx => ?_
    rw [ofCall, hop] at he
    obtain he | ⟨-, he⟩ := he
    · cases he
    · cases he with
      | step mem =>
        obtain ⟨⟨s, hs⟩, -, rfl⟩ := List.mem_map.1 mem
        exact (ih s hs hx).of_step hop hs
  case unknown =>
    intro name args hop hx
    refine writtenIn_of_ofCall hx fun e he hx => ?_
    rw [ofCall, hop] at he
    obtain he | ⟨-, he⟩ := he
    · cases he
    · cases he
  case expression =>
    intro v ih hx
    rw [ofTemplate, if_pos rfl] at hx
    exact ⟨v, .self, ih hx⟩
  case literal =>
    intro v hne hx
    rw [ofTemplate, if_neg hne, if_pos rfl] at hx
    exact absurd hx (not_part_literal hcall v)
  case single =>
    intro key v hne hne' ih hx
    rw [ofTemplate, if_neg hne, if_neg hne'] at hx
    obtain ⟨e, hx, he | ⟨-, he⟩⟩ := exists_immediate_of_part hcall hx id
    · cases he with
      | field mem =>
        obtain rfl := List.mem_singleton.1 mem
        refine .field List.mem_cons_self (fun w => ⟨?_, ?_⟩) (ih hx)
        · exact fun heq => hne (congrArg Prod.fst (List.singleton_inj.1 heq))
        · exact fun heq => hne' (congrArg Prod.fst (List.singleton_inj.1 heq))
    · cases he
  case record =>
    intro fields hsingle ih hx
    rw [ofTemplate.eq_2 fields hsingle] at hx
    obtain ⟨e, hx, he | ⟨-, he⟩⟩ := exists_immediate_of_part hcall hx id
    · cases he with
      | field mem =>
        obtain ⟨⟨f, hf⟩, -, rfl⟩ := List.mem_map.1 mem
        exact .field hf (fun w => ⟨hsingle _ _, hsingle _ _⟩) (ih f hf hx)
    · cases he
  case list =>
    intro items ih hx
    rw [ofTemplate] at hx
    obtain ⟨e, hx, he | ⟨-, he⟩⟩ := exists_immediate_of_part hcall hx id
    · cases he with
      | item mem =>
        obtain ⟨⟨w, hw⟩, -, rfl⟩ := List.mem_map.1 mem
        exact .item hw (ih w hw hx)
    · cases he
  case scalar =>
    intro v hsingle hobject harray hx
    rw [ofTemplate.eq_4 v hsingle hobject harray] at hx
    exact absurd hx (not_part_literal hcall v)
  case operands =>
    intro args ih i e he hx
    rw [ofOperands, List.getElem?_map] at he
    obtain ⟨⟨w, hw⟩, hi, rfl⟩ := Option.map_eq_some_iff.1 he
    refine ⟨w, ?_, ih w hw hx⟩
    have := congrArg (Option.map Subtype.val) hi
    rwa [← List.getElem?_map, List.attach_map_subtype_val] at this

end Expr

end Switchboard
