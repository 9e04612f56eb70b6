import Switchboard.Expression.Evaluation
import Switchboard.Proofs.Expression.Parts
import Switchboard.Proofs.Task.Failure
/-!
# Related evaluations

Evaluating an expression is sequencing, failing on its own account, and asking the
host; nothing else depends on the surroundings. So two evaluations, of one
expression by two hosts and against two values, are related by whatever relation
sequencing keeps (`Sequencing`), as long as what is said of the expression and the
data hands down to the parts and settles what the relation asks of calls and of
looks at the data (`Inherits`). `eval_related` is the one induction over expressions
that this takes.
-/

namespace Switchboard

/-! ## What is asked of a host -/

namespace Host

variable {ρ : Type}

/-- What a host makes of a call, with parameters that are evaluated if it comes to that. -/
def invoke (h : Host ρ) (target : Except String String) (params : Evaluation ρ Json) :
    Evaluation ρ Json :=
  match h.call?, target with
  | none, _ => throw (.unknownOperator Operator.invocationName)
  | some _, .error reason => throw (.malformed Operator.invocationName reason)
  | some call, .ok method => call method params

/-- What a host makes of a sequence, of which the steps that there are have an output. -/
def conclude (h : Host ρ) (fault : Option String) (output : Evaluation ρ Json) :
    Evaluation ρ Json :=
  match h.call? with
  | none => throw (.unknownOperator Operator.sequenceName)
  | some _ => do
    let v ← output
    match fault with
    | some reason => throw (.malformed Operator.sequenceName reason)
    | none => return v

end Host

namespace Expr

variable {ρ : Type} {α β : Type}

theorem eval_invoke (h : Host ρ) (target : Except String String) (params : Expr) (data : Json) :
    eval h (.invoke target params) data = h.invoke target (eval h params data) := by
  obtain ⟨_ | call⟩ := h
  · rfl
  · cases target with
    | ok method => rfl
    | error reason => rfl

theorem eval_sequence (h : Host ρ) (steps : List (String × Expr)) (fault : Option String)
    (data : Json) :
    eval h (.sequence steps fault) data = h.conclude fault (evalSteps h steps data data) := by
  obtain ⟨_ | call⟩ := h
  · rfl
  · rfl

/-! ## Relations -/

/-- A relation between evaluations of each kind of value. -/
abbrev EvaluationRelation (ρ : Type) := (α : Type) → Evaluation ρ α → Evaluation ρ α → Prop

/-- A relation that sequencing keeps, and in which what fails for its operands stands to itself. -/
structure Sequencing (R : EvaluationRelation ρ) : Prop where
  pure : ∀ {α : Type} (a : α), R α (pure a) (pure a)
  bind : ∀ {α β : Type} {x y : Evaluation ρ α} {f g : α → Evaluation ρ β},
    R α x y → (∀ a, R β (f a) (g a)) → R β (x >>= f) (y >>= g)
  malformed : ∀ {α : Type} (operator reason : String),
    R α (throw (.malformed operator reason)) (throw (.malformed operator reason))

variable {R : EvaluationRelation ρ} {h h' : Host ρ} {f g : Json → Evaluation ρ Json}

/-! ## Failing on one's own account -/

theorem failsOnly_itemsOf (operator : String) (v : Json) :
    FailsOnly EvalError.OfOperands (itemsOf operator v) := by
  rw [itemsOf.eq_def]
  split
  · exact failsOnly_ok _
  · exact failsOnly_ok _
  · exact failsOnly_error trivial

theorem failsOnly_numbers (operator : String) (args : List Json) :
    FailsOnly EvalError.OfOperands (Builtin.numbers operator args) := by
  refine failsOnly_mapM (fun v => ?_) args
  cases v.toNumber? with
  | some x => exact failsOnly_ok x
  | none => exact failsOnly_error trivial

theorem failsOnly_lookUp (args : List Json) (data : Json) :
    FailsOnly EvalError.OfOperands (Builtin.lookUp args data) := by
  rw [Builtin.lookUp]
  split
  · exact failsOnly_ok _
  · exact failsOnly_ok _
  · exact failsOnly_ok _
  · exact failsOnly_error trivial

theorem failsOnly_missingUnless (args : List Json) (data : Json) :
    FailsOnly EvalError.OfOperands (Builtin.missingUnless args data) := by
  rw [Builtin.missingUnless]
  split
  · exact failsOnly_error trivial
  · split
    · exact failsOnly_ok _
    · exact failsOnly_error trivial

theorem failsOnly_difference (xs : List Binary64) :
    FailsOnly EvalError.OfOperands (Builtin.difference xs) := by
  rw [Builtin.difference.eq_def]
  split
  · exact failsOnly_ok _
  · exact failsOnly_ok _
  · exact failsOnly_error trivial

theorem failsOnly_ofTwo (operator : String) (join : Binary64 → Binary64 → Binary64)
    (xs : List Binary64) : FailsOnly EvalError.OfOperands (Builtin.ofTwo operator join xs) := by
  rw [Builtin.ofTwo.eq_def]
  split
  · exact failsOnly_ok _
  · exact failsOnly_error trivial

/-- **An operator on values has a value, or its operands do not fit it.** -/
theorem failsOnly_apply (op : Builtin) (args : List Json) (data : Json) :
    FailsOnly EvalError.OfOperands (op.apply args data) := by
  cases op with
  | var => exact failsOnly_lookUp args data
  | missingSome => exact failsOnly_missingUnless args data
  | add => exact (failsOnly_numbers _ args).bind fun xs => failsOnly_ok _
  | subtract => exact (failsOnly_numbers _ args).bind fun xs => failsOnly_difference xs
  | multiply => exact (failsOnly_numbers _ args).bind fun xs => failsOnly_ok _
  | divide => exact (failsOnly_numbers _ args).bind fun xs => failsOnly_ofTwo _ _ xs
  | remainder => exact (failsOnly_numbers _ args).bind fun xs => failsOnly_ofTwo _ _ xs
  | min => exact (failsOnly_numbers _ args).bind fun xs => failsOnly_ok _
  | max => exact (failsOnly_numbers _ args).bind fun xs => failsOnly_ok _
  | _ => exact failsOnly_ok _

/-! ## The parts of an evaluation -/

/-- What fails only for its operands stands to itself. -/
theorem Sequencing.lift (hR : Sequencing R) {x : Except EvalError α}
    (hx : FailsOnly EvalError.OfOperands x) : R α (liftM x) (liftM x) := by
  cases x with
  | ok a => exact hR.pure a
  | error e =>
    match e, hx e rfl with
    | .malformed operator reason, _ => exact hR.malformed operator reason

theorem Sequencing.map (hR : Sequencing R) {x y : Evaluation ρ α} (h : R α x y) (k : α → β) :
    R β (do return k (← x)) (do return k (← y)) :=
  hR.bind h fun a => hR.pure (k a)

theorem Sequencing.mapM (hR : Sequencing R) (items : List Json)
    (hf : ∀ v ∈ items, R Json (f v) (g v)) : R (List Json) (items.mapM f) (items.mapM g) := by
  induction items with
  | nil =>
    rw [List.mapM_nil, List.mapM_nil]
    exact hR.pure []
  | cons v rest ih =>
    obtain ⟨hv, hrest⟩ := List.forall_mem_cons.1 hf
    rw [List.mapM_cons, List.mapM_cons]
    exact hR.bind hv fun w => hR.map (ih hrest) (w :: ·)

theorem Sequencing.filterItems (hR : Sequencing R) (items : List Json)
    (hf : ∀ v ∈ items, R Json (f v) (g v)) :
    R (List Json) (filterItems f items) (filterItems g items) := by
  induction items with
  | nil => exact hR.pure []
  | cons v rest ih =>
    obtain ⟨hv, hrest⟩ := List.forall_mem_cons.1 hf
    rw [Expr.filterItems, Expr.filterItems]
    refine hR.bind hv fun w => ?_
    cases w.truthy with
    | true => exact hR.map (ih hrest) (v :: ·)
    | false => exact ih hrest

theorem Sequencing.anyItem (hR : Sequencing R) (wanted : Bool) (items : List Json)
    (hf : ∀ v ∈ items, R Json (f v) (g v)) :
    R Bool (anyItem f wanted items) (anyItem g wanted items) := by
  induction items with
  | nil => exact hR.pure false
  | cons v rest ih =>
    obtain ⟨hv, hrest⟩ := List.forall_mem_cons.1 hf
    rw [Expr.anyItem, Expr.anyItem]
    refine hR.bind hv fun w => ?_
    by_cases hw : w.truthy = wanted
    · rw [if_pos hw, if_pos hw]
      exact hR.pure true
    · rw [if_neg hw, if_neg hw]
      exact ih hrest

/-- Iterations over the same items are related if their bodies are, on each of these. -/
theorem Sequencing.iterateOver (hR : Sequencing R) (kind : Iteration) (items : List Json)
    (hf : ∀ v ∈ items, R Json (f v) (g v)) :
    R Json (iterateOver kind f items) (iterateOver kind g items) := by
  cases kind with
  | map => exact hR.map (hR.mapM items hf) Json.array
  | filter => exact hR.map (hR.filterItems items hf) Json.array
  | all =>
    rw [Expr.iterateOver, Expr.iterateOver]
    cases items.isEmpty with
    | true => exact hR.pure (Json.bool false)
    | false => exact hR.map (hR.anyItem false items hf) fun b => Json.bool !b
  | some => exact hR.map (hR.anyItem true items hf) Json.bool
  | none => exact hR.map (hR.anyItem true items hf) fun b => Json.bool !b

/-- So are reductions, if their bodies are for whatever the accumulator is. -/
theorem Sequencing.foldlM (hR : Sequencing R) {f g : Json → Json → Evaluation ρ Json}
    (items : List Json) (first : Json) (hf : ∀ a, ∀ v ∈ items, R Json (f a v) (g a v)) :
    R Json (items.foldlM f first) (items.foldlM g first) := by
  induction items generalizing first with
  | nil =>
    rw [List.foldlM_nil, List.foldlM_nil]
    exact hR.pure first
  | cons v rest ih =>
    rw [List.foldlM_cons, List.foldlM_cons]
    exact hR.bind (hf first v List.mem_cons_self) fun a =>
      ih a fun b w hw => hf b w (List.mem_cons_of_mem v hw)

/-! ## Every expression -/

/-- **What is said of an expression and of the data on either side hands down,** and settles
what the relation asks: the same of every part, for the data it is evaluated against; that the data
are the same where they are looked at; and that the two hosts are related in what they are asked. -/
structure Inherits (R : EvaluationRelation ρ) (h h' : Host ρ) (P : Expr → Json → Json → Prop) :
    Prop where
  beside : ∀ {x e : Expr} {data data' : Json}, Beside x e → P e data data' → P x data data'
  apart : ∀ {x e : Expr} {data data' : Json} (v : Json), Apart x e → P e data data' → P x v v
  apply : ∀ {op : Builtin} {operands : List Expr} {data data' : Json},
    P (.apply op operands) data data' → ∀ args, op.apply args data = op.apply args data'
  context : ∀ {steps : List (String × Expr)} {fault : Option String} {data data' : Json},
    P (.sequence steps fault) data data' → data = data'
  unknown : ∀ {name : String} {data data' : Json}, P (.unknown name) data data' →
    R Json (throw (.unknownOperator name)) (throw (.unknownOperator name))
  malformed : ∀ {reason : String} {params : Expr} {data data' : Json},
    P (.invoke (.error reason) params) data data' →
    ∀ x y, R Json (h.invoke (.error reason) x) (h'.invoke (.error reason) y)
  invoke : ∀ {method : String} {params : Expr} {data data' : Json},
    P (.invoke (.ok method) params) data data' →
    ∀ x y, R Json x y → R Json (h.invoke (.ok method) x) (h'.invoke (.ok method) y)
  conclude : ∀ {steps : List (String × Expr)} {fault : Option String} {data data' : Json},
    P (.sequence steps fault) data data' →
    ∀ x y, R Json x y → R Json (h.conclude fault x) (h'.conclude fault y)

variable {P : Expr → Json → Json → Prop}

mutual

/-- **Evaluations are related** if what is said of the expression and the data hands down. -/
theorem eval_related (hR : Sequencing R) (hP : Inherits R h h' P) :
    ∀ (e : Expr) (data data' : Json), P e data data' → R Json (eval h e data) (eval h' e data')
  | .literal v, _, _, _ => by
    rw [eval, eval]
    exact hR.pure v
  | .list items, data, data', he => by
    rw [eval, eval]
    exact hR.map (evalAll_related hR hP items data data' fun x hx => hP.beside (.item hx) he)
      Json.array
  | .record fields, data, data', he => by
    rw [eval, eval]
    exact hR.map (evalFields_related hR hP fields data data' fun f hf => hP.beside (.field hf) he)
      Json.object
  | .apply op operands, data, data', he => by
    rw [eval, eval]
    refine hR.bind (evalAll_related hR hP operands data data' fun x hx =>
      hP.beside (.operand hx) he) fun args => ?_
    rw [← hP.apply he args]
    exact hR.lift (failsOnly_apply op args data)
  | .choice operands, data, data', he => by
    rw [eval, eval]
    exact evalChoice_related hR hP operands data data' fun x hx => hP.beside (.choice hx) he
  | .conjunction operands, data, data', he => by
    rw [eval, eval]
    exact evalUntil_related hR hP false (.bool true) operands data data' fun x hx =>
      hP.beside (.conjunct hx) he
  | .disjunction operands, data, data', he => by
    rw [eval, eval]
    exact evalUntil_related hR hP true (.bool false) operands data data' fun x hx =>
      hP.beside (.disjunct hx) he
  | .iterate kind source body, data, data', he => by
    have hsource := eval_related hR hP source data data' (hP.beside (.source kind source body) he)
    have hbody := fun v => eval_related hR hP body v v (hP.apart v (.body kind source body) he)
    rw [eval, eval]
    refine hR.bind hsource fun v => ?_
    exact hR.bind (hR.lift (failsOnly_itemsOf kind.name v)) fun items =>
      hR.iterateOver kind items fun v _ => hbody v
  | .reduce source body initial, data, data', he => by
    have hsource := eval_related hR hP source data data'
      (hP.beside (.reduced source body initial) he)
    have hinitial := eval_related hR hP initial data data'
      (hP.beside (.initial source body initial) he)
    have hbody := fun v => eval_related hR hP body v v (hP.apart v (.join source body initial) he)
    rw [eval, eval]
    refine hR.bind hsource fun v => ?_
    refine hR.bind (hR.lift (failsOnly_itemsOf "reduce" v)) fun items => ?_
    exact hR.bind hinitial fun first =>
      hR.foldlM items first fun a x _ => hbody (reductionScope a x)
  | .invoke (.ok method) params, data, data', he => by
    rw [eval_invoke, eval_invoke]
    exact hP.invoke he _ _
      (eval_related hR hP params data data' (hP.beside (.params method params) he))
  | .invoke (.error reason) params, data, data', he => by
    rw [eval_invoke, eval_invoke]
    exact hP.malformed he _ _
  | .sequence steps fault, data, data', he => by
    obtain rfl := hP.context he
    rw [eval_sequence, eval_sequence]
    exact hP.conclude he _ _
      (evalSteps_related hR hP steps data data fun s hs v => hP.apart v (.step hs) he)
  | .unknown name, _, _, he => by
    rw [eval, eval]
    exact hP.unknown he

theorem evalAll_related (hR : Sequencing R) (hP : Inherits R h h' P) :
    ∀ (es : List Expr) (data data' : Json), (∀ e ∈ es, P e data data') →
      R (List Json) (evalAll h es data) (evalAll h' es data')
  | [], _, _, _ => by
    rw [evalAll, evalAll]
    exact hR.pure []
  | e :: rest, data, data', hes => by
    obtain ⟨he, hrest⟩ := List.forall_mem_cons.1 hes
    rw [evalAll, evalAll]
    exact hR.bind (eval_related hR hP e data data' he) fun x =>
      hR.map (evalAll_related hR hP rest data data' hrest) (x :: ·)

theorem evalFields_related (hR : Sequencing R) (hP : Inherits R h h' P) :
    ∀ (fields : List (String × Expr)) (data data' : Json), (∀ f ∈ fields, P f.2 data data') →
      R Json.Fields (evalFields h fields data) (evalFields h' fields data')
  | [], _, _, _ => by
    rw [evalFields, evalFields]
    exact hR.pure []
  | (name, e) :: rest, data, data', hfields => by
    obtain ⟨he, hrest⟩ := List.forall_mem_cons.1 hfields
    rw [evalFields, evalFields]
    exact hR.bind (eval_related hR hP e data data' he) fun x =>
      hR.map (evalFields_related hR hP rest data data' hrest) ((name, x) :: ·)

theorem evalChoice_related (hR : Sequencing R) (hP : Inherits R h h' P) :
    ∀ (es : List Expr) (data data' : Json), (∀ e ∈ es, P e data data') →
      R Json (evalChoice h es data) (evalChoice h' es data')
  | [], _, _, _ => by
    rw [evalChoice, evalChoice]
    exact hR.pure Json.null
  | [last], data, data', hes => by
    rw [evalChoice, evalChoice]
    exact eval_related hR hP last data data' (hes last List.mem_cons_self)
  | condition :: result :: rest, data, data', hes => by
    obtain ⟨hcondition, hes⟩ := List.forall_mem_cons.1 hes
    obtain ⟨hresult, hrest⟩ := List.forall_mem_cons.1 hes
    rw [evalChoice, evalChoice]
    refine hR.bind (eval_related hR hP condition data data' hcondition) fun v => ?_
    cases v.truthy with
    | true => exact eval_related hR hP result data data' hresult
    | false => exact evalChoice_related hR hP rest data data' hrest

theorem evalUntil_related (hR : Sequencing R) (hP : Inherits R h h' P) (wanted : Bool) :
    ∀ (last : Json) (es : List Expr) (data data' : Json), (∀ e ∈ es, P e data data') →
      R Json (evalUntil h wanted last es data) (evalUntil h' wanted last es data')
  | last, [], _, _, _ => by
    rw [evalUntil, evalUntil]
    exact hR.pure last
  | _, e :: rest, data, data', hes => by
    obtain ⟨he, hrest⟩ := List.forall_mem_cons.1 hes
    rw [evalUntil, evalUntil]
    refine hR.bind (eval_related hR hP e data data' he) fun x => ?_
    by_cases hx : x.truthy = wanted
    · rw [if_pos hx, if_pos hx]
      exact hR.pure x
    · rw [if_neg hx, if_neg hx]
      exact evalUntil_related hR hP wanted x rest data data' hrest

theorem evalSteps_related (hR : Sequencing R) (hP : Inherits R h h' P) :
    ∀ (steps : List (String × Expr)) (context output : Json), (∀ s ∈ steps, ∀ v, P s.2 v v) →
      R Json (evalSteps h steps context output) (evalSteps h' steps context output)
  | [], _, output, _ => by
    rw [evalSteps, evalSteps]
    exact hR.pure output
  | (name, e) :: rest, context, _, hsteps => by
    obtain ⟨he, hrest⟩ := List.forall_mem_cons.1 hsteps
    rw [evalSteps, evalSteps]
    exact hR.bind (eval_related hR hP e context context (he context)) fun x =>
      evalSteps_related hR hP rest (context.withResult name x) x hrest

end

end Expr

end Switchboard
