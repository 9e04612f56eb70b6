import Switchboard.Proofs.Expression.Callees
import Switchboard.Proofs.Expression.Relation
/-!
# Congruence of evaluation

Evaluating an expression is sequencing, failing on its own account, and asking
the host; nothing else depends on the surroundings. So a relation between
evaluations that the first two keep (`Congruence`), and that two hosts keep
between their calls (`HostCongruence`), holds between the evaluations of every
expression under them (`eval_congr`). Of a given expression, only the calls of
its callees matter (`eval_congr_on`). What is said of one evaluation alone is
such a relation too, with both sides the same.
-/

namespace Switchboard

namespace Expr

variable {ρ : Type}

/-- A relation that sequencing keeps, and in which what fails on its own account stands to
itself. -/
structure Congruence (R : EvaluationRelation ρ) : Prop where
  pure : ∀ {α : Type} (a : α), R α (pure a) (pure a)
  bind : ∀ {α β : Type} {x y : Evaluation ρ α} {f g : α → Evaluation ρ β},
    R α x y → (∀ a, R β (f a) (g a)) → R β (x >>= f) (y >>= g)
  unknownOperator : ∀ {α : Type} (name : String),
    R α (throw (.unknownOperator name)) (throw (.unknownOperator name))
  malformed : ∀ {α : Type} (operator reason : String),
    R α (throw (.malformed operator reason)) (throw (.malformed operator reason))

/-- Two hosts that both call operations, or both do not, and whose calls are related whenever
their parameters are. -/
inductive HostCongruence (R : EvaluationRelation ρ) : Host ρ → Host ρ → Prop where
  | alone : HostCongruence R .alone .alone
  | calling {call call' : String → Evaluation ρ Json → Evaluation ρ Json}
      (related : ∀ method params params', R Json params params' →
        R Json (call method params) (call' method params')) :
      HostCongruence R ⟨some call⟩ ⟨some call'⟩

variable {R : EvaluationRelation ρ} {h h' : Host ρ} {S : String → Prop}

/-- Equality is one. -/
theorem eq_congruence : Congruence (ρ := ρ) fun _ x y => x = y where
  pure _ := rfl
  unknownOperator _ := rfl
  malformed _ _ := rfl
  bind := by
    rintro α β x y f g rfl hf
    rw [funext hf]

theorem Congruence.sequencing (hR : Congruence R) : Sequencing R := ⟨hR.pure, hR.bind, hR.malformed⟩

/-- The same of two hosts, but only for the calls of the methods in `S`. -/
inductive HostCongruenceOn (R : EvaluationRelation ρ) (S : String → Prop) :
    Host ρ → Host ρ → Prop where
  | alone : HostCongruenceOn R S .alone .alone
  | calling {call call' : String → Evaluation ρ Json → Evaluation ρ Json}
      (related : ∀ method, S method → ∀ params params', R Json params params' →
        R Json (call method params) (call' method params')) :
      HostCongruenceOn R S ⟨some call⟩ ⟨some call'⟩

theorem HostCongruence.on (hh : HostCongruence R h h') :
    HostCongruenceOn R S h h' := by
  cases hh with
  | alone => exact .alone
  | calling related =>
    exact .calling fun method _ params params' hparams => related method params params' hparams

/-- That the calls in an expression are of methods in `S`, and that the data are the same, hands
down. -/
theorem HostCongruenceOn.inherits (hR : Congruence R) (hh : HostCongruenceOn R S h h') :
    Inherits R h h' fun e data data' => data = data' ∧ ∀ m ∈ e.callees, S m where
  beside hx he := ⟨he.1, fun m hm => he.2 m (mem_callees_of_beside hx hm)⟩
  apart v hx he := ⟨rfl, fun m hm => he.2 m (mem_callees_of_apart hx hm)⟩
  apply he args := by rw [he.1]
  context he := he.1
  unknown _ := hR.unknownOperator _
  malformed _ x y := by
    cases hh with
    | alone => exact hR.unknownOperator _
    | calling related => exact hR.malformed _ _
  invoke he x y hxy := by
    cases hh with
    | alone => exact hR.unknownOperator _
    | calling related => exact related _ (he.2 _ List.mem_cons_self) x y hxy
  conclude := by
    intro steps fault data data' _ x y hxy
    cases hh with
    | alone => exact hR.unknownOperator _
    | calling related =>
      refine hR.bind hxy fun output => ?_
      cases fault with
      | some reason => exact hR.malformed _ reason
      | none => exact hR.pure output

/-- **Hosts that are related in the calls that an expression makes give it related evaluations,**
against any data. -/
theorem eval_congr_on (hR : Congruence R) (hh : HostCongruenceOn R S h h') (e : Expr)
    (he : ∀ m ∈ e.callees, S m) (data : Json) : R Json (eval h e data) (eval h' e data) :=
  eval_related hR.sequencing (hh.inherits hR) e data data ⟨rfl, he⟩

/-- **Related hosts give related evaluations,** of every expression and against any data. -/
theorem eval_congr (hR : Congruence R) (hh : HostCongruence R h h') (e : Expr) (data : Json) :
    R Json (eval h e data) (eval h' e data) :=
  eval_congr_on hR (hh.on (S := fun _ => True)) e (fun _ _ => trivial) data

end Expr

end Switchboard
