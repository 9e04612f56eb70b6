import Switchboard.Proofs.Dispatch.Depth
import Switchboard.Proofs.Dispatch.Graph
/-!
# What a call depends on

A call runs alike in all surroundings in which what its method reaches is the
same (`Resembles.run_dispatch`): at each look the registry may be another one, as
long as it holds the same under every reached name (`Registry.LooksLike`). The
code of reached operations has to run alike as well: it does where it sees the
same random bits, and also where it makes nothing of them.
-/

namespace Switchboard

open Switchboard.Expr

/-- What the operation's own code ends with depends on the arguments only. -/
def Operation.Deterministic (op : Operation) : Prop :=
  ∀ run, op.handler = .native run → ∀ args, ∃ result, ∀ bits c,
    (Task.run bits c (run args)).1 = result

namespace Registry

variable {r r' : Registry} {method callee : String} {op : Operation}

/-- An operation that the method reaches publishes the catalog, which lists all operations. -/
def PublishesFrom (r : Registry) (method : String) : Prop :=
  ∃ callee op info, r.Reaches method callee ∧ r.lookup? callee = some op ∧
    op.handler = .publish info

/-- What the own code of reached operations ends with depends on the arguments only. -/
def DeterministicFrom (r : Registry) (method : String) : Prop :=
  ∀ callee op, r.Reaches method callee → r.lookup? callee = some op → op.Deterministic

/-- **From the method, another registry looks like this one:** it holds the same operation, or none
as well, under every name that the method reaches, and lists the same if that can be seen. -/
structure LooksLike (r r' : Registry) (method : String) : Prop where
  lookup? : ∀ callee, r.Reaches method callee → r'.lookup? callee = r.lookup? callee
  operations : r.PublishesFrom method → r'.operations = r.operations

theorem LooksLike.refl (r : Registry) (method : String) : r.LooksLike r method :=
  ⟨fun _ _ => rfl, fun _ => rfl⟩

/-- What is called reaches no more than what calls it. -/
theorem LooksLike.of_calls (h : r.LooksLike r' method) (hcalls : r.Calls method callee) :
    r.LooksLike r' callee where
  lookup? name hreaches := h.lookup? name (hreaches.head hcalls)
  operations := by
    rintro ⟨name, op, info, hreaches, hop, hpublish⟩
    exact h.operations ⟨name, op, info, hreaches.head hcalls, hop, hpublish⟩

theorem LooksLike.lookup?_self (h : r.LooksLike r' method) :
    r'.lookup? method = r.lookup? method :=
  h.lookup? method .refl

/-- Which of the two the call graph is read off makes no difference. -/
theorem LooksLike.reaches_iff (h : r.LooksLike r' method) :
    r'.Reaches method callee ↔ r.Reaches method callee := by
  constructor
  · intro hreaches
    -- each further edge is one of both
    induction hreaches with
    | refl => exact .refl
    | tail _ hcalls ih =>
      obtain ⟨op, hop, hmem⟩ := hcalls
      rw [h.lookup? _ ih] at hop
      exact ih.tail ⟨op, hop, hmem⟩
  · intro hreaches
    induction hreaches with
    | refl => exact .refl
    | tail hto hcalls ih =>
      obtain ⟨op, hop, hmem⟩ := hcalls
      rw [← h.lookup? _ hto] at hop
      exact ih.tail ⟨op, hop, hmem⟩

end Registry

/-! ## Calls in two surroundings -/

/-- In two surroundings the registry always looks like a given one from the method, and the code of
the operations that it reaches runs alike. -/
structure Resembles (K : Task.Clock → Task.Clock → Prop) (see see' : Nat → Moment) (r : Registry)
    (method : String) : Prop where
  here : ∀ i, r.LooksLike (see i).registry method
  there : ∀ i, r.LooksLike (see' i).registry method
  code : ∀ callee op run args, r.Reaches method callee → r.lookup? callee = some op →
    op.handler = .native run →
    Task.Alike K (fun i => (see i).entropy) (fun i => (see' i).entropy) (run args) (run args)

namespace Resembles

variable {K : Task.Clock → Task.Clock → Prop} {see see' : Nat → Moment} {r : Registry}
variable {method callee : String} {h : Hosts}

theorem of_calls (hr : Resembles K see see' r method) (hcalls : r.Calls method callee) :
    Resembles K see see' r callee where
  here i := (hr.here i).of_calls hcalls
  there i := (hr.there i).of_calls hcalls
  code name op run args hreaches := hr.code name op run args (hreaches.head hcalls)

/-- Evaluations that are alike in the two surroundings. -/
def alike (K : Task.Clock → Task.Clock → Prop) (see see' : Nat → Moment) :
    EvaluationRelation Moment :=
  fun _ x y => Task.Alike K see see' x.run y.run

theorem alike_throw {α : Type} (e : EvalError) : alike K see see' α (throw e) (throw e) :=
  Task.alike_done _

theorem alike_congruence : Congruence (alike K see see') where
  pure _ := Task.alike_done _
  unknownOperator _ := alike_throw _
  malformed _ _ := alike_throw _
  bind := by
    intro α β x y f g hx hf
    rw [alike, ExceptT.run_bind, ExceptT.run_bind]
    refine Task.Alike.bind hx fun r => ?_
    cases r with
    | ok a => exact hf a
    | error e => exact alike_throw e

/-- **A call is alike in both,** if the calls are that its expression makes. -/
theorem alike_call (hK : ∀ c c', K c c' → K c.looked c'.looked)
    (hr : Resembles K see see' r method)
    (hlive : HostCongruenceOn (alike K see see') (r.Calls method) h.live h.live)
    (hlost : HostCongruenceOn (alike K see see') (r.Calls method) h.lost h.lost)
    (payload : Json) :
    Task.Alike K see see' (h.call method payload) (h.call method payload) := by
  refine Task.alike_look hK fun i j => ?_
  rw [(hr.here i).lookup?_self, (hr.there j).lookup?_self]
  cases hop : r.lookup? method with
  | none => exact Task.alike_done _
  | some op =>
    change Task.Alike K see see' (op.invoke h.live h.lost payload) (op.invoke h.live h.lost payload)
    obtain ⟨e, -, -, hinvoke⟩ | ⟨run, args, hrun, -, hinvoke⟩ | ⟨info, hpublish, hinvoke⟩ |
      ⟨logic, reach, context, hlogic, hinvoke⟩ := op.invoke_cases payload
    · rw [hinvoke]
      exact Task.alike_done _
    · rw [hinvoke]
      exact Task.alike_within (hr.code method op run args .refl hop hrun)
    · rw [hinvoke]
      have hpublishes : r.PublishesFrom method := ⟨method, op, info, .refl, hop, hpublish⟩
      refine Task.alike_look hK fun i j => ?_
      rw [(hr.here i).operations hpublishes, (hr.there j).operations hpublishes]
      exact Task.alike_done _
    · rw [hinvoke]
      have hcallees : ∀ callee ∈ (Expr.ofJson logic).callees, r.Calls method callee :=
        fun callee hmem => ⟨op, hop, by rwa [Operation.callees_of_expression hlogic]⟩
      have hhost := Hosts.hostCongruenceOn_forReach hlive hlost reach
      have heval := eval_congr_on alike_congruence hhost (.ofJson logic) hcallees context
      exact heval.bind fun r => Task.alike_done _

/-- So is a call from within an expression, with parameters that are. -/
theorem alike_admitted (hK : ∀ c c', K c c' → K c.looked c'.looked)
    (hr : Resembles K see see' r method)
    (hcall : ∀ payload, Task.Alike K see see' (h.call method payload) (h.call method payload))
    {params params' : Evaluation Moment Json} (hparams : alike K see see' Json params params') :
    alike K see see' Json (h.admitted method params) (h.admitted method params') := by
  rw [alike, Hosts.run_admitted, Hosts.run_admitted]
  refine Task.alike_look hK fun i j => ?_
  rw [Registry.contains, Registry.contains, (hr.here i).lookup?_self, (hr.there j).lookup?_self]
  by_cases hop : (r.lookup? method).isSome = true
  · rw [if_pos hop, if_pos hop]
    refine alike_congruence.bind hparams fun payload => ?_
    rw [alike, Hosts.run_lift_bind]
    exact (hcall payload).bind fun result => by
      cases result with
      | ok v => exact Task.alike_done _
      | error e => exact alike_throw _
  · rw [if_neg hop, if_neg hop]
    exact Task.alike_done _

/-- The calls that expressions make, by induction on how deep they may nest. -/
theorem hosts_within (hK : ∀ c c', K c c' → K c.looked c'.looked)
    (hr : Resembles K see see' r method) (k : Nat) :
    HostCongruenceOn (alike K see see') (r.Calls method)
        (Hosts.within k).live (Hosts.within k).live ∧
      HostCongruenceOn (alike K see see') (r.Calls method)
        (Hosts.within k).lost (Hosts.within k).lost := by
  induction k generalizing method with
  | zero =>
    rw [Hosts.within_zero]
    exact ⟨.calling fun _ _ _ _ _ => alike_throw _, .calling fun _ _ _ _ _ => alike_throw _⟩
  | succ k ih =>
    rw [Hosts.within_succ]
    refine ⟨.calling fun callee hcalls params params' hparams => ?_,
      .calling fun _ _ _ _ _ => alike_throw _⟩
    have hcallee := hr.of_calls hcalls
    obtain ⟨hlive, hlost⟩ := ih hcallee
    exact alike_admitted hK hcallee (alike_call hK hcallee hlive hlost) hparams

/-- **Calls run alike where what they reach is alike.** -/
theorem run_dispatch (hK : ∀ c c', K c c' → K c.looked c'.looked)
    (hr : Resembles K see see' r method) (payload : Json) :
    Task.Alike K see see' (dispatch method payload) (dispatch method payload) := by
  obtain ⟨hlive, hlost⟩ := hr.hosts_within hK nestingLimit
  rw [Hosts.dispatch_eq]
  exact hr.alike_call hK hlive hlost payload

end Resembles

/-! ## With the same random bits, and with none that matter -/

variable {see : Nat → Moment} {r r' : Registry} {method : String}

/-- **With the same random bits, a call runs the same** as where the registry stays as it is, if the
registry looks like that at each look. -/
theorem run_dispatch_eq (hlooks : ∀ i, r.LooksLike (see i).registry method) (payload : Json)
    (c : Task.Clock) :
    Task.run see c (dispatch method payload) =
      Task.run (r.still fun i => (see i).entropy) c (dispatch method payload) := by
  have hr : Resembles Eq see (r.still fun i => (see i).entropy) r method := by
    refine ⟨hlooks, fun _ => .refl r method, fun callee op run args _ _ _ c c' hc => ?_⟩
    rw [hc]
    exact ⟨rfl, rfl⟩
  obtain ⟨hresult, hclock⟩ := hr.run_dispatch (fun c c' hc => by rw [hc]) payload c c rfl
  exact Prod.ext hresult hclock

/-- **Where reached code depends on its arguments only,** the outcome is the same whenever the call
is made, and whatever random bits there are. -/
theorem outcome_dispatch_eq (hlooks : r.LooksLike r' method) (hcode : r.DeterministicFrom method)
    (payload : Json) (bits bits' : Nat → Nat) (c c' : Task.Clock) :
    r'.outcome bits' c' method payload = r.outcome bits c method payload := by
  have hr : Resembles (fun _ _ => True) (r'.still bits') (r.still bits) r method := by
    refine ⟨fun _ => hlooks, fun _ => .refl r method,
      fun callee op run args hreaches hop hrun c c' _ => ?_⟩
    obtain ⟨result, hresult⟩ := hcode callee op hreaches hop run hrun args
    exact ⟨(hresult _ _).trans (hresult _ _).symm, trivial⟩
  exact (hr.run_dispatch (fun _ _ _ => trivial) payload c' c trivial).1

end Switchboard
