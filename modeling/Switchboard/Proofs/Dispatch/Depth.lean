import Switchboard.Proofs.Expression.Congruence
import Switchboard.Proofs.Operation.Outcomes
/-!
# Calls at a depth

`callsWithin` counts down the depth that is left. Read the other way, calls
count up: each call is made at some depth, is refused at `nestingLimit`, and
otherwise gives its operation's expression the calls of the next depth
(`callRule`). `hostsAt_unique` says that the two readings are one, and more: the
rule, which refers from each depth to the next without end, is met by exactly
one family of hosts whose calls are tasks that end. Lowering the depth of
a call only ever changes what was refused (`agrees_hostsAt`).
-/

namespace Switchboard

open Switchboard.Expr

/-- What an expression reaches: the operations of its registry, or nothing of one that is gone. -/
structure Hosts where
  live : Host Moment
  lost : Host Moment

namespace Hosts

variable {see : Nat → Moment} {d d' k k' : Nat} {reach : Reach} {hosts : Nat → Hosts}

/-- The host of an operation's expression. -/
def forReach (h : Hosts) (reach : Reach) : Host Moment := Operation.hostFor h.live h.lost reach

/-- A call by name, whose expression reaches these hosts. -/
def call (h : Hosts) (method : String) (payload : Json) : CallTask :=
  callByName h.live h.lost method payload

/-- What the expression that made a call is told. -/
def answer (method : String) : Except CallError Json → Evaluation Moment Json
  | .ok v => return v
  | .error e => throw (e.toEvalError method)

/-- A call below the limit: the method is looked up, then the parameters are evaluated, and then
the call is made as it is at the next depth. -/
def admitted (deeper : Hosts) (method : String) (params : Evaluation Moment Json) :
    Evaluation Moment Json := do
  let m ← (Task.surroundings : Task Moment Moment)
  if !m.registry.contains method then throw (.unknownOperation method)
  let payload ← params
  answer method (← (deeper.call method payload : Task Moment (Except CallError Json)))

/-- **The rule of calls at a depth,** in terms of calls at the next one. -/
def callRule (depth : Nat) (deeper : Hosts) : Hosts where
  live := ⟨some fun method params =>
    if nestingLimit ≤ depth then throw (.nestedTooDeep depth) else admitted deeper method params⟩
  lost := ⟨some fun _ _ =>
    if nestingLimit ≤ depth then throw (.nestedTooDeep depth) else throw .registryGone⟩

/-- A family of hosts that keeps the rule at every depth. -/
def Follows (hosts : Nat → Hosts) : Prop :=
  ∀ depth, hosts depth = callRule depth (hosts (depth + 1))

/-- The hosts from which calls may nest so much deeper. -/
def within (depthLeft : Nat) : Hosts := ⟨callsWithin depthLeft, lostHost depthLeft⟩

/-- The hosts at a depth. -/
def hostsAt (depth : Nat) : Hosts :=
  if nestingLimit ≤ depth then callRule depth (within 0) else within (nestingLimit - depth)

/-- A call from outside any expression is one from where calls may nest to the limit. -/
theorem dispatch_eq (method : String) (payload : Json) :
    dispatch method payload = (within nestingLimit).call method payload := rfl

theorem callsWithin_succ (k : Nat) :
    callsWithin (k + 1) = ⟨some fun method params => admitted (within k) method params⟩ := rfl

/-- At the limit every call is refused. -/
theorem within_zero : within 0 = ⟨⟨some fun _ _ => throw (.nestedTooDeep nestingLimit)⟩,
    ⟨some fun _ _ => throw (.nestedTooDeep nestingLimit)⟩⟩ := rfl

/-- Below it calls are made as they are one deeper, if there is a registry. -/
theorem within_succ (k : Nat) : within (k + 1) =
    ⟨⟨some (admitted (within k))⟩, ⟨some fun _ _ => throw .registryGone⟩⟩ := rfl

/-- Both hosts call operations, at every depth. -/
theorem exists_within_eq (k : Nat) : ∃ f g, within k = ⟨⟨some f⟩, ⟨some g⟩⟩ := by
  cases k with
  | zero => exact ⟨_, _, rfl⟩
  | succ k => exact ⟨_, _, rfl⟩

/-! ## One family of hosts keeps the rule -/

/-- Beyond the limit calls are refused, whatever there is deeper. -/
theorem callRule_of_le (h : nestingLimit ≤ d) (deeper deeper' : Hosts) :
    callRule d deeper = callRule d deeper' := by
  simp only [callRule, if_pos h]

theorem callRule_of_lt (h : d < nestingLimit) (deeper : Hosts) :
    callRule d deeper = ⟨⟨some (admitted deeper)⟩, ⟨some fun _ _ => throw .registryGone⟩⟩ := by
  simp only [callRule, if_neg (Nat.not_le.2 h)]

theorem hostsAt_of_le (h : d ≤ nestingLimit) : hostsAt d = within (nestingLimit - d) := by
  rw [hostsAt]
  by_cases hle : nestingLimit ≤ d
  · obtain rfl : d = nestingLimit := by omega
    rw [if_pos hle, callRule, Nat.sub_self]
    simp only [if_pos hle]
    rfl
  · rw [if_neg hle]

theorem follows_hostsAt : Follows hostsAt := by
  intro d
  by_cases h : nestingLimit ≤ d
  · rw [hostsAt, if_pos h]
    exact callRule_of_le h _ _
  · have hlt : d < nestingLimit := by omega
    obtain ⟨k, hk⟩ : ∃ k, nestingLimit - d = k + 1 := ⟨nestingLimit - d - 1, by omega⟩
    have hk' : nestingLimit - (d + 1) = k := by omega
    rw [hostsAt_of_le (Nat.le_of_lt hlt), hostsAt_of_le hlt, callRule_of_lt hlt, hk, hk', within,
      callsWithin_succ, lostHost]

/-- From the limit on a family that keeps the rule is known, and from there down to any depth. -/
theorem eq_of_follows (h : Follows hosts) (d : Nat) : hosts d = hostsAt d := by
  by_cases hle : nestingLimit ≤ d
  · rw [h d, follows_hostsAt d]
    exact callRule_of_le hle _ _
  · -- below the limit, by induction on how far below
    have hdown : ∀ k, k ≤ nestingLimit →
        hosts (nestingLimit - k) = hostsAt (nestingLimit - k) := by
      intro k
      induction k with
      | zero =>
        intro _
        rw [h, follows_hostsAt]
        exact callRule_of_le (Nat.le_refl _) _ _
      | succ k ih =>
        intro hk
        have hnext : nestingLimit - (k + 1) + 1 = nestingLimit - k := by omega
        rw [h, follows_hostsAt (nestingLimit - (k + 1)), hnext, ih (by omega)]
    have := hdown (nestingLimit - d) (by omega)
    rwa [Nat.sub_sub_self (by omega)] at this

/-- **Exactly one family of hosts keeps the rule.** -/
theorem existsUnique_follows : ∃! hosts : Nat → Hosts, Follows hosts :=
  ⟨hostsAt, follows_hostsAt, fun _ h => funext (eq_of_follows h)⟩

/-! ## Less depth, the same outcome or a refusal -/

/-- An evaluation has been refused for its depth. -/
def TooDeep {α : Type} (r : Except EvalError α) : Prop := ∃ n, r = .error (.nestedTooDeep n)

/-- A call has been refused for the depth of one within. -/
def CallTooDeep (r : Except CallError Json) : Prop :=
  ∃ n, r = .error (.evaluation (.nestedTooDeep n))

/-- Where the first evaluation is not refused for its depth, the second ends alike. -/
def agrees (see : Nat → Moment) : EvaluationRelation Moment := fun _ x y =>
  Task.AgreesUnless see TooDeep x.run y.run

theorem agrees_refl {α : Type} (x : Evaluation Moment α) : agrees see α x x :=
  Task.AgreesUnless.refl see _ _

/-- Refusal is an error like others and goes through sequencing. -/
theorem agrees_congruence (see : Nat → Moment) : Congruence (agrees see) where
  pure _ := agrees_refl _
  unknownOperator _ := agrees_refl _
  malformed _ _ := agrees_refl _
  bind := by
    intro α β x y f g hx hf
    rw [agrees, ExceptT.run_bind, ExceptT.run_bind]
    refine Task.AgreesUnless.bind hx (fun r => ?_) (fun r hr => ?_)
    · cases r with
      | ok a => exact hf a
      | error e => exact Task.AgreesUnless.refl see _ _
    · obtain ⟨n, rfl⟩ := hr
      exact Task.ensures_done ⟨n, rfl⟩

/-- The parameters of a refused call do not matter, nor does what is deeper. -/
theorem agrees_refused {α : Type} {n : Nat} (y : Evaluation Moment α) :
    agrees see α (throw (.nestedTooDeep n)) y :=
  Task.agreesUnless_of_ensures (Task.ensures_done ⟨n, rfl⟩)

theorem run_lift_bind {α β : Type} (t : Task Moment α) (f : α → Evaluation Moment β) :
    ExceptT.run (liftM t >>= f) = t >>= fun a => (f a).run := by
  rw [ExceptT.run_bind]
  change ((t >>= fun a => pure (Except.ok a)) >>= _) = _
  rw [bind_assoc]
  rfl

/-- A call from within an expression looks for the operation before all else. -/
theorem run_admitted (deeper : Hosts) (method : String) (params : Evaluation Moment Json) :
    (admitted deeper method params).run = .look fun m =>
      if m.registry.contains method then
        (params >>= fun payload => liftM (deeper.call method payload) >>= answer method).run
      else .done (.error (.unknownOperation method)) := by
  rw [admitted, run_lift_bind]
  refine congrArg Task.look (funext fun m => ?_)
  change ExceptT.run (if !m.registry.contains method then _ else _) = _
  cases m.registry.contains method with
  | false => rfl
  | true => rfl

/-- What an expression is told of two calls agrees when the calls do. -/
theorem agrees_answer {method : String} {x y : CallTask}
    (h : Task.AgreesUnless see CallTooDeep x y) :
    agrees see Json (liftM x >>= answer method) (liftM y >>= answer method) := by
  rw [agrees, run_lift_bind, run_lift_bind]
  refine h.bind (fun r => Task.AgreesUnless.refl see _ _) (fun r hr => ?_)
  obtain ⟨n, rfl⟩ := hr
  exact Task.ensures_done ⟨n, rfl⟩

theorem hostCongruence_forReach {R : EvaluationRelation Moment} {h h' : Hosts}
    (hlive : HostCongruence R h.live h'.live) (hlost : HostCongruence R h.lost h'.lost)
    (reach : Reach) : HostCongruence R (h.forReach reach) (h'.forReach reach) := by
  cases reach with
  | nothing => exact .alone
  | registry => exact hlive
  | lostRegistry => exact hlost

theorem hostCongruenceOn_forReach {R : EvaluationRelation Moment} {S : String → Prop}
    {h h' : Hosts} (hlive : HostCongruenceOn R S h.live h'.live)
    (hlost : HostCongruenceOn R S h.lost h'.lost) (reach : Reach) :
    HostCongruenceOn R S (h.forReach reach) (h'.forReach reach) := by
  cases reach with
  | nothing => exact .alone
  | registry => exact hlive
  | lostRegistry => exact hlost

/-- Hosts that agree carry an operation out alike. -/
theorem agrees_call {h h' : Hosts} (hlive : HostCongruence (agrees see) h.live h'.live)
    (hlost : HostCongruence (agrees see) h.lost h'.lost) (method : String) (payload : Json) :
    Task.AgreesUnless see CallTooDeep (h.call method payload) (h'.call method payload) := by
  refine Task.agreesUnless_look fun i => ?_
  cases (see i).registry.lookup? method with
  | none => exact Task.AgreesUnless.refl see _ _
  | some op =>
    change Task.AgreesUnless see _ (op.invoke _ _ payload) (op.invoke _ _ payload)
    -- only the expression of an operation looks at the hosts
    obtain ⟨e, -, -, hinvoke⟩ | ⟨run, args, -, -, hinvoke⟩ | ⟨info, -, hinvoke⟩ |
      ⟨logic, reach, context, -, hinvoke⟩ := op.invoke_cases payload
    · rw [hinvoke, hinvoke]
      exact Task.AgreesUnless.refl see _ _
    · rw [hinvoke, hinvoke]
      exact Task.AgreesUnless.refl see _ _
    · rw [hinvoke, hinvoke]
      exact Task.AgreesUnless.refl see _ _
    · rw [hinvoke, hinvoke]
      have hhost := hostCongruence_forReach hlive hlost reach
      have heval := eval_congr (agrees_congruence see) hhost (.ofJson logic) context
      refine heval.bind (fun r => Task.AgreesUnless.refl see _ _) (fun r hr => ?_)
      obtain ⟨n, rfl⟩ := hr
      exact Task.ensures_done ⟨n, rfl⟩

/-- Below the limit, calls agree when the calls of the next depth do. -/
theorem agrees_admitted {h h' : Hosts} (hlive : HostCongruence (agrees see) h.live h'.live)
    (hlost : HostCongruence (agrees see) h.lost h'.lost) (method : String)
    {params params' : Evaluation Moment Json} (hparams : agrees see Json params params') :
    agrees see Json (admitted h method params) (admitted h' method params') := by
  have hR := agrees_congruence see
  refine hR.bind (agrees_refl _) fun m => ?_
  cases m.registry.contains method with
  | false => exact agrees_refl _
  | true =>
    exact hR.bind hparams fun payload => agrees_answer (agrees_call hlive hlost method payload)

/-- The hosts from which calls may nest less deep agree with those where they may nest deeper. -/
theorem agrees_within (see : Nat → Moment) (h : k ≤ k') :
    HostCongruence (agrees see) (within k).live (within k').live ∧
      HostCongruence (agrees see) (within k).lost (within k').lost := by
  induction k generalizing k' with
  | zero =>
    obtain ⟨f, g, hcalls⟩ := exists_within_eq k'
    rw [hcalls]
    exact ⟨.calling fun _ _ _ _ => agrees_refused _, .calling fun _ _ _ _ => agrees_refused _⟩
  | succ k ih =>
    cases k' with
    | zero => omega
    | succ k' =>
      obtain ⟨hlive, hlost⟩ := ih (show k ≤ k' by omega)
      exact ⟨.calling fun method _ _ hparams => agrees_admitted hlive hlost method hparams,
        .calling fun _ _ _ _ => agrees_refl _⟩

/-- **Hosts at a lesser depth agree with those at a greater.** -/
theorem agrees_hostsAt (see : Nat → Moment) (hd : d ≤ d') (hd' : d' ≤ nestingLimit) :
    HostCongruence (agrees see) (hostsAt d').live (hostsAt d).live ∧
      HostCongruence (agrees see) (hostsAt d').lost (hostsAt d).lost := by
  rw [hostsAt_of_le hd', hostsAt_of_le (Nat.le_trans hd hd')]
  exact agrees_within see (by omega)

end Hosts

end Switchboard
