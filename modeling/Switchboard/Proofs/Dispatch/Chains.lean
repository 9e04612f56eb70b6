import Switchboard.Proofs.Dispatch.Failures
import Switchboard.Proofs.Dispatch.OwnCode
import Switchboard.Proofs.Registry.Laws
import Mathlib.Data.List.Nodup
/-!
# How deep is too deep

What counts against the limit are calls within calls, and nothing else. Where
calls nest no deeper than the limit along the call graph, none is refused
(`madeUp_of_fails`): neither other calls of the same expression nor calls in the
parameters of a call add to the depth. And the limit is met exactly: of chains of
operations that do nothing but call the next, one as long as the limit hands
back what its last operation has (`run_of_chain`), and a longer one is refused
(`refused_of_chain`).
-/

namespace Switchboard

open Switchboard.Expr

/-! ## Calls that nest no deeper than the limit -/

theorem CallError.eq_of_toEvalError_nestedTooDeep {e : CallError} {method : String} {n : Nat}
    (h : e.toEvalError method = .nestedTooDeep n) : e = .evaluation (.nestedTooDeep n) := by
  cases e with
  | evaluation cause => exact congrArg CallError.evaluation h
  | _ => cases h

namespace Chains

variable {r : Registry} {bits : Nat → Nat} {c : Task.Clock} {method target : String}
variable {payload passed v : Json} {op : Operation} {k n : Nat}
variable {names : Nat → String} {payloads : Nat → Json}

/-- **No call is refused for its depth where calls cannot nest that deep,** by any way along the
call graph: only own code can then speak of it. -/
theorem madeUp_of_fails {e : CallError} (hfails : Fails (r.still bits) k c method payload e)
    (he : e = .evaluation (.nestedTooDeep n)) (hnests : r.NestsWithin k method) :
    r.MadeUp method e := by
  induction hfails with
  | unregistered missing => cases he
  | @itself k c m payload op e found fails =>
    rcases fails.operation? with hof | ⟨args, -, hthrows⟩
    · rw [he] at hof
      cases hof
    · exact ⟨m, op, args, .refl, found, hthrows⟩
  | alone found alone =>
    cases he
    exact alone.elim
  | refused found called refused =>
    -- at the limit there is nothing left to be called
    cases refused with
    | tooDeep => exact absurd ⟨_, found, called⟩ (Registry.not_calls_of_nestsWithin_zero hnests)
    | registryGone k => cases he
    | unregistered k i missing => cases he
  | told found called made ended fails ih =>
    obtain rfl := CallError.eq_of_toEvalError_nestedTooDeep (CallError.evaluation.inj he)
    have hcalls : r.Calls _ _ := ⟨_, found, called⟩
    exact (ih rfl (hnests.of_calls hcalls)).of_calls hcalls

/-! ## One link of a chain -/

/-- The error of the call that an operation forwards, as its own. -/
def forwarded (target : String) (r : Except CallError Json) : Except CallError Json :=
  r.mapError fun e => .evaluation (e.toEvalError target)

/-- Given the payload, the operation does nothing but call another one with what that is passed. -/
def Forwards (op : Operation) (payload : Json) (target : String) (passed : Json) : Prop :=
  ∃ logic params args context, op.handler = .expression logic .registry ∧
    Expr.ofJson logic = .invoke (.ok target) params ∧ op.bind payload = .ok args ∧
    op.context args = .ok context ∧ ∀ host : Host Moment, params.eval host context = pure passed

/-- Given the payload, the operation has the value, whatever is around it. -/
def Yields (op : Operation) (payload v : Json) : Prop :=
  ∀ live lost see c, (Task.run see c (op.invoke live lost payload)).1 = .ok v

/-- At the limit the call that an operation forwards is refused. -/
theorem run_call_zero (hop : r.lookup? method = some op)
    (hforwards : Forwards op payload target passed) :
    (Task.run (r.still bits) c ((Hosts.within 0).call method payload)).1 =
      .error (.evaluation (.nestedTooDeep nestingLimit)) := by
  obtain ⟨logic, params, args, context, hlogic, hcall, hbind, hcontext, -⟩ := hforwards
  have hinvoke := Operation.invoke_of_expression hlogic hbind hcontext
    (Hosts.within 0).live (Hosts.within 0).lost
  rw [hcall] at hinvoke
  rw [Hosts.call, callByName, Task.run, Registry.still, hop]
  dsimp only
  rw [hinvoke]
  rfl

/-- Below it, the call ends as what is called one deeper. -/
theorem run_call_succ (hop : r.lookup? method = some op)
    (hforwards : Forwards op payload target passed) (htarget : r.contains target = true) :
    Task.run (r.still bits) c ((Hosts.within (k + 1)).call method payload) =
      (Task.run (r.still bits) c.looked.looked ((Hosts.within k).call target passed)).map
        (forwarded target) id := by
  obtain ⟨logic, params, args, context, hlogic, hcall, hbind, hcontext, hpassed⟩ := hforwards
  have hinvoke := Operation.invoke_of_expression hlogic hbind hcontext
    (Hosts.within (k + 1)).live (Hosts.within (k + 1)).lost
  rw [hcall] at hinvoke
  rw [Hosts.call, callByName, Task.run, Registry.still, hop]
  dsimp only
  rw [hinvoke]
  change Task.run _ _ ((Hosts.admitted (Hosts.within k) target (params.eval _ context)).run >>= _) =
    _
  rw [hpassed, Hosts.run_admitted, Task.bind_look, Task.run, Registry.still_registry,
    if_pos htarget, pure_bind, Hosts.run_lift_bind, Task.run_bind, Task.run_bind]
  generalize Task.run (r.still bits) c.looked.looked ((Hosts.within k).call target passed) = ended
  obtain ⟨result, after⟩ := ended
  cases result with
  | ok v => rfl
  | error e => rfl

/-! ## Chains -/

/-- **A chain of `n` links:** each of the operations before the last name does nothing but call the
operation of the next name. -/
def Chain (r : Registry) (n : Nat) (names : Nat → String) (payloads : Nat → Json) : Prop :=
  ∀ i < n, ∃ op, r.lookup? (names i) = some op ∧
    Forwards op (payloads i) (names (i + 1)) (payloads (i + 1))

/-- What is behind the first link. -/
theorem Chain.tail (h : Chain r (n + 1) names payloads) :
    Chain r n (fun i => names (i + 1)) (fun i => payloads (i + 1)) :=
  fun i hi => h (i + 1) (Nat.succ_lt_succ hi)

/-- A chain hands back what its last operation has, if calls may nest as deep as it is long. -/
theorem run_of_chain (hchain : Chain r n names payloads) (hop : r.lookup? (names n) = some op)
    (hyields : Yields op (payloads n) v) (hn : n ≤ k) (c : Task.Clock) :
    (Task.run (r.still bits) c ((Hosts.within k).call (names 0) (payloads 0))).1 = .ok v := by
  -- from the last operation up
  induction n generalizing k names payloads c with
  | zero =>
    rw [Hosts.call, callByName, Task.run, Registry.still_registry, hop]
    exact hyields _ _ _ _
  | succ n ih =>
    obtain ⟨k, rfl⟩ : ∃ k', k = k' + 1 := ⟨k - 1, by omega⟩
    obtain ⟨first, hfirst, hforwards⟩ := hchain 0 (by omega)
    have hnext : r.contains (names 1) = true := by
      cases n with
      | zero => exact Registry.contains_of_lookup? hop
      | succ n =>
        obtain ⟨second, hsecond, -⟩ := hchain 1 (by omega)
        exact Registry.contains_of_lookup? hsecond
    have hrest := ih hchain.tail hop hyields (Nat.le_of_succ_le_succ hn) c.looked.looked
    rw [run_call_succ hfirst hforwards hnext, Prod.map_fst, hrest]
    rfl

/-- A chain that is longer than calls may nest is refused. -/
theorem refused_of_chain (hchain : Chain r n names payloads) (hn : k < n) (c : Task.Clock) :
    (Task.run (r.still bits) c ((Hosts.within k).call (names 0) (payloads 0))).1 =
      .error (.evaluation (.nestedTooDeep nestingLimit)) := by
  -- until no depth is left
  induction k generalizing n names payloads c with
  | zero =>
    obtain ⟨first, hfirst, hforwards⟩ := hchain 0 hn
    exact run_call_zero hfirst hforwards
  | succ k ih =>
    obtain ⟨n, rfl⟩ : ∃ n', n = n' + 1 := ⟨n - 1, by omega⟩
    obtain ⟨first, hfirst, hforwards⟩ := hchain 0 (by omega)
    obtain ⟨second, hsecond, -⟩ := hchain 1 (by omega)
    have hrest := ih hchain.tail (Nat.lt_of_succ_lt_succ hn) c.looked.looked
    rw [run_call_succ hfirst hforwards (Registry.contains_of_lookup? hsecond), Prod.map_fst, hrest]
    rfl

/-! ## Chains of any length -/

/-- Names of any number of links. -/
def linkName (i : Nat) : String := String.ofList (List.replicate i 'x')

/-- The `i`-th of `n` links to a constant, or the constant itself. -/
def link (n : Nat) (constant : Json) (i : Nat) : Operation where
  name := linkName i
  handler := .expression (if i < n then callOf (linkName (i + 1)) else constant) .registry

/-- A registry that holds nothing but a chain of `n` links to a constant. -/
def linked (n : Nat) (constant : Json) : Registry :=
  .ofOperations ((List.range (n + 1)).map (link n constant))

theorem linkName_injective : Function.Injective linkName := by
  intro i j h
  have hlists := congrArg String.toList h
  simp only [linkName, String.toList_ofList] at hlists
  simpa using congrArg List.length hlists

theorem nodup_links (n : Nat) (constant : Json) :
    (((List.range (n + 1)).map (link n constant)).map (·.name)).Nodup := by
  rw [List.map_map]
  exact List.nodup_range.map linkName_injective

theorem operations_linked (n : Nat) (constant : Json) :
    (linked n constant).operations = (List.range (n + 1)).map (link n constant) :=
  Registry.operations_ofOperations (nodup_links n constant)

theorem lookup?_linked (n : Nat) (constant : Json) {i : Nat} (hi : i ≤ n) :
    (linked n constant).lookup? (linkName i) = some (link n constant i) := by
  have hmem : link n constant i ∈ (linked n constant).operations := by
    rw [operations_linked]
    exact List.mem_map_of_mem (List.mem_range.2 (by omega))
  refine Registry.lookup?_of_mem ?_ hmem
  rw [operations_linked]
  exact nodup_links n constant

/-- An operation without parameters takes no arguments, and its expression gets none. -/
theorem bind_link (n : Nat) (constant : Json) (i : Nat) :
    (link n constant i).bind (.object []) = .ok ⟨linkName i, [], []⟩ := rfl

theorem chain_linked (n : Nat) (constant : Json) :
    Chain (linked n constant) n linkName fun _ => .object [] := by
  intro i hi
  refine ⟨_, lookup?_linked n constant (Nat.le_of_lt hi), callOf (linkName (i + 1)), .record [],
    _, .object [], ?_, Expr.ofJson_callOf _, bind_link n constant i, rfl, fun host => rfl⟩
  rw [link, if_pos hi]

theorem yields_link {constant : Json} (hconstant : Expr.ofJson constant = .literal constant)
    (n : Nat) : Yields (link n constant n) (.object []) constant := by
  intro live lost see c
  have hlogic : (link n constant n).handler = .expression constant .registry := by
    rw [link, if_neg (Nat.lt_irrefl n)]
  rw [Operation.invoke_of_expression hlogic (bind_link n constant n) rfl, hconstant]
  rfl

/-- Each link calls the next, and the constant calls nothing. -/
theorem calls_linked {constant : Json} (hconstant : Expr.ofJson constant = .literal constant)
    {n i : Nat} (hi : i ≤ n) {callee : String}
    (h : (linked n constant).Calls (linkName i) callee) :
    i < n ∧ callee = linkName (i + 1) := by
  obtain ⟨op, hop, hmem⟩ := h
  rw [lookup?_linked n constant hi, Option.some_inj] at hop
  subst hop
  have hlogic : (link n constant i).handler = .expression
      (if i < n then callOf (linkName (i + 1)) else constant) .registry := rfl
  rw [Operation.callees_of_expression hlogic] at hmem
  by_cases hlt : i < n
  · rw [if_pos hlt, Expr.ofJson_callOf] at hmem
    exact ⟨hlt, by simpa [callees, calleesFields] using hmem⟩
  · rw [if_neg hlt, hconstant] at hmem
    simp [callees] at hmem

/-- So calls nest as deep as there are links. -/
theorem nestsWithin_linked {constant : Json} (hconstant : Expr.ofJson constant = .literal constant)
    {n i : Nat} (hi : i ≤ n) : (linked n constant).NestsWithin (n - i) (linkName i) := by
  intro path hpath
  induction path generalizing i with
  | nil => exact Nat.zero_le _
  | cons callee rest ih =>
    rw [List.isChain_cons_cons] at hpath
    obtain ⟨hlt, rfl⟩ := calls_linked hconstant hi hpath.1
    have := ih hlt hpath.2
    rw [List.length_cons]
    omega

/-! ## The laws of depth -/

/-- **How deep calls may nest** in a registry that stays as it is, whatever random bits there
are. -/
structure DepthLaws (r : Registry) (bits : Nat → Nat) : Prop where
  /-- Calls may nest 32 deep. -/
  limit : nestingLimit = 32
  /-- Where no way along the call graph from the method has more edges than the limit, no call of
  it is refused for its depth: if an outcome says so, code that the method reaches has made it
  up, -/
  shallow : ∀ method payload c n, r.NestsWithin nestingLimit method →
    r.outcome bits c method payload = .error (.evaluation (.nestedTooDeep n)) →
    r.MadeUp method (.evaluation (.nestedTooDeep n))
  /-- and neither expressions nor built-in code do. -/
  honest : r.CodeBuiltIn → ∀ method payload c n, r.NestsWithin nestingLimit method →
    r.outcome bits c method payload ≠ .error (.evaluation (.nestedTooDeep n))
  /-- A chain of operations that do nothing but call the next hands back what the last one has if
  it has no more links than the limit, -/
  chain_within : ∀ n names payloads last v c, Chain r n names payloads → n ≤ nestingLimit →
    r.lookup? (names n) = some last → Yields last (payloads n) v →
    r.outcome bits c (names 0) (payloads 0) = .ok v
  /-- and is refused if it has more. -/
  chain_beyond : ∀ n names payloads c, Chain r n names payloads → nestingLimit < n →
    r.outcome bits c (names 0) (payloads 0) =
      .error (.evaluation (.nestedTooDeep nestingLimit))
  /-- There are chains of every length to every constant, in which calls nest as deep as that. -/
  exists_chain : ∀ n constant, Expr.ofJson constant = .literal constant →
    ∃ linked names last, Chain linked n names (fun _ => .object []) ∧
      linked.lookup? (names n) = some last ∧ Yields last (.object []) constant ∧
      linked.NestsWithin n (names 0)

theorem depthLaws (r : Registry) (bits : Nat → Nat) : DepthLaws r bits := by
  have hshallow : ∀ method payload c n, r.NestsWithin nestingLimit method →
      r.outcome bits c method payload = .error (.evaluation (.nestedTooDeep n)) →
      r.MadeUp method (.evaluation (.nestedTooDeep n)) :=
    fun method payload c n hnests he => madeUp_of_fails (fails_of_dispatch he) rfl hnests
  exact {
    limit := rfl
    shallow := hshallow
    honest := fun hbuiltin method payload c n hnests he =>
      hbuiltin.ofArguments_of_madeUp (hshallow method payload c n hnests he)
    chain_within := fun n names payloads last v c hchain hn hlast hyields =>
      run_of_chain hchain hlast hyields hn c
    chain_beyond := fun n names payloads c hchain hn => refused_of_chain hchain hn c
    exists_chain := fun n constant hconstant =>
      ⟨linked n constant, linkName, link n constant n, chain_linked n constant,
        lookup?_linked n constant (Nat.le_refl n), yields_link hconstant n,
        nestsWithin_linked hconstant (Nat.zero_le n)⟩ }

/-- **Own code can refuse a call for its depth** though no call is nested in it. -/
theorem made_up_refusal_told :
    (Registry.ofFailing (.evaluation (.nestedTooDeep nestingLimit))).NestsWithin 0 "failing" ∧
    (Registry.ofFailing (.evaluation (.nestedTooDeep nestingLimit))).outcome (fun _ => 0) {}
      "failing" .null = .error (.evaluation (.nestedTooDeep nestingLimit)) := by
  refine ⟨fun path hpath => ?_, outcome_of_failing rfl⟩
  cases hpath with
  | singleton => exact Nat.le_refl 0
  | cons_cons hcalls hrest =>
    obtain ⟨op, hop, hcallee⟩ := hcalls
    cases hop
    cases hcallee

end Chains

end Switchboard
