import Switchboard.Proofs.Definitions.Workspace
import Switchboard.Proofs.Dispatch.Dependence
import Switchboard.Toolbox.Standard
/-!
# What results do not depend on

An operation depends on what it can reach by the calls that are written in
expressions, and on nothing else (`IndependenceLaws`). Its results are the same
where other operations come and go, be it while it runs, and in whichever order a
document defines the operations that it calls.
-/

namespace Switchboard

open Registry

namespace Independence

variable {r x y : Registry} {method name : String} {op : Operation} {h : Handle}

/-! ## Only what is written is called -/

/-- Whatever calls would do that are not written in an expression, it is never done. -/
theorem eval_eq_of_written {logic : Json} {f g : String → Evaluation Moment Json →
    Evaluation Moment Json} (hfg : ∀ callee, logic.WritesCall callee → f callee = g callee)
    (data : Json) :
    (Expr.ofJson logic).eval ⟨some f⟩ data = (Expr.ofJson logic).eval ⟨some g⟩ data := by
  refine Expr.eval_congr_on Expr.eq_congruence (.calling fun callee hcallee params params' hparams => ?_)
    _ (Expr.writesCall_of_mem_callees logic) data
  rw [hfg callee hcallee, hparams]

/-- What is reached, other than the method itself, is called by something reached that says so. -/
theorem written_of_reaches {callee : String} (hreaches : r.Reaches method callee) :
    callee = method ∨ ∃ caller op logic reach, r.Reaches method caller ∧
      r.lookup? caller = some op ∧ op.handler = .expression logic reach ∧
      logic.WritesCall callee := by
  cases hreaches with
  | refl => exact .inl rfl
  | tail hcaller hcalls =>
    obtain ⟨op, logic, reach, hop, hlogic, hwrites⟩ := hcalls.writesCall
    exact .inr ⟨_, op, logic, reach, hcaller, hop, hlogic, hwrites⟩

/-- Where the catalog goes by one name, it is published by what reaches that name. -/
theorem not_publishesFrom (hname : ∀ op ∈ r.operations, ∀ info, op.handler = .publish info →
    op.name = name) (hreaches : ¬ r.Reaches method name) : ¬ r.PublishesFrom method := by
  rintro ⟨callee, op, info, hcallee, hop, hpublish⟩
  rw [← hname op (mem_of_lookup? hop) info hpublish, name_of_lookup? hop] at hreaches
  exact hreaches hcallee

/-! ## Code that depends on its arguments only -/

theorem deterministic_of_noCode (h : ∀ run, op.handler ≠ .native run) : op.Deterministic :=
  fun run hrun => absurd hrun (h run)

theorem deterministic_immediate {f : Arguments → Except CallError Json}
    (h : op.handler = Toolbox.immediate f) : op.Deterministic := by
  intro run hrun args
  rw [h] at hrun
  cases hrun
  exact ⟨f args, fun _ _ => rfl⟩

/-- Of the built-in operations, one makes something of random bits. -/
theorem deterministic_of_mem (hop : op ∈ Toolbox.operations) (hname : op.name ≠ "uuid-generator") :
    op.Deterministic := by
  simp only [Toolbox.operations, Toolbox.encodingOperations, Toolbox.textOperations,
    Toolbox.formatterOperations, Toolbox.generatorOperations, Toolbox.securityOperations,
    List.cons_append, List.nil_append, List.mem_cons, List.not_mem_nil, or_false] at hop
  rcases hop with rfl | rfl | rfl | rfl | rfl | rfl | rfl | rfl | rfl | rfl
  case inr.inr.inr.inr.inr.inr.inr.inr.inl => exact absurd rfl hname
  all_goals exact deterministic_immediate rfl

/-! ## Registrations elsewhere -/

/-- **A change under another name** than those in `S`: a registration or a revocation. -/
inductive ChangesOutside (S : String → Prop) : Registry → Registry → Prop where
  | register {x y : Registry} {op : Operation} {h : Handle} (outside : ¬ S op.name)
      (registered : x.register op = .ok (h, y)) : ChangesOutside S x y
  | registerPermanently {x y : Registry} {op : Operation} (outside : ¬ S op.name)
      (registered : x.registerPermanently op = .ok y) : ChangesOutside S x y
  | revoke {x : Registry} {h : Handle} (outside : ¬ S h.name) : ChangesOutside S x (x.revoke h).2.2

/-- Nothing is seen of it under the names in `S`. -/
theorem ChangesOutside.lookup?_eq {S : String → Prop} (hchange : ChangesOutside S x y)
    (hname : S name) : y.lookup? name = x.lookup? name := by
  have key {other : String} (outside : ¬ S other) : other ≠ name :=
    fun heq => outside (heq ▸ hname)
  cases hchange with
  | register outside registered =>
    rw [eq_add_of_register registered]
    exact lookup?_add (key outside)
  | registerPermanently outside registered =>
    rw [eq_add_of_registerPermanently registered]
    exact lookup?_add (key outside)
  | @revoke h outside =>
    rcases revoke_registry (r := x) (h := h) with heq | heq <;> rw [heq]
    exact lookup?_remove (key outside)

/-- However many such changes there are, the registry looks like before to what is in `S`. -/
theorem looksLike_of_changes (hpublishes : ¬ r.PublishesFrom method)
    (hchanges : Relation.ReflTransGen (ChangesOutside (r.Reaches method)) r x) :
    r.LooksLike x method := by
  refine ⟨fun name hname => ?_, fun hp => absurd hp hpublishes⟩
  induction hchanges with
  | refl => rfl
  | tail _ hchange ih => rw [hchange.lookup?_eq hname, ih]

/-! ## Definitions in another order -/

variable {w : Workspace} {text text' : String} {ds ds' : List Definition} {n : Nat}

/-- The names that a document's definitions make are free in whichever order they come. -/
theorem free_perm (hperm : ds.Perm ds')
    (hfree : Loading.Free w.registry (ds.map Definition.operation)) :
    Loading.Free w.registry (ds'.map Definition.operation) := by
  rw [Workspace.free_iff] at hfree ⊢
  exact ⟨(hperm.map Definition.operationName).nodup_iff.1 hfree.1,
    fun d hd => hfree.2 d (hperm.mem_iff.2 hd)⟩

/-- **A document that is loaded is also loaded in another order,** and every name is then the name
of the same operation. -/
theorem load_perm (hw : w.registry.WellFormed) (hds : Definitions.ofText text = .ok ds)
    (hds' : Definitions.ofText text' = .ok ds') (hperm : ds.Perm ds')
    (hload : (w.load text).1 = .ok n) :
    (w.load text').1 = .ok n ∧
      ∀ name, (w.load text').2.registry.lookup? name = (w.load text).2.registry.lookup? name := by
  rcases Workspace.load_cases hw text with ⟨e, he, -⟩ | ⟨ds₁, hds₁, hv, hfree⟩
  · rw [he] at hload
    cases hload
  rw [hds] at hds₁
  cases hds₁
  obtain ⟨hn, hops, -⟩ := Workspace.load_of_free hds hv hfree
  have hv' : ∀ d ∈ ds', d.Valid := fun d hd => hv d (hperm.mem_iff.2 hd)
  obtain ⟨hn', hops', -⟩ := Workspace.load_of_free hds' hv' (free_perm hperm hfree)
  rw [hn] at hload
  refine ⟨by rw [hn', ← hperm.length_eq, hload], ?_⟩
  refine lookup?_eq_of_perm (Workspace.load_wellFormed hw).distinct ?_
  rw [hops, hops']
  exact (hperm.map Definition.operation).append_left _

/-! ## The laws of independence -/

/-- **What results depend on, and what they do not.** -/
structure IndependenceLaws : Prop where
  /-- Where the registry looks from the method like another one, and the code that is reached
  depends on its arguments only, a call has the same outcome in both, whenever it is made. -/
  outcome : ∀ (r r' : Registry) method payload bits bits' c c', r.LooksLike r' method →
    r.DeterministicFrom method →
    r'.outcome bits' c' method payload = r.outcome bits c method payload
  /-- Whatever the code does, a call runs the same on the same random bits, and that even where the
  registry changes while the call runs, but always looks alike. -/
  run : ∀ (r : Registry) see method payload c, (∀ i, r.LooksLike (see i).registry method) →
    Task.run see c (dispatch method payload) =
      Task.run (r.still fun i => (see i).entropy) c (dispatch method payload)
  /-- What two registries that look alike reach is the same. -/
  reaches_iff : ∀ (r r' : Registry) method callee, r.LooksLike r' method →
    (r'.Reaches method callee ↔ r.Reaches method callee)
  /-- A method reaches what is written, as the method of a call, in an expression that it
  reaches, -/
  written : ∀ (r : Registry) method callee, r.Reaches method callee →
    callee = method ∨ ∃ caller op logic reach, r.Reaches method caller ∧
      r.lookup? caller = some op ∧ op.handler = .expression logic reach ∧ logic.WritesCall callee
  /-- and no data can make an expression call anything else. -/
  evaluation : ∀ logic f g data, (∀ callee, logic.WritesCall callee → f callee = g callee) →
    (Expr.ofJson logic).eval (⟨some f⟩ : Host Moment) data = (Expr.ofJson logic).eval ⟨some g⟩ data
  /-- Registering and revoking elsewhere, before a call or while it runs, does nothing to it. -/
  elsewhere : ∀ (r : Registry) see method payload c, ¬ r.PublishesFrom method →
    (∀ i, Relation.ReflTransGen (ChangesOutside (r.Reaches method)) r (see i).registry) →
    Task.run see c (dispatch method payload) =
      Task.run (r.still fun i => (see i).entropy) c (dispatch method payload)
  /-- The definitions of a document that is loaded can stand in any order: it is loaded as well,
  and every call runs the same. -/
  permuted : ∀ calls text text' ds ds' n, Definitions.ofText text = .ok ds →
    Definitions.ofText text' = .ok ds' → ds.Perm ds' →
    ((Workspace.after calls).load text).1 = .ok n →
    ((Workspace.after calls).load text').1 = .ok n ∧
      ∀ method payload bits c,
        ¬ ((Workspace.after calls).load text).2.registry.PublishesFrom method →
        Task.run (((Workspace.after calls).load text').2.registry.still bits) c
            (dispatch method payload) =
          Task.run (((Workspace.after calls).load text).2.registry.still bits) c
            (dispatch method payload)
  /-- Where only the catalog operation publishes the catalog, what does not reach it can be told
  by its name. -/
  catalog : ∀ (r : Registry) method,
    (∀ op ∈ r.operations, ∀ info, op.handler = .publish info → op.name = "openrpc") →
    ¬ r.Reaches method "openrpc" → ¬ r.PublishesFrom method
  /-- What has no code of its own is deterministic, and so is what is built in, but for the
  generator of identifiers. -/
  deterministic : ∀ op : Operation,
    (op ∈ Toolbox.operations ∧ op.name ≠ "uuid-generator") ∨ (∀ run, op.handler ≠ .native run) →
    op.Deterministic

theorem independenceLaws : IndependenceLaws where
  outcome _ _ _ payload bits bits' c c' hlooks hcode :=
    outcome_dispatch_eq hlooks hcode payload bits bits' c c'
  run _ _ _ payload c hlooks := run_dispatch_eq hlooks payload c
  reaches_iff _ _ _ _ hlooks := hlooks.reaches_iff
  written _ _ _ hreaches := written_of_reaches hreaches
  evaluation _ _ _ data hfg := eval_eq_of_written hfg data
  elsewhere _ _ _ payload c hpublishes hchanges :=
    run_dispatch_eq (fun i => looksLike_of_changes hpublishes (hchanges i)) payload c
  permuted calls text text' ds ds' n hds hds' hperm hload := by
    obtain ⟨hload', hlookup⟩ := load_perm (Workspace.wellFormed_after calls) hds hds' hperm hload
    refine ⟨hload', fun method payload bits c hpublishes => ?_⟩
    refine run_dispatch_eq (fun _ => ?_) payload c
    exact ⟨fun name _ => hlookup name, fun hp => absurd hp hpublishes⟩
  catalog _ _ hname hreaches := not_publishesFrom hname hreaches
  deterministic op h := by
    rcases h with ⟨hop, hname⟩ | hnone
    · exact deterministic_of_mem hop hname
    · exact deterministic_of_noCode hnone

end Independence

end Switchboard
