import Switchboard.Proofs.Definitions.Loading
import Switchboard.Proofs.Registry.Session
/-!
# Workspaces

A workspace is a registry with its clients and with a loader of custom
operations, in any state they can get to: `Workspace.after` is the one after
a sequence of calls by clients, loads, and teardowns. `LoadLaws` says what the
next load comes to there. It installs every operation its document defines or
leaves everything as it was, and which of the two is said without looking at
how it goes about it.
-/

namespace Switchboard

open Registry

/-- A registry with its clients and a loader. -/
structure Workspace where
  session : Session := {}
  loader : Loader := {}

namespace Workspace

/-- What can happen in a workspace. Clients hold the handles that were issued to them, the loader
those of the operations it installed. -/
inductive Call where
  | client (c : Session.Call)
  | load (text : String)
  | teardown

/-- The registry of a workspace. -/
abbrev registry (w : Workspace) : Registry := w.session.registry

/-- Loads a document: how many operations it installed, or why none, and the workspace after. -/
def load (w : Workspace) (text : String) : Except LoadError Nat × Workspace :=
  let (result, loader, registry) := w.loader.load w.registry text
  (result, ⟨{ w.session with registry := registry }, loader⟩)

/-- Removes what the loader has installed. -/
def teardown (w : Workspace) : Workspace :=
  let (_, loader, registry) := w.loader.teardown w.registry
  ⟨{ w.session with registry := registry }, loader⟩

/-- The workspace after one more call. -/
def step (w : Workspace) : Call → Workspace
  | .client c => { w with session := w.session.step c }
  | .load text => (w.load text).2
  | .teardown => w.teardown

/-- The workspace after some calls, from the empty one on. -/
def after (calls : List Call) : Workspace := calls.foldl step {}

variable {w : Workspace} {r : Registry} {text : String} {ds : List Definition}

/-! ## Well-formedness -/

theorem load_wellFormed (hw : w.registry.WellFormed) : (w.load text).2.registry.WellFormed :=
  Loader.load_keeps (fun _ _ h hr => h.wellFormed hr) w.loader text hw

theorem wellFormed_step (hw : w.registry.WellFormed) (c : Call) :
    (w.step c).registry.WellFormed := by
  cases c with
  | client c => exact (w.session.step_registry c).wellFormed hw
  | load text => exact load_wellFormed hw
  | teardown => exact Loader.revokeAll_keeps (fun _ _ h hr => h.wellFormed hr) w.loader.handles hw

theorem wellFormed_after (calls : List Call) : (after calls).registry.WellFormed := by
  refine List.foldlRecOn (motive := fun w => w.registry.WellFormed) calls step ?_ ?_
  · exact WellFormed.empty
  · exact fun w hw c _ => wellFormed_step hw c

/-! ## One load -/

/-- A load goes by how its steps end. -/
theorem load_eq (w : Workspace) (text : String) :
    w.load text = match (Loading.start text).finish w.registry with
      | (.ok handles, r) =>
        (.ok handles.length, ⟨{ w.session with registry := r }, ⟨w.loader.handles ++ handles⟩⟩)
      | (.error e, r) => (.error e, ⟨{ w.session with registry := r }, w.loader⟩) := by
  simp only [load, Loader.load]
  obtain ⟨_ | _, r⟩ := (Loading.start text).finish w.registry <;> rfl

/-- A document that cannot be used is refused before the registry is touched. -/
theorem load_of_error {e : LoadError}
    (h : (do (← Definitions.ofText text).mapM Definition.toOperation) = .error e) :
    w.load text = (.error e, w) := by
  rw [load_eq, Loading.start, h, Loading.finish_ended]

theorem load_of_invalid (h : Definitions.ofText text = .ok ds) (hv : ¬ ∀ d ∈ ds, d.Valid) :
    ∃ reason, w.load text = (.error (.malformed reason), w) := by
  obtain ⟨reason, hbad⟩ := Definition.mapM_toOperation_of_invalid hv
  exact ⟨reason, load_of_error (by rw [h]; exact hbad)⟩

theorem start_of_valid (h : Definitions.ofText text = .ok ds) (hv : ∀ d ∈ ds, d.Valid) :
    Loading.start text = .installing (ds.map Definition.operation) [] := by
  have hops : (do (← Definitions.ofText text).mapM Definition.toOperation) =
      .ok (ds.map Definition.operation) := by
    rw [h]
    exact Definition.mapM_toOperation_of_valid hv
  rw [Loading.start, hops]

/-- **Free names are all installed.** -/
theorem load_of_free (h : Definitions.ofText text = .ok ds) (hv : ∀ d ∈ ds, d.Valid)
    (hf : Loading.Free w.registry (ds.map Definition.operation)) :
    (w.load text).1 = .ok ds.length ∧
      (w.load text).2.registry.operations =
        w.registry.operations ++ ds.map Definition.operation ∧
      (w.load text).2.loader.installed =
        w.loader.installed ++ (ds.map Definition.operation).map (·.name) := by
  obtain ⟨ys, hops, hres, hreg⟩ := Loading.finish_of_free (l := []) hf
  have hlen : ys.length = ds.length := by
    rw [← List.length_map (fun x : Registration => x.operation), hops, List.length_map]
  rw [load_eq, start_of_valid h hv]
  revert hres hreg
  obtain ⟨result, r⟩ := (Loading.installing (ds.map Definition.operation) []).finish w.registry
  rintro rfl hreg
  refine ⟨by simp [hlen], ?_, ?_⟩
  · rw [← hops, operations, operations, hreg, List.map_append]
  · rw [← hops]
    exact Loader.installed_append w.loader.handles ys

/-- **A taken name leaves everything as it was,** up to the serial numbers that were used up. -/
theorem load_of_taken (hw : w.registry.WellFormed) (h : Definitions.ofText text = .ok ds)
    (hv : ∀ d ∈ ds, d.Valid) (hf : ¬ Loading.Free w.registry (ds.map Definition.operation)) :
    ∃ name, (w.load text).1 = .error (.registration (.duplicateOperation name)) ∧
      (w.load text).2.registry.registrations = w.registry.registrations ∧
      (w.load text).2.loader = w.loader := by
  obtain ⟨name, hres, hreg⟩ :=
    Loading.finish_of_taken hw (List.append_nil _).symm hf
  rw [List.map_nil] at hres hreg
  rw [load_eq, start_of_valid h hv]
  revert hres hreg
  obtain ⟨result, r⟩ := (Loading.installing (ds.map Definition.operation) []).finish w.registry
  rintro rfl hreg
  exact ⟨name, rfl, hreg, rfl⟩

/-- The names that valid definitions make are free when the registry and the document say so. -/
theorem free_iff : Loading.Free w.registry (ds.map Definition.operation) ↔
    (ds.map Definition.operationName).Nodup ∧
      ∀ d ∈ ds, ∀ op ∈ w.registry.operations, op.name ≠ d.operationName := by
  have hnames : (ds.map Definition.operation).map (·.name) = ds.map Definition.operationName := by
    rw [List.map_map]
    rfl
  constructor
  · rintro ⟨hd, hfree⟩
    refine ⟨hnames ▸ hd, fun d hd' => ?_⟩
    have hname : w.registry.contains d.operationName = false :=
      hfree d.operation (List.mem_map_of_mem hd')
    exact contains_eq_false_iff.1 hname
  · rintro ⟨hd, hfree⟩
    refine ⟨hnames ▸ hd, fun op hop => ?_⟩
    obtain ⟨d, hd', rfl⟩ := List.mem_map.1 hop
    exact contains_eq_false_iff.2 (hfree d hd')

/-! ## The laws of a load -/

/-- A load either fails and leaves everything, or has valid definitions whose names are free. -/
theorem load_cases (hw : w.registry.WellFormed) (text : String) :
    (∃ e, (w.load text).1 = .error e ∧
      (w.load text).2.registry.registrations = w.registry.registrations ∧
      (w.load text).2.loader = w.loader) ∨
    (∃ ds, Definitions.ofText text = .ok ds ∧ (∀ d ∈ ds, d.Valid) ∧
      Loading.Free w.registry (ds.map Definition.operation)) := by
  cases h : Definitions.ofText text with
  | error e =>
    have hload : w.load text = (.error e, w) := load_of_error (by rw [h]; rfl)
    exact .inl ⟨e, by rw [hload], by rw [hload], by rw [hload]⟩
  | ok ds =>
    by_cases hv : ∀ d ∈ ds, d.Valid
    · by_cases hf : Loading.Free w.registry (ds.map Definition.operation)
      · exact .inr ⟨ds, rfl, hv, hf⟩
      · obtain ⟨name, hres, hreg, hl⟩ := load_of_taken hw h hv hf
        exact .inl ⟨_, hres, hreg, hl⟩
    · obtain ⟨reason, hload⟩ := load_of_invalid (w := w) h hv
      exact .inl ⟨_, by rw [hload], by rw [hload], by rw [hload]⟩

end Workspace

end Switchboard
