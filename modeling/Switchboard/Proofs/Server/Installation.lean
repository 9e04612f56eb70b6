import Switchboard.Proofs.Definitions.Workspace
import Switchboard.Server.Basic
import Mathlib.Data.List.Nodup
/-!
# Installing and removing

What a server does to its registry when a document is loaded, when it starts, and when it is torn
down or shut down. A document and the file of definitions come to the same: operations that are
installed, or a reason why there are none (`load_eq`, `loadFile_eq`). They are all installed behind
the others (`install_of_free`), or nothing is (`install_of_taken`). Tearing down takes out what has
been installed, by name, and leaves the others in their order (`teardown_of_installed`).
-/

namespace Switchboard

open Registry

/-! ## What there is to install -/

/-- The operations that a text defines, or why it defines none. -/
def Definitions.operations (text : String) : Except LoadError (List Operation) := do
  (← Definitions.ofText text).mapM Definition.toOperation

/-- All definitions are valid then, and each makes its operation. -/
theorem Definitions.exists_of_operations {text : String} {ops : List Operation}
    (h : Definitions.operations text = .ok ops) :
    ∃ ds, Definitions.ofText text = .ok ds ∧ (∀ d ∈ ds, d.Valid) ∧
      ops = ds.map Definition.operation := by
  rw [Definitions.operations] at h
  cases hds : Definitions.ofText text with
  | error e =>
    rw [hds] at h
    cases h
  | ok ds =>
    rw [hds] at h
    have hops : ds.mapM Definition.toOperation = .ok ops := h
    by_cases hvalid : ∀ d ∈ ds, d.Valid
    · rw [Definition.mapM_toOperation_of_valid hvalid] at hops
      cases hops
      exact ⟨ds, rfl, hvalid, rfl⟩
    · obtain ⟨reason, hbad⟩ := Definition.mapM_toOperation_of_invalid hvalid
      rw [hbad] at hops
      cases hops

/-- The operations that a file defines, or why it defines none. -/
def DefinitionsFile.operations : DefinitionsFile → Except LoadError (List Operation)
  | .absent => .ok []
  | .unreadable path reason => .error (.unreadable path reason)
  | .found path content =>
    match Text.ofBytes? content with
    | some text => Definitions.operations text
    | none => .error (.unreadable path "stream did not contain valid UTF-8")

/-- What a file defines is what the text in it does, if there is anything. -/
theorem DefinitionsFile.exists_of_operations {file : DefinitionsFile} {ops : List Operation}
    (h : file.operations = .ok ops) :
    ops = [] ∨ ∃ text, Definitions.operations text = .ok ops := by
  cases file with
  | absent =>
    cases h
    exact .inl rfl
  | unreadable path reason => cases h
  | found path content =>
    rw [DefinitionsFile.operations] at h
    split at h
    · next text _ => exact .inr ⟨text, h⟩
    · cases h

/-! ## Removing by name -/

namespace Registry

variable {r : Registry} {x y : Registration} {ys : List Registration} {names : List String}

/-- The registry without the operations of some names. -/
def without (r : Registry) (names : List String) : Registry :=
  { r with registrations := r.registrations.filter fun x => x.operation.name ∉ names }

theorem operations_without :
    (r.without names).operations = r.operations.filter fun op => op.name ∉ names := by
  rw [operations, operations, List.filter_map]
  rfl

theorem without_nil (r : Registry) : r.without [] = r := by
  simp [without]

theorem WellFormed.without (w : r.WellFormed) : (r.without names).WellFormed where
  increasing := w.increasing.filter _
  below x hx := w.below x (List.mem_filter.1 hx).1
  distinct := by
    rw [operations_without]
    exact w.distinct.sublist (List.filter_sublist.map _)

/-- No two registrations have one name. -/
theorem WellFormed.eq_of_name (w : r.WellFormed) (hx : x ∈ r.registrations)
    (hy : y ∈ r.registrations) (h : x.operation.name = y.operation.name) : x = y := by
  have hd := w.distinct
  rw [operations, List.map_map] at hd
  exact List.inj_on_of_nodup_map hd hx hy h

/-- Removing what stands there is removing what has its name. -/
theorem WellFormed.remove_handleOf (w : r.WellFormed) (hy : y ∈ r.registrations) :
    r.remove (handleOf y) = r.without [y.operation.name] := by
  have hkept : r.registrations.filter (fun x => !Handle.issuedFor (handleOf y) x) =
      r.registrations.filter fun x => x.operation.name ∉ [y.operation.name] := by
    refine List.filter_congr fun x hx => ?_
    by_cases hname : x.operation.name = y.operation.name
    · rw [w.eq_of_name hx hy hname, issuedFor_handleOf]
      simp
    · have hother : Handle.issuedFor (handleOf y) x = false :=
        Bool.eq_false_iff.2 fun h => hname (issuedFor_iff.1 h).1
      rw [hother]
      simp [hname]
  rw [Registry.remove, hkept, Registry.without]

theorem without_without (r : Registry) (name : String) (names : List String) :
    (r.without [name]).without names = r.without (name :: names) := by
  simp only [without, List.filter_filter, List.mem_cons, List.not_mem_nil, or_false]
  congr 2
  funext x
  rw [← Bool.decide_and]
  exact decide_eq_decide.2 (by rw [not_or, and_comm])

/-- **Revoking what stands there, one after the other,** removes all of it and nothing else. -/
theorem WellFormed.revokeAll_handleOf (w : r.WellFormed) (hys : ∀ y ∈ ys, y ∈ r.registrations)
    (hd : (ys.map (·.operation.name)).Nodup) :
    Loader.revokeAll (ys.map handleOf) r =
      (ys.length, r.without (ys.map (·.operation.name))) := by
  induction ys generalizing r with
  | nil => rw [List.map_nil, List.map_nil, without_nil, List.length_nil, Loader.revokeAll]
  | cons y rest ih =>
    rw [List.forall_mem_cons] at hys
    rw [List.map_cons, List.nodup_cons] at hd
    obtain ⟨-, -, -, -, hrevoke⟩ := w.revoke_of_mem rfl hys.1 issuedFor_handleOf
    have hrest : ∀ z ∈ rest, z ∈ (r.remove (handleOf y)).registrations := by
      intro z hz
      refine mem_remove.2 ⟨hys.2 z hz, Bool.eq_false_iff.2 fun h => hd.1 ?_⟩
      exact List.mem_map.2 ⟨z, hz, (issuedFor_iff.1 h).1⟩
    have hremoved := ih w.remove hrest hd.2
    rw [List.map_cons, Loader.revokeAll, hrevoke]
    dsimp only
    rw [hremoved, w.remove_handleOf hys.1, without_without, List.map_cons, List.length_cons,
      if_pos rfl, Nat.add_comm]

end Registry

/-! ## Installing -/

namespace Server

variable {s s' : Server} {ops : List Operation} {ys : List Registration} {e : LoadError}

/-- **Installs operations,** if there are any to be had: how many, or why none. -/
def install (offered : Except LoadError (List Operation)) (s : Server) :
    Except LoadError Nat × Server :=
  match offered with
  | .error e => (.error e, s)
  | .ok ops =>
    match (Loading.installing ops []).finish s.registry with
    | (.ok handles, r) =>
      (.ok handles.length, { s with loader := ⟨s.loader.handles ++ handles⟩, registry := r })
    | (.error e, r) => (.error e, { s with registry := r })

theorem load_eq (text : String) (s : Server) :
    s.load text = s.install (Definitions.operations text) := by
  rw [load, Loader.load, Loading.start, install.eq_def, Definitions.operations]
  cases (Definitions.ofText text >>= fun ds => ds.mapM Definition.toOperation) with
  | error e =>
    dsimp only
    rw [Loading.finish_ended]
  | ok ops =>
    dsimp only
    obtain ⟨_ | _, r⟩ := (Loading.installing ops []).finish s.registry <;> rfl

theorem loadFile_eq (s : Server) : s.loadFile = s.install s.settings.definitions.operations := by
  rw [loadFile]
  cases s.settings.definitions with
  | absent =>
    dsimp only
    rw [DefinitionsFile.operations, install, Loading.finish_step, Loading.step,
      Loading.finish_ended]
    dsimp only
    rw [List.append_nil, List.length_nil]
  | unreadable path reason => rfl
  | found path content =>
    dsimp only
    rw [DefinitionsFile.operations]
    cases Text.ofBytes? content with
    | none => rfl
    | some text => exact load_eq text s

/-- **Where their names are free, all are installed,** behind what is there. -/
theorem install_of_free (w : s.registry.WellFormed) (hf : Loading.Free s.registry ops) :
    ∃ ys n, ys.map (·.operation) = ops ∧ (∀ y ∈ ys, s.registry.nextSerial ≤ y.serial) ∧
      s.registry.nextSerial ≤ n ∧
      (⟨s.registry.registrations ++ ys, n⟩ : Registry).WellFormed ∧
      s.install (.ok ops) = (.ok ops.length,
        { s with
          loader := ⟨s.loader.handles ++ ys.map handleOf⟩
          registry := ⟨s.registry.registrations ++ ys, n⟩ }) := by
  obtain ⟨ys, hops, hres, hreg⟩ := Loading.finish_of_free (l := []) hf
  obtain ⟨hnext, hmem⟩ := Loading.precedes_finish (.installing ops []) s.registry
  have hwell := Loading.finish_wellFormed (x := .installing ops []) w
  cases hfinish : (Loading.installing ops []).finish s.registry with
  | mk result r =>
    obtain ⟨registrations, n⟩ := r
    rw [hfinish] at hres hreg hnext hwell hmem
    dsimp only at hres hreg hnext hwell hmem
    subst hreg hres
    refine ⟨ys, n, hops, fun y hy => ?_, hnext, hwell, ?_⟩
    · -- what is new stands behind what is old, so it has a greater serial number
      refine (hmem y (List.mem_append_right _ hy)).resolve_left fun hold => ?_
      have hlt := (List.pairwise_append.1 hwell.increasing).2.2 y hold y hy
      exact Nat.lt_irrefl _ hlt
    · rw [install, hfinish]
      dsimp only
      rw [List.nil_append, List.length_map, ← hops, List.length_map]

/-- **Where one is taken, nothing is installed.** -/
theorem install_of_taken (w : s.registry.WellFormed) (hf : ¬ Loading.Free s.registry ops) :
    ∃ name n, s.registry.nextSerial ≤ n ∧
      (⟨s.registry.registrations, n⟩ : Registry).WellFormed ∧
      s.install (.ok ops) = (.error (.registration (.duplicateOperation name)),
        { s with registry := ⟨s.registry.registrations, n⟩ }) := by
  obtain ⟨name, hres, hreg⟩ := Loading.finish_of_taken w (List.append_nil _).symm hf
  rw [List.map_nil] at hres hreg
  have hnext := (Loading.precedes_finish (.installing ops []) s.registry).nextSerial_le
  have hwell := Loading.finish_wellFormed (x := .installing ops []) w
  cases hfinish : (Loading.installing ops []).finish s.registry with
  | mk result r =>
    obtain ⟨registrations, n⟩ := r
    rw [hfinish] at hres hreg hnext hwell
    dsimp only at hres hreg hnext hwell
    subst hreg hres
    refine ⟨name, n, hnext, hwell, ?_⟩
    rw [install, hfinish]

/-- **What an installation comes to:** it is refused and all stays as it is, or its names are free
and it installs everything. -/
theorem install_cases (w : s.registry.WellFormed) (offered : Except LoadError (List Operation)) :
    (∃ e n, (∀ ops, offered = .ok ops → ¬ Loading.Free s.registry ops) ∧
      s.registry.nextSerial ≤ n ∧ (⟨s.registry.registrations, n⟩ : Registry).WellFormed ∧
      s.install offered = (.error e, { s with registry := ⟨s.registry.registrations, n⟩ })) ∨
    (∃ ops ys n, offered = .ok ops ∧ Loading.Free s.registry ops ∧ ys.map (·.operation) = ops ∧
      (∀ y ∈ ys, s.registry.nextSerial ≤ y.serial) ∧ s.registry.nextSerial ≤ n ∧
      (⟨s.registry.registrations ++ ys, n⟩ : Registry).WellFormed ∧
      s.install offered = (.ok ops.length,
        { s with
          loader := ⟨s.loader.handles ++ ys.map handleOf⟩
          registry := ⟨s.registry.registrations ++ ys, n⟩ })) := by
  cases offered with
  | error e =>
    refine .inl ⟨e, s.registry.nextSerial, fun ops h => ?_, Nat.le_refl _, w, rfl⟩
    cases h
  | ok ops =>
    by_cases hf : Loading.Free s.registry ops
    · obtain ⟨ys, n, hops, hnew, hnext, hwell, hinstall⟩ := install_of_free w hf
      exact .inr ⟨ops, ys, n, rfl, hf, hops, hnew, hnext, hwell, hinstall⟩
    · obtain ⟨name, n, hnext, hwell, hinstall⟩ := install_of_taken w hf
      refine .inl ⟨_, n, fun ops' h => ?_, hnext, hwell, hinstall⟩
      cases h
      exact hf

/-- The server after has the same operations as the one before, and its loader the same handles. -/
structure Unchanged (s s' : Server) : Prop where
  registrations : s'.registry.registrations = s.registry.registrations
  loader : s'.loader = s.loader

/-- The server after has some operations more, at the end, which its loader counts as installed. -/
structure Gains (s : Server) (new : List Operation) (s' : Server) : Prop where
  operations : s'.registry.operations = s.registry.operations ++ new
  installed : s'.loader.installed = s.loader.installed ++ new.map (·.name)

variable {offered : Except LoadError (List Operation)}

theorem unchanged_of_install (w : s.registry.WellFormed)
    (h : s.install offered = (.error e, s')) : s.Unchanged s' := by
  rcases install_cases w offered with
    ⟨_, _, -, -, -, hinstall⟩ | ⟨_, _, _, -, -, -, -, -, -, hinstall⟩
  · rw [hinstall] at h
    cases h
    exact ⟨rfl, rfl⟩
  · rw [hinstall] at h
    cases h

theorem gains_of_install (w : s.registry.WellFormed) {n : Nat}
    (h : s.install offered = (.ok n, s')) :
    ∃ new, offered = .ok new ∧ new.length = n ∧ Loading.Free s.registry new ∧ s.Gains new s' := by
  rcases install_cases w offered with
    ⟨_, _, -, -, -, hinstall⟩ | ⟨new, ys, m, hoffered, hf, hops, -, -, -, hinstall⟩
  · rw [hinstall] at h
    cases h
  · rw [hinstall] at h
    cases h
    refine ⟨new, hoffered, rfl, hf, ?_, ?_⟩
    · rw [operations, operations, ← hops, List.map_append]
    · rw [← hops]
      exact Loader.installed_append s.loader.handles ys

/-! ## Starting and ending -/

theorem start_of_installed {n : Nat}
    (h : s.install s.settings.definitions.operations = (.ok n, s')) : s.start = (.ok (), s') := by
  rw [← loadFile_eq] at h
  rw [start, services, Service.startAll, customOperations]
  dsimp only
  rw [h]
  rfl

theorem start_of_refused (h : s.install s.settings.definitions.operations = (.error e, s')) :
    s.start = (.error ⟨"custom-operations", e⟩, s') := by
  rw [← loadFile_eq] at h
  rw [start, services, Service.startAll, customOperations]
  dsimp only
  rw [h]
  rfl

/-- **A start succeeds if and only if** there is something to be had whose names are free, or
nothing at all; and that is then installed. -/
theorem gains_of_start (w : s.registry.WellFormed) (h : s.start.1 = .ok ()) :
    ∃ new, s.settings.definitions.operations = .ok new ∧ Loading.Free s.registry new ∧
      s.Gains new s.start.2 := by
  cases hinstall : s.install s.settings.definitions.operations with
  | mk result s' =>
    cases result with
    | error e =>
      rw [start_of_refused hinstall] at h
      cases h
    | ok n =>
      rw [start_of_installed hinstall]
      obtain ⟨new, hops, -, hf, hgains⟩ := gains_of_install w hinstall
      exact ⟨new, hops, hf, hgains⟩

theorem start_of_free (w : s.registry.WellFormed)
    (hops : s.settings.definitions.operations = .ok ops) (hf : Loading.Free s.registry ops) :
    s.start.1 = .ok () := by
  obtain ⟨_, _, -, -, -, -, hinstall⟩ := install_of_free w hf
  rw [← hops] at hinstall
  rw [start_of_installed hinstall]

theorem unchanged_of_start (w : s.registry.WellFormed) {failure : StartFailure LoadError}
    (h : s.start.1 = .error failure) : s.Unchanged s.start.2 := by
  cases hinstall : s.install s.settings.definitions.operations with
  | mk result s' =>
    cases result with
    | error e =>
      rw [start_of_refused hinstall]
      exact unchanged_of_install w hinstall
    | ok n =>
      rw [start_of_installed hinstall] at h
      cases h

theorem shutdown_eq (terminate : Bool) (s : Server) :
    s.shutdown terminate = (.ok (), s.teardown.2) := rfl

/-- **Tearing down removes what was installed,** as long as all of it is there. -/
theorem teardown_of_installed (w : s.registry.WellFormed)
    (hhandles : s.loader.handles = ys.map handleOf) (hys : ∀ y ∈ ys, y ∈ s.registry.registrations)
    (hd : (ys.map (·.operation.name)).Nodup) :
    s.teardown = (ys.length,
      { s with loader := {}, registry := s.registry.without (ys.map (·.operation.name)) }) := by
  rw [teardown, Loader.teardown, hhandles, w.revokeAll_handleOf hys hd]

end Server

end Switchboard
