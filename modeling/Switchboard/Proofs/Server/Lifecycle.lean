import Switchboard.Proofs.Server.Deployment
/-!
# The life of a server

What holds of a server at every moment of its life (`lifecycleLaws`), whoever has called it before,
and in whatever order. What is outstanding is kept account of by the calls alone (`outstanding`):
which loads and starts have succeeded since the last teardown or shutdown. The registry and the
loader agree with that account after every step (`Accounted.step`), so after every run
(`Accounted.run`).
-/

namespace Switchboard

open Registry

namespace Deployment

/-! ## What is outstanding -/

/-- The operations that a call installs, if it succeeds. -/
def installs (d : Deployment) : Call → List Operation
  | .client _ => []
  | .load text =>
    if (d.server.load text).1.isOk then (Definitions.operations text).toOption.getD [] else []
  | .teardown => []
  | .start => if d.server.start.1.isOk then d.file.operations.toOption.getD [] else []
  | .shutdown _ => []
  | .edit _ => []

/-- Whether a call removes what has been installed. -/
def Call.removes : Call → Bool
  | .client _ => false
  | .load _ => false
  | .teardown => true
  | .start => false
  | .shutdown _ => true
  | .edit _ => false

/-- **What is outstanding after some calls:** what the loads and starts that succeeded have
installed since the last teardown or shutdown, in the order of their doing so. -/
def outstanding : List Call → Deployment → List Operation → List Operation
  | [], _, ops => ops
  | c :: rest, d, ops =>
    outstanding rest (d.step c) (if c.removes then [] else ops ++ d.installs c)

variable {d d' : Deployment} {c : Call} {ops std : List Operation} {op : Operation}

theorem operations_new (settings : Settings) (randomBits : Nat → Nat) :
    (new settings randomBits).registry.operations = Deployment.standard settings := by
  refine operations_ofOperations ?_
  change (Toolbox.operations.map (·.name) ++ ["openrpc"]).Nodup
  decide

namespace Accounted

/-! ### Whole lives -/

theorem install (h : Accounted std d ops) (offered : Except LoadError (List Operation)) :
    Accounted std ⟨(d.server.install offered).2, d.handles⟩
      (ops ++ if (d.server.install offered).1.isOk then offered.toOption.getD [] else []) := by
  rcases Server.install_cases h.sound.wellFormed offered with
    ⟨e, n, -, hnext, w, hinstall⟩ | ⟨new, ys, n, rfl, -, rfl, hnew, hnext, w, hinstall⟩
  · rw [hinstall, Except.isOk, Except.toBool, if_neg Bool.false_ne_true, List.append_nil]
    exact h.refused hnext w
  · rw [hinstall]
    exact h.installed hnew hnext w

theorem step (h : Accounted std d ops) (c : Call) :
    Accounted std (d.step c) (if c.removes then [] else ops ++ d.installs c) := by
  cases c with
  | client c =>
    rw [Call.removes, if_neg Bool.false_ne_true, installs, List.append_nil]
    exact h.client c
  | load text =>
    have hinstall := h.install (Definitions.operations text)
    rw [← Server.load_eq] at hinstall
    exact hinstall
  | teardown => exact h.teardown
  | start =>
    have hinstall := h.install d.file.operations
    rw [Call.removes, if_neg Bool.false_ne_true, installs, Deployment.step]
    cases hresult : d.server.install d.file.operations with
    | mk result s =>
      rw [hresult] at hinstall
      cases result with
      | error e =>
        rw [Server.start_of_refused hresult]
        exact hinstall
      | ok n =>
        rw [Server.start_of_installed hresult]
        exact hinstall
  | shutdown terminate => exact h.teardown
  | edit file =>
    rw [Call.removes, if_neg Bool.false_ne_true, installs, List.append_nil]
    exact ⟨h.sound, h.standard, h.custom⟩

/-- **The account is kept over whole lives.** -/
theorem run (h : Accounted std d ops) (calls : List Call) :
    Accounted std (d.run calls) (outstanding calls d ops) := by
  induction calls generalizing d ops with
  | nil => exact h
  | cons c rest ih => exact ih (h.step c)

/-- It is in order when a server is new. -/
theorem start (settings : Settings) (randomBits : Nat → Nat) :
    Accounted (Deployment.standard settings) (new settings randomBits) [] := by
  refine ⟨⟨wellFormed_ofOperations _, fun k hk => ?_, List.nodup_nil⟩, fun op hop => ?_,
    [], rfl, rfl, fun y hy => ?_⟩
  · cases hk
  · rw [← operations_new settings randomBits] at hop
    obtain ⟨x, hx, hof⟩ := mem_operations.1 hop
    refine ⟨x, ⟨hx, fun k hk => ?_⟩, hof⟩
    cases hk
  · cases hy

/-! ### What it says -/

theorem lookup?_standard (h : Accounted std d ops) (hop : op ∈ std) :
    d.registry.lookup? op.name = some op := by
  obtain ⟨x, hx, hof⟩ := h.standard op hop
  exact lookup?_of_mem h.sound.wellFormed.distinct (mem_operations.2 ⟨x, hx.listed, hof⟩)

theorem lookup?_custom (h : Accounted std d ops) (hop : op ∈ ops) :
    d.registry.lookup? op.name = some op := by
  obtain ⟨ys, rfl, -, hys⟩ := h.custom
  obtain ⟨y, hy, hof⟩ := List.mem_map.1 hop
  exact lookup?_of_mem h.sound.wellFormed.distinct (mem_operations.2 ⟨y, hys y hy, hof⟩)

theorem loader_installed (h : Accounted std d ops) : d.loader.installed = ops.map (·.name) := by
  obtain ⟨ys, rfl, hhandles, -⟩ := h.custom
  have hloader : d.loader = ⟨[] ++ ys.map handleOf⟩ := by
    rw [List.nil_append, ← hhandles]
  rw [hloader, Loader.installed_append]
  rfl

end Accounted

/-- What is outstanding stays so while nothing is removed. -/
theorem mem_outstanding {calls : List Call} (hop : op ∈ ops)
    (hcalls : ∀ c ∈ calls, c.removes = false) : op ∈ outstanding calls d ops := by
  induction calls generalizing d ops with
  | nil => exact hop
  | cons c rest ih =>
    rw [List.forall_mem_cons] at hcalls
    rw [outstanding, hcalls.1, if_neg Bool.false_ne_true]
    exact ih (List.mem_append_left _ hop) hcalls.2

/-- What is outstanding has been installed by some call. -/
theorem exists_installs_of_mem_outstanding {calls : List Call}
    (hop : op ∈ outstanding calls d ops) : op ∈ ops ∨ ∃ d' c, op ∈ installs d' c := by
  induction calls generalizing d ops with
  | nil => exact .inl hop
  | cons c rest ih =>
    rcases ih hop with hfirst | hrest
    · split at hfirst
      · cases hfirst
      · exact (List.mem_append.1 hfirst).imp_right fun h => ⟨d, c, h⟩
    · exact .inr hrest

/-- It is what a definition describes. -/
theorem exists_describes_of_mem_installs (hop : op ∈ d.installs c) :
    ∃ definition : Definition, definition.Describes op := by
  have htext {text : String} {new : List Operation} (hnew : Definitions.operations text = .ok new)
      (hop : op ∈ new) : ∃ definition : Definition, definition.Describes op := by
    obtain ⟨ds, -, hvalid, rfl⟩ := Definitions.exists_of_operations hnew
    obtain ⟨definition, hmem, rfl⟩ := List.mem_map.1 hop
    exact ⟨definition, Definition.describes_operation (hvalid definition hmem)⟩
  cases c with
  | load text =>
    rw [installs] at hop
    split at hop
    · cases hnew : Definitions.operations text with
      | error e =>
        rw [hnew] at hop
        cases hop
      | ok new =>
        rw [hnew] at hop
        exact htext hnew hop
    · cases hop
  | start =>
    rw [installs] at hop
    split at hop
    · cases hnew : d.file.operations with
      | error e =>
        rw [hnew] at hop
        cases hop
      | ok new =>
        rw [hnew] at hop
        rcases DefinitionsFile.exists_of_operations hnew with rfl | ⟨text, hof⟩
        · cases hop
        · exact htext hof hop
    · cases hop
  | _ => cases hop

/-! ## The laws of whole lives -/

/-- **What holds at every moment of a server's life,** where these operations are outstanding. -/
structure LifecycleLaws (settings : Settings) (d : Deployment) (ops : List Operation) : Prop where
  /-- The standard operations are always registered. -/
  standard : ∀ op ∈ Deployment.standard settings, d.registry.lookup? op.name = some op
  /-- Counted as installed are, in the order of loading, the names of what is outstanding, -/
  installed : d.loader.installed = ops.map (·.name)
  /-- and each of these operations is registered, as the load that installed it has made it: with an
  expression, which its definition gives. -/
  registered : ∀ op ∈ ops, d.registry.lookup? op.name = some op ∧
    ∃ definition : Definition, definition.Describes op
  /-- A load that succeeds installs what the definitions of its document describe, at the end, -/
  loaded : ∀ text n, (d.server.load text).1 = .ok n → ∃ ds new,
    Definitions.ofText text = .ok ds ∧ List.Forall₂ Definition.Describes ds new ∧
      new.length = n ∧ Definitions.operations text = .ok new ∧
      d.server.Gains new (d.server.load text).2
  /-- and one that fails leaves everything. -/
  load_failed : ∀ text e, (d.server.load text).1 = .error e →
    d.server.Unchanged (d.server.load text).2
  /-- So does a start that fails, -/
  start_failed : ∀ e, d.server.start.1 = .error e → d.server.Unchanged d.server.start.2
  /-- which it does if the file cannot be read, is malformed, or defines a name that is taken. -/
  starts_iff : d.server.start.1 = .ok () ↔
    ∃ new, d.file.operations = .ok new ∧ Loading.Free d.registry new
  /-- A start that succeeds installs the operations of the file. -/
  started : d.server.start.1 = .ok () → ∃ new, d.file.operations = .ok new ∧
    d.server.Gains new d.server.start.2
  /-- Tearing down removes what is outstanding and nothing else, tells how many operations that
  were, and leaves the rest in its order. -/
  torn_down : d.server.teardown.1 = ops.length ∧
    d.server.teardown.2.registry.operations =
      d.registry.operations.filter (fun op => op.name ∉ ops.map (·.name)) ∧
    d.server.teardown.2.loader.installed = []
  /-- Done again, it finds nothing to remove. -/
  torn_down_again : d.server.teardown.2.teardown = (0, d.server.teardown.2)
  /-- A shutdown tears down, and never fails. -/
  shut_down : ∀ terminate, d.server.shutdown terminate = (.ok (), d.server.teardown.2)
  /-- A second start fails if the file is the same and defines anything, and nothing has been
  removed since the first. -/
  second_start : ∀ later d' new, (d.step .start).run later = d' → d'.file = d.file →
    d.server.start.1 = .ok () → d.file.operations = .ok new → new ≠ [] →
    (∀ c ∈ later, c.removes = false) → ∃ e, d'.server.start.1 = .error e
  /-- Whatever has happened since a start that succeeded: if the file is the same, and none of its
  names is registered, the next start succeeds and installs the same operations. -/
  restart : ∀ later d' new, (d.step .start).run later = d' → d'.file = d.file →
    d.server.start.1 = .ok () → d.file.operations = .ok new →
    (∀ op ∈ new, d'.registry.lookup? op.name = none) →
    d'.server.start.1 = .ok () ∧ d'.server.Gains new d'.server.start.2

theorem starts_iff (h : Accounted std d ops) : d.server.start.1 = .ok () ↔
    ∃ new, d.file.operations = .ok new ∧ Loading.Free d.registry new := by
  constructor
  · intro hstart
    obtain ⟨new, hnew, hf, -⟩ := Server.gains_of_start h.sound.wellFormed hstart
    exact ⟨new, hnew, hf⟩
  · rintro ⟨new, hnew, hf⟩
    exact Server.start_of_free h.sound.wellFormed hnew hf

/-- Where nothing has been removed since, the names that a start has installed are taken. -/
theorem second_start_fails (h : Accounted std d ops) {later : List Call} {new : List Operation}
    (hrun : (d.step .start).run later = d') (hfile : d'.file = d.file)
    (hstart : d.server.start.1 = .ok ()) (hnew : d.file.operations = .ok new) (hne : new ≠ [])
    (hkept : ∀ c ∈ later, c.removes = false) : ∃ e, d'.server.start.1 = .error e := by
  have haccount := (h.step .start).run later
  have hinstalls : d.installs .start = new := by
    rw [installs, hstart, hnew]
    rfl
  rw [hrun, hinstalls] at haccount
  obtain ⟨op, rest, rfl⟩ := List.exists_cons_of_ne_nil hne
  have hop : op ∈ ops ++ op :: rest := List.mem_append_right _ List.mem_cons_self
  have hlookup := haccount.lookup?_custom (mem_outstanding hop hkept)
  cases hagain : d'.server.start.1 with
  | error e => exact ⟨e, rfl⟩
  | ok _ =>
    obtain ⟨new', hnew', hf⟩ := (starts_iff haccount).1 hagain
    rw [hfile, hnew] at hnew'
    cases hnew'
    have hfree := hf.free op List.mem_cons_self
    rw [contains_of_lookup? hlookup] at hfree
    cases hfree

theorem restart_installs (h : Accounted std d ops) {later : List Call} {new : List Operation}
    (hrun : (d.step .start).run later = d') (hfile : d'.file = d.file)
    (hstart : d.server.start.1 = .ok ()) (hnew : d.file.operations = .ok new)
    (hfree : ∀ op ∈ new, d'.registry.lookup? op.name = none) :
    d'.server.start.1 = .ok () ∧ d'.server.Gains new d'.server.start.2 := by
  have haccount := (h.step .start).run later
  rw [hrun] at haccount
  obtain ⟨new₀, hnew₀, hf⟩ := (starts_iff h).1 hstart
  rw [hnew] at hnew₀
  cases hnew₀
  have hf' : Loading.Free d'.registry new :=
    ⟨hf.distinct, fun op hop => by rw [contains, hfree op hop, Option.isSome_none]⟩
  rw [← hfile] at hnew
  have hagain := (starts_iff haccount).2 ⟨new, hnew, hf'⟩
  obtain ⟨new', hnew', -, hgains⟩ := Server.gains_of_start haccount.sound.wellFormed hagain
  have heq : new' = new := Except.ok.inj (hnew'.symm.trans hnew)
  exact ⟨hagain, heq ▸ hgains⟩

/-- **The life of a server, whatever happens in it.** -/
theorem lifecycleLaws (settings : Settings) (randomBits : Nat → Nat) (calls : List Call) :
    LifecycleLaws settings ((new settings randomBits).run calls)
      (outstanding calls (new settings randomBits) []) := by
  have h := (Accounted.start settings randomBits).run calls
  have w := h.sound.wellFormed
  refine
    { standard := fun op hop => h.lookup?_standard hop
      installed := h.loader_installed
      registered := fun op hop => ⟨h.lookup?_custom hop, ?_⟩
      loaded := fun text n hload => ?_
      load_failed := fun text e hload => ?_
      start_failed := fun e hstart => Server.unchanged_of_start w hstart
      starts_iff := starts_iff h
      started := fun hstart => ?_
      torn_down := ?_
      torn_down_again := ?_
      shut_down := fun terminate => Server.shutdown_eq terminate _
      second_start := fun later d' new hrun hfile => second_start_fails h hrun hfile
      restart := fun later d' new hrun hfile => restart_installs h hrun hfile }
  · rcases exists_installs_of_mem_outstanding hop with hnone | ⟨_, _, hinstalls⟩
    · cases hnone
    · exact exists_describes_of_mem_installs hinstalls
  · rw [Server.load_eq] at hload ⊢
    obtain ⟨new, hnew, hlength, -, hgains⟩ := Server.gains_of_install w (Prod.ext hload rfl)
    obtain ⟨ds, hds, hvalid, rfl⟩ := Definitions.exists_of_operations hnew
    exact ⟨ds, _, hds, Definition.forall₂_describes hvalid, hlength, hnew, hgains⟩
  · rw [Server.load_eq] at hload ⊢
    exact Server.unchanged_of_install w (Prod.ext hload rfl)
  · obtain ⟨new, hnew, -, hgains⟩ := Server.gains_of_start w hstart
    exact ⟨new, hnew, hgains⟩
  · rw [h.teardown_eq]
    exact ⟨rfl, operations_without, rfl⟩
  · have hagain := h.teardown.teardown_eq
    rw [step, List.map_nil, without_nil] at hagain
    rw [hagain, h.teardown_eq]
    rfl

end Deployment

end Switchboard
