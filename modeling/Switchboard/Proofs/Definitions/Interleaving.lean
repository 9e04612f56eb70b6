import Switchboard.Proofs.Definitions.Loading
import Switchboard.Proofs.Registry.Session
/-!
# Interleaved loads

Here loads are not taken in a row. Any number of them are under way at once,
and between two steps of one the others take theirs and clients make their
calls. Who makes a registration and who removes it is read off the action that
does (`MadeBy`). Of every load two things are kept: the handles it holds are
those of registrations it made (`Held.mine`), and what it made and is still
there is among them (`Held.covered`). So it can undo what is its own, and
nothing else, whatever names were taken again in the meantime.
-/

namespace Switchboard

open Registry

namespace Loading

variable {x : Loading} {r : Registry} {names : List String}

/-- The handles that a load holds: of what it has installed and not yet undone. -/
def held : Loading → List Handle
  | .installing _ installed => installed
  | .undoing _ handles => handles
  | .ended (.ok handles) => handles
  | .ended (.error _) => []

/-- The handles that a load hands over with its next step. It keeps them to itself until it has
installed its last operation. -/
def released : Loading → List Handle
  | .installing [] installed => installed
  | _ => []

/-- A load that has failed, or is about to. -/
def Failing : Loading → Prop
  | .undoing _ _ => True
  | .ended (.error _) => True
  | _ => False

/-- The operations of a load, installed or still to be, have the given names. A load that fails
owes nothing. -/
def Serves (names : List String) : Loading → Prop
  | .installing pending installed => installed.map (·.name) ++ pending.map (·.name) = names
  | .ended (.ok handles) => handles.map (·.name) = names
  | _ => True

theorem Failing.step (h : x.Failing) (r : Registry) : (x.step r).1.Failing := by
  match x, h with
  | .undoing _ [], _ => trivial
  | .undoing _ (_ :: _), _ => trivial
  | .ended (.error _), _ => trivial

/-- Registering moves a name from what is still to be done to what has been. -/
theorem Serves.step (h : x.Serves names) (r : Registry) : (x.step r).1.Serves names := by
  match x, h with
  | .installing [] installed, h => simpa [Loading.step, Serves] using h
  | .installing (op :: pending) installed, h =>
    cases hc : r.contains op.name with
    | true => rw [Loading.step, register_of_taken hc]; trivial
    | false =>
      rw [Loading.step, register_of_free hc]
      simpa [Serves, handleOf] using h
  | .undoing _ [], _ => trivial
  | .undoing _ (_ :: _), _ => trivial
  | .ended (.ok _), h => exact h
  | .ended (.error _), _ => trivial

/-- What a step of a load does to what it holds: nothing, one handle more for one registration
more, or one handle less, which is the one revoked. -/
theorem step_cases (x : Loading) (r : Registry) :
    ((x.step r).2 = r ∧ (x.step r).1.held = x.held) ∨
    (∃ op, r.contains op.name = false ∧ (x.step r).2 = r.add op ∧
      (x.step r).1.held = x.held ++ [handleOf (r.next op)]) ∨
    (∃ h, x.held = h :: (x.step r).1.held ∧ (x.step r).2 = (r.revoke h).2.2 ∧ x.Failing) := by
  match x with
  | .installing [] installed => exact .inl ⟨rfl, rfl⟩
  | .installing (op :: pending) installed =>
    cases hc : r.contains op.name with
    | true =>
      rw [step, register_of_taken hc]
      exact .inl ⟨rfl, rfl⟩
    | false =>
      rw [step, register_of_free hc]
      exact .inr (.inl ⟨op, hc, rfl, rfl⟩)
  | .undoing cause [] => exact .inl ⟨rfl, rfl⟩
  | .undoing cause (h :: handles) => exact .inr (.inr ⟨h, rfl, rfl, trivial⟩)
  | .ended result => exact .inl ⟨rfl, rfl⟩

end Loading

/-- The names that a document defines. -/
def Definitions.names (text : String) : List String :=
  match Definitions.ofText text with
  | .ok ds => ds.map Definition.operationName
  | .error _ => []

/-- A load sets out to install the names that its document defines, and holds nothing yet. -/
theorem Loading.serves_start (text : String) :
    (Loading.start text).Serves (Definitions.names text) := by
  rw [Loading.start, Definitions.names]
  cases Definitions.ofText text with
  | error e => trivial
  | ok ds =>
    by_cases hv : ∀ d ∈ ds, d.Valid
    · have hops : (do (← Except.ok ds).mapM Definition.toOperation : Except LoadError _) =
          .ok (ds.map Definition.operation) := Definition.mapM_toOperation_of_valid hv
      rw [hops]
      change [] ++ (ds.map Definition.operation).map (·.name) = _
      rw [List.nil_append, List.map_map]
      rfl
    · obtain ⟨reason, hbad⟩ := Definition.mapM_toOperation_of_invalid hv
      have hops : (do (← Except.ok ds).mapM Definition.toOperation : Except LoadError _) =
          .error (.malformed reason) := hbad
      rw [hops]
      trivial

theorem Loading.held_start (text : String) : (Loading.start text).held = [] := by
  rw [Loading.start]
  split <;> rfl

/-! ## The registry that all of them share -/

/-- A load and the text that it loads. -/
structure OpenLoad where
  text : String
  progress : Loading

/-- A registry with its clients and the loads that have been begun, in the order of beginning. -/
structure SharedRegistry where
  session : Session := {}
  loads : List OpenLoad := []

namespace SharedRegistry

/-- An atomic action on the registry. -/
inductive Action where
  | client (c : Session.Call)
  | begin (text : String)
  /-- The next step of the load of this number. -/
  | advance (k : Nat)

abbrev registry (s : SharedRegistry) : Registry := s.session.registry

/-- A load takes its next step. What it hands over, anyone may use from then on. -/
def advance (s : SharedRegistry) (k : Nat) : SharedRegistry :=
  match s.loads[k]? with
  | none => s
  | some l =>
    { session := ⟨(l.progress.step s.registry).2, s.session.handles ++ l.progress.released⟩
      loads := s.loads.set k { l with progress := (l.progress.step s.registry).1 } }

/-- The state after one more action. -/
def act (s : SharedRegistry) : Action → SharedRegistry
  | .client c => { s with session := s.session.step c }
  | .begin text => { s with loads := s.loads ++ [⟨text, .start text⟩] }
  | .advance k => s.advance k

/-- The state after some actions, from the empty registry on. -/
def after (actions : List Action) : SharedRegistry := actions.foldl act {}

/-- What the load of a number holds. -/
def heldBy (s : SharedRegistry) (k : Nat) : List Handle :=
  (s.loads[k]?.map (·.progress.held)).getD []

variable {s : SharedRegistry} {actions : List Action} {x y : Registration} {l : OpenLoad}
variable {j k n t : Nat}

/-! ## One action -/

theorem advance_of_some (hl : s.loads[k]? = some l) :
    s.advance k =
      { session := ⟨(l.progress.step s.registry).2, s.session.handles ++ l.progress.released⟩
        loads := s.loads.set k { l with progress := (l.progress.step s.registry).1 } } := by
  rw [advance, hl]

theorem advance_of_none (hl : s.loads[k]? = none) : s.advance k = s := by
  rw [advance, hl]

theorem heldBy_of_some (hl : s.loads[k]? = some l) : s.heldBy k = l.progress.held := by
  rw [heldBy, hl]
  rfl

/-- The loads that do not advance hold what they held. -/
theorem heldBy_advance_of_ne (h : j ≠ k) : (s.advance k).heldBy j = s.heldBy j := by
  cases hl : s.loads[k]? with
  | none => rw [advance_of_none hl]
  | some l => rw [advance_of_some hl, heldBy, List.getElem?_set_ne (Ne.symm h), heldBy]

theorem loads_advance_self (hl : s.loads[k]? = some l) :
    (s.advance k).loads[k]? = some { l with progress := (l.progress.step s.registry).1 } := by
  obtain ⟨hk, -⟩ := List.getElem?_eq_some_iff.1 hl
  rw [advance_of_some hl]
  simp [hk]

/-- A load that begins holds nothing. -/
theorem heldBy_begin (text : String) : (s.act (.begin text)).heldBy j = s.heldBy j := by
  rw [act, heldBy, heldBy, List.getElem?_append]
  split
  · rfl
  · rename_i hj
    rw [List.getElem?_eq_none (l := s.loads) (by omega)]
    cases j - s.loads.length with
    | zero => simp [Loading.held_start]
    | succ i => simp

/-- What the advance of a load does to the registry and to what the load holds. -/
theorem advance_cases (s : SharedRegistry) (k : Nat) :
    ((s.advance k).registry = s.registry ∧ (s.advance k).heldBy k = s.heldBy k) ∨
    (∃ op, s.registry.contains op.name = false ∧ (s.advance k).registry = s.registry.add op ∧
      (s.advance k).heldBy k = s.heldBy k ++ [handleOf (s.registry.next op)]) ∨
    (∃ h l, s.heldBy k = h :: (s.advance k).heldBy k ∧
      (s.advance k).registry = (s.registry.revoke h).2.2 ∧
      s.loads[k]? = some l ∧ l.progress.Failing) := by
  cases hl : s.loads[k]? with
  | none => exact .inl (by rw [advance_of_none hl]; exact ⟨rfl, rfl⟩)
  | some l =>
    have hreg : (s.advance k).registry = (l.progress.step s.registry).2 := by
      rw [advance_of_some hl]
    rw [heldBy_of_some hl, heldBy_of_some (loads_advance_self hl), hreg]
    rcases l.progress.step_cases s.registry with h | h | ⟨h, hheld, hrev, hfail⟩
    · exact .inl h
    · exact .inr (.inl h)
    · exact .inr (.inr ⟨h, l, hheld, hrev, rfl, hfail⟩)

/-- An action takes one step with the registry. -/
theorem act_registry (s : SharedRegistry) (a : Action) : Step s.registry (s.act a).registry := by
  cases a with
  | client c => exact s.session.step_registry c
  | begin text => exact .same
  | advance k =>
    rw [act]
    cases hl : s.loads[k]? with
    | none => rw [advance_of_none hl]; exact .same
    | some l => rw [advance_of_some hl]; exact l.progress.step_registry s.registry

/-- The registry over some actions. -/
def course (actions : List Action) : Course :=
  .ofRun act (·.registry) {} rfl act_registry actions

/-- The state after the first `n` actions. -/
def stateAt (actions : List Action) (n : Nat) : SharedRegistry := after (actions.take n)

theorem stateAt_succ {a : Action} (ha : actions[n]? = some a) :
    stateAt actions (n + 1) = (stateAt actions n).act a := by
  rw [stateAt, after, Course.foldl_take_succ, ha]
  rfl

theorem stateAt_succ_of_none (ha : actions[n]? = none) :
    stateAt actions (n + 1) = stateAt actions n := by
  rw [stateAt, after, Course.foldl_take_succ, ha]
  rfl

theorem course_registry : (course actions).registry n = (stateAt actions n).registry := rfl

theorem stateAt_length : stateAt actions actions.length = after actions := by
  rw [stateAt, List.take_length]

/-! ## What a load holds is its own -/

/-- A registration is made by the load of a number, as it advances. -/
def MadeBy (actions : List Action) (k : Nat) (x : Registration) : Prop :=
  ∃ t, (course actions).MadeAt t x ∧ actions[t]? = some (.advance k)

/-- What the `k`-th load holds after `n` actions. -/
structure Held (actions : List Action) (n k : Nat) : Prop where
  /-- Every handle was issued for a registration that the load made. -/
  mine : ∀ h ∈ (stateAt actions n).heldBy k, ∃ x, MadeBy actions k x ∧ h = handleOf x
  /-- And no registration that the load made is there without its handle. -/
  covered : ∀ x ∈ (stateAt actions n).registry.registrations, MadeBy actions k x →
    handleOf x ∈ (stateAt actions n).heldBy k

/-- Only when a load advances does it hold anything else. -/
theorem heldBy_succ (ha : actions[n]? ≠ some (.advance k)) :
    (stateAt actions (n + 1)).heldBy k = (stateAt actions n).heldBy k := by
  cases hn : actions[n]? with
  | none => rw [stateAt_succ_of_none hn]
  | some a =>
    rw [stateAt_succ hn]
    cases a with
    | client c => rfl
    | begin text => exact heldBy_begin text
    | advance j => exact heldBy_advance_of_ne fun h => ha (h ▸ hn)

/-- What a load made is there since before, or it has just been made by an advance. -/
theorem MadeBy.mem_or (hx : MadeBy actions k x)
    (h : x ∈ (stateAt actions (n + 1)).registry.registrations) :
    x ∈ (stateAt actions n).registry.registrations ∨
      x ∉ (stateAt actions n).registry.registrations ∧ actions[n]? = some (.advance k) := by
  by_cases hn : x ∈ (stateAt actions n).registry.registrations
  · exact .inl hn
  · obtain ⟨t, hmade, hact⟩ := hx
    obtain rfl := hmade.unique ⟨hn, h⟩
    exact .inr ⟨hn, hact⟩

theorem Held.succ_of_ne (h : Held actions n k) (ha : actions[n]? ≠ some (.advance k)) :
    Held actions (n + 1) k where
  mine g hg := h.mine g (heldBy_succ ha ▸ hg)
  covered x hx hmade := by
    rw [heldBy_succ ha]
    rcases hmade.mem_or hx with hmem | ⟨-, hact⟩
    · exact h.covered x hmem hmade
    · exact absurd hact ha

/-- The handle that a load revokes removes one registration, which the load made. -/
theorem Held.revoke_eq (h : Held actions n k) {g : Handle} {rest : List Handle}
    (hg : (stateAt actions n).heldBy k = g :: rest) (r : Registry) :
    (r.revoke g).2.2 = r.remove g := by
  obtain ⟨x, -, rfl⟩ := h.mine g (by rw [hg]; exact List.mem_cons_self)
  rw [revoke_of_fresh rfl]

theorem Held.succ_of_advance (h : Held actions n k) (ha : actions[n]? = some (.advance k)) :
    Held actions (n + 1) k := by
  have hs : stateAt actions (n + 1) = (stateAt actions n).advance k := stateAt_succ ha
  rcases advance_cases (stateAt actions n) k with
    ⟨hreg, hheld⟩ | ⟨op, -, hreg, hheld⟩ | ⟨g, l, hheld, hreg, -, -⟩
  · rw [← hs] at hreg hheld
    refine ⟨fun g hg => h.mine g (hheld ▸ hg), fun x hx hmade => ?_⟩
    rw [hheld]
    exact h.covered x (hreg ▸ hx) hmade
  · rw [← hs] at hreg hheld
    have hmade := (course actions).madeAt_of_add hreg
    -- the new handle and the new registration are each other's
    refine ⟨fun g hg => ?_, fun x hx hx' => ?_⟩
    · rw [hheld, List.mem_append, List.mem_singleton] at hg
      rcases hg with hg | rfl
      · exact h.mine g hg
      · exact ⟨_, ⟨n, hmade, ha⟩, rfl⟩
    · rw [hheld, List.mem_append, List.mem_singleton]
      rcases hx'.mem_or hx with hmem | ⟨hnot, -⟩
      · exact .inl (h.covered x hmem hx')
      · rw [hreg, add_registrations, List.mem_append, List.mem_singleton] at hx
        exact .inr (by rw [hx.resolve_left hnot])
  · rw [← hs] at hreg hheld
    rw [h.revoke_eq hheld] at hreg
    refine ⟨fun g' hg' => h.mine g' (by rw [hheld]; exact List.mem_cons_of_mem g hg'), ?_⟩
    intro x hx hmade
    -- what is left has a handle, and not the one just used
    rw [hreg, mem_remove] at hx
    have hmem := h.covered x hx.1 hmade
    rw [hheld, List.mem_cons] at hmem
    rcases hmem with rfl | hmem
    · exact absurd issuedFor_handleOf (by rw [hx.2]; exact Bool.false_ne_true)
    · exact hmem

/-- **Every load, at every moment, holds what it made and nothing else.** -/
theorem held (actions : List Action) (n k : Nat) : Held actions n k := by
  induction n with
  | zero =>
    refine ⟨fun h hh => ?_, fun x hx => ?_⟩
    · simp [stateAt, after, heldBy] at hh
    · simp [stateAt, after, registry, Registry.empty] at hx
  | succ n ih =>
    by_cases ha : actions[n]? = some (.advance k)
    · exact ih.succ_of_advance ha
    · exact ih.succ_of_ne ha

/-- **What a load removes it has made itself,** and it is failing. -/
theorem removedAt_advance (ht : actions[t]? = some (.advance k))
    (hx : (course actions).RemovedAt t x) :
    MadeBy actions k x ∧ ∃ l, (stateAt actions t).loads[k]? = some l ∧ l.progress.Failing := by
  have hs : stateAt actions (t + 1) = (stateAt actions t).advance k := stateAt_succ ht
  obtain ⟨hmem, hgone⟩ := hx
  rw [course_registry] at hmem hgone
  rcases advance_cases (stateAt actions t) k with
    ⟨hreg, -⟩ | ⟨op, -, hreg, -⟩ | ⟨g, l, hheld, hreg, hl, hfail⟩
  · rw [hs, hreg] at hgone
    exact absurd hmem hgone
  · rw [hs, hreg] at hgone
    exact absurd (by simp [hmem]) hgone
  · obtain ⟨y, hmade, rfl⟩ := (held actions t k).mine g (by rw [hheld]; exact List.mem_cons_self)
    rw [hs, hreg, (held actions t k).revoke_eq hheld, mem_remove, not_and, Bool.not_eq_false]
      at hgone
    have hserial : x.serial = y.serial := (issuedFor_iff.1 (hgone hmem)).2
    obtain ⟨u, -, hmadex⟩ := Course.exists_madeAt (c := course actions) hmem
    obtain ⟨v, hmadey, -⟩ := id hmade
    exact ⟨hmadex.eq_of_serial hmadey hserial ▸ hmade, l, hl, hfail⟩

/-! ## How a load ends -/

/-- What a load that is there comes to with one more action. -/
theorem exists_loads_act (hl : s.loads[k]? = some l) (a : Action) :
    ∃ l', (s.act a).loads[k]? = some l' ∧ l'.text = l.text ∧
      (l'.progress = l.progress ∨ ∃ r, l'.progress = (l.progress.step r).1) := by
  cases a with
  | client c => exact ⟨l, hl, rfl, .inl rfl⟩
  | begin text =>
    obtain ⟨hk, -⟩ := List.getElem?_eq_some_iff.1 hl
    refine ⟨l, ?_, rfl, .inl rfl⟩
    rw [act, List.getElem?_append_left hk, hl]
  | advance j =>
    by_cases hjk : j = k
    · subst hjk
      exact ⟨_, loads_advance_self hl, rfl, .inr ⟨s.registry, rfl⟩⟩
    · refine ⟨l, ?_, rfl, .inl rfl⟩
      rw [act]
      cases hj : s.loads[j]? with
      | none => rw [advance_of_none hj, hl]
      | some l' => rw [advance_of_some hj, List.getElem?_set_ne hjk, hl]

/-- Once a load is failing it stays so. -/
theorem failing_mono (hl : (stateAt actions t).loads[k]? = some l) (hf : l.progress.Failing)
    (htn : t ≤ n) : ∃ l', (stateAt actions n).loads[k]? = some l' ∧ l'.progress.Failing := by
  induction htn with
  | refl => exact ⟨l, hl, hf⟩
  | @step n _ ih =>
    obtain ⟨l₁, hl₁, hf₁⟩ := ih
    rw [Nat.succ_eq_add_one]
    cases ha : actions[n]? with
    | none => rw [stateAt_succ_of_none ha]; exact ⟨l₁, hl₁, hf₁⟩
    | some a =>
      rw [stateAt_succ ha]
      obtain ⟨l₂, hl₂, -, hsame | ⟨r, hstep⟩⟩ := exists_loads_act hl₁ a
      · exact ⟨l₂, hl₂, hsame ▸ hf₁⟩
      · exact ⟨l₂, hl₂, hstep ▸ hf₁.step r⟩

/-- Every load serves the document that it loads. -/
theorem serves_act (h : ∀ l ∈ s.loads, l.progress.Serves (Definitions.names l.text)) (a : Action) :
    ∀ l ∈ (s.act a).loads, l.progress.Serves (Definitions.names l.text) := by
  intro l hl
  cases a with
  | client c => exact h l hl
  | begin text =>
    rw [act, List.mem_append, List.mem_singleton] at hl
    rcases hl with hl | rfl
    · exact h l hl
    · exact Loading.serves_start text
  | advance k =>
    rw [act] at hl
    cases hk : s.loads[k]? with
    | none => exact h l (by rwa [advance_of_none hk] at hl)
    | some l₀ =>
      rw [advance_of_some hk] at hl
      rcases List.mem_or_eq_of_mem_set hl with hl | rfl
      · exact h l hl
      · exact (h l₀ (List.mem_of_getElem? hk)).step s.registry

theorem serves_after (actions : List Action) :
    ∀ l ∈ (after actions).loads, l.progress.Serves (Definitions.names l.text) := by
  refine List.foldlRecOn
    (motive := fun s => ∀ l ∈ s.loads, l.progress.Serves (Definitions.names l.text))
    actions act ?_ fun s h a _ => serves_act h a
  intro l hl
  exact absurd hl List.not_mem_nil

/-- A load that has succeeded has made a registration for every name of its document. -/
theorem exists_madeBy_of_ok {handles : List Handle} {name : String}
    (hl : (after actions).loads[k]? = some l) (hok : l.progress = .ended (.ok handles))
    (hname : name ∈ Definitions.names l.text) :
    ∃ x, MadeBy actions k x ∧ x.operation.name = name := by
  have hserves := serves_after actions l (List.mem_of_getElem? hl)
  rw [hok] at hserves
  obtain ⟨h, hh, rfl⟩ := List.mem_map.1 (hserves ▸ hname : name ∈ handles.map (·.name))
  have hheld : h ∈ (stateAt actions actions.length).heldBy k := by
    rw [stateAt_length, heldBy_of_some hl, hok]
    exact hh
  obtain ⟨x, hmade, rfl⟩ := (held actions actions.length k).mine h hheld
  exact ⟨x, hmade, rfl⟩

/-- A load that has succeeded has removed nothing. -/
theorem not_removedAt_of_ok {handles : List Handle}
    (hl : (after actions).loads[k]? = some l) (hok : l.progress = .ended (.ok handles))
    (ht : actions[t]? = some (.advance k)) : ¬ (course actions).RemovedAt t x := by
  intro hx
  obtain ⟨-, l₀, hl₀, hfail⟩ := removedAt_advance ht hx
  obtain ⟨htn, -⟩ := List.getElem?_eq_some_iff.1 ht
  obtain ⟨l₁, hl₁, hfail₁⟩ := failing_mono hl₀ hfail (Nat.le_of_lt htn)
  rw [stateAt_length, hl, Option.some_inj] at hl₁
  subst hl₁
  rw [hok] at hfail₁
  exact hfail₁

/-- What neither load nor beginning removes, a client revokes. -/
theorem exists_revoke_of_removedAt (hx : (course actions).RemovedAt t x)
    (hload : ∀ k, actions[t]? ≠ some (.advance k)) :
    ∃ i, actions[t]? = some (.client (.revoke i)) := by
  obtain ⟨hmem, hgone⟩ := hx
  rw [course_registry] at hmem hgone
  cases ha : actions[t]? with
  | none =>
    rw [stateAt_succ_of_none ha] at hgone
    exact absurd hmem hgone
  | some a =>
    rw [stateAt_succ ha] at hgone
    cases a with
    | advance k => exact absurd ha (hload k)
    | begin text => exact absurd hmem hgone
    | client c =>
      rw [act] at hgone
      rcases (stateAt actions t).session.step_cases c with
        h | ⟨op, -, -, h⟩ | ⟨op, -, -, h⟩ | ⟨i, -, rfl, -, -, -⟩
      · rw [registry, h] at hgone
        exact absurd hmem hgone
      · rw [registry, h] at hgone
        exact absurd (by simp [hmem]) hgone
      · rw [registry, h] at hgone
        exact absurd (by simp [hmem]) hgone
      · exact ⟨i, rfl⟩

/-! ## The laws of interleaved loads -/

/-- Of two registrations of one name, one is made by each of two loads, and between the two the
first of them is revoked by a client, who has been handed its handle. -/
structure Relayed (actions : List Action) (j k : Nat) (name : String) : Prop where
  exists_revoked : ∃ t v u x y, t < v ∧ v < u ∧
    (course actions).MadeAt t x ∧ actions[t]? = some (.advance j) ∧ x.operation.name = name ∧
    (∃ i, actions[v]? = some (.client (.revoke i))) ∧ (course actions).RemovedAt v x ∧
    (course actions).MadeAt u y ∧ actions[u]? = some (.advance k) ∧ y.operation.name = name

/-- **What holds of loads, however their steps are interleaved.** -/
structure InterleavingLaws (actions : List Action) : Prop where
  /-- A load that has failed has left nothing that it made. -/
  failed : ∀ k l e, (after actions).loads[k]? = some l → l.progress = .ended (.error e) →
    ∀ x, MadeBy actions k x → x ∉ (after actions).registry.registrations
  /-- A load that advances, whether it installs or undoes, removes nothing that it did not make,
  under whichever name it stands. -/
  others : ∀ k t x, actions[t]? = some (.advance k) → ¬ MadeBy actions k x →
    x ∈ (stateAt actions t).registry.registrations →
    x ∈ (stateAt actions (t + 1)).registry.registrations
  /-- Two loads that have both succeeded with one name had a client in between, who revoked
  what the first of them had made under that name. -/
  shared : ∀ j k l m hs gs name, j ≠ k →
    (after actions).loads[j]? = some l → l.progress = .ended (.ok hs) →
    (after actions).loads[k]? = some m → m.progress = .ended (.ok gs) →
    name ∈ Definitions.names l.text → name ∈ Definitions.names m.text →
    Relayed actions j k name ∨ Relayed actions k j name

theorem not_mem_of_failed {e : LoadError} (hl : (after actions).loads[k]? = some l)
    (he : l.progress = .ended (.error e)) (hx : MadeBy actions k x) :
    x ∉ (after actions).registry.registrations := by
  intro hmem
  rw [← stateAt_length] at hl hmem
  have hheld := (held actions actions.length k).covered x hmem hx
  rw [heldBy_of_some hl, he] at hheld
  exact List.not_mem_nil hheld

theorem mem_succ_of_not_madeBy (ht : actions[t]? = some (.advance k)) (hx : ¬ MadeBy actions k x)
    (hmem : x ∈ (stateAt actions t).registry.registrations) :
    x ∈ (stateAt actions (t + 1)).registry.registrations :=
  Classical.byContradiction fun hgone => hx (removedAt_advance ht ⟨hmem, hgone⟩).1

/-- Of two registrations of one name the first is removed before the second is made. -/
theorem exists_removedAt_of_name {u : Nat} (hx : (course actions).MadeAt t x)
    (hy : (course actions).MadeAt u y) (hname : x.operation.name = y.operation.name)
    (htu : t < u) : ∃ v, t < v ∧ v < u ∧ (course actions).RemovedAt v x := by
  have hgone : x ∉ ((course actions).registry u).registrations := by
    intro hmem
    obtain ⟨op, hfree, -, rfl⟩ := hy.eq_add
    exact contains_eq_false_iff.1 hfree _ (mem_operations.2 ⟨x, hmem, rfl⟩) hname
  obtain ⟨v, htv, hvu, hrem⟩ :=
    Course.exists_removedAt_between (show t + 1 ≤ u from htu) hx.2 hgone
  exact ⟨v, htv, hvu, hrem⟩

/-- Where the first of two loads has succeeded, it is a client that revokes. -/
theorem relayed_of_lt {u : Nat} {handles : List Handle} (hl : (after actions).loads[j]? = some l)
    (hok : l.progress = .ended (.ok handles))
    (hx : (course actions).MadeAt t x) (hxa : actions[t]? = some (.advance j))
    (hy : (course actions).MadeAt u y) (hya : actions[u]? = some (.advance k))
    (hname : x.operation.name = y.operation.name) (htu : t < u) :
    Relayed actions j k y.operation.name := by
  obtain ⟨v, htv, hvu, hrem⟩ := exists_removedAt_of_name hx hy hname htu
  have hclient : ∃ i, actions[v]? = some (.client (.revoke i)) := by
    refine exists_revoke_of_removedAt hrem fun i hv => ?_
    obtain ⟨t', hx', hact⟩ := (removedAt_advance hv hrem).1
    -- whoever removes it is who made it, and that load removes nothing
    obtain rfl := hx'.unique hx
    rw [hxa, Option.some_inj, Action.advance.injEq] at hact
    subst hact
    exact not_removedAt_of_ok hl hok hv hrem
  exact ⟨t, v, u, x, y, htv, hvu, hx, hxa, hname, hclient, hrem, hy, hya, rfl⟩

/-- **Loading stays clean under interleaving,** of any number of loads and clients. -/
theorem interleavingLaws (actions : List Action) : InterleavingLaws actions where
  failed _ _ _ hl he _ hx := not_mem_of_failed hl he hx
  others _ _ _ ht hx hmem := mem_succ_of_not_madeBy ht hx hmem
  shared j k l m hs gs name hjk hl hlok hm hmok hnl hnm := by
    obtain ⟨x, ⟨t, hx, hxa⟩, hxn⟩ := exists_madeBy_of_ok hl hlok hnl
    obtain ⟨y, ⟨u, hy, hya⟩, hyn⟩ := exists_madeBy_of_ok hm hmok hnm
    rcases Nat.lt_trichotomy t u with htu | rfl | hut
    · exact .inl (hyn ▸ relayed_of_lt hl hlok hx hxa hy hya (hxn.trans hyn.symm) htu)
    · rw [hxa, Option.some_inj, Action.advance.injEq] at hya
      exact absurd hya hjk
    · exact .inr (hxn ▸ relayed_of_lt hm hmok hy hya hx hxa (hyn.trans hxn.symm) hut)

end SharedRegistry

end Switchboard
