import Switchboard.Proofs.Registry.Runs
import Switchboard.Proofs.Server.Installation
/-!
# A server with its clients

A server is started, shut down, and started again; documents are loaded and torn down, and clients
register operations of their own and revoke them, all in any order. Three parties hold on to
registrations then: the registry itself, the loader by the handles of what it has installed, and
clients by theirs. `Accounted` ties them together. A call by a client keeps it (`Accounted.client`),
and so do installing and tearing down (`Accounted.installed`, `Accounted.refused`,
`Accounted.teardown`).

For this the handles of the loader and of the clients are put together, the loader's first. Seen so,
a call by a client is a call in a session with handles that it cannot name (`whole_client`).
-/

namespace Switchboard

open Registry

namespace Session

/-- A call as it is in a session with so many handles before those that it can name. -/
def Call.behind (n : Nat) : Call → Call
  | .register op => .register op
  | .registerPermanently op => .registerPermanently op
  | .revoke i => .revoke (n + i)

/-- **Handles in front of those that a client can name make no difference,** and stay there. -/
theorem step_behind (s : Session) (front : List Handle) (c : Call) :
    (⟨s.registry, front ++ s.handles⟩ : Session).step (c.behind front.length) =
      ⟨(s.step c).registry, front ++ (s.step c).handles⟩ := by
  rw [step, step]
  cases c with
  | register op =>
    rw [Call.behind]
    cases hc : s.registry.contains op.name with
    | true =>
      rw [call_register_of_taken hc,
        call_register_of_taken (s := ⟨s.registry, front ++ s.handles⟩) hc]
    | false =>
      rw [call_register_of_free hc,
        call_register_of_free (s := ⟨s.registry, front ++ s.handles⟩) hc, List.append_assoc]
  | registerPermanently op =>
    rw [Call.behind]
    cases hc : s.registry.contains op.name with
    | true =>
      rw [call_registerPermanently_of_taken hc,
        call_registerPermanently_of_taken (s := ⟨s.registry, front ++ s.handles⟩) hc]
    | false =>
      rw [call_registerPermanently_of_free hc,
        call_registerPermanently_of_free (s := ⟨s.registry, front ++ s.handles⟩) hc]
  | revoke i =>
    have hat : (front ++ s.handles)[front.length + i]? = s.handles[i]? := by
      rw [List.getElem?_append_right (Nat.le_add_right _ _), Nat.add_sub_cancel_left]
    rw [Call.behind]
    cases hh : s.handles[i]? with
    | none =>
      rw [call_revoke_of_none hh,
        call_revoke_of_none (s := ⟨s.registry, front ++ s.handles⟩) (hat.trans hh)]
    | some h =>
      rw [call_revoke hh, call_revoke (s := ⟨s.registry, front ++ s.handles⟩) (hat.trans hh),
        List.set_append_right _ _ (Nat.le_add_right _ _), Nat.add_sub_cancel_left]

end Session

/-- A server, and the handles that its clients have been issued. -/
structure Deployment where
  server : Server
  handles : List Handle := []

namespace Deployment

/-- What can happen to a server. Handles are named by their place in the order of issue. -/
inductive Call where
  | client (c : Session.Call)
  | load (text : String)
  | teardown
  | start
  | shutdown (terminate : Bool)
  /-- The file of definitions becomes another one. -/
  | edit (file : DefinitionsFile)

abbrev registry (d : Deployment) : Registry := d.server.registry

abbrev loader (d : Deployment) : Loader := d.server.loader

/-- The file of definitions as it is. -/
abbrev file (d : Deployment) : DefinitionsFile := d.server.settings.definitions

/-- The registry as its clients use it. -/
def session (d : Deployment) : Session := ⟨d.registry, d.handles⟩

/-- The server after one more call. -/
def step (d : Deployment) : Call → Deployment
  | .client c =>
    ⟨{ d.server with registry := (d.session.step c).registry }, (d.session.step c).handles⟩
  | .load text => { d with server := (d.server.load text).2 }
  | .teardown => { d with server := d.server.teardown.2 }
  | .start => { d with server := d.server.start.2 }
  | .shutdown terminate => { d with server := (d.server.shutdown terminate).2 }
  | .edit file =>
    { d with
      server := { d.server with settings := { d.server.settings with definitions := file } } }

/-- The server after some more calls. -/
def run (d : Deployment) (calls : List Call) : Deployment := calls.foldl step d

/-- A new server, without clients. -/
def new (settings : Settings) (randomBits : Nat → Nat) : Deployment where
  server := .new settings randomBits

/-- The operations that every server has. -/
def standard (settings : Settings) : List Operation :=
  Toolbox.operations ++ [Toolbox.catalogOperation ⟨settings.title, settings.version⟩]

variable {d d' : Deployment} {c : Call} {ops std : List Operation} {op : Operation}
variable {ys : List Registration} {n : Nat}

/-! ## All handles together -/

/-- The registry with the handles of the loader, and behind them those of the clients. -/
def whole (d : Deployment) : Session := ⟨d.registry, d.loader.handles ++ d.handles⟩

/-- A call by a client is one in the session of all handles. -/
theorem whole_client (d : Deployment) (c : Session.Call) :
    (d.step (.client c)).whole = d.whole.step (c.behind d.loader.handles.length) :=
  (d.session.step_behind d.loader.handles c).symm

/-! ## The account -/

/-- **Who holds what:** the standard operations stand, and nobody has a handle for them; what is
outstanding stands, and the loader has the handles for it, in its order; and no two handles are for
the same registration. -/
structure Accounted (std : List Operation) (d : Deployment) (ops : List Operation) : Prop where
  sound : d.whole.Sound
  standard : ∀ op ∈ std, ∃ x, d.whole.Kept x ∧ x.operation = op
  custom : ∃ ys : List Registration, ys.map (·.operation) = ops ∧
    d.loader.handles = ys.map handleOf ∧ ∀ y ∈ ys, y ∈ d.registry.registrations

namespace Accounted

theorem client (h : Accounted std d ops) (c : Session.Call) :
    Accounted std (d.step (.client c)) ops where
  sound := by
    rw [whole_client]
    exact h.sound.step _
  standard op hop := by
    obtain ⟨x, hx, hof⟩ := h.standard op hop
    rw [whole_client]
    exact ⟨x, hx.step h.sound _, hof⟩
  custom := by
    obtain ⟨ys, hops, hhandles, hys⟩ := h.custom
    refine ⟨ys, hops, hhandles, fun y hy => ?_⟩
    -- the handle of what was installed is the loader's, and no client can use it
    have hmem : handleOf y ∈ d.loader.handles := hhandles ▸ List.mem_map_of_mem hy
    obtain ⟨i, hi, hat⟩ := List.getElem_of_mem hmem
    have hheld : d.whole.Held i y := by
      refine ⟨?_, hys y hy⟩
      rw [whole, List.getElem?_append_left hi, List.getElem?_eq_getElem hi, hat]
    have hother : c.behind d.loader.handles.length ≠ .revoke i := by
      cases c with
      | revoke j =>
        intro heq
        have hij := Session.Call.revoke.inj heq
        omega
      | register op => exact Session.Call.noConfusion
      | registerPermanently op => exact Session.Call.noConfusion
    have hstill := (hheld.step h.sound hother).listed
    rw [← whole_client] at hstill
    exact hstill

/-! ### Installing -/

/-- Handles that are issued to new registrations can stand anywhere among the others. -/
theorem sound_insert {r : Registry} {before after : List Handle}
    (hs : Session.Sound ⟨r, before ++ after⟩) (hnew : ∀ y ∈ ys, r.nextSerial ≤ y.serial)
    (hnext : r.nextSerial ≤ n) (w : (⟨r.registrations ++ ys, n⟩ : Registry).WellFormed) :
    Session.Sound ⟨⟨r.registrations ++ ys, n⟩, before ++ ys.map handleOf ++ after⟩ where
  wellFormed := w
  below k hk := by
    have hold (h : k ∈ before ++ after) : k.serial < n := Nat.lt_of_lt_of_le (hs.below k h) hnext
    rw [List.mem_append, List.mem_append] at hk
    rcases hk with (hk | hk) | hk
    · exact hold (List.mem_append_left _ hk)
    · obtain ⟨y, hy, rfl⟩ := List.mem_map.1 hk
      exact w.below y (List.mem_append_right _ hy)
    · exact hold (List.mem_append_right _ hk)
  apart := by
    have hperm :
        (before ++ ys.map handleOf ++ after).Perm (before ++ after ++ ys.map handleOf) := by
      rw [List.append_assoc, List.append_assoc]
      exact List.perm_append_comm.append_left before
    rw [(hperm.map (·.serial)).nodup_iff, List.map_append, List.nodup_append]
    refine ⟨hs.apart, ?_, fun a ha b hb => ?_⟩
    · rw [List.map_map]
      have hincreasing := (List.pairwise_append.1 w.increasing).2.1
      exact List.pairwise_map.2 (hincreasing.imp fun h => Nat.ne_of_lt h)
    · obtain ⟨k, hk, rfl⟩ := List.mem_map.1 ha
      obtain ⟨k', hk', rfl⟩ := List.mem_map.1 hb
      obtain ⟨y, hy, rfl⟩ := List.mem_map.1 hk'
      exact Nat.ne_of_lt (Nat.lt_of_lt_of_le (hs.below k hk) (hnew y hy))

/-- What is kept is still kept, since the serial numbers of what is new are greater. -/
theorem kept_insert {r : Registry} {before after : List Handle} {x : Registration}
    (hs : Session.Sound ⟨r, before ++ after⟩) (hx : Session.Kept ⟨r, before ++ after⟩ x)
    (hnew : ∀ y ∈ ys, r.nextSerial ≤ y.serial) :
    Session.Kept ⟨⟨r.registrations ++ ys, n⟩, before ++ ys.map handleOf ++ after⟩ x where
  listed := List.mem_append_left _ hx.listed
  unclaimed k hk := by
    rw [List.mem_append, List.mem_append] at hk
    rcases hk with (hk | hk) | hk
    · exact hx.unclaimed k (List.mem_append_left _ hk)
    · obtain ⟨y, hy, rfl⟩ := List.mem_map.1 hk
      exact Nat.ne_of_gt (Nat.lt_of_lt_of_le (hs.wellFormed.below x hx.listed) (hnew y hy))
    · exact hx.unclaimed k (List.mem_append_right _ hk)

theorem installed (h : Accounted std d ops) (hnew : ∀ y ∈ ys, d.registry.nextSerial ≤ y.serial)
    (hnext : d.registry.nextSerial ≤ n)
    (w : (⟨d.registry.registrations ++ ys, n⟩ : Registry).WellFormed) :
    Accounted std ⟨{ d.server with
        loader := ⟨d.loader.handles ++ ys.map handleOf⟩
        registry := ⟨d.registry.registrations ++ ys, n⟩ }, d.handles⟩
      (ops ++ ys.map (·.operation)) where
  sound := sound_insert h.sound hnew hnext w
  standard op hop := by
    obtain ⟨x, hx, hof⟩ := h.standard op hop
    exact ⟨x, kept_insert h.sound hx hnew, hof⟩
  custom := by
    obtain ⟨xs, hops, hhandles, hxs⟩ := h.custom
    refine ⟨xs ++ ys, by rw [List.map_append, hops], ?_, fun y hy => ?_⟩
    · rw [List.map_append, ← hhandles]
    · rcases List.mem_append.1 hy with hy | hy
      · exact List.mem_append_left _ (hxs y hy)
      · exact List.mem_append_right _ hy

/-- Serial numbers that are used up make no difference. -/
theorem refused (h : Accounted std d ops) (hnext : d.registry.nextSerial ≤ n)
    (w : (⟨d.registry.registrations, n⟩ : Registry).WellFormed) :
    Accounted std ⟨{ d.server with registry := ⟨d.registry.registrations, n⟩ }, d.handles⟩ ops where
  sound := ⟨w, fun k hk => Nat.lt_of_lt_of_le (h.sound.below k hk) hnext, h.sound.apart⟩
  standard op hop := by
    obtain ⟨x, hx, hof⟩ := h.standard op hop
    exact ⟨x, ⟨hx.listed, hx.unclaimed⟩, hof⟩
  custom := h.custom

/-! ### Removing -/

theorem nodup_names (h : Accounted std d ops) (hhandles : d.loader.handles = ys.map handleOf)
    (hys : ∀ y ∈ ys, y ∈ d.registry.registrations) : (ys.map (·.operation.name)).Nodup := by
  have hserials := h.sound.apart
  rw [whole, List.map_append, hhandles, List.map_map] at hserials
  have hdistinct : ys.Nodup := (List.nodup_append.1 hserials).1.of_map _
  exact hdistinct.map_on fun x hx y hy hname =>
    h.sound.wellFormed.eq_of_name (hys x hx) (hys y hy) hname

/-- **Tearing down removes what is outstanding,** all of it and nothing else. -/
theorem teardown_eq (h : Accounted std d ops) :
    d.server.teardown = (ops.length,
      { d.server with loader := {}, registry := d.registry.without (ops.map (·.name)) }) := by
  obtain ⟨ys, rfl, hhandles, hys⟩ := h.custom
  rw [Server.teardown_of_installed h.sound.wellFormed hhandles hys (h.nodup_names hhandles hys),
    List.length_map, List.map_map]
  rfl

theorem teardown (h : Accounted std d ops) : Accounted std (d.step .teardown) [] := by
  rw [step, h.teardown_eq]
  refine ⟨⟨h.sound.wellFormed.without, fun k hk => ?_, ?_⟩, fun op hop => ?_, [], rfl, rfl, ?_⟩
  · exact h.sound.below k (List.mem_append_right _ hk)
  · have hserials := h.sound.apart
    rw [whole, List.map_append] at hserials
    exact (List.nodup_append.1 hserials).2.1
  · obtain ⟨x, hx, hof⟩ := h.standard op hop
    refine ⟨x, ⟨?_, fun k hk => hx.unclaimed k (List.mem_append_right _ hk)⟩, hof⟩
    -- what nobody has a handle for is not among what the loader has handles for
    obtain ⟨ys, rfl, hhandles, hys⟩ := h.custom
    refine List.mem_filter.2 ⟨hx.listed, decide_eq_true fun hname => ?_⟩
    rw [List.map_map] at hname
    obtain ⟨y, hy, hyx⟩ := List.mem_map.1 hname
    have heq := h.sound.wellFormed.eq_of_name (hys y hy) hx.listed hyx
    refine hx.unclaimed (handleOf y) (List.mem_append_left _ ?_) (heq ▸ rfl)
    exact hhandles ▸ List.mem_map_of_mem hy
  · intro y hy
    cases hy

end Accounted

end Deployment

end Switchboard
