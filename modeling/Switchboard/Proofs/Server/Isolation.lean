import Switchboard.Proofs.Server.Lifecycle
import Switchboard.Proofs.Traffic.Pending
/-!
# Calls are isolated from changes of the registry

A call finds its operation when it is first run. What is asked of the server from then on, until the
call is awaited, does not reach it, be it that the very operation is revoked or that its name is
registered again (`isolationLaws`). That holds of every operation that needs nothing of the registry
once it has been found: of all code, and of expressions that call nothing. A call that is first run
after its operation is gone fails, or is one of an operation that was registered later.

None of what can be asked takes any time (`Deployment.sameTime_step`). And whatever it does to the
registry it does step by step (`Deployment.step_keeps`), so that what is gone stays gone
(`Deployment.precedes_run`).
-/

namespace Switchboard

open Registry

/-! ## Names without and with an operation -/

namespace Registry

variable {r : Registry} {method : String} {op : Operation} {x : Registration} {h : Handle}

/-- **A call of the method that is first run now fails,** whatever else goes on in the server. It
leaves everything as it was but for its look. -/
structure Misses (r : Registry) (method : String) : Prop where
  /-- It does if it was made before, and is begun, -/
  begun : ∀ (s : Server) (f : Flight) params, s.registry = r → f.task = dispatch method params →
    f.start s.see s.clock = (.inl (.error (.unknownOperation method)), s.clock.looked)
  /-- or run to its end, -/
  finished : ∀ (s : Server) (f : Flight) params, s.registry = r →
    f.task = dispatch method params → f.wakesAt ≤ s.clock.now →
    f.finish s.see s.clock = (.error (.unknownOperation method), s.clock.looked)
  /-- and if it is let in only now, and is begun, -/
  letIn : ∀ (s : Server) guards timeout params, s.registry = r → s.LetsIn guards →
    s.beginCall guards timeout method params =
      (.inl (.error (.unknownOperation method)), { s with clock := s.clock.looked })
  /-- or run to its end. -/
  called : ∀ (s : Server) guards timeout params, s.registry = r → s.LetsIn guards →
    s.guardedCall guards timeout method params =
      (.error (.unknownOperation method), { s with clock := s.clock.looked })

/-- **A call of the method that is first run now is one of this operation,** whenever it was
made. -/
structure Finds (r : Registry) (method : String) (op : Operation) : Prop where
  begun : ∀ (s : Server) (f : Flight) params, s.registry = r → f.task = dispatch method params →
    f.start s.see s.clock =
      Flight.start s.see s.clock.looked { f with task := op.invocation params }
  finished : ∀ (s : Server) (f : Flight) params, s.registry = r →
    f.task = dispatch method params → f.wakesAt ≤ s.clock.now →
    f.finish s.see s.clock =
      Flight.finish s.see s.clock.looked { f with task := op.invocation params }

theorem misses_of_missing (hnone : r.lookup? method = none) : r.Misses method := by
  have hmissing {s : Server} (hs : s.registry = r) :
      (s.see s.clock.looks).registry.lookup? method = none := by
    rw [Server.see, hs]
    exact hnone
  exact
    { begun := fun s f params hs hf => Flight.start_of_missing hf (hmissing hs)
      finished := fun s f params hs hf hdue => Flight.finish_of_missing hf (hmissing hs) hdue
      letIn := fun s guards timeout params hs hin =>
        Server.beginCall_of_letsIn_over hin (Flight.start_of_missing rfl (hmissing hs))
      called := fun s guards timeout params hs hin =>
        Server.guardedCall_of_letsIn hin timeout method params
          (Flight.finish_of_missing rfl (hmissing hs) (Nat.zero_le _)) }

theorem finds_of_found (hop : r.lookup? method = some op) : r.Finds method op := by
  have hfound {s : Server} (hs : s.registry = r) :
      (s.see s.clock.looks).registry.lookup? method = some op := by
    rw [Server.see, hs]
    exact hop
  exact
    { begun := fun s f params hs hf => Flight.start_of_found hf (hfound hs)
      finished := fun s f params hs hf hdue => Flight.finish_of_found hf (hfound hs) hdue }

/-- What a handle was issued for is gone when that is removed, and its name is free. -/
theorem WellFormed.not_mem_remove (w : r.WellFormed) (hx : x ∈ r.registrations)
    (hh : Handle.issuedFor h x = true) :
    x ∉ (r.remove h).registrations ∧ (r.remove h).lookup? x.operation.name = none := by
  have hgone : x ∉ (r.remove h).registrations := by
    intro hmem
    rw [(mem_remove.1 hmem).2] at hh
    cases hh
  refine ⟨hgone, lookup?_eq_none fun hc => ?_⟩
  obtain ⟨op, hop, hname⟩ := contains_iff.1 hc
  obtain ⟨y, hy, rfl⟩ := mem_operations.1 hop
  exact hgone (w.eq_of_name (mem_remove.1 hy).1 hx hname ▸ hy)

/-- **Once a registration is gone, its name has no operation, or one that was registered later.** -/
theorem Precedes.misses_or_finds {r' : Registry} (h : r.Precedes r') (w : r.WellFormed)
    (hx : x ∈ r.registrations) (hgone : x ∉ r'.registrations) :
    r'.Misses x.operation.name ∨ ∃ y ∈ r'.registrations, y.operation.name = x.operation.name ∧
      r.nextSerial ≤ y.serial ∧ r'.Finds x.operation.name y.operation := by
  cases hop : r'.lookup? x.operation.name with
  | none => exact .inl (misses_of_missing hop)
  | some op =>
    obtain ⟨y, hy, rfl⟩ := mem_operations.1 (mem_of_lookup? hop)
    have hname := name_of_lookup? hop
    refine .inr ⟨y, hy, hname, (h.old_or_new y hy).resolve_left fun hold => ?_, finds_of_found hop⟩
    exact hgone (w.eq_of_name hold hx hname ▸ hy)

end Registry

/-! ## What is asked of a server -/

namespace Server

/-- A start loads the text of a file, or leaves everything as it is. -/
theorem start_snd_cases (s : Server) :
    s.start.2 = s ∨ ∃ text, s.start.2 = (s.load text).2 := by
  have hstart : s.start.2 = s.loadFile.2 := by
    rw [start, services, Service.startAll, customOperations]
    dsimp only
    obtain ⟨_ | _, s'⟩ := s.loadFile <;> rfl
  rw [hstart, loadFile]
  cases s.settings.definitions with
  | absent => exact .inl rfl
  | unreadable path reason => exact .inl rfl
  | found path content =>
    dsimp only
    cases Text.ofBytes? content with
    | none => exact .inl rfl
    | some text => exact .inr ⟨text, rfl⟩

end Server

namespace Deployment

variable {d d' : Deployment} {x : Registration} {h : Handle} {i : Nat}

/-- None of it takes any time, nor any random bits. -/
theorem sameTime_step (d : Deployment) (c : Call) : (d.step c).server.SameTime d.server := by
  cases c with
  | start =>
    rw [step]
    rcases d.server.start_snd_cases with hsame | ⟨text, hload⟩
    · rw [hsame]
      exact ⟨rfl, rfl⟩
    · rw [hload]
      exact ⟨rfl, rfl⟩
  | _ => exact ⟨rfl, rfl⟩

section Keeps

variable {P : Registry → Prop}

/-- **What every step with a registry keeps, whatever is asked of the server keeps.** -/
theorem step_keeps (hP : ∀ r r', Step r r' → P r → P r') (c : Call) (hd : P d.registry) :
    P (d.step c).registry := by
  cases c with
  | client c => exact hP _ _ (d.session.step_registry c) hd
  | load text => exact Loader.load_keeps hP d.loader text hd
  | teardown => exact Loader.revokeAll_keeps hP d.loader.handles hd
  | start =>
    rw [step, registry]
    rcases d.server.start_snd_cases with hsame | ⟨text, hload⟩
    · rw [hsame]
      exact hd
    · rw [hload]
      exact Loader.load_keeps hP d.loader text hd
  | shutdown terminate => exact Loader.revokeAll_keeps hP d.loader.handles hd
  | edit file => exact hd

theorem run_keeps (hP : ∀ r r', Step r r' → P r → P r') (calls : List Call) (hd : P d.registry) :
    P (d.run calls).registry := by
  induction calls generalizing d with
  | nil => exact hd
  | cons c rest ih => exact ih (step_keeps hP c hd)

end Keeps

theorem precedes_run (d : Deployment) (calls : List Call) :
    d.registry.Precedes (d.run calls).registry :=
  run_keeps (fun _ _ hs h => h.step hs) calls (.refl _)

/-- **Revoking by a handle that has not been used** removes what it was issued for. -/
theorem registry_of_revoke (hh : d.handles[i]? = some h) (hfresh : h.revoked = false) :
    (d.step (.client (.revoke i))).registry = d.registry.remove h := by
  have hsession : d.session.handles[i]? = some h := hh
  rw [step, registry, Session.step, Session.call_revoke hsession, revoke_of_fresh hfresh]
  rfl

/-- A name that is free can be registered, and its operation is found then. -/
theorem finds_of_register {op : Operation} (w : d.registry.WellFormed)
    (hfree : d.registry.lookup? op.name = none) :
    (d.step (.client (.register op))).registry.Finds op.name op := by
  have hcontains : d.registry.contains op.name = false := by
    rw [contains, hfree]
    rfl
  have hadd : (d.step (.client (.register op))).registry = d.registry.add op := by
    rw [step, registry, Session.step, Session.call_register_of_free hcontains]
    rfl
  rw [hadd]
  refine finds_of_found (lookup?_of_mem (w.add hcontains).distinct ?_)
  rw [add_operations]
  exact List.mem_append_right _ List.mem_cons_self

/-! ## While a call is under way -/

/-- What can happen meanwhile: something is asked of the server, or time passes. -/
inductive Event where
  | asked (c : Call)
  | elapsed (milliseconds : Nat)

/-- Time passes. -/
def Event.isElapsed : Event → Bool
  | .asked _ => false
  | .elapsed _ => true

/-- The server after one more event. -/
def happen (d : Deployment) : Event → Deployment
  | .asked c => d.step c
  | .elapsed ms => { d with server := d.server.advance ms }

/-- The server after some more events. -/
def after (d : Deployment) (events : List Event) : Deployment := events.foldl happen d

/-- **What comes of a call that is awaited after some events,** and when. -/
def awaited (d : Deployment) (events : List Event) (f : Flight) :
    Except CallError Json × Task.Clock :=
  (((d.after events).server.awaitCall f).1, ((d.after events).server.awaitCall f).2.clock)

/-- Of what happens, it is the time that passes that makes it later. -/
theorem sameTime_after (h : d.server.SameTime d'.server) (events : List Event) :
    (d.after events).server.SameTime (d'.after (events.filter Event.isElapsed)).server := by
  induction events generalizing d d' with
  | nil => exact h
  | cons event rest ih =>
    cases event with
    | asked c =>
      have hstep := d.sameTime_step c
      exact ih ⟨hstep.clock.trans h.clock, hstep.randomBits.trans h.randomBits⟩
    | elapsed ms =>
      refine ih ⟨?_, h.randomBits⟩
      exact congrArg (Task.Clock.after · ms) h.clock

/-- Nobody looks meanwhile, and the random bits stay as they are. -/
theorem looks_happen (d : Deployment) (event : Event) :
    (d.happen event).server.clock.looks = d.server.clock.looks ∧
      (d.happen event).server.randomBits = d.server.randomBits := by
  cases event with
  | asked c =>
    have hstep := d.sameTime_step c
    exact ⟨congrArg Task.Clock.looks hstep.clock, hstep.randomBits⟩
  | elapsed ms => exact ⟨rfl, rfl⟩

theorem looks_after (d : Deployment) (events : List Event) :
    (d.after events).server.clock.looks = d.server.clock.looks ∧
      (d.after events).server.randomBits = d.server.randomBits := by
  induction events generalizing d with
  | nil => exact ⟨rfl, rfl⟩
  | cons event rest ih =>
    obtain ⟨hlooks, hbits⟩ := ih (d.happen event)
    exact ⟨hlooks.trans (d.looks_happen event).1, hbits.trans (d.looks_happen event).2⟩

theorem awaited_eq (d : Deployment) (events : List Event) (f : Flight) :
    d.awaited events f =
      f.finish (d.after events).server.see (d.after events).server.clock := rfl

/-- **A call that sees random bits only ends as if time had passed and nothing been asked.** -/
theorem awaited_eq_of_seesOnly {f : Flight} (hf : f.task.SeesOnly Moment.entropy)
    (d : Deployment) (events : List Event) :
    d.awaited events f = d.awaited (events.filter Event.isElapsed) f := by
  rw [awaited_eq, awaited_eq]
  exact (sameTime_after ⟨rfl, rfl⟩ events).finish_eq hf

/-- **It completes as it would have at once,** or its time is up. -/
theorem awaited_of_beginCall {s s' : Server} {guards : Guards} {timeout : Nat} {method : String}
    {params : Json} {f : Flight} (h : s.beginCall guards timeout method params = (.inr f, s'))
    (hf : f.task.SeesOnly Moment.entropy) (handles : List Handle) (events : List Event) :
    (awaited ⟨s', handles⟩ events f).1 = (s.run (dispatch method params)).1 ∨
      guards.timeLimit = true ∧
        (awaited ⟨s', handles⟩ events f).1 = .error (.timedOut timeout) := by
  obtain ⟨-, -, -, -, hs'⟩ := Server.exists_of_beginCall_waits h
  obtain ⟨hlooks, hbits⟩ := looks_after ⟨s', handles⟩ events
  have hsame : s'.randomBits = s.randomBits := by rw [hs']
  rw [awaited_eq]
  exact Server.finish_of_beginCall h hf hlooks (hbits.trans hsame)

/-! ## The laws of isolation -/

/-- **How calls and changes of the registry get past each other,** where a server has got to some
state. -/
structure IsolationLaws (settings : Settings) (d : Deployment) : Prop where
  /-- Built-in operations need nothing of the registry once they have been found, except for the one
  that publishes the catalog. -/
  builtIn : ∀ op ∈ Deployment.standard settings, op.name ≠ "openrpc" → op.SelfContained
  /-- Nor does other code, -/
  code : ∀ (op : Operation) run, op.handler = .native run → op.SelfContained
  /-- nor does an expression in which no call is written. -/
  callless : ∀ (op : Operation) logic reach, op.handler = .expression logic reach →
    (∀ method, ¬ logic.WritesCall method) → op.SelfContained
  /-- A call that has found such an operation runs the same however the registry changes from look
  to look after that. -/
  run : ∀ see see' c method op payload, (see c.looks).registry.lookup? method = some op →
    (see' c.looks).registry.lookup? method = some op → op.SelfContained →
    (∀ i, (see i).entropy = (see' i).entropy) →
    Task.run see c (dispatch method payload) = Task.run see' c (dispatch method payload)
  /-- **Once it has been begun, on whatever server, and waits, all that is asked of the server
  before the call is awaited makes no difference to what comes of it, and when.** -/
  begun : ∀ (s : Server) guards timeout method params op f s',
    s.registry.lookup? method = some op → op.SelfContained →
    s.beginCall guards timeout method params = (.inr f, s') → ∀ handles events,
    awaited ⟨s', handles⟩ events f = awaited ⟨s', handles⟩ (events.filter Event.isElapsed) f
  /-- It still completes, with what it would have come to at once, unless its time is up. -/
  completes : ∀ (s : Server) guards timeout method params op f s',
    s.registry.lookup? method = some op → op.SelfContained →
    s.beginCall guards timeout method params = (.inr f, s') → ∀ handles events,
    (awaited ⟨s', handles⟩ events f).1 = (s.run (dispatch method params)).1 ∨
      guards.timeLimit = true ∧ (awaited ⟨s', handles⟩ events f).1 = .error (.timedOut timeout)
  /-- After the first use of its handle a registration is gone, and calls that are first run then
  fail, -/
  revoked : ∀ i h x, d.handles[i]? = some h → h.revoked = false →
    x ∈ d.registry.registrations → Handle.issuedFor h x = true →
    x ∉ (d.step (.client (.revoke i))).registry.registrations ∧
      (d.step (.client (.revoke i))).registry.Misses x.operation.name
  /-- unless the name has been registered again: then they are calls of that operation. -/
  renewed : ∀ i h x op, d.handles[i]? = some h → h.revoked = false →
    x ∈ d.registry.registrations → Handle.issuedFor h x = true →
    op.name = x.operation.name →
    ((d.step (.client (.revoke i))).step (.client (.register op))).registry.Finds op.name op
  /-- They fail after a teardown or a shutdown, if it was installed. -/
  torn_down : ∀ h ∈ d.loader.handles, (d.step .teardown).registry.Misses h.name ∧
    ∀ terminate, (d.step (.shutdown terminate)).registry.Misses h.name
  /-- However a registration has come to be gone, it stays so. Whenever a call of its name is first
  run from then on, the call fails, or is one of an operation that has been registered since. -/
  gone : ∀ calls later x, x ∈ d.registry.registrations →
    x ∉ (d.run calls).registry.registrations →
    x ∉ ((d.run calls).run later).registry.registrations ∧
      (((d.run calls).run later).registry.Misses x.operation.name ∨
        ∃ y ∈ ((d.run calls).run later).registry.registrations,
          y.operation.name = x.operation.name ∧ d.registry.nextSerial ≤ y.serial ∧
            ((d.run calls).run later).registry.Finds x.operation.name y.operation)

theorem selfContained_of_standard {settings : Settings} {op : Operation}
    (hop : op ∈ Deployment.standard settings) (hname : op.name ≠ "openrpc") :
    op.SelfContained := by
  rw [Deployment.standard, List.mem_append, List.mem_singleton] at hop
  rcases hop with hop | rfl
  · simp only [Toolbox.operations, Toolbox.encodingOperations, Toolbox.textOperations,
      Toolbox.formatterOperations, Toolbox.generatorOperations, Toolbox.securityOperations,
      List.cons_append, List.nil_append, List.mem_cons, List.not_mem_nil, or_false] at hop
    rcases hop with rfl | rfl | rfl | rfl | rfl | rfl | rfl | rfl | rfl | rfl
    all_goals exact Operation.selfContained_of_code rfl
  · exact absurd rfl hname

/-- What is installed is found no more after a teardown. -/
theorem Accounted.misses_of_teardown {std ops : List Operation} (h : Accounted std d ops)
    {k : Handle} (hk : k ∈ d.loader.handles) : (d.step .teardown).registry.Misses k.name := by
  obtain ⟨ys, rfl, hhandles, -⟩ := h.custom
  rw [hhandles] at hk
  obtain ⟨y, hy, rfl⟩ := List.mem_map.1 hk
  refine misses_of_missing (lookup?_eq_none fun hc => ?_)
  rw [Deployment.step, registry, h.teardown_eq] at hc
  obtain ⟨op, hop, hname⟩ := contains_iff.1 hc
  rw [operations_without, List.mem_filter, decide_eq_true_iff, List.map_map] at hop
  exact hop.2 (hname ▸ List.mem_map_of_mem hy)

/-- **Calls are isolated from changes of the registry,** on every server and in every state that it
can get to. -/
theorem isolationLaws (settings : Settings) (randomBits : Nat → Nat) (before : List Call) :
    IsolationLaws settings ((new settings randomBits).run before) := by
  have haccount := (Accounted.start settings randomBits).run before
  generalize (new settings randomBits).run before = d at haccount
  have w : d.registry.WellFormed := haccount.sound.wellFormed
  refine
    { builtIn := fun op hop hname => selfContained_of_standard hop hname
      code := fun op run hrun => Operation.selfContained_of_code hrun
      callless := fun op logic reach hlogic hnone =>
        Operation.selfContained_of_unwritten hlogic hnone
      run := fun see see' c method op payload hop hop' hself hsee =>
        hself.run_dispatch_eq hop hop' hsee payload
      begun := fun s guards timeout method params op f s' hop hself hbegin handles events =>
        awaited_eq_of_seesOnly (Server.seesOnly_of_beginCall hbegin hop hself) ⟨s', handles⟩ events
      completes := fun s guards timeout method params op f s' hop hself hbegin handles events =>
        awaited_of_beginCall hbegin (Server.seesOnly_of_beginCall hbegin hop hself) handles events
      revoked := fun i h x hh hfresh hx hissued => ?_
      renewed := fun i h x op hh hfresh hx hissued hname => ?_
      torn_down := fun h hh => ⟨haccount.misses_of_teardown hh,
        fun terminate => haccount.misses_of_teardown hh⟩
      gone := fun calls later x hx hgone => ?_ }
  · obtain ⟨hgone, hfree⟩ := w.not_mem_remove hx hissued
    rw [registry_of_revoke hh hfresh]
    exact ⟨hgone, misses_of_missing hfree⟩
  · obtain ⟨-, hfree⟩ := w.not_mem_remove hx hissued
    rw [← hname] at hfree
    have hremoved := registry_of_revoke hh hfresh
    exact finds_of_register (hremoved ▸ w.remove) (hremoved ▸ hfree)
  · have hprecedes := d.precedes_run calls
    have hold : x.serial < (d.run calls).registry.nextSerial :=
      Nat.lt_of_lt_of_le (w.below x hx) hprecedes.nextSerial_le
    have hstill := ((d.run calls).precedes_run later).not_mem hgone hold
    have hall : d.registry.Precedes ((d.run calls).run later).registry :=
      run_keeps (fun _ _ hs h => h.step hs) later hprecedes
    exact ⟨hstill, hall.misses_or_finds w hx hstill⟩

end Deployment

end Switchboard
