import Switchboard.Proofs.Dispatch.Isolation
import Switchboard.Proofs.Traffic.Transparency
/-!
# Calls that are pending

A call that has been made has not looked yet. When it is first run, or awaited at once, it goes on
as the invocation of what it finds (`Flight.start_of_found`, `Flight.finish_of_found`).

A call that waits after its first run is what is left of its task, with the time that it may take
(`exists_of_beginCall_waits`). If it has found an operation that needs nothing of the registry, then
it sees nothing of the registry any more (`SelfContained.seesOnly_of_beginCall`). So how and when it
ends depends on the clock and the random bits of the server it is awaited on, and on nothing else of
it (`SameTime.finish_eq`), and it comes to what it would have come to if it had not been interrupted
(`finish_of_beginCall`).
-/

namespace Switchboard

namespace Flight

variable {see see' : Nat → Moment} {c : Task.Clock} {f : Flight} {method : String}
variable {params : Json} {op : Operation}

/-! ## From the first look on -/

theorem rest_of_due (hf : f.task = dispatch method params) (hdue : f.wakesAt ≤ c.now) :
    f.rest c = .sleep 0 (dispatch method params) := by
  rw [rest, hf, Nat.sub_eq_zero_of_le hdue]

/-- A call by name goes on as the invocation of what it has found, -/
theorem start_of_found (hf : f.task = dispatch method params)
    (hop : (see c.looks).registry.lookup? method = some op) :
    start see c f = start see c.looked { f with task := op.invocation params } := by
  rw [start, hf, poll_dispatch_of_found hop]
  rfl

/-- also if it is run to its end at once. -/
theorem finish_of_found (hf : f.task = dispatch method params)
    (hop : (see c.looks).registry.lookup? method = some op) (hdue : f.wakesAt ≤ c.now) :
    finish see c f = finish see c.looked { f with task := op.invocation params } := by
  generalize hg : { f with task := op.invocation params } = g
  have hallowance : g.allowance = f.allowance := hg ▸ rfl
  have hends (ms : Nat) : g.endsBy c.looked ms = f.endsBy c ms := hg ▸ rfl
  have hrest : g.rest c.looked = .sleep 0 (op.invocation params) := by
    rw [rest, ← hg]
    exact congrArg (Task.sleep · (op.invocation params)) (Nat.sub_eq_zero_of_le hdue)
  cases hms : f.allowance with
  | none =>
    rw [finish_of_unlimited hms, finish_of_unlimited (hallowance.trans hms), rest_of_due hf hdue,
      hrest]
    exact run_dispatch_of_found hop params
  | some ms =>
    rw [finish_of_limited hms rfl, finish_of_limited (hallowance.trans hms) rfl,
      rest_of_due hf hdue, hrest, hends, Task.runUntil, Task.runUntil,
      runUntil_dispatch_of_found hop]

/-- One that finds nothing fails as soon as it looks. -/
theorem start_of_missing (hf : f.task = dispatch method params)
    (hnone : (see c.looks).registry.lookup? method = none) :
    start see c f = (.inl (.error (.unknownOperation method)), c.looked) := by
  refine start_of_finished ?_
  rw [hf]
  exact poll_dispatch_of_missing hnone params

theorem finish_of_missing (hf : f.task = dispatch method params)
    (hnone : (see c.looks).registry.lookup? method = none) (hdue : f.wakesAt ≤ c.now) :
    finish see c f = (.error (.unknownOperation method), c.looked) := by
  have halone : finish see c f.alone = (.error (.unknownOperation method), c.looked) := by
    rw [finish_alone, rest_of_due hf hdue]
    exact run_dispatch_of_missing hnone params
  rw [finish_of_le, halone]
  intro ms _
  rw [halone]
  exact Nat.le_max_left _ _

/-! ## Awaited later -/

theorem seesOnly_rest (hf : f.task.SeesOnly Moment.entropy) (c : Task.Clock) :
    (f.rest c).SeesOnly Moment.entropy :=
  hf.sleep _

/-- A call whose task sees random bits only ends alike wherever these are the same. -/
theorem finish_congr (hf : f.task.SeesOnly Moment.entropy)
    (hsee : ∀ i, (see i).entropy = (see' i).entropy) (c : Task.Clock) :
    finish see c f = finish see' c f := by
  have hrest := seesOnly_rest hf c
  cases hms : f.allowance with
  | none => rw [finish_of_unlimited hms, finish_of_unlimited hms, hrest.run_congr hsee]
  | some ms =>
    rw [finish_of_limited hms rfl, finish_of_limited hms rfl, hrest.runUntil_congr hsee]

end Flight

namespace Server

variable {s s' later : Server} {guards : Guards} {timeout : Nat} {method : String}
variable {params : Json} {f : Flight} {op : Operation}

/-- **A call that waits after its first run:** its task asleep, and the time that it may take
counted from its start. -/
theorem exists_of_beginCall_waits
    (h : s.beginCall guards timeout method params = (.inr f, s')) :
    ∃ ms, Task.poll s.see s.clock (dispatch method params) = (.asleep ms f.task, s'.clock) ∧
      f.wakesAt = s'.clock.now + ms ∧
      f.allowance = (if guards.timeLimit then some timeout else none) ∧
      s' = { s with admission := s.taken guards, clock := s'.clock } := by
  by_cases hin : s.LetsIn guards
  · cases hpoll : Task.poll s.see s.clock (dispatch method params) with
    | mk progress clock =>
      cases progress with
      | finished outcome =>
        rw [beginCall_of_letsIn_over hin (Flight.start_of_finished hpoll)] at h
        cases h
      | asleep ms next =>
        by_cases h0 : (Flight.guarded guards timeout (dispatch method params)).allowance = some 0
        · rw [beginCall_of_letsIn_over hin (Flight.start_of_timeless hpoll h0)] at h
          cases h
        · rw [beginCall_of_waits (makeCall_of_letsIn hin timeout method params)
            (Flight.start_of_asleep hpoll h0)] at h
          cases h
          exact ⟨ms, rfl, rfl, rfl, rfl⟩
  · rw [beginCall_of_full hin] at h
    cases h

/-- **What is left of a call sees random bits only,** if it has found an operation that needs
nothing of the registry. -/
theorem seesOnly_of_beginCall (h : s.beginCall guards timeout method params = (.inr f, s'))
    (hop : s.registry.lookup? method = some op) (hself : op.SelfContained) :
    f.task.SeesOnly Moment.entropy := by
  obtain ⟨ms, hpoll, -⟩ := exists_of_beginCall_waits h
  rw [poll_dispatch_of_found hop] at hpoll
  exact (hself.seesOnly_invocation params).of_poll hpoll

/-- It is the same time on both servers, and they have the same random bits in store. -/
structure SameTime (s s' : Server) : Prop where
  clock : s.clock = s'.clock
  randomBits : s.randomBits = s'.randomBits

/-- Such a call ends alike on both. -/
theorem SameTime.finish_eq (h : SameTime s s') (hf : f.task.SeesOnly Moment.entropy) :
    f.finish s.see s.clock = f.finish s'.see s'.clock := by
  have hsee (i : Nat) : (s.see i).entropy = (s'.see i).entropy := by rw [see, see, h.randomBits]
  rw [h.clock]
  exact Flight.finish_congr hf hsee s'.clock

/-- **It comes to what its operation would have come to at once,** however much later it is awaited,
or to the end of its time. -/
theorem finish_of_beginCall (h : s.beginCall guards timeout method params = (.inr f, s'))
    (hf : f.task.SeesOnly Moment.entropy) (hlooks : later.clock.looks = s'.clock.looks)
    (hbits : later.randomBits = s.randomBits) :
    (f.finish later.see later.clock).1 = (s.run (dispatch method params)).1 ∨
      guards.timeLimit = true ∧
        (f.finish later.see later.clock).1 = .error (.timedOut timeout) := by
  obtain ⟨ms, hpoll, -, hallowance, -⟩ := exists_of_beginCall_waits h
  have hsee (i : Nat) : (later.see i).entropy = (s.see i).entropy := by rw [see, see, hbits]
  by_cases htime : ∀ ms, f.allowance = some ms →
      (Flight.finish later.see later.clock f.alone).2.now ≤
        max later.clock.now (f.endsBy later.clock ms)
  · left
    -- the sleep that is left makes no difference to the result, only to when it is there
    have hrest : ((f.rest later.clock).run s.see later.clock).1 =
        (f.task.run s.see (s'.clock.after ms)).1 :=
      Task.run_fst_eq (fun j => by rw [Task.Clock.after, Task.Clock.after, hlooks]) f.task
    rw [Flight.finish_of_le htime, Flight.finish_alone,
      (Flight.seesOnly_rest hf later.clock).run_congr hsee, hrest, run,
      (Task.run_of_poll_asleep hpoll).1]
  · right
    obtain ⟨limit, hlimit⟩ := not_forall.1 htime
    obtain ⟨hms, hlate⟩ := Classical.not_imp.1 hlimit
    rw [(Flight.finish_of_lt hms (Nat.lt_of_not_le hlate)).1]
    rw [hallowance] at hms
    split at hms
    · next hlimited =>
      cases hms
      exact ⟨hlimited, rfl⟩
    · cases hms

end Server

end Switchboard
