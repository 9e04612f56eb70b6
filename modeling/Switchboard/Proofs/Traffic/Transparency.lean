import Switchboard.Proofs.Task.Deadline
import Switchboard.Proofs.Traffic.Flight
/-!
# Guards are transparent

What the guards between a caller and an operation make of its outcome
(`transparencyLaws`). A call that is let in and done in time is its operation and nothing
else: the outcome, and all that it leaves of the server, are those of the dispatch alone.
Otherwise it is turned away with nothing run, or given up when its time is up. That holds of each
guard on its own and of both together, whether a call is run to its end at once
or polled first and awaited later.

What is compared is a call behind guards with the same call behind none (`Flight.alone`,
`Guards.bare`), run in the same way.
-/

namespace Switchboard

/-- No guard: nothing stands between the caller and the operation. -/
def Guards.bare : Guards := ⟨false, false⟩

namespace Flight

variable {see : Nat → Moment} {c c' : Task.Clock} {f f₀ : Flight} {a : Admission}
variable {guards : Guards} {timeout ms : Nat} {task : CallTask}
variable {outcome : Except CallError Json} {next : CallTask}

/-- The same call behind no guards. -/
def alone (f : Flight) : Flight := { f with holdsPermit := false, allowance := none }

/-- A task that nothing guards, before it runs. -/
def unguarded (task : CallTask) : Flight where
  holdsPermit := false
  allowance := none
  task := task

/-- A task that guards let in, before it runs. -/
def guarded (guards : Guards) (timeout : Nat) (task : CallTask) : Flight where
  holdsPermit := guards.admission
  allowance := if guards.timeLimit then some timeout else none
  task := task

theorem allowance_alone_ne (f : Flight) : f.alone.allowance ≠ some 0 := (Option.some_ne_none 0).symm

theorem alone_guarded (guards : Guards) (timeout : Nat) (task : CallTask) :
    (guarded guards timeout task).alone = unguarded task := rfl

/-! ## At its end -/

/-- What is left of a call, from the clock on. -/
def rest (f : Flight) (c : Task.Clock) : CallTask := .sleep (f.wakesAt - c.now) f.task

theorem finish_of_unlimited (h : f.allowance = none) : finish see c f = (f.rest c).run see c := by
  rw [finish, deadline?, h]
  rfl

/-- Alone a call runs to the end of what is left of it. -/
theorem finish_alone (see : Nat → Moment) (c : Task.Clock) (f : Flight) :
    finish see c f.alone = (f.rest c).run see c :=
  finish_of_unlimited rfl

theorem finish_unguarded (see : Nat → Moment) (c : Task.Clock) (task : CallTask) :
    finish see c (unguarded task) = task.run see c := by
  have hrest : (unguarded task).rest c = .sleep 0 task := by
    rw [rest, unguarded, Nat.zero_sub]
  rw [finish_of_unlimited rfl, hrest]
  rfl

/-- When the time of a call is up. -/
def endsBy (f : Flight) (c : Task.Clock) (ms : Nat) : Nat := f.startedAt.getD c.now + ms

theorem finish_of_limited {result : Option (Except CallError Json)} (hms : f.allowance = some ms)
    (h : (f.rest c).runUntil (f.endsBy c ms) see c = (result, c')) :
    finish see c f = (result.getD (.error (.timedOut ms)), c') := by
  rw [rest, endsBy] at h
  rw [finish, deadline?, hms, Option.map_some]
  dsimp only
  rw [h]
  cases result <;> rfl

/-- **A call that is done in time ends as it would alone.** -/
theorem finish_of_le (h : ∀ ms, f.allowance = some ms →
    (finish see c f.alone).2.now ≤ max c.now (f.endsBy c ms)) :
    finish see c f = finish see c f.alone := by
  rw [finish_alone] at h ⊢
  cases hms : f.allowance with
  | none => exact finish_of_unlimited hms
  | some ms => exact finish_of_limited hms (Task.runUntil_of_le (h ms hms))

/-- **One that is not is given up when its time is up.** -/
theorem finish_of_lt (hms : f.allowance = some ms)
    (h : max c.now (f.endsBy c ms) < (finish see c f.alone).2.now) :
    (finish see c f).1 = .error (.timedOut ms) ∧
      (finish see c f).2.now = max c.now (f.endsBy c ms) := by
  rw [finish_alone] at h
  obtain ⟨hresult, hnow⟩ := Task.runUntil_of_lt h
  rw [finish_of_limited hms rfl, hresult]
  exact ⟨rfl, hnow⟩

/-! ## After its first run -/

theorem start_of_finished (h : f.task.poll see c = (.finished outcome, c')) :
    start see c f = (.inl outcome, c') := by
  rw [start, h]

theorem start_of_timeless (h : f.task.poll see c = (.asleep ms next, c'))
    (h0 : f.allowance = some 0) : start see c f = (.inl (.error (.timedOut 0)), c') := by
  rw [start, h]
  dsimp only
  rw [h0]
  rfl

theorem start_of_asleep (h : f.task.poll see c = (.asleep ms next, c'))
    (h0 : f.allowance ≠ some 0) :
    start see c f =
      (.inr { f with startedAt := some c'.now, wakesAt := c'.now + ms, task := next }, c') := by
  rw [start, h]
  dsimp only
  split
  · next hzero => exact absurd hzero h0
  · rfl

/-- Where the first run of a call is over alone, its task is done, -/
theorem poll_of_alone_over (h : start see c f.alone = (.inl outcome, c')) :
    f.task.poll see c = (.finished outcome, c') := by
  cases hpoll : f.task.poll see c with
  | mk progress clock =>
    cases progress with
    | finished result =>
      rw [start_of_finished (f := f.alone) hpoll] at h
      cases h
      rfl
    | asleep ms next =>
      rw [start_of_asleep (f := f.alone) hpoll (allowance_alone_ne f)] at h
      cases h

/-- and where the call waits, its task sleeps. -/
theorem poll_of_alone_waits (h : start see c f.alone = (.inr f₀, c')) :
    ∃ ms next, f.task.poll see c = (.asleep ms next, c') ∧
      f₀ = { f.alone with startedAt := some c'.now, wakesAt := c'.now + ms, task := next } := by
  cases hpoll : f.task.poll see c with
  | mk progress clock =>
    cases progress with
    | finished result =>
      rw [start_of_finished (f := f.alone) hpoll] at h
      cases h
    | asleep ms next =>
      rw [start_of_asleep (f := f.alone) hpoll (allowance_alone_ne f)] at h
      cases h
      exact ⟨ms, next, rfl, rfl⟩

/-- **The first run of a call goes as it would alone:** it is over, -/
theorem start_of_alone_over (h : start see c f.alone = (.inl outcome, c')) :
    start see c f = (.inl outcome, c') :=
  start_of_finished (poll_of_alone_over h)

/-- or it waits, unless there is no time to, -/
theorem start_of_alone_waits (h : start see c f.alone = (.inr f₀, c'))
    (h0 : f.allowance ≠ some 0) :
    ∃ f', start see c f = (.inr f', c') ∧ f'.alone = f₀ ∧ f'.allowance = f.allowance ∧
      f'.startedAt = some c.now := by
  obtain ⟨ms, next, hpoll, rfl⟩ := poll_of_alone_waits h
  have hnow := (Task.run_of_poll_asleep hpoll).2.1
  exact ⟨_, start_of_asleep hpoll h0, rfl, rfl, congrArg some hnow⟩

/-- and then it is over at once. -/
theorem start_of_alone_waits_of_timeless (h : start see c f.alone = (.inr f₀, c'))
    (h0 : f.allowance = some 0) : start see c f = (.inl (.error (.timedOut 0)), c') := by
  obtain ⟨ms, next, hpoll, -⟩ := poll_of_alone_waits h
  exact start_of_timeless hpoll h0

end Flight

namespace Server

variable {s s' : Server} {guards : Guards} {timeout : Nat} {method : String} {params : Json}
variable {f f₀ : Flight} {outcome : Except CallError Json}

/-! ## Letting in -/

/-- The guards let a call in: it needs no permit, or there is one. -/
def LetsIn (s : Server) (guards : Guards) : Prop :=
  guards.admission = true → 0 < s.admission.available

/-- The permits after a call has been let in. -/
def taken (s : Server) (guards : Guards) : Admission :=
  if guards.admission then s.admission.take.2 else s.admission

theorem letsIn_bare (s : Server) : s.LetsIn .bare := fun h => absurd h Bool.false_ne_true

theorem makeCall_of_letsIn (h : s.LetsIn guards) (timeout : Nat) (method : String) (params : Json) :
    s.makeCall guards timeout method params =
      (.guarded guards timeout (dispatch method params),
        { s with admission := s.taken guards }) := by
  obtain ⟨admission, timeLimit⟩ := guards
  cases admission with
  | true =>
    rw [makeCall, Flight.make_of_free (h rfl)]
    rfl
  | false => rfl

/-- The server after it has turned a call away. -/
def afterRefusal (s : Server) : Server :=
  { s with admission := { s.admission with rejected := s.admission.rejected + 1 } }

theorem makeCall_of_full (h : ¬ s.LetsIn guards) (timeout : Nat) (method : String) (params : Json) :
    s.makeCall guards timeout method params = (.turnedAway, s.afterRefusal) := by
  obtain ⟨admission, timeLimit⟩ := guards
  cases admission with
  | true =>
    have hfull : s.admission.available = 0 := by
      by_contra hfree
      exact h fun _ => Nat.pos_of_ne_zero hfree
    rw [makeCall, Flight.make_of_full hfull, Admission.take_eq_of_full hfull]
    rfl
  | false => exact absurd (fun hneeds => absurd hneeds Bool.false_ne_true) h

/-- A call that was let in leaves the permits as they were. -/
theorem giveBack_taken (h : s.LetsIn guards) (hf : f.holdsPermit = guards.admission) :
    f.giveBack (s.taken guards) = s.admission := by
  rw [Flight.giveBack, hf, taken]
  cases hneeds : guards.admission with
  | true => exact Admission.release_take (h hneeds)
  | false => rfl

/-! ## Calls that are run at once -/

/-- **A call behind guards,** run to its end as soon as it is made. -/
def guardedCall (guards : Guards) (timeout : Nat) (method : String) (params : Json) (s : Server) :
    Except CallError Json × Server :=
  let (f, s) := s.makeCall guards timeout method params
  s.awaitCall f

/-- The operation is done before the time of its call is up. -/
def Timely (s : Server) (guards : Guards) (timeout : Nat) (method : String) (params : Json) :
    Prop :=
  guards.timeLimit = true →
    (s.run (dispatch method params)).2.clock.now ≤ s.clock.now + timeout

/-- What becomes of a call that is let in is said by how it finishes. -/
theorem guardedCall_of_letsIn (h : s.LetsIn guards) (timeout : Nat) (method : String)
    (params : Json) {finished : Except CallError Json × Task.Clock}
    (hfinish : Flight.finish s.see s.clock (.guarded guards timeout (dispatch method params)) =
      finished) :
    s.guardedCall guards timeout method params = (finished.1, { s with clock := finished.2 }) := by
  subst hfinish
  have hback := giveBack_taken (f := .guarded guards timeout (dispatch method params)) h rfl
  rw [guardedCall, makeCall_of_letsIn h]
  dsimp only
  rw [awaitCall_eq, hback]
  rfl

theorem guardedCall_of_timely (h : s.LetsIn guards)
    (htimely : s.Timely guards timeout method params) :
    s.guardedCall guards timeout method params = s.run (dispatch method params) := by
  have hfinish : Flight.finish s.see s.clock (.guarded guards timeout (dispatch method params)) =
      (dispatch method params).run s.see s.clock := by
    rw [Flight.finish_of_le, Flight.alone_guarded, Flight.finish_unguarded]
    intro ms hms
    rw [Flight.alone_guarded, Flight.finish_unguarded]
    cases hlimit : guards.timeLimit with
    | true =>
      rw [Flight.guarded, hlimit] at hms
      cases hms
      exact Nat.le_trans (htimely hlimit) (Nat.le_max_right _ _)
    | false =>
      rw [Flight.guarded, hlimit] at hms
      cases hms
  exact guardedCall_of_letsIn h timeout method params hfinish

theorem guardedCall_of_late (h : s.LetsIn guards)
    (hlate : ¬ s.Timely guards timeout method params) :
    ∃ clock : Task.Clock, clock.now = s.clock.now + timeout ∧
      s.guardedCall guards timeout method params =
        (.error (.timedOut timeout), { s with clock := clock }) := by
  obtain ⟨hlimit, hlt⟩ := Classical.not_imp.1 hlate
  have hmax : max s.clock.now (s.clock.now + timeout) = s.clock.now + timeout :=
    Nat.max_eq_right (Nat.le_add_right _ _)
  have hafter : max s.clock.now (s.clock.now + timeout) < (Flight.finish s.see s.clock
      (Flight.guarded guards timeout (dispatch method params)).alone).2.now := by
    rw [hmax, Flight.alone_guarded, Flight.finish_unguarded]
    exact Nat.lt_of_not_le hlt
  obtain ⟨houtcome, hnow⟩ := Flight.finish_of_lt
    (f := .guarded guards timeout (dispatch method params)) (if_pos hlimit) hafter
  refine ⟨_, hnow.trans hmax, (guardedCall_of_letsIn h timeout method params rfl).trans ?_⟩
  rw [houtcome]

theorem guardedCall_of_full (h : ¬ s.LetsIn guards) (timeout : Nat) (method : String)
    (params : Json) :
    s.guardedCall guards timeout method params = (.error .overloaded, s.afterRefusal) := by
  rw [guardedCall, makeCall_of_full h]
  dsimp only
  rw [awaitCall_eq, Flight.finish_turnedAway]
  rfl

/-! ## Calls that are polled first -/

theorem beginCall_of_full (h : ¬ s.LetsIn guards) (timeout : Nat) (method : String)
    (params : Json) :
    s.beginCall guards timeout method params = (.inl (.error .overloaded), s.afterRefusal) :=
  beginCall_of_over (makeCall_of_full h timeout method params) (Flight.start_turnedAway _ _)

/-- What becomes of the first run of a call that is let in is said by how its task starts. -/
theorem beginCall_of_letsIn_over {clock : Task.Clock} (h : s.LetsIn guards)
    (hstart : Flight.start s.see s.clock (.guarded guards timeout (dispatch method params)) =
      (.inl outcome, clock)) :
    s.beginCall guards timeout method params = (.inl outcome, { s with clock := clock }) := by
  have hback := giveBack_taken (f := .guarded guards timeout (dispatch method params)) h rfl
  rw [beginCall_of_over (makeCall_of_letsIn h timeout method params) hstart, endCall]
  dsimp only
  rw [hback]

/-- Where nothing guards it, a call starts and changes nothing but the clock. -/
theorem beginCall_bare (s : Server) (timeout : Nat) (method : String) (params : Json) :
    s.beginCall .bare timeout method params =
      ((Flight.start s.see s.clock (.unguarded (dispatch method params))).1,
        { s with clock := (Flight.start s.see s.clock (.unguarded (dispatch method params))).2 }) := by
  cases hstart : Flight.start s.see s.clock (.unguarded (dispatch method params)) with
  | mk progress clock =>
    cases progress with
    | inl result => exact beginCall_of_letsIn_over s.letsIn_bare hstart
    | inr f =>
      exact beginCall_of_waits (makeCall_of_letsIn s.letsIn_bare timeout method params) hstart

theorem start_of_beginCall_bare {progress : Except CallError Json ⊕ Flight}
    (h : s.beginCall .bare timeout method params = (progress, s')) :
    Flight.start s.see s.clock (.unguarded (dispatch method params)) = (progress, s'.clock) ∧
      s' = { s with clock := s'.clock } := by
  rw [beginCall_bare] at h
  cases h
  exact ⟨rfl, rfl⟩

/-! ## The laws of guards -/

/-- **How a call behind guards compares with its operation alone.** -/
structure TransparencyLaws (s : Server) (guards : Guards) (timeout : Nat) (method : String)
    (params : Json) : Prop where
  /-- Let in, and done in time, a call is the dispatch of its operation: the same value or the same
  error, at the same time, and nothing else of the server is any different after it. -/
  transparent : s.LetsIn guards → s.Timely guards timeout method params →
    s.guardedCall guards timeout method params = s.run (dispatch method params)
  /-- Where there is no permit for it, it fails and nothing of it is run: no time passes, nobody
  looks at the registry, and nothing changes but the count. -/
  turned_away : ¬ s.LetsIn guards →
    s.guardedCall guards timeout method params = (.error .overloaded, s.afterRefusal)
  /-- If it is not done when its time is up, it fails then, with the time that it had. -/
  timed_out : s.LetsIn guards → ¬ s.Timely guards timeout method params →
    ∃ clock : Task.Clock, clock.now = s.clock.now + timeout ∧
      s.guardedCall guards timeout method params =
        (.error (.timedOut timeout), { s with clock := clock })
  /-- There is no other outcome. -/
  no_other : ∀ outcome, (s.guardedCall guards timeout method params).1 = outcome →
    outcome = (s.run (dispatch method params)).1 ∨
    (outcome = .error .overloaded ∧ ¬ s.LetsIn guards) ∨
    (outcome = .error (.timedOut timeout) ∧ ¬ s.Timely guards timeout method params)
  /-- An ordinary call, whatever its number, passes both guards, and has the time that is set. -/
  ordinary : s.call method params =
    s.takeCallId.2.guardedCall .full s.settings.callTimeout method params
  /-- A call that is polled first is turned away at once, -/
  begun_turned_away : ¬ s.LetsIn guards →
    s.beginCall guards timeout method params = (.inl (.error .overloaded), s.afterRefusal)
  /-- or goes as its operation alone when that is polled first: over at once if it is, -/
  begun_over : s.LetsIn guards → ∀ outcome s',
    s.beginCall .bare timeout method params = (.inl outcome, s') →
    s.beginCall guards timeout method params = (.inl outcome, s')
  /-- over for want of time if there is none, -/
  begun_timeless : s.LetsIn guards → guards.timeLimit = true → timeout = 0 → ∀ f₀ s',
    s.beginCall .bare timeout method params = (.inr f₀, s') →
    s.beginCall guards timeout method params = (.inl (.error (.timedOut timeout)), s')
  /-- and under way if it is. Whenever it is awaited then, by whatever has become of the server
  meanwhile, it ends as its operation alone if that is done before its time, counted from when it
  was begun, is up, or at once; and for want of time if not. -/
  begun_waits : s.LetsIn guards → (guards.timeLimit = true → 0 < timeout) → ∀ f₀ s',
    s.beginCall .bare timeout method params = (.inr f₀, s') →
    ∃ f, s.beginCall guards timeout method params =
        (.inr f, { s' with admission := s.taken guards }) ∧
      ∀ later : Server,
        ((guards.timeLimit = true → (later.awaitCall f₀).2.clock.now ≤
            max later.clock.now (s.clock.now + timeout)) →
          later.awaitCall f = ((later.awaitCall f₀).1, (later.awaitCall f₀).2.endCall f)) ∧
        (guards.timeLimit = true → max later.clock.now (s.clock.now + timeout) <
            (later.awaitCall f₀).2.clock.now →
          (later.awaitCall f).1 = .error (.timedOut timeout) ∧
            (later.awaitCall f).2.clock.now = max later.clock.now (s.clock.now + timeout))

theorem begun_waits_of_letsIn (h : s.LetsIn guards)
    (htime : guards.timeLimit = true → 0 < timeout)
    (hbare : s.beginCall .bare timeout method params = (.inr f₀, s')) :
    ∃ f, s.beginCall guards timeout method params =
        (.inr f, { s' with admission := s.taken guards }) ∧ f.alone = f₀ ∧
      f.allowance = (if guards.timeLimit then some timeout else none) ∧
      f.startedAt = some s.clock.now := by
  obtain ⟨hstart, hs'⟩ := start_of_beginCall_bare hbare
  have hallowed : (Flight.guarded guards timeout (dispatch method params)).allowance ≠ some 0 := by
    intro hzero
    cases hlimit : guards.timeLimit with
    | true =>
      rw [Flight.guarded, hlimit] at hzero
      cases hzero
      exact absurd (htime hlimit) (Nat.lt_irrefl 0)
    | false =>
      rw [Flight.guarded, hlimit] at hzero
      cases hzero
  rw [← Flight.alone_guarded guards timeout] at hstart
  obtain ⟨f, hf, halone, hallowance, hstarted⟩ := Flight.start_of_alone_waits hstart hallowed
  refine ⟨f, ?_, halone, hallowance, hstarted⟩
  rw [beginCall_of_waits (makeCall_of_letsIn h timeout method params) hf, hs']

/-- **Guards are transparent.** -/
theorem transparencyLaws (s : Server) (guards : Guards) (timeout : Nat) (method : String)
    (params : Json) : TransparencyLaws s guards timeout method params where
  transparent := guardedCall_of_timely
  turned_away h := guardedCall_of_full h timeout method params
  timed_out := guardedCall_of_late
  no_other outcome houtcome := by
    by_cases hin : s.LetsIn guards
    · by_cases htimely : s.Timely guards timeout method params
      · rw [guardedCall_of_timely hin htimely] at houtcome
        exact .inl houtcome.symm
      · obtain ⟨clock, -, hlate⟩ := guardedCall_of_late hin htimely
        rw [hlate] at houtcome
        exact .inr (.inr ⟨houtcome.symm, htimely⟩)
    · rw [guardedCall_of_full hin] at houtcome
      exact .inr (.inl ⟨houtcome.symm, hin⟩)
  ordinary := rfl
  begun_turned_away h := beginCall_of_full h timeout method params
  begun_over h outcome s' hbare := by
    obtain ⟨hstart, hs'⟩ := start_of_beginCall_bare hbare
    rw [beginCall_of_letsIn_over h (Flight.start_of_alone_over hstart), ← hs']
  begun_timeless h hlimit htime f₀ s' hbare := by
    obtain ⟨hstart, hs'⟩ := start_of_beginCall_bare hbare
    subst htime
    have hzero : (Flight.guarded guards 0 (dispatch method params)).allowance = some 0 :=
      if_pos hlimit
    rw [beginCall_of_letsIn_over h (Flight.start_of_alone_waits_of_timeless hstart hzero), ← hs']
  begun_waits h htime f₀ s' hbare := by
    obtain ⟨f, hbegin, rfl, hallowance, hstarted⟩ := begun_waits_of_letsIn h htime hbare
    refine ⟨f, hbegin, fun later => ⟨fun hdone => ?_, fun hlimit hlate => ?_⟩⟩
    · have hfinish : f.finish later.see later.clock = f.alone.finish later.see later.clock := by
        refine Flight.finish_of_le fun ms hms => ?_
        rw [hallowance] at hms
        split at hms
        · next hlimit =>
          cases hms
          rw [Flight.endsBy, hstarted]
          exact hdone hlimit
        · cases hms
      rw [awaitCall_eq, hfinish]
      rfl
    · rw [if_pos hlimit] at hallowance
      have hends : f.endsBy later.clock timeout = s.clock.now + timeout := by
        rw [Flight.endsBy, hstarted]
        rfl
      rw [← hends] at hlate ⊢
      exact Flight.finish_of_lt hallowance hlate

end Server

end Switchboard
