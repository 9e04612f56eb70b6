import Switchboard.Proofs.Dispatch.Errors
import Switchboard.Proofs.Dispatch.Failures
import Switchboard.Proofs.Traffic.Flight
/-!
# Calls on record

A server whose calls pass admission, with a record of all of them (`Ledger`). Calls are made,
run for the first time or not, awaited, and dropped, in any order; meanwhile time passes and
the registry changes. `step_moves` says once what a step can do. From it come the two things that
every step keeps: the permits that are taken are those of the calls under way that were let in
(`Sound`), and none of these ends as if it had been turned away, unless an operation's own
code makes that up (`Quiet`).
-/

namespace Switchboard

/-- What is asked of a server: a call, and whether its time is limited. -/
structure Request where
  timeLimit : Bool
  timeout : Nat
  method : String
  params : Json

/-- How far a call has come. -/
inductive Standing where
  | underWay (f : Flight)
  | ended (outcome : Except CallError Json)
  | dropped

/-- A call on record. -/
structure Entry where
  admitted : Bool
  standing : Standing

/-- A server, and the calls that were made of it, in the order in which they were made. -/
structure Ledger where
  server : Server
  entries : List Entry := []

namespace Entry

/-- Whether the call holds a permit. -/
def holds : Entry → Bool
  | ⟨true, .underWay _⟩ => true
  | _ => false

/-- A call that was let in holds a permit while it is under way. What is left of one that was
turned away is the news, and its outcome is that it was. -/
def Fits : Entry → Prop
  | ⟨true, .underWay f⟩ => f.holdsPermit = true
  | ⟨false, .underWay f⟩ => f = .turnedAway
  | ⟨false, .ended outcome⟩ => outcome = .error .overloaded
  | _ => True

end Entry

namespace Ledger

/-! ## Steps -/

/-- What can happen. A call is named by its place in the record. -/
inductive Step where
  /-- A call is made and runs until it is over or waits. -/
  | begin (r : Request)
  /-- A call is made, and nothing of it runs. -/
  | make (r : Request)
  | await (i : Nat)
  | cancel (i : Nat)
  /-- Time passes, and the registry is another one. -/
  | meanwhile (registry : Registry) (milliseconds : Nat)

/-- The call that a step makes, if it makes one. -/
def Step.request? : Step → Option Request
  | .begin r => some r
  | .make r => some r
  | _ => none

/-- How many more calls could be let in now. -/
def available (l : Ledger) : Nat := l.server.admission.available

/-- How many calls that were let in are neither over nor dropped. -/
def holding (l : Ledger) : Nat := l.entries.countP Entry.holds

/-- A call as it is made, and the server after that. -/
def make (l : Ledger) (r : Request) : Flight × Server :=
  l.server.makeCall ⟨true, r.timeLimit⟩ r.timeout r.method r.params

/-- What the first run of a call leaves of it. -/
def standingOf : Except CallError Json ⊕ Flight → Standing
  | .inl outcome => .ended outcome
  | .inr f => .underWay f

/-- The record after a step. Only a call under way can be awaited or dropped. -/
def step (l : Ledger) : Step → Ledger
  | .begin r =>
    let (progress, server) :=
      l.server.beginCall ⟨true, r.timeLimit⟩ r.timeout r.method r.params
    ⟨server, l.entries ++ [⟨(l.make r).1.holdsPermit, standingOf progress⟩]⟩
  | .make r => ⟨(l.make r).2, l.entries ++ [⟨(l.make r).1.holdsPermit, .underWay (l.make r).1⟩]⟩
  | .await i =>
    match l.entries[i]? with
    | some ⟨admitted, .underWay f⟩ =>
      let (outcome, server) := l.server.awaitCall f
      ⟨server, l.entries.set i ⟨admitted, .ended outcome⟩⟩
    | _ => l
  | .cancel i =>
    match l.entries[i]? with
    | some ⟨admitted, .underWay f⟩ => ⟨l.server.endCall f, l.entries.set i ⟨admitted, .dropped⟩⟩
    | _ => l
  | .meanwhile registry milliseconds =>
    { l with server := { l.server with
        registry := registry, clock := l.server.clock.after milliseconds } }

/-- The record after some steps. -/
def run (l : Ledger) (steps : List Step) : Ledger := steps.foldl step l

variable {l l' : Ledger} {r : Request} {i n : Nat} {admitted : Bool} {f : Flight}

/-! ## What a step can do -/

/-- A call that is let in, before it runs. -/
def letIn (r : Request) : Flight where
  holdsPermit := true
  allowance := if r.timeLimit then some r.timeout else none
  task := dispatch r.method r.params

/-- **What a step can do** to a record. -/
inductive Moves (l : Ledger) : Ledger → Prop where
  /-- A call is let in and is under way. -/
  | enters (r : Request) (f : Flight) (clock : Task.Clock) (free : 0 < l.available)
      (left : f = letIn r ∨ ((letIn r).start l.server.see l.server.clock).1 = .inr f) :
      Moves l ⟨{ l.server with admission := l.server.admission.take.2, clock := clock },
        l.entries ++ [⟨true, .underWay f⟩]⟩
  /-- A call is let in and over at once. -/
  | passes (r : Request) (outcome : Except CallError Json) (clock : Task.Clock)
      (free : 0 < l.available)
      (ended : ((letIn r).start l.server.see l.server.clock).1 = .inl outcome) :
      Moves l ⟨{ l.server with admission := l.server.admission.take.2.release, clock := clock },
        l.entries ++ [⟨true, .ended outcome⟩]⟩
  /-- A call is turned away. -/
  | refused (standing : Standing) (full : l.available = 0)
      (told : standing = .underWay .turnedAway ∨ standing = .ended (.error .overloaded)) :
      Moves l ⟨{ l.server with admission := l.server.admission.take.2 },
        l.entries ++ [⟨false, standing⟩]⟩
  /-- A call under way is run to its end, or dropped. -/
  | ends (i : Nat) (admitted : Bool) (f : Flight) (standing : Standing) (clock : Task.Clock)
      (here : l.entries[i]? = some ⟨admitted, .underWay f⟩)
      (comes : standing = .dropped ∨
        standing = .ended (f.finish l.server.see l.server.clock).1) :
      Moves l ⟨{ l.server with admission := f.giveBack l.server.admission, clock := clock },
        l.entries.set i ⟨admitted, standing⟩⟩
  /-- Nothing happens to calls. -/
  | elsewhere (registry : Registry) (clock : Task.Clock) :
      Moves l { l with server := { l.server with registry := registry, clock := clock } }

theorem make_of_free (h : 0 < l.available) (r : Request) :
    l.make r = (letIn r, { l.server with admission := l.server.admission.take.2 }) := by
  rw [make, Server.makeCall, Flight.make_of_free h]
  rfl

theorem make_of_full (h : l.available = 0) (r : Request) :
    l.make r = (.turnedAway, { l.server with admission := l.server.admission.take.2 }) := by
  rw [make, Server.makeCall, Flight.make_of_full h]

theorem step_make_of_free (h : 0 < l.available) (r : Request) :
    l.step (.make r) = ⟨{ l.server with admission := l.server.admission.take.2 },
      l.entries ++ [⟨true, .underWay (letIn r)⟩]⟩ := by
  rw [step, make_of_free h]
  rfl

theorem step_make_of_full (h : l.available = 0) (r : Request) :
    l.step (.make r) = ⟨{ l.server with admission := l.server.admission.take.2 },
      l.entries ++ [⟨false, .underWay .turnedAway⟩]⟩ := by
  rw [step, make_of_full h]
  rfl

/-- A call that is turned away is over at once, nothing runs, and no time passes. -/
theorem step_begin_of_full (h : l.available = 0) (r : Request) :
    l.step (.begin r) = ⟨{ l.server with admission := l.server.admission.take.2 },
      l.entries ++ [⟨false, .ended (.error .overloaded)⟩]⟩ := by
  have hmake := make_of_full h r
  have hbegin := Server.beginCall_of_over hmake (Flight.start_turnedAway _ _)
  rw [step, hmake, hbegin]
  rfl

/-- A call that is let in and over after its first run gives its permit back. -/
theorem step_begin_of_over {outcome : Except CallError Json} {clock : Task.Clock}
    (h : 0 < l.available)
    (hstart : (letIn r).start l.server.see l.server.clock = (.inl outcome, clock)) :
    l.step (.begin r) = ⟨{ l.server with
      admission := l.server.admission.take.2.release, clock := clock },
      l.entries ++ [⟨true, .ended outcome⟩]⟩ := by
  have hmake := make_of_free h r
  have hbegin := Server.beginCall_of_over hmake hstart
  rw [step, hmake, hbegin]
  rfl

/-- One that waits then goes on. -/
theorem step_begin_of_waits {clock : Task.Clock} (h : 0 < l.available)
    (hstart : (letIn r).start l.server.see l.server.clock = (.inr f, clock)) :
    l.step (.begin r) = ⟨{ l.server with
      admission := l.server.admission.take.2, clock := clock },
      l.entries ++ [⟨true, .underWay f⟩]⟩ := by
  have hmake := make_of_free h r
  have hbegin := Server.beginCall_of_waits hmake hstart
  rw [step, hmake, hbegin]
  rfl

theorem step_await (h : l.entries[i]? = some ⟨admitted, .underWay f⟩) :
    l.step (.await i) = ⟨{ l.server with
      admission := f.giveBack l.server.admission
      clock := (f.finish l.server.see l.server.clock).2 },
      l.entries.set i ⟨admitted, .ended (f.finish l.server.see l.server.clock).1⟩⟩ := by
  rw [step, h]
  rfl

theorem step_cancel (h : l.entries[i]? = some ⟨admitted, .underWay f⟩) :
    l.step (.cancel i) = ⟨{ l.server with admission := f.giveBack l.server.admission },
      l.entries.set i ⟨admitted, .dropped⟩⟩ := by
  rw [step, h]
  rfl

/-- What is not under way is not awaited. -/
theorem step_await_of_not (h : ∀ admitted f, l.entries[i]? ≠ some ⟨admitted, .underWay f⟩) :
    l.step (.await i) = l := by
  rw [step]
  split
  · next heq => exact absurd heq (h _ _)
  · rfl

theorem step_cancel_of_not (h : ∀ admitted f, l.entries[i]? ≠ some ⟨admitted, .underWay f⟩) :
    l.step (.cancel i) = l := by
  rw [step]
  split
  · next heq => exact absurd heq (h _ _)
  · rfl

/-- **Every step is one of these.** -/
theorem step_moves (l : Ledger) (x : Step) : Moves l (l.step x) := by
  have idle : Moves l l := .elsewhere l.server.registry l.server.clock
  cases x with
  | begin r =>
    rcases Nat.eq_zero_or_pos l.available with hfull | hfree
    · rw [step_begin_of_full hfull]
      exact .refused _ hfull (.inr rfl)
    · cases hstart : (letIn r).start l.server.see l.server.clock with
      | mk progress clock =>
        cases progress with
        | inl outcome =>
          rw [step_begin_of_over hfree hstart]
          exact .passes r outcome clock hfree (congrArg Prod.fst hstart)
        | inr f =>
          rw [step_begin_of_waits hfree hstart]
          exact .enters r f clock hfree (.inr (congrArg Prod.fst hstart))
  | make r =>
    rcases Nat.eq_zero_or_pos l.available with hfull | hfree
    · rw [step_make_of_full hfull]
      exact .refused _ hfull (.inl rfl)
    · rw [step_make_of_free hfree]
      exact .enters r (letIn r) l.server.clock hfree (.inl rfl)
  | await i =>
    by_cases h : ∃ admitted f, l.entries[i]? = some ⟨admitted, .underWay f⟩
    · obtain ⟨admitted, f, here⟩ := h
      rw [step_await here]
      exact .ends i admitted f _ _ here (.inr rfl)
    · rw [step_await_of_not fun admitted f here => h ⟨admitted, f, here⟩]
      exact idle
  | cancel i =>
    by_cases h : ∃ admitted f, l.entries[i]? = some ⟨admitted, .underWay f⟩
    · obtain ⟨admitted, f, here⟩ := h
      rw [step_cancel here]
      exact .ends i admitted f _ l.server.clock here (.inl rfl)
    · rw [step_cancel_of_not fun admitted f here => h ⟨admitted, f, here⟩]
      exact idle
  | meanwhile registry milliseconds => exact .elsewhere registry _

/-! ## Permits are those of calls under way -/

/-- **What every step keeps:** as many permits are taken as calls hold one, and as many calls are
counted as turned away as there were. -/
structure Sound (n : Nat) (l : Ledger) : Prop where
  limit : l.server.admission.limit = n
  taken : l.server.admission.taken = l.holding
  rejected : l.server.admission.rejected = l.entries.countP fun e => !e.admitted
  fits : ∀ e ∈ l.entries, e.Fits

/-- Counting goes on from the entry that was replaced. -/
theorem countP_set_of_getElem? {α : Type} {p : α → Bool} {xs : List α} {x : α} (y : α)
    (h : xs[i]? = some x) :
    (xs.set i y).countP p + (if p x then 1 else 0) = xs.countP p + if p y then 1 else 0 := by
  obtain ⟨hi, rfl⟩ := List.getElem?_eq_some_iff.1 h
  have hle : (if p xs[i] then 1 else 0) ≤ xs.countP p := by
    split
    · next hp => exact List.countP_pos_iff.2 ⟨xs[i], List.getElem_mem hi, hp⟩
    · exact Nat.zero_le _
  rw [List.countP_set hi]
  omega

theorem holds_mk_underWay (admitted : Bool) (f : Flight) :
    (Entry.mk admitted (.underWay f)).holds = admitted := by
  cases admitted <;> rfl

/-- A call under way holds a permit if it was let in. -/
theorem holdsPermit_of_fits (h : (Entry.mk admitted (.underWay f)).Fits) :
    f.holdsPermit = admitted := by
  cases admitted with
  | true => exact h
  | false =>
    obtain rfl : f = .turnedAway := h
    rfl

/-- A call is made, and the permits are as the call is. -/
theorem Sound.made (hl : Sound n l) {e : Entry} {a : Admission} (clock : Task.Clock) (he : e.Fits)
    (hlimit : a.limit = l.server.admission.limit)
    (htaken : a.taken = l.server.admission.taken + if e.holds then 1 else 0)
    (hrejected : a.rejected = l.server.admission.rejected + if !e.admitted then 1 else 0) :
    Sound n ⟨{ l.server with admission := a, clock := clock }, l.entries ++ [e]⟩ where
  limit := hlimit.trans hl.limit
  taken := by rw [htaken, hl.taken, holding, holding, List.countP_append, List.countP_singleton]
  rejected := by rw [hrejected, hl.rejected, List.countP_append, List.countP_singleton]
  fits := by
    intro e' he'
    rcases List.mem_append.1 he' with he' | he'
    · exact hl.fits e' he'
    · rw [List.mem_singleton.1 he']
      exact he

/-- A call under way ends, and gives back what it held. -/
theorem Sound.ended (hl : Sound n l) {standing : Standing} (clock : Task.Clock)
    (here : l.entries[i]? = some ⟨admitted, .underWay f⟩)
    (hends : (Entry.mk admitted standing).holds = false) (he : (Entry.mk admitted standing).Fits) :
    Sound n ⟨{ l.server with admission := f.giveBack l.server.admission, clock := clock },
      l.entries.set i ⟨admitted, standing⟩⟩ := by
  have hpermit := holdsPermit_of_fits (hl.fits _ (List.mem_of_getElem? here))
  have hholding := countP_set_of_getElem? (p := Entry.holds) ⟨admitted, standing⟩ here
  have hcounted := countP_set_of_getElem? (p := fun e => !e.admitted) ⟨admitted, standing⟩ here
  have htaken := hl.taken
  refine ⟨?limit, ?taken, ?rejected, ?fits⟩
  case limit =>
    rw [Flight.giveBack_limit]
    exact hl.limit
  case taken =>
    rw [holds_mk_underWay, hends, if_neg Bool.false_ne_true] at hholding
    rw [Flight.giveBack_taken, hpermit, htaken, holding, holding]
    exact Nat.sub_eq_of_eq_add hholding.symm
  case rejected =>
    rw [Flight.giveBack_rejected, hl.rejected]
    exact (Nat.add_right_cancel hcounted).symm
  case fits =>
    intro e' he'
    rcases List.mem_or_eq_of_mem_set he' with he' | rfl
    · exact hl.fits e' he'
    · exact he

theorem Sound.moves (hl : Sound n l) (h : Moves l l') : Sound n l' := by
  cases h with
  | enters r f clock free left =>
    have hpermit : f.holdsPermit = true := by
      rcases left with rfl | hleft
      · rfl
      · exact Flight.holdsPermit_of_start hleft
    exact hl.made clock hpermit (Admission.limit_take _) (Admission.taken_take free)
      (Admission.rejected_take_of_free free)
  | passes r outcome clock free ended =>
    refine hl.made clock trivial (Admission.limit_take _) ?_ (Admission.rejected_take_of_free free)
    rw [Admission.release_taken, Admission.taken_take free]
    rfl
  | refused standing full told =>
    rw [Admission.take_eq_of_full full]
    rcases told with rfl | rfl
    · exact hl.made l.server.clock rfl rfl rfl rfl
    · exact hl.made l.server.clock rfl rfl rfl rfl
  | ends i admitted f standing clock here comes =>
    -- of a call that was turned away the outcome is known, of another anything will do
    have hfits := hl.fits _ (List.mem_of_getElem? here)
    rcases comes with rfl | rfl
    · exact hl.ended clock here (by cases admitted <;> rfl) (by cases admitted <;> trivial)
    · refine hl.ended clock here (by cases admitted <;> rfl) ?_
      cases admitted with
      | true => trivial
      | false =>
        obtain rfl : f = .turnedAway := hfits
        rw [Flight.finish_turnedAway]
        rfl
  | elsewhere registry clock => exact ⟨hl.limit, hl.taken, hl.rejected, hl.fits⟩

theorem Sound.run (hl : Sound n l) (steps : List Step) : Sound n (l.run steps) := by
  induction steps generalizing l with
  | nil => exact hl
  | cons x rest ih => exact ih (hl.moves (l.step_moves x))

end Ledger

/-! ## Calls that are let in are not told otherwise -/

/-- The own code of a registered operation makes up that the server is overloaded. -/
def Registry.Feigns (r : Registry) : Prop :=
  ∃ op ∈ r.operations, ∃ args, op.Throws args .overloaded

theorem Registry.CodeBuiltIn.not_feigns {r : Registry} (h : r.CodeBuiltIn) : ¬ r.Feigns := by
  rintro ⟨op, hop, args, hthrows⟩
  cases h.operation?_of_throws hop hthrows

/-- What is seen does not make it up. -/
def Moment.Quiet (m : Moment) : Prop := ¬ m.registry.Feigns

/-- The outcome is another one than to be turned away. -/
def NotOverloaded : Except CallError Json → Prop := FailsOnly (· ≠ .overloaded)

/-- **Nothing but own code makes up that the server is overloaded.** -/
theorem covers_notOverloaded : Covers Moment.Quiet (fun _ => True) (· ≠ .overloaded) where
  malformed _ _ := trivial
  unregistered _ := nofun
  tooDeep := trivial
  registryGone := trivial
  evaluation _ := nofun
  told _ _ := trivial
  itself := by
    rintro m hm op hop payload e hfails rfl
    rcases hfails.operation? with hof | ⟨args, -, hthrows⟩
    · cases hof
    · exact hm ⟨op, hop, args, hthrows⟩
  foreign _ _ _ _ _ _ _ _ := trivial

theorem ends_dispatch (method : String) (payload : Json) :
    (dispatch method payload).Ends Moment.Quiet NotOverloaded :=
  covers_notOverloaded.ends_call nestingLimit method payload

/-- The call is over with another outcome, or can only end so. -/
def Standing.Quiet : Standing → Prop
  | .underWay f => f.task.Ends Moment.Quiet NotOverloaded
  | .ended outcome => NotOverloaded outcome
  | .dropped => True

namespace Ledger

variable {l l' : Ledger}

/-- **What every step keeps** where nothing is made up: calls that were let in do not end as if they
had been turned away. -/
def Quiet (l : Ledger) : Prop := ∀ e ∈ l.entries, e.admitted = true → e.standing.Quiet

theorem Quiet.append (hl : l.Quiet) {e : Entry} (he : e.admitted = true → e.standing.Quiet)
    (server : Server) : Quiet ⟨server, l.entries ++ [e]⟩ := by
  intro e' he'
  rcases List.mem_append.1 he' with he' | he'
  · exact hl e' he'
  · rw [List.mem_singleton.1 he']
    exact he

theorem Quiet.moves (hl : l.Quiet) (hr : ¬ l.server.registry.Feigns) (h : Moves l l') :
    l'.Quiet := by
  have htime : ∀ ms, NotOverloaded (.error (.timedOut ms)) := fun ms => failsOnly_error nofun
  have hsee : ∀ i, (l.server.see i).Quiet := fun _ => hr
  cases h with
  | enters r f clock free left =>
    refine hl.append (fun _ => ?_) _
    have hmade : (letIn r).task.Ends Moment.Quiet NotOverloaded := ends_dispatch r.method r.params
    rcases left with rfl | hleft
    · exact hmade
    · exact (Flight.outcome_of_start hmade htime hsee).2 f hleft
  | passes r outcome clock free ended =>
    refine hl.append (fun _ => ?_) _
    have hmade : (letIn r).task.Ends Moment.Quiet NotOverloaded := ends_dispatch r.method r.params
    exact (Flight.outcome_of_start hmade htime hsee).1 outcome ended
  | refused standing full told => exact hl.append (fun h => absurd h Bool.false_ne_true) _
  | ends i admitted f standing clock here comes =>
    -- the call under way was kept such that it can only end well, and it ends as it can
    intro e he hadmitted
    rcases List.mem_or_eq_of_mem_set he with he | rfl
    · exact hl e he hadmitted
    · rcases comes with rfl | rfl
      · trivial
      · have hf : f.task.Ends Moment.Quiet NotOverloaded :=
          hl _ (List.mem_of_getElem? here) hadmitted
        exact Flight.outcome_of_finish hf htime hsee _
  | elsewhere registry clock => exact hl

/-- In no registry that the server has on the way does own code make anything up. -/
theorem Quiet.run (hl : l.Quiet) {steps : List Step}
    (hr : ∀ before, before <+: steps → ¬ (l.run before).server.registry.Feigns) :
    (l.run steps).Quiet := by
  induction steps generalizing l with
  | nil => exact hl
  | cons x rest ih =>
    refine ih (hl.moves (hr [] (List.nil_prefix)) (l.step_moves x)) fun before hbefore => ?_
    exact hr (x :: before) ((List.prefix_cons_inj x).2 hbefore)

end Ledger

end Switchboard
