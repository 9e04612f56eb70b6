import Switchboard.Server.Health
/-!
# The phases of a server

A server is starting, ready, draining and stopped, in this order. But an event that has a
phase of its own sets it whatever the phase was (`Event.target`), so that the order is kept by
those who cause the events and by nothing else. Exactly what that asks of them is shown here
(`phaseLaws`), and a life in which a server that has stopped is ready again
(`ready_after_stopped`).
-/

namespace Switchboard

/-- How many phases come before this one. -/
def Phase.rank : Phase → Nat
  | .starting => 0
  | .ready => 1
  | .draining => 2
  | .stopped => 3

instance : LE Phase where
  le p q := p.rank ≤ q.rank

instance (p q : Phase) : Decidable (p ≤ q) := inferInstanceAs (Decidable (p.rank ≤ q.rank))

theorem Phase.le_refl (p : Phase) : p ≤ p := Nat.le_refl p.rank

namespace Health

/-! ## Events -/

/-- What can happen to the health of a server. A wait for its requests happens where it ends, so
that other events may have happened since it began. -/
inductive Event where
  | setReady
  | beginDrain
  | enter
  | leave
  | await (busy : Nat → Nat) (timeout : Nat)

def after (h : Health) : Event → Health
  | .setReady => h.setReady
  | .beginDrain => h.beginDrain
  | .enter => h.enter
  | .leave => h.leave
  | .await busy timeout => (h.waitForDrain busy timeout).2.2

/-- The health after all of these. -/
def afterAll (h : Health) (events : List Event) : Health := events.foldl after h

/-- **The phases that are seen,** at first and after each event. -/
def phases (h : Health) : List Event → List Phase
  | [] => [h.phase]
  | event :: rest => h.phase :: (h.after event).phases rest

/-- The phase that an event sets, if it does. Work on requests does not, nor does a wait that is
given up. -/
def Event.target : Event → Option Phase
  | .setReady => some .ready
  | .beginDrain => some .draining
  | .enter => none
  | .leave => none
  | .await busy timeout => if (drainFrom busy timeout 0).1 then some .stopped else none

/-- The phases that these events set. -/
def targets (events : List Event) : List Phase := events.filterMap Event.target

variable {h : Health} {event : Event} {events : List Event} {p : Phase}

/-! ## One event -/

/-- **What an event does to the phase** depends on the phase in nothing. -/
theorem phase_after (h : Health) (event : Event) :
    (h.after event).phase = event.target.getD h.phase := by
  cases event with
  | setReady => rfl
  | beginDrain => rfl
  | enter => rfl
  | leave => rfl
  | await busy timeout =>
    change (if (drainFrom busy timeout 0).1 = true then Phase.stopped else h.phase) = _
    rw [Event.target]
    split
    · rfl
    · rfl

/-- **A wait succeeds** exactly if there is no work when it looks for the last time. -/
theorem drainFrom_eq_true_iff (busy : Nat → Nat) (timeout elapsed : Nat) :
    (drainFrom busy timeout elapsed).1 = true ↔
      busy (drainFrom busy timeout elapsed).2 = 0 := by
  induction elapsed using drainFrom.induct busy timeout with
  | case1 elapsed hidle =>
    rw [drainFrom, if_pos hidle]
    exact iff_of_true rfl hidle
  | case2 elapsed hbusy hlate =>
    rw [drainFrom, if_neg hbusy, if_pos hlate]
    exact iff_of_false Bool.false_ne_true hbusy
  | case3 elapsed hbusy hlate ih =>
    rw [drainFrom, if_neg hbusy, if_neg hlate]
    exact ih

/-- **Who sets a phase:** each is set by events of one kind, and the first by none. -/
theorem target_eq_some_iff : event.target = some p ↔
    event = .setReady ∧ p = .ready ∨ event = .beginDrain ∧ p = .draining ∨
      (∃ busy timeout, event = .await busy timeout ∧ busy (drainFrom busy timeout 0).2 = 0) ∧
        p = .stopped := by
  constructor
  · intro htarget
    cases event with
    | setReady => exact .inl ⟨rfl, (Option.some.inj htarget).symm⟩
    | beginDrain => exact .inr (.inl ⟨rfl, (Option.some.inj htarget).symm⟩)
    | enter => cases htarget
    | leave => cases htarget
    | await busy timeout =>
      rw [Event.target] at htarget
      split at htarget
      · next hdrained =>
        have hidle := (drainFrom_eq_true_iff busy timeout 0).1 hdrained
        exact .inr (.inr ⟨⟨busy, timeout, rfl, hidle⟩, (Option.some.inj htarget).symm⟩)
      · cases htarget
  · rintro (⟨rfl, rfl⟩ | ⟨rfl, rfl⟩ | ⟨⟨busy, timeout, rfl, hidle⟩, rfl⟩)
    · rfl
    · rfl
    · rw [Event.target, if_pos ((drainFrom_eq_true_iff busy timeout 0).2 hidle)]

theorem targets_cons_of_none (htarget : event.target = none) (events : List Event) :
    targets (event :: events) = targets events :=
  List.filterMap_cons_none htarget

theorem targets_cons_of_some (htarget : event.target = some p) (events : List Event) :
    targets (event :: events) = p :: targets events :=
  List.filterMap_cons_some htarget

theorem phase_after_of_none (h : Health) (htarget : event.target = none) :
    (h.after event).phase = h.phase := by
  rw [phase_after, htarget, Option.getD_none]

theorem phase_after_of_some (h : Health) (htarget : event.target = some p) :
    (h.after event).phase = p := by
  rw [phase_after, htarget, Option.getD_some]

/-! ## Many events -/

/-- The phase is the one that was set last. -/
theorem phase_afterAll (h : Health) (events : List Event) :
    (h.afterAll events).phase = (targets events).getLastD h.phase := by
  induction events generalizing h with
  | nil => rfl
  | cons event rest ih =>
    rw [afterAll, List.foldl_cons, ← afterAll, ih]
    cases htarget : event.target with
    | none => rw [targets_cons_of_none htarget, phase_after_of_none h htarget]
    | some p => rw [targets_cons_of_some htarget, phase_after_of_some h htarget, List.getLastD_cons]

/-- **Seen is what there was at first, and what is set.** -/
theorem mem_phases (h : Health) (events : List Event) (p : Phase) :
    p ∈ h.phases events ↔ p = h.phase ∨ p ∈ targets events := by
  induction events generalizing h with
  | nil =>
    rw [phases, List.mem_singleton, targets, List.filterMap_nil]
    simp
  | cons event rest ih =>
    rw [phases, List.mem_cons, ih]
    cases htarget : event.target with
    | none =>
      rw [targets_cons_of_none htarget, phase_after_of_none h htarget, ← or_assoc, or_self]
    | some q =>
      rw [targets_cons_of_some htarget, phase_after_of_some h htarget, List.mem_cons]

/-- What is seen is in order exactly if what is set is: an event that sets nothing shows again
what was seen before. -/
theorem pairwise_phases_iff (h : Health) (events : List Event) :
    (h.phases events).Pairwise (· ≤ ·) ↔ (h.phase :: targets events).Pairwise (· ≤ ·) := by
  induction events generalizing h with
  | nil => rfl
  | cons event rest ih =>
    have hmem := mem_phases (h.after event) rest
    rw [phases, List.pairwise_cons, ih]
    cases htarget : event.target with
    | none =>
      rw [phase_after_of_none h htarget] at hmem ⊢
      rw [targets_cons_of_none htarget]
      -- What is seen again is not before itself, and the rest is as without this event.
      refine and_iff_right_of_imp fun hrest p hp => ?_
      rcases (hmem p).1 hp with rfl | hp
      · exact Phase.le_refl _
      · exact List.rel_of_pairwise_cons hrest hp
    | some q =>
      rw [phase_after_of_some h htarget] at hmem ⊢
      rw [targets_cons_of_some htarget, List.pairwise_cons (a := h.phase)]
      simp only [hmem, List.mem_cons]

theorem mem_targets_iff : p ∈ targets events ↔ ∃ event ∈ events, event.target = some p :=
  List.mem_filterMap

/-- Only being told so makes a server ready, -/
theorem ready_mem_targets : Phase.ready ∈ targets events ↔ Event.setReady ∈ events := by
  rw [mem_targets_iff]
  refine ⟨?_, fun hmem => ⟨_, hmem, rfl⟩⟩
  rintro ⟨event, hmem, htarget⟩
  rcases target_eq_some_iff.1 htarget with ⟨rfl, -⟩ | ⟨-, hp⟩ | ⟨-, hp⟩
  · exact hmem
  · cases hp
  · cases hp

/-- only a wait that succeeds makes it stopped, -/
theorem stopped_mem_targets : Phase.stopped ∈ targets events ↔
    ∃ busy timeout, Event.await busy timeout ∈ events ∧
      busy (drainFrom busy timeout 0).2 = 0 := by
  rw [mem_targets_iff]
  constructor
  · rintro ⟨event, hmem, htarget⟩
    rcases target_eq_some_iff.1 htarget with ⟨-, hp⟩ | ⟨-, hp⟩ | ⟨⟨busy, timeout, rfl, hidle⟩, -⟩
    · cases hp
    · cases hp
    · exact ⟨busy, timeout, hmem, hidle⟩
  · rintro ⟨busy, timeout, hmem, hidle⟩
    have htarget := target_eq_some_iff.2 (.inr (.inr ⟨⟨busy, timeout, rfl, hidle⟩, rfl⟩))
    exact ⟨_, hmem, htarget⟩

/-- and only being told to be ready, or to drain, makes it anything else. -/
theorem forall_mem_targets_eq_stopped :
    (∀ p ∈ targets events, p = .stopped) ↔
      Event.setReady ∉ events ∧ Event.beginDrain ∉ events := by
  constructor
  · intro hall
    refine ⟨fun hmem => ?_, fun hmem => ?_⟩
    · cases hall .ready (mem_targets_iff.2 ⟨_, hmem, rfl⟩)
    · cases hall .draining (mem_targets_iff.2 ⟨_, hmem, rfl⟩)
  · rintro ⟨hready, hdrain⟩ p hp
    obtain ⟨event, hmem, htarget⟩ := mem_targets_iff.1 hp
    rcases target_eq_some_iff.1 htarget with ⟨rfl, -⟩ | ⟨rfl, -⟩ | ⟨-, hstopped⟩
    · exact absurd hmem hready
    · exact absurd hmem hdrain
    · exact hstopped

/-! ## The laws of phases -/

/-- **What becomes of the phases** of a server to which this happens. -/
structure PhaseLaws (h : Health) (events : List Event) : Prop where
  /-- **They never go back** exactly if what is set never does. -/
  forward : (h.phases events).Pairwise (· ≤ ·) ↔ (h.phase :: targets events).Pairwise (· ≤ ·)
  /-- None are seen but what there was at first and what is set, -/
  seen : ∀ p, p ∈ h.phases events ↔ p = h.phase ∨ p ∈ targets events
  /-- and what was set last stays. -/
  last : (h.afterAll events).phase = (targets events).getLastD h.phase
  /-- A server that is not ready is seen to be so exactly if it is told so, draining or not. -/
  resumes : h.phase ≠ .ready → (.ready ∈ h.phases events ↔ .setReady ∈ events)
  /-- One that has stopped remains so exactly if it is neither told to be ready nor to drain. -/
  final : h.phase = .stopped → ((∀ p ∈ h.phases events, p = .stopped) ↔
    .setReady ∉ events ∧ .beginDrain ∉ events)
  /-- One that has not is seen to have stopped exactly if a wait for its requests ends when there
  are none left. -/
  stops : h.phase ≠ .stopped → (.stopped ∈ h.phases events ↔ ∃ busy timeout,
    .await busy timeout ∈ events ∧ busy (drainFrom busy timeout 0).2 = 0)

theorem phaseLaws (h : Health) (events : List Event) : PhaseLaws h events where
  forward := pairwise_phases_iff h events
  seen := mem_phases h events
  last := phase_afterAll h events
  resumes := by
    intro hphase
    rw [mem_phases, ready_mem_targets]
    exact or_iff_right (Ne.symm hphase)
  final := by
    intro hphase
    rw [← forall_mem_targets_eq_stopped]
    simp only [mem_phases, hphase, forall_eq_or_imp, true_and]
  stops := by
    intro hphase
    rw [mem_phases, stopped_mem_targets]
    exact or_iff_right (Ne.symm hphase)

/-- **The phases do go back:** a server that is told to be ready after it has stopped is. -/
theorem ready_after_stopped :
    ({} : Health).phases [.setReady, .beginDrain, .await (fun _ => 0) 0, .setReady] =
        [.starting, .ready, .draining, .stopped, .ready] ∧
      ¬ ∀ events, (({} : Health).phases events).Pairwise (· ≤ ·) := by
  have hwait : drainFrom (fun _ => 0) 0 0 = (true, 0) := by
    rw [drainFrom, if_pos rfl]
  have hphases :
      ({} : Health).phases [.setReady, .beginDrain, .await (fun _ => 0) 0, .setReady] =
        [.starting, .ready, .draining, .stopped, .ready] := by
    simp only [phases, after, waitForDrain, hwait, setReady, beginDrain, if_true]
  refine ⟨hphases, fun hall => ?_⟩
  have hback := hall [.setReady, .beginDrain, .await (fun _ => 0) 0, .setReady]
  rw [hphases] at hback
  exact absurd hback (by decide)

end Health

end Switchboard
