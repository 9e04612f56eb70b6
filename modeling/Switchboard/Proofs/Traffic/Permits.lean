import Switchboard.Proofs.Dispatch.OwnCode
import Switchboard.Proofs.Traffic.Ledger
/-!
# Permits are conserved

What limits the calls of a server, in whatever order they are made, awaited and dropped
(`permitLaws`). The permits that are left and the calls that hold one are always as many as
the limit; a call is let in exactly if one is left; and one that is turned away fails without
anything of it being run, and is counted. An operation holds one permit, however many calls its
expression makes.
-/

namespace Switchboard

namespace Entry

/-- **The outcome of a call,** once it has one. A call that is turned away has failed when it is
made, whether or not anyone awaits it. -/
def outcome? : Entry → Option (Except CallError Json)
  | ⟨_, .ended outcome⟩ => some outcome
  | ⟨false, _⟩ => some (.error .overloaded)
  | _ => none

/-- The outcome of having been turned away. -/
def isOverloaded : Except CallError Json → Bool
  | .error .overloaded => true
  | _ => false

/-- Whether the outcome of a call is that the server was overloaded. -/
def overloaded (e : Entry) : Bool := e.outcome?.any isOverloaded

/-- Whether the call was run, and that was its outcome. -/
def told : Entry → Bool
  | ⟨_, .ended outcome⟩ => isOverloaded outcome
  | _ => false

/-- Whether that is the outcome of a call that was never run, so that nobody has been told. -/
def untold : Entry → Bool
  | ⟨false, .underWay _⟩ => true
  | ⟨false, .dropped⟩ => true
  | _ => false

variable {e : Entry}

theorem isOverloaded_of_notOverloaded {outcome : Except CallError Json}
    (h : NotOverloaded outcome) : isOverloaded outcome = false := by
  unfold isOverloaded
  split
  · exact absurd rfl (h .overloaded rfl)
  · rfl

theorem overloaded_of_refused (he : e.Fits) (h : e.admitted = false) : e.overloaded = true := by
  obtain ⟨admitted, standing⟩ := e
  obtain rfl : admitted = false := h
  cases standing with
  | ended outcome =>
    obtain rfl : outcome = .error .overloaded := he
    rfl
  | underWay f => rfl
  | dropped => rfl

theorem not_overloaded_of_quiet (hquiet : e.standing.Quiet) (h : e.admitted = true) :
    e.overloaded = false := by
  obtain ⟨admitted, standing⟩ := e
  obtain rfl : admitted = true := h
  cases standing with
  | ended outcome => exact isOverloaded_of_notOverloaded hquiet
  | underWay f => rfl
  | dropped => rfl

/-- Where nothing is made up, the calls that failed because the server was overloaded are those that
were turned away. -/
theorem overloaded_eq (he : e.Fits) (hquiet : e.admitted = true → e.standing.Quiet) :
    e.overloaded = !e.admitted := by
  cases h : e.admitted with
  | true => exact not_overloaded_of_quiet (hquiet h) h
  | false => exact overloaded_of_refused he h

theorem overloaded_and_told (e : Entry) : (e.overloaded && e.told) = e.told := by
  match e with
  | ⟨_, .ended outcome⟩ => exact Bool.and_self (isOverloaded outcome)
  | ⟨_, .underWay _⟩ => exact Bool.and_false _
  | ⟨_, .dropped⟩ => exact Bool.and_false _

theorem overloaded_and_not_told (e : Entry) : (e.overloaded && !e.told) = e.untold := by
  match e with
  | ⟨true, .ended outcome⟩ => exact Bool.and_not_self (isOverloaded outcome)
  | ⟨false, .ended outcome⟩ => exact Bool.and_not_self (isOverloaded outcome)
  | ⟨true, .underWay _⟩ => rfl
  | ⟨false, .underWay _⟩ => rfl
  | ⟨true, .dropped⟩ => rfl
  | ⟨false, .dropped⟩ => rfl

/-- Each of them was told, or never run. -/
theorem countP_overloaded (entries : List Entry) :
    entries.countP overloaded = entries.countP told + entries.countP untold := by
  rw [List.countP_eq_countP_filter_add entries overloaded told, List.countP_filter,
    List.countP_filter]
  simp only [overloaded_and_told, overloaded_and_not_told]

end Entry

namespace Ledger

/-! ## The laws of permits -/

/-- How many calls have been turned away, as the server counts them. -/
def rejected (l : Ledger) : Nat := l.server.admission.rejected

/-- A server with all its permits, before any call is made. -/
def start (n : Nat) (s : Server) : Ledger where
  server := { s with admission := .ofLimit n }

/-- The record after some steps, from there on. -/
def after (n : Nat) (s : Server) (steps : List Step) : Ledger := (start n s).run steps

/-- At no time on the way is an operation registered whose own code makes up that the server is
overloaded. -/
def Honest (n : Nat) (s : Server) (steps : List Step) : Prop :=
  ∀ before, before <+: steps → ¬ (after n s before).server.registry.Feigns

/-- **What becomes of permits,** after whatever steps. -/
structure PermitLaws (n : Nat) (s : Server) : Prop where
  /-- Permits left and calls under way that were let in are always as many as there are permits. -/
  conserved : ∀ steps l, after n s steps = l → l.available + l.holding = n
  bounded : ∀ steps l, after n s steps = l → l.available ≤ n ∧ l.holding ≤ n
  /-- Once no call is under way, all permits are back. -/
  restored : ∀ steps l, after n s steps = l →
    (∀ e ∈ l.entries, ∀ f, e.standing ≠ .underWay f) → l.available = n
  /-- A call is let in if and only if a permit is left when it is made. -/
  let_in : ∀ steps l x r, after n s steps = l → x.request? = some r →
    ∃ standing, (l.step x).entries = l.entries ++ [⟨decide (0 < l.available), standing⟩]
  /-- Whatever it calls in turn, it holds one permit until it is over, -/
  one_permit : ∀ steps l r, after n s steps = l → 0 < l.available →
    (∃ f, (l.step (.begin r)).entries = l.entries ++ [⟨true, .underWay f⟩] ∧
      (l.step (.begin r)).available + 1 = l.available) ∨
    ∃ outcome, (l.step (.begin r)).entries = l.entries ++ [⟨true, .ended outcome⟩] ∧
      (l.step (.begin r)).available = l.available
  one_permit_unstarted : ∀ steps l r, after n s steps = l → 0 < l.available →
    (l.step (.make r)).available + 1 = l.available
  /-- and gives it back, whether it is run to its end or dropped. -/
  gives_back : ∀ steps l i f, after n s steps = l → l.entries[i]? = some ⟨true, .underWay f⟩ →
    (l.step (.await i)).available = l.available + 1 ∧
      (l.step (.cancel i)).available = l.available + 1
  /-- When a call is turned away nothing is run: no time passes, and nothing changes but the
  count. -/
  turned_away : ∀ steps l x r, after n s steps = l → x.request? = some r → l.available = 0 →
    (l.step x).server =
      { l.server with admission := { l.server.admission with rejected := l.rejected + 1 } }
  /-- It fails at once, -/
  turned_away_told : ∀ steps l r, after n s steps = l → l.available = 0 →
    (l.step (.begin r)).entries = l.entries ++ [⟨false, .ended (.error .overloaded)⟩]
  /-- or, if it was not run, whenever it is awaited. -/
  turned_away_untold : ∀ steps l i f, after n s steps = l →
    l.entries[i]? = some ⟨false, .underWay f⟩ →
    l.step (.await i) = { l with entries := l.entries.set i ⟨false, .ended (.error .overloaded)⟩ }
  /-- As many are counted as were turned away. -/
  counted : ∀ steps l, after n s steps = l → l.rejected = l.entries.countP fun e => !e.admitted
  /-- Where own code does not make that outcome up, these are the calls that have it, -/
  rejected_eq : ∀ steps l, after n s steps = l → Honest n s steps →
    l.rejected = l.entries.countP Entry.overloaded
  /-- and each was told so but for those that were never run. -/
  rejected_told : ∀ steps l, after n s steps = l → Honest n s steps →
    l.rejected = l.entries.countP Entry.told + l.entries.countP Entry.untold
  /-- Built-in code does not make it up. -/
  honest : ∀ steps, (∀ before, before <+: steps →
    (after n s before).server.registry.CodeBuiltIn) → Honest n s steps

variable {n i : Nat} {s : Server} {steps : List Step} {l : Ledger} {x : Step} {r : Request}

theorem sound_start (n : Nat) (s : Server) : Sound n (start n s) where
  limit := rfl
  taken := rfl
  rejected := rfl
  fits := nofun

theorem sound_after (n : Nat) (s : Server) (steps : List Step) : Sound n (after n s steps) :=
  (sound_start n s).run steps

theorem quiet_after (h : Honest n s steps) : (after n s steps).Quiet :=
  Quiet.run (l := start n s) nofun h

theorem Sound.conserved (h : Sound n l) : l.available + l.holding = n := by
  have hle := l.server.admission.taken_le_limit
  have htaken := h.taken
  have hlimit := h.limit
  rw [available, Admission.available]
  omega

/-- As many calls have failed because the server was overloaded as were turned away. -/
theorem Sound.rejected_eq (h : Sound n l) (hquiet : l.Quiet) :
    l.rejected = l.entries.countP Entry.overloaded := by
  refine h.rejected.trans (List.countP_congr fun e he => ?_)
  rw [Entry.overloaded_eq (h.fits e he) (hquiet e he)]

/-- Calls that are not under way hold nothing. -/
theorem holding_eq_zero (h : ∀ e ∈ l.entries, ∀ f, e.standing ≠ .underWay f) : l.holding = 0 := by
  refine List.countP_eq_zero.2 fun e he hholds => ?_
  match e, hholds with
  | ⟨true, .underWay f⟩, _ => exact h _ he f rfl

theorem step_of_full (h : l.available = 0) (hx : x.request? = some r) :
    (l.step x).server = { l.server with admission := l.server.admission.take.2 } ∧
      ∃ standing, (l.step x).entries = l.entries ++ [⟨false, standing⟩] := by
  cases x with
  | begin r =>
    rw [step_begin_of_full h]
    exact ⟨rfl, _, rfl⟩
  | make r =>
    rw [step_make_of_full h]
    exact ⟨rfl, _, rfl⟩
  | _ => cases hx

theorem available_take_add_one (h : 0 < l.available) :
    l.server.admission.take.2.available + 1 = l.available := by
  rw [Admission.available_take]
  exact Nat.sub_add_cancel h

/-- The first run of a call that is let in leaves it with its permit, or over and without. -/
theorem step_begin_of_free (h : 0 < l.available) (r : Request) :
    (∃ f, (l.step (.begin r)).entries = l.entries ++ [⟨true, .underWay f⟩] ∧
      (l.step (.begin r)).available + 1 = l.available) ∨
    ∃ outcome, (l.step (.begin r)).entries = l.entries ++ [⟨true, .ended outcome⟩] ∧
      (l.step (.begin r)).available = l.available := by
  cases hstart : (letIn r).start l.server.see l.server.clock with
  | mk progress clock =>
    cases progress with
    | inl outcome =>
      rw [step_begin_of_over h hstart]
      exact .inr ⟨outcome, rfl, Admission.available_release_take h⟩
    | inr f =>
      rw [step_begin_of_waits h hstart]
      exact .inl ⟨f, rfl, available_take_add_one h⟩

theorem step_of_free (h : 0 < l.available) (hx : x.request? = some r) :
    ∃ standing, (l.step x).entries = l.entries ++ [⟨true, standing⟩] := by
  cases x with
  | begin r =>
    rcases step_begin_of_free h r with ⟨f, hentries, -⟩ | ⟨outcome, hentries, -⟩
    · exact ⟨_, hentries⟩
    · exact ⟨_, hentries⟩
  | make r =>
    rw [step_make_of_free h]
    exact ⟨_, rfl⟩
  | _ => cases hx

/-- A call that was let in and is under way holds one of the permits that are taken. -/
theorem Sound.available_giveBack (hl : Sound n l) {f : Flight}
    (here : l.entries[i]? = some ⟨true, .underWay f⟩) :
    (f.giveBack l.server.admission).available = l.available + 1 := by
  have hmem := List.mem_of_getElem? here
  have hpermit : f.holdsPermit = true := hl.fits _ hmem
  have hholding : 0 < l.holding := List.countP_pos_iff.2 ⟨_, hmem, rfl⟩
  have hconserved := hl.conserved
  have htaken := Flight.giveBack_taken f l.server.admission
  have hlimit := Flight.giveBack_limit f l.server.admission
  rw [hpermit, if_pos rfl, hl.taken] at htaken
  rw [hl.limit] at hlimit
  rw [Admission.available, htaken, hlimit]
  omega

theorem permitLaws (n : Nat) (s : Server) : PermitLaws n s where
  conserved steps l hl := by
    subst hl
    exact (sound_after n s steps).conserved
  bounded steps l hl := by
    subst hl
    have hconserved := (sound_after n s steps).conserved
    omega
  restored steps l hl hover := by
    subst hl
    have hconserved := (sound_after n s steps).conserved
    rwa [holding_eq_zero hover] at hconserved
  let_in steps l x r hl hx := by
    rcases Nat.eq_zero_or_pos l.available with hfull | hfree
    · rw [hfull]
      exact (step_of_full hfull hx).2
    · rw [decide_eq_true hfree]
      exact step_of_free hfree hx
  one_permit steps l r hl hfree := step_begin_of_free hfree r
  one_permit_unstarted steps l r hl hfree := by
    rw [step_make_of_free hfree]
    exact available_take_add_one hfree
  gives_back steps l i f hl here := by
    subst hl
    have hback := (sound_after n s steps).available_giveBack here
    rw [step_await here, step_cancel here]
    exact ⟨hback, hback⟩
  turned_away steps l x r hl hx hfull := by
    rw [(step_of_full hfull hx).1, Admission.take_eq_of_full hfull]
    rfl
  turned_away_told steps l r hl hfull := by rw [step_begin_of_full hfull]
  turned_away_untold steps l i f hl here := by
    subst hl
    obtain rfl : f = .turnedAway := (sound_after n s steps).fits _ (List.mem_of_getElem? here)
    rw [step_await here, Flight.finish_turnedAway]
    rfl
  counted steps l hl := by
    subst hl
    exact (sound_after n s steps).rejected
  rejected_eq steps l hl hhonest := by
    subst hl
    exact (sound_after n s steps).rejected_eq (quiet_after hhonest)
  rejected_told steps l hl hhonest := by
    subst hl
    rw [← Entry.countP_overloaded]
    exact (sound_after n s steps).rejected_eq (quiet_after hhonest)
  honest steps h before hbefore := (h before hbefore).not_feigns

/-- A server on which own code makes up that the server is overloaded. -/
def feigning : Server where
  settings := {}
  randomBits _ := 0
  registry := .ofFailing .overloaded
  admission := .ofLimit 0

/-- **What is counted are not the outcomes.** A call that is let in can have the outcome that it is
made up to have; and one that is turned away and dropped has been told nothing. -/
theorem made_up_overload_told :
    (after 1 feigning [.begin ⟨true, 1000, "failing", .null⟩]).entries.countP Entry.told = 1 ∧
    (after 1 feigning [.begin ⟨true, 1000, "failing", .null⟩]).rejected = 0 ∧
    (after 0 feigning [.make ⟨true, 1000, "failing", .null⟩, .cancel 0]).entries.countP Entry.told
      = 0 ∧
    (after 0 feigning [.make ⟨true, 1000, "failing", .null⟩, .cancel 0]).rejected = 1 := by
  refine ⟨rfl, rfl, rfl, rfl⟩

end Ledger

end Switchboard
