import Switchboard.Proofs.Registry.Laws
/-!
# Courses of a registry

A course is the registry moment by moment, from the empty one on. Each step
leaves it, adds an operation under a free name, or removes what some handle
was issued for; who takes the step is not said here. Serial numbers make a
registration an individual: it is made by one step and no other
(`MadeAt.unique`), whoever registers its name again.
-/

namespace Switchboard

namespace Registry

/-- What one step may do to a registry. -/
inductive Step (r : Registry) : Registry → Prop where
  | same : Step r r
  | add (op : Operation) (free : r.contains op.name = false) : Step r (r.add op)
  | remove (h : Handle) : Step r (r.remove h)

variable {r r' r'' : Registry} {x : Registration}

/-- Revoking is one, whatever the handle. -/
theorem step_revoke (r : Registry) (h : Handle) : Step r (r.revoke h).2.2 := by
  rcases revoke_registry (r := r) (h := h) with hr | hr <;> rw [hr]
  · exact .same
  · exact .remove h

theorem Step.wellFormed (h : Step r r') (w : r.WellFormed) : r'.WellFormed := by
  cases h with
  | same => exact w
  | add op free => exact w.add free
  | remove h => exact w.remove

theorem Step.nextSerial_le (h : Step r r') : r.nextSerial ≤ r'.nextSerial := by
  cases h with
  | same => exact Nat.le_refl _
  | add op free => exact Nat.le_succ _
  | remove h => exact Nat.le_refl _

/-- What a step makes is the operation that it adds. -/
theorem Step.eq_add_of_mem (h : Step r r') (hx : x ∉ r.registrations)
    (hx' : x ∈ r'.registrations) :
    ∃ op, r.contains op.name = false ∧ r' = r.add op ∧ x = r.next op := by
  cases h with
  | same => exact absurd hx' hx
  | add op free =>
    rw [add_registrations, List.mem_append, List.mem_singleton] at hx'
    exact ⟨op, free, rfl, hx'.resolve_left hx⟩
  | remove h => exact absurd (mem_remove.1 hx').1 hx

/-! ## Before and after -/

/-- **One registry precedes another** if what the other one holds it held as well, or is newer than
all that it ever held. -/
structure Precedes (r r' : Registry) : Prop where
  nextSerial_le : r.nextSerial ≤ r'.nextSerial
  old_or_new : ∀ x ∈ r'.registrations, x ∈ r.registrations ∨ r.nextSerial ≤ x.serial

theorem Precedes.refl (r : Registry) : r.Precedes r := ⟨Nat.le_refl _, fun _ => .inl⟩

theorem Precedes.step (h : r.Precedes r') (hs : Step r' r'') : r.Precedes r'' where
  nextSerial_le := Nat.le_trans h.nextSerial_le hs.nextSerial_le
  old_or_new x hx := by
    by_cases hold : x ∈ r'.registrations
    · exact h.old_or_new x hold
    · obtain ⟨op, -, -, rfl⟩ := hs.eq_add_of_mem hold hx
      exact .inr h.nextSerial_le

/-- What is gone before is gone after. -/
theorem Precedes.not_mem (h : r.Precedes r') (hx : x ∉ r.registrations)
    (hold : x.serial < r.nextSerial) : x ∉ r'.registrations := by
  intro hmem
  rcases h.old_or_new x hmem with hin | hnew
  · exact hx hin
  · exact Nat.not_lt.2 hnew hold

/-! ## Courses -/

/-- A registry moment by moment. -/
structure Course where
  registry : Nat → Registry
  start : registry 0 = .empty
  step : ∀ t, Step (registry t) (registry (t + 1))

namespace Course

variable {c : Course} {op : Operation} {x y : Registration} {t u m n : Nat}

/-- The `t`-th step makes a registration. -/
def MadeAt (c : Course) (t : Nat) (x : Registration) : Prop :=
  x ∉ (c.registry t).registrations ∧ x ∈ (c.registry (t + 1)).registrations

/-- The `t`-th step removes a registration. -/
def RemovedAt (c : Course) (t : Nat) (x : Registration) : Prop :=
  x ∈ (c.registry t).registrations ∧ x ∉ (c.registry (t + 1)).registrations

/-- The state of a run after `t + 1` actions is the one after `t` of them, moved by the next. -/
theorem foldl_take_succ {σ α : Type} (f : σ → α → σ) (s : σ) (l : List α) (t : Nat) :
    (l.take (t + 1)).foldl f s =
      (l[t]?.map fun a => f ((l.take t).foldl f s) a).getD ((l.take t).foldl f s) := by
  rw [List.take_add_one, List.foldl_append]
  cases l[t]? <;> rfl

/-- The course of a run, whose actions step the registry within its state. -/
def ofRun {σ α : Type} (f : σ → α → σ) (reg : σ → Registry) (s : σ) (start : reg s = .empty)
    (step : ∀ s a, Step (reg s) (reg (f s a))) (l : List α) : Course where
  registry t := reg ((l.take t).foldl f s)
  start := start
  step t := by
    rw [foldl_take_succ]
    cases l[t]? with
    | none => exact .same
    | some a => exact step _ a

/-! ## Every moment -/

theorem wellFormed (c : Course) (t : Nat) : (c.registry t).WellFormed := by
  induction t with
  | zero => rw [c.start]; exact .empty
  | succ t ih => exact Step.wellFormed (c.step t) ih

theorem nextSerial_mono (h : t ≤ u) :
    (c.registry t).nextSerial ≤ (c.registry u).nextSerial := by
  induction h with
  | refl => exact Nat.le_refl _
  | step _ ih => exact Nat.le_trans ih (Step.nextSerial_le (c.step _))

/-! ## Registrations as individuals -/

/-- Making is adding. -/
theorem MadeAt.eq_add (h : c.MadeAt t x) :
    ∃ op, (c.registry t).contains op.name = false ∧
      c.registry (t + 1) = (c.registry t).add op ∧ x = (c.registry t).next op :=
  Step.eq_add_of_mem (c.step t) h.1 h.2

/-- And adding is making. -/
theorem madeAt_of_add (h : c.registry (t + 1) = (c.registry t).add op) :
    c.MadeAt t ((c.registry t).next op) := by
  refine ⟨fun hx => ?_, ?_⟩
  · exact Nat.lt_irrefl _ ((c.wellFormed t).below _ hx)
  · rw [h]; simp

theorem MadeAt.serial_eq (h : c.MadeAt t x) :
    x.serial = (c.registry t).nextSerial ∧ (c.registry (t + 1)).nextSerial = x.serial + 1 := by
  obtain ⟨op, -, hr, rfl⟩ := h.eq_add
  rw [hr]
  exact ⟨rfl, rfl⟩

/-- What is made later has the greater serial number. -/
theorem MadeAt.serial_lt (hx : c.MadeAt t x) (hy : c.MadeAt u y) (h : t < u) :
    x.serial < y.serial := by
  have h1 := nextSerial_mono (c := c) (show t + 1 ≤ u from h)
  have h2 := hx.serial_eq.2
  have h3 := hy.serial_eq.1
  omega

/-- **A registration is made once.** -/
theorem MadeAt.unique (hx : c.MadeAt t x) (hy : c.MadeAt u x) : t = u := by
  rcases Nat.lt_trichotomy t u with h | h | h
  · exact absurd (hx.serial_lt hy h) (Nat.lt_irrefl _)
  · exact h
  · exact absurd (hy.serial_lt hx h) (Nat.lt_irrefl _)

/-- And its serial number stands for it over the whole course. -/
theorem MadeAt.eq_of_serial (hx : c.MadeAt t x) (hy : c.MadeAt u y) (h : x.serial = y.serial) :
    x = y := by
  rcases Nat.lt_trichotomy t u with htu | rfl | hut
  · exact absurd (hx.serial_lt hy htu) (by omega)
  · exact (c.wellFormed (t + 1)).eq_of_serial hx.2 hy.2 h
  · exact absurd (hy.serial_lt hx hut) (by omega)

/-- What was not there and is there now was made in between. -/
theorem exists_madeAt_between (hmn : m ≤ n) (hx : x ∉ (c.registry m).registrations)
    (hx' : x ∈ (c.registry n).registrations) : ∃ t, m ≤ t ∧ t < n ∧ c.MadeAt t x := by
  induction hmn with
  | refl => exact absurd hx' hx
  | @step n hmn ih =>
    by_cases hn : x ∈ (c.registry n).registrations
    · obtain ⟨t, hmt, htn, hmade⟩ := ih hn
      exact ⟨t, hmt, by omega, hmade⟩
    · exact ⟨n, hmn, Nat.lt_succ_self n, hn, hx'⟩

/-- What was there and is not there now was removed in between. -/
theorem exists_removedAt_between (hmn : m ≤ n) (hx : x ∈ (c.registry m).registrations)
    (hx' : x ∉ (c.registry n).registrations) : ∃ t, m ≤ t ∧ t < n ∧ c.RemovedAt t x := by
  induction hmn with
  | refl => exact absurd hx hx'
  | @step n hmn ih =>
    by_cases hn : x ∈ (c.registry n).registrations
    · exact ⟨n, hmn, Nat.lt_succ_self n, hn, hx'⟩
    · obtain ⟨t, hmt, htn, hgone⟩ := ih hn
      exact ⟨t, hmt, by omega, hgone⟩

/-- **Whatever is there was made by a step before.** -/
theorem exists_madeAt (hx : x ∈ (c.registry n).registrations) : ∃ t, t < n ∧ c.MadeAt t x := by
  have h0 : x ∉ (c.registry 0).registrations := by simp [c.start, Registry.empty]
  obtain ⟨t, -, htn, hmade⟩ := exists_madeAt_between (Nat.zero_le n) h0 hx
  exact ⟨t, htn, hmade⟩

/-- **The order of the list is the order of time.** -/
theorem pairwise_madeAt (c : Course) (n : Nat) :
    (c.registry n).registrations.Pairwise fun x y =>
      ∀ t u, c.MadeAt t x → c.MadeAt u y → t < u := by
  refine (c.wellFormed n).increasing.imp fun {x y} hlt t u hx hy => ?_
  rcases Nat.lt_trichotomy t u with h | rfl | h
  · exact h
  · exact absurd (hx.serial_eq.1.trans hy.serial_eq.1.symm) (by omega)
  · exact absurd (hy.serial_lt hx h) (by omega)

end Course

end Registry

end Switchboard
