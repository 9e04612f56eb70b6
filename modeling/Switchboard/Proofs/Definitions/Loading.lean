import Switchboard.Definitions.Loader
import Switchboard.Proofs.Definitions.Validity
import Switchboard.Proofs.Registry.Course
/-!
# Loading, all or nothing

What a load comes to when its steps are taken in a row. Undoing gives back the
registrations that stood before the load (`finish_undoing`): the handles at
hand are those of the registrations behind them, one for one. So a load whose
names are free and all different installs every operation
(`finish_of_free`), and any other load leaves the list as it found it
(`finish_of_taken`), wherever in the document the conflict is.
-/

namespace Switchboard

open Registry

namespace Loading

variable {x : Loading} {r : Registry} {op : Operation} {ops : List Operation}
variable {base xs : List Registration} {l : List Handle} {cause : CallError}

/-! ## One step after the other -/

/-- A load that is not over goes on with its next step; one that is over stays as it is. -/
theorem finish_step (x : Loading) (r : Registry) :
    x.finish r = (x.step r).1.finish (x.step r).2 := by
  cases x with
  | installing pending installed => rw [finish]
  | undoing cause handles => rw [finish]
  | ended result => rfl

@[simp] theorem finish_ended (result : Except LoadError (List Handle)) (r : Registry) :
    (ended result).finish r = (result, r) := by
  rw [finish]

/-- Each step of a load is one step with the registry. -/
theorem step_registry (x : Loading) (r : Registry) : Step r (x.step r).2 := by
  cases x with
  | installing pending installed =>
    cases pending with
    | nil => exact .same
    | cons op pending =>
      cases hc : r.contains op.name with
      | true => rw [step, register_of_taken hc]; exact .same
      | false => rw [step, register_of_free hc]; exact .add op hc
  | undoing cause handles =>
    cases handles with
    | nil => exact .same
    | cons h handles => exact step_revoke r h
  | ended result => exact .same

/-- What every step with a registry keeps, a whole load keeps. -/
theorem finish_keeps {P : Registry → Prop} (hP : ∀ r r', Step r r' → P r → P r') (hr : P r) :
    P (x.finish r).2 := by
  fun_induction finish x r with
  | case1 r result => exact hr
  | case2 r pending installed ih => exact ih (hP _ _ (step_registry _ r) hr)
  | case3 r cause handles ih => exact ih (hP _ _ (step_registry _ r) hr)

theorem finish_wellFormed (w : r.WellFormed) : (x.finish r).2.WellFormed :=
  finish_keeps (fun _ _ h w => h.wellFormed w) w

theorem precedes_finish (x : Loading) (r : Registry) : r.Precedes (x.finish r).2 :=
  finish_keeps (fun _ _ hs h => h.step hs) (.refl r)

/-! ## Undoing -/

/-- **Undoing leaves what stood before the load.** -/
theorem finish_undoing (w : r.WellFormed) (hr : r.registrations = base ++ xs) :
    (undoing cause (xs.map handleOf)).finish r =
      (.error (.registration cause), { r with registrations := base }) := by
  induction xs generalizing r with
  | nil =>
    rw [finish_step, List.map_nil, step, finish_ended, ← List.append_nil base, ← hr]
  | cons x rest ih =>
    have hrem := w.remove_of_split hr issuedFor_handleOf
    rw [finish_step, List.map_cons, step, revoke_of_fresh rfl]
    exact ih w.remove hrem

/-! ## Installing -/

/-- The names of some operations are free and all different. -/
structure Free (r : Registry) (ops : List Operation) : Prop where
  distinct : (ops.map (·.name)).Nodup
  free : ∀ op ∈ ops, r.contains op.name = false

/-- After the first operation is added, the names behind it are free exactly when all were. -/
theorem free_cons (hf : r.contains op.name = false) :
    Free r (op :: ops) ↔ Free (r.add op) ops := by
  have hadd {o : Operation} : (r.add op).contains o.name = false ↔
      r.contains o.name = false ∧ op.name ≠ o.name := by
    rw [contains_eq_false_iff, contains_eq_false_iff, add_operations]
    simp only [List.mem_append, List.mem_singleton]
    constructor
    · intro h
      exact ⟨fun o' ho' => h o' (.inl ho'), h op (.inr rfl)⟩
    · rintro ⟨h, hne⟩ o' (ho' | rfl)
      · exact h o' ho'
      · exact hne
  constructor
  · rintro ⟨hd, hfree⟩
    rw [List.map_cons, List.nodup_cons] at hd
    refine ⟨hd.2, fun o ho => hadd.2 ⟨hfree o (List.mem_cons_of_mem _ ho), fun heq => ?_⟩⟩
    exact hd.1 (heq ▸ List.mem_map_of_mem ho)
  · rintro ⟨hd, hfree⟩
    refine ⟨?_, fun o ho => ?_⟩
    · rw [List.map_cons, List.nodup_cons]
      refine ⟨fun hmem => ?_, hd⟩
      obtain ⟨o, ho, heq⟩ := List.mem_map.1 hmem
      exact (hadd.1 (hfree o ho)).2 heq.symm
    · rcases List.mem_cons.1 ho with rfl | ho
      · exact hf
      · exact (hadd.1 (hfree o ho)).1

/-- **Free names are all given,** in their order and at the end of the list. -/
theorem finish_of_free (h : Free r ops) :
    ∃ ys, ys.map (·.operation) = ops ∧
      ((installing ops l).finish r).1 = .ok (l ++ ys.map handleOf) ∧
      ((installing ops l).finish r).2.registrations = r.registrations ++ ys := by
  induction ops generalizing r l with
  | nil =>
    refine ⟨[], rfl, ?_⟩
    rw [finish_step, step, finish_ended]
    simp
  | cons op rest ih =>
    have hf := h.free op List.mem_cons_self
    obtain ⟨ys, hops, hres, hreg⟩ := ih (l := l ++ [handleOf (r.next op)]) ((free_cons hf).1 h)
    refine ⟨r.next op :: ys, by rw [List.map_cons, hops, next_operation], ?_⟩
    rw [finish_step, step, register_of_free hf]
    refine ⟨?_, ?_⟩
    · rw [hres]; simp
    · rw [hreg]; simp

/-- **A name that is taken undoes the whole load,** be it taken in the registry or by the load
itself. -/
theorem finish_of_taken (w : r.WellFormed) (hr : r.registrations = base ++ xs)
    (h : ¬ Free r ops) :
    ∃ name, ((installing ops (xs.map handleOf)).finish r).1 =
        .error (.registration (.duplicateOperation name)) ∧
      ((installing ops (xs.map handleOf)).finish r).2.registrations = base := by
  induction ops generalizing r xs with
  | nil => exact absurd ⟨by simp, by simp⟩ h
  | cons op rest ih =>
    -- either this operation is refused, or one behind it
    cases hc : r.contains op.name with
    | true =>
      rw [finish_step, step, register_of_taken hc]
      exact ⟨op.name, by rw [finish_undoing w hr], by rw [finish_undoing w hr]⟩
    | false =>
      have hr' : (r.add op).registrations = base ++ (xs ++ [r.next op]) := by
        rw [add_registrations, hr, List.append_assoc]
      rw [finish_step, step, register_of_free hc]
      have := ih (w.add hc) hr' fun hfree => h ((free_cons hc).2 hfree)
      rwa [List.map_append, List.map_singleton] at this

end Loading

namespace Loader

variable {r : Registry} {P : Registry → Prop}

/-- What every step with a registry keeps, revoking any number of handles keeps, -/
theorem revokeAll_keeps (hP : ∀ r r', Step r r' → P r → P r') (handles : List Handle) (hr : P r) :
    P (revokeAll handles r).2 := by
  induction handles generalizing r with
  | nil => exact hr
  | cons h rest ih => exact ih (hP _ _ (step_revoke r h) hr)

/-- and so does a load, whatever becomes of it. -/
theorem load_keeps (hP : ∀ r r', Step r r' → P r → P r') (l : Loader) (text : String) (hr : P r) :
    P (l.load r text).2.2 := by
  have hfinish := Loading.finish_keeps (x := .start text) hP hr
  rw [load]
  cases hload : (Loading.start text).finish r with
  | mk result r' =>
    rw [hload] at hfinish
    cases result with
    | ok handles => exact hfinish
    | error e => exact hfinish

/-- Handles that have not been used count as installed, all of them. -/
theorem installed_append (handles : List Handle) (ys : List Registration) :
    (⟨handles ++ ys.map handleOf⟩ : Loader).installed =
      (⟨handles⟩ : Loader).installed ++ (ys.map (·.operation)).map (·.name) := by
  have hfresh : ∀ k ∈ ys.map handleOf, (!k.revoked) = true := by
    intro k hk
    obtain ⟨y, -, rfl⟩ := List.mem_map.1 hk
    rfl
  rw [installed, installed, List.filter_append, List.filter_eq_self.2 hfresh, List.map_append,
    List.map_map, List.map_map]
  rfl

end Loader

end Switchboard
