import Switchboard.Proofs.Registry.Course
/-!
# Sessions with a registry

A session is a registry in use: its clients register operations, some of them
for good, and keep the handles they are given, which they may use at any time
and any number of times. `step_cases` says what a call can come to, and
`Sound` what every call keeps of the handles: each was issued for a
registration of its own.
-/

namespace Switchboard

open Registry

/-- A registry in use, and the handles that it has issued, in the order of issue. -/
structure Session where
  registry : Registry := .empty
  handles : List Handle := []

namespace Session

/-- What a client may ask of a registry. A handle is named by its place in the order of issue. -/
inductive Call where
  | register (op : Operation)
  | registerPermanently (op : Operation)
  | revoke (i : Nat)

/-- What a client is told. -/
inductive Answer where
  /-- The operation is registered, with the handle of this number. -/
  | issued (i : Nat)
  /-- The operation is registered for good. -/
  | kept
  | refused (cause : CallError)
  /-- Whether the revocation removed the operation. -/
  | revoked (removed : Bool)
  /-- No such handle has been issued. -/
  | noHandle

/-- A call and what comes of it. -/
def call (s : Session) : Call → Answer × Session
  | .register op =>
    match s.registry.register op with
    | .ok (h, r) => (.issued s.handles.length, ⟨r, s.handles ++ [h]⟩)
    | .error e => (.refused e, s)
  | .registerPermanently op =>
    match s.registry.registerPermanently op with
    | .ok r => (.kept, { s with registry := r })
    | .error e => (.refused e, s)
  | .revoke i =>
    match s.handles[i]? with
    | some h =>
      (.revoked (s.registry.revoke h).1,
        ⟨(s.registry.revoke h).2.2, s.handles.set i (s.registry.revoke h).2.1⟩)
    | none => (.noHandle, s)

/-- The session after one more call. -/
def step (s : Session) (c : Call) : Session := (s.call c).2

/-- The session after some more calls. -/
def run (s : Session) (calls : List Call) : Session := calls.foldl step s

/-- The session after some calls, from the empty registry on. -/
def after (calls : List Call) : Session := run {} calls

variable {s : Session} {c : Call} {op : Operation} {h : Handle} {x : Registration} {i : Nat}

/-! ## What a call does -/

theorem call_register_of_free (hf : s.registry.contains op.name = false) :
    s.call (.register op) = (.issued s.handles.length,
      ⟨s.registry.add op, s.handles ++ [handleOf (s.registry.next op)]⟩) := by
  rw [call, register_of_free hf]

theorem call_register_of_taken (ht : s.registry.contains op.name = true) :
    s.call (.register op) = (.refused (.duplicateOperation op.name), s) := by
  rw [call, register_of_taken ht]

theorem call_registerPermanently_of_free (hf : s.registry.contains op.name = false) :
    s.call (.registerPermanently op) = (.kept, { s with registry := s.registry.add op }) := by
  rw [call, registerPermanently_of_free hf]

theorem call_registerPermanently_of_taken (ht : s.registry.contains op.name = true) :
    s.call (.registerPermanently op) = (.refused (.duplicateOperation op.name), s) := by
  rw [call, registerPermanently_of_taken ht]

theorem call_revoke (hh : s.handles[i]? = some h) :
    s.call (.revoke i) = (.revoked (s.registry.revoke h).1,
      ⟨(s.registry.revoke h).2.2, s.handles.set i (s.registry.revoke h).2.1⟩) := by
  rw [call, hh]

theorem call_revoke_of_none (hh : s.handles[i]? = none) :
    s.call (.revoke i) = (.noHandle, s) := by
  rw [call, hh]

/-- The four things that a call can come to: nothing, a registration with or without a handle,
and the use of a handle. -/
theorem step_cases (s : Session) (c : Call) :
    s.step c = s ∨
    (∃ op, c = .register op ∧ s.registry.contains op.name = false ∧
      s.step c = ⟨s.registry.add op, s.handles ++ [handleOf (s.registry.next op)]⟩) ∨
    (∃ op, c = .registerPermanently op ∧ s.registry.contains op.name = false ∧
      s.step c = { s with registry := s.registry.add op }) ∨
    (∃ i h, c = .revoke i ∧ s.handles[i]? = some h ∧ h.revoked = false ∧
      s.step c = ⟨s.registry.remove h, s.handles.set i { h with revoked := true }⟩) := by
  unfold step
  cases c with
  | register op =>
    cases hc : s.registry.contains op.name with
    | true => exact .inl (by rw [call_register_of_taken hc])
    | false => exact .inr (.inl ⟨op, rfl, hc, by rw [call_register_of_free hc]⟩)
  | registerPermanently op =>
    cases hc : s.registry.contains op.name with
    | true => exact .inl (by rw [call_registerPermanently_of_taken hc])
    | false => exact .inr (.inr (.inl ⟨op, rfl, hc, by rw [call_registerPermanently_of_free hc]⟩))
  | revoke i =>
    cases hh : s.handles[i]? with
    | none => exact .inl (by rw [call_revoke_of_none hh])
    | some h =>
      rw [call_revoke hh]
      cases hu : h.revoked with
      | true =>
        refine .inl ?_
        rw [revoke_of_revoked hu]
        obtain ⟨hi, rfl⟩ := List.getElem?_eq_some_iff.1 hh
        simp
      | false => exact .inr (.inr (.inr ⟨i, h, rfl, hh, hu, by rw [revoke_of_fresh hu]⟩))

/-- A call takes one step with the registry. -/
theorem step_registry (s : Session) (c : Call) : Step s.registry (s.step c).registry := by
  rcases step_cases s c with h | ⟨op, -, hf, h⟩ | ⟨op, -, hf, h⟩ | ⟨i, k, -, -, -, h⟩
  · rw [h]; exact .same
  · rw [h]; exact .add op hf
  · rw [h]; exact .add op hf
  · rw [h]; exact .remove k

/-- The registry of a session over its calls. -/
def course (calls : List Call) : Course :=
  .ofRun step (·.registry) {} rfl step_registry calls

/-- What the `t`-th call was told. -/
def answerAt (calls : List Call) (t : Nat) : Option Answer :=
  calls[t]?.map fun c => ((after (calls.take t)).call c).1

/-! ## What every call keeps -/

/-- Handles are issued for registrations that have been made, and each for one of its own. -/
structure Sound (s : Session) : Prop where
  wellFormed : s.registry.WellFormed
  below : ∀ h ∈ s.handles, h.serial < s.registry.nextSerial
  apart : (s.handles.map (·.serial)).Nodup

theorem Sound.start : Sound {} where
  wellFormed := .empty
  below := by simp
  apart := by simp

/-- Using a handle leaves its serial number. -/
theorem map_serial_set (hh : s.handles[i]? = some h) :
    (s.handles.set i { h with revoked := true }).map (·.serial) = s.handles.map (·.serial) := by
  obtain ⟨hi, rfl⟩ := List.getElem?_eq_some_iff.1 hh
  have hself := List.set_getElem_self (show i < (s.handles.map (·.serial)).length by simpa using hi)
  rw [List.getElem_map] at hself
  rw [List.map_set, hself]

/-- So the serial numbers of the handles stay the same. -/
theorem exists_mem_of_mem_set (hh : s.handles[i]? = some h) {k : Handle}
    (hk : k ∈ s.handles.set i { h with revoked := true }) :
    ∃ k₀ ∈ s.handles, k₀.serial = k.serial := by
  have hmem : k.serial ∈ s.handles.map (·.serial) := map_serial_set hh ▸ List.mem_map_of_mem hk
  exact List.mem_map.1 hmem

theorem Sound.step (hs : s.Sound) (c : Call) : (s.step c).Sound := by
  rcases step_cases s c with h | ⟨op, -, hf, h⟩ | ⟨op, -, hf, h⟩ | ⟨i, k, -, hk, -, h⟩
  · rw [h]; exact hs
  · rw [h]
    refine ⟨hs.wellFormed.add hf, fun k hk => ?_, ?_⟩
    · rw [List.mem_append, List.mem_singleton] at hk
      rcases hk with hk | rfl
      · exact Nat.lt_succ_of_lt (hs.below k hk)
      · exact Nat.lt_succ_self _
    · rw [List.map_append, List.nodup_append]
      refine ⟨hs.apart, by simp, fun a ha b hb => ?_⟩
      obtain ⟨k, hk, rfl⟩ := List.mem_map.1 ha
      rw [List.map_singleton, List.mem_singleton] at hb
      exact hb ▸ Nat.ne_of_lt (hs.below k hk)
  · rw [h]
    exact ⟨hs.wellFormed.add hf, fun k hk => Nat.lt_succ_of_lt (hs.below k hk), hs.apart⟩
  · rw [h]
    refine ⟨hs.wellFormed.remove, fun k' hk' => ?_, by rw [map_serial_set hk]; exact hs.apart⟩
    obtain ⟨k₀, hk₀, heq⟩ := exists_mem_of_mem_set hk hk'
    exact heq ▸ hs.below k₀ hk₀

theorem Sound.run (hs : s.Sound) (calls : List Call) : (s.run calls).Sound := by
  induction calls generalizing s with
  | nil => exact hs
  | cons c rest ih => exact ih (hs.step c)

theorem sound_after (calls : List Call) : (after calls).Sound := Sound.start.run calls

/-- Different handles were issued for different registrations. -/
theorem Sound.serial_ne (hs : s.Sound) {j : Nat} {k : Handle} (hh : s.handles[i]? = some h)
    (hk : s.handles[j]? = some k) (hij : i ≠ j) : h.serial ≠ k.serial := by
  intro heq
  have hi : i < (s.handles.map (·.serial)).length := by
    rw [List.length_map]
    exact (List.getElem?_eq_some_iff.1 hh).1
  refine hij ((List.getElem?_inj hi hs.apart).1 ?_)
  rw [List.getElem?_map, List.getElem?_map, hh, hk, Option.map_some, Option.map_some, heq]

end Session

end Switchboard
