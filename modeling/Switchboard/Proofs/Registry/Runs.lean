import Switchboard.Proofs.Registry.Session
/-!
# Sessions over whole runs

`RunLaws` says what holds of a registry after every sequence of calls, and
`runLaws` that it does. Three things are carried from call to call: a
registration stands as long as its handle has not been used (`Held`), a handle
that has been used is of no use any more and what it was issued for is gone
(`Spent`), and a registration that no handle was issued for stands for ever
(`Kept`).
-/

namespace Switchboard

open Registry

namespace Session

variable {s : Session} {c : Call} {op : Operation} {h : Handle} {x : Registration} {i t : Nat}
variable {calls : List Call}

/-! ## What becomes of a registration -/

/-- A registration stands, and its handle has not been used. -/
structure Held (s : Session) (i : Nat) (x : Registration) : Prop where
  handle : s.handles[i]? = some (handleOf x)
  listed : x ∈ s.registry.registrations

/-- A handle has been used, and what it was issued for is gone. -/
structure Spent (s : Session) (i : Nat) (x : Registration) : Prop where
  handle : ∃ h, s.handles[i]? = some h ∧ h.revoked = true
  gone : x ∉ s.registry.registrations
  old : x.serial < s.registry.nextSerial

/-- A registration stands, and no handle was issued for it. -/
structure Kept (s : Session) (x : Registration) : Prop where
  listed : x ∈ s.registry.registrations
  unclaimed : ∀ h ∈ s.handles, h.serial ≠ x.serial

/-- Removing for a handle with another serial number leaves a registration. -/
theorem mem_remove_of_serial_ne {r : Registry} (hx : x ∈ r.registrations)
    (hne : h.serial ≠ x.serial) : x ∈ (r.remove h).registrations := by
  rw [mem_remove]
  exact ⟨hx, Bool.eq_false_iff.2 fun hc => hne (issuedFor_iff.1 hc).2.symm⟩

/-- **A registration stands until its own handle is used.** -/
theorem Held.step (hx : s.Held i x) (hs : s.Sound) (hc : c ≠ .revoke i) :
    (s.step c).Held i x := by
  rcases step_cases s c with h | ⟨op, -, -, h⟩ | ⟨op, -, -, h⟩ | ⟨j, k, rfl, hk, -, h⟩
  · rw [h]; exact hx
  · rw [h]
    refine ⟨?_, by simp [hx.listed]⟩
    have hi := (List.getElem?_eq_some_iff.1 hx.handle).1
    rw [List.getElem?_append_left hi]
    exact hx.handle
  · rw [h]
    exact ⟨hx.handle, by simp [hx.listed]⟩
  · -- another handle is used, and it was issued for another registration
    have hij : j ≠ i := fun heq => hc (by rw [heq])
    rw [h]
    refine ⟨?_, mem_remove_of_serial_ne hx.listed (hs.serial_ne hk hx.handle hij)⟩
    rw [List.getElem?_set_ne hij]
    exact hx.handle

/-- Using the handle of a registration spends it. -/
theorem Held.spend (hx : s.Held i x) (hs : s.Sound) : (s.step (.revoke i)).Spent i x := by
  have hi := (List.getElem?_eq_some_iff.1 hx.handle).1
  rw [Session.step, call_revoke hx.handle, revoke_of_fresh rfl]
  refine ⟨⟨_, List.getElem?_set_self hi, rfl⟩, fun hmem => ?_, hs.wellFormed.below x hx.listed⟩
  have := (mem_remove.1 hmem).2
  rw [issuedFor_handleOf] at this
  exact Bool.noConfusion this

theorem Spent.step (hx : s.Spent i x) (c : Call) : (s.step c).Spent i x := by
  obtain ⟨⟨k, hk, hu⟩, hgone, hold⟩ := hx
  have hi := (List.getElem?_eq_some_iff.1 hk).1
  have hadd (op : Operation) : x ∉ (s.registry.add op).registrations := by
    rw [add_registrations, List.mem_append, List.mem_singleton, not_or]
    exact ⟨hgone, fun heq => Nat.lt_irrefl _ (heq ▸ hold)⟩
  rcases step_cases s c with h | ⟨op, -, -, h⟩ | ⟨op, -, -, h⟩ | ⟨j, k', -, hk', hf, h⟩
  · rw [h]; exact ⟨⟨k, hk, hu⟩, hgone, hold⟩
  · rw [h]
    exact ⟨⟨k, by rw [List.getElem?_append_left hi]; exact hk, hu⟩, hadd op, Nat.lt_succ_of_lt hold⟩
  · rw [h]
    exact ⟨⟨k, hk, hu⟩, hadd op, Nat.lt_succ_of_lt hold⟩
  · -- the handle that is used is fresh, so it is not this one
    have hji : j ≠ i := by
      rintro rfl
      rw [hk] at hk'
      cases hk'
      rw [hu] at hf
      exact Bool.noConfusion hf
    rw [h]
    exact ⟨⟨k, by rw [List.getElem?_set_ne hji]; exact hk, hu⟩,
      fun hmem => hgone (mem_remove.1 hmem).1, hold⟩

/-- **A registration for good stands for ever.** -/
theorem Kept.step (hx : s.Kept x) (hs : s.Sound) (c : Call) : (s.step c).Kept x := by
  rcases step_cases s c with h | ⟨op, -, -, h⟩ | ⟨op, -, -, h⟩ | ⟨j, k, -, hk, -, h⟩
  · rw [h]; exact hx
  · rw [h]
    refine ⟨by simp [hx.listed], fun k hk => ?_⟩
    rw [List.mem_append, List.mem_singleton] at hk
    rcases hk with hk | rfl
    · exact hx.unclaimed k hk
    · exact Nat.ne_of_gt (hs.wellFormed.below x hx.listed)
  · rw [h]
    exact ⟨by simp [hx.listed], hx.unclaimed⟩
  · have hmem : k ∈ s.handles := List.mem_of_getElem? hk
    rw [h]
    refine ⟨mem_remove_of_serial_ne hx.listed (hx.unclaimed k hmem), fun k' hk' => ?_⟩
    obtain ⟨k₀, hk₀, heq⟩ := exists_mem_of_mem_set hk hk'
    exact heq ▸ hx.unclaimed k₀ hk₀

/-! ## Over more calls -/

theorem Held.run (hx : s.Held i x) (hs : s.Sound) (hc : .revoke i ∉ calls) :
    (s.run calls).Held i x := by
  induction calls generalizing s with
  | nil => exact hx
  | cons c rest ih =>
    rw [List.mem_cons, not_or] at hc
    exact ih (hx.step hs (Ne.symm hc.1)) (hs.step c) hc.2

theorem Spent.run (hx : s.Spent i x) (calls : List Call) : (s.run calls).Spent i x := by
  induction calls generalizing s with
  | nil => exact hx
  | cons c rest ih => exact ih (hx.step c)

theorem Held.run_of_mem (hx : s.Held i x) (hs : s.Sound) (hc : .revoke i ∈ calls) :
    (s.run calls).Spent i x := by
  induction calls generalizing s with
  | nil => simp at hc
  | cons c rest ih =>
    by_cases hci : c = .revoke i
    · subst hci
      exact (hx.spend hs).run rest
    · exact ih (hx.step hs hci) (hs.step c) ((List.mem_cons.1 hc).resolve_left (Ne.symm hci))

theorem Kept.run (hx : s.Kept x) (hs : s.Sound) (calls : List Call) : (s.run calls).Kept x := by
  induction calls generalizing s with
  | nil => exact hx
  | cons c rest ih => exact ih (hx.step hs c) (hs.step c)

/-- A run is the calls up to one of them, that one, and those behind it. -/
theorem after_eq_run (hc : calls[t]? = some c) :
    after calls = ((after (calls.take t)).step c).run (calls.drop (t + 1)) := by
  obtain ⟨ht, rfl⟩ := List.getElem?_eq_some_iff.1 hc
  calc after calls = after (calls.take t ++ calls.drop t) := by rw [List.take_append_drop]
    _ = (after (calls.take t)).run (calls.drop t) := by
      rw [after, after, Session.run, List.foldl_append]; rfl
    _ = _ := by rw [List.drop_eq_getElem_cons ht]; rfl

theorem course_succ (hc : calls[t]? = some c) :
    (course calls).registry (t + 1) = ((after (calls.take t)).step c).registry := by
  change ((calls.take (t + 1)).foldl step {}).registry = _
  rw [Course.foldl_take_succ, hc]
  rfl

theorem course_length (calls : List Call) :
    (course calls).registry calls.length = (after calls).registry := by
  change ((calls.take calls.length).foldl step {}).registry = _
  rw [List.take_length]
  rfl

/-- **Only a call that registers an operation makes its registration.** -/
theorem call_of_madeAt (hx : (course calls).MadeAt t x) :
    calls[t]? = some (.register x.operation) ∨
      calls[t]? = some (.registerPermanently x.operation) := by
  cases hc : calls[t]? with
  | none =>
    have hsame : (course calls).registry (t + 1) = (course calls).registry t := by
      change ((calls.take (t + 1)).foldl step {}).registry = _
      rw [Course.foldl_take_succ, hc]
      rfl
    exact absurd (hsame ▸ hx.2) hx.1
  | some c =>
    obtain ⟨hold, hnew⟩ := hx
    rw [course_succ hc] at hnew
    change x ∉ (after (calls.take t)).registry.registrations at hold
    have hop {op : Operation}
        (hmem : x ∈ ((after (calls.take t)).registry.add op).registrations) :
        op = x.operation := by
      rw [add_registrations, List.mem_append, List.mem_singleton] at hmem
      rw [hmem.resolve_left hold, next_operation]
    rcases step_cases (after (calls.take t)) c with
      h | ⟨op, rfl, -, h⟩ | ⟨op, rfl, -, h⟩ | ⟨j, k, -, -, -, h⟩ <;> rw [h] at hnew
    · exact absurd hnew hold
    · exact .inl (by rw [hop hnew])
    · exact .inr (by rw [hop hnew])
    · exact absurd (mem_remove.1 hnew).1 hold

/-- **A handle is issued for the registration that its call makes.** -/
theorem exists_held_of_issued (hc : calls[t]? = some (.register op))
    (ha : answerAt calls t = some (.issued i)) :
    ∃ x, (course calls).MadeAt t x ∧ x.operation = op ∧
      ((after (calls.take t)).step (.register op)).Held i x := by
  rw [answerAt, hc, Option.map_some, Option.some.injEq] at ha
  cases hf : (after (calls.take t)).registry.contains op.name with
  | true => rw [call_register_of_taken hf] at ha; exact Answer.noConfusion ha
  | false =>
    have hstep := course_succ hc
    rw [step, call_register_of_free hf] at hstep
    rw [call_register_of_free hf] at ha
    injection ha with hi
    subst hi
    rw [step, call_register_of_free hf]
    exact ⟨(after (calls.take t)).registry.next op, Course.madeAt_of_add hstep, rfl,
      by simp, by simp⟩

/-- And no handle is ever issued for a registration for good. -/
theorem exists_kept_of_kept (hc : calls[t]? = some (.registerPermanently op))
    (ha : answerAt calls t = some .kept) :
    ∃ x, (course calls).MadeAt t x ∧ x.operation = op ∧
      ((after (calls.take t)).step (.registerPermanently op)).Kept x := by
  rw [answerAt, hc, Option.map_some, Option.some.injEq] at ha
  cases hf : (after (calls.take t)).registry.contains op.name with
  | true => rw [call_registerPermanently_of_taken hf] at ha; exact Answer.noConfusion ha
  | false =>
    have hstep := course_succ hc
    rw [step, call_registerPermanently_of_free hf] at hstep
    rw [step, call_registerPermanently_of_free hf]
    refine ⟨(after (calls.take t)).registry.next op, Course.madeAt_of_add hstep, rfl,
      by simp, fun k hk => ?_⟩
    exact Nat.ne_of_lt ((sound_after _).below k hk)

/-- A used handle does nothing. -/
theorem Spent.call_revoke (hx : s.Spent i x) : s.call (.revoke i) = (.revoked false, s) := by
  obtain ⟨⟨k, hk, hu⟩, -, -⟩ := hx
  rw [Session.call_revoke hk, revoke_of_revoked hu]
  obtain ⟨hi, rfl⟩ := List.getElem?_eq_some_iff.1 hk
  simp

/-- A handle that has not been used removes its registration and nothing else. -/
theorem Held.call_revoke (hx : s.Held i x) (hs : s.Sound) :
    ∃ before behind, s.registry.registrations = before ++ x :: behind ∧
      (s.call (.revoke i)).1 = .revoked true ∧
      (s.step (.revoke i)).registry.registrations = before ++ behind := by
  obtain ⟨before, behind, hsplit, hrem, hrev⟩ :=
    hs.wellFormed.revoke_of_mem rfl hx.listed issuedFor_handleOf
  rw [Session.step, Session.call_revoke hx.handle, hrev]
  exact ⟨before, behind, hsplit, rfl, hrem⟩

/-! ## The laws of a run -/

/-- **What holds of a registry after some calls.** -/
structure RunLaws (calls : List Call) : Prop where
  /-- No two operations have one name. -/
  distinct : ((after calls).registry.operations.map (·.name)).Nodup
  /-- Each listed registration was made by one call, which registered its operation. -/
  made_once : ∀ x ∈ (after calls).registry.registrations, ∃ t, (course calls).MadeAt t x ∧
    (∀ u, (course calls).MadeAt u x → u = t) ∧
    (calls[t]? = some (.register x.operation) ∨
      calls[t]? = some (.registerPermanently x.operation))
  /-- The order of the list is the order of registration in time. -/
  in_order : (after calls).registry.registrations.Pairwise fun x y =>
    ∀ t u, (course calls).MadeAt t x → (course calls).MadeAt u y → t < u
  size_eq : (after calls).registry.size = (after calls).registry.operations.length
  /-- What is found under a name is the listed operation of that name. -/
  found_iff : ∀ name op, (after calls).registry.lookup? name = some op ↔
    op ∈ (after calls).registry.operations ∧ op.name = name
  contained_iff : ∀ name, (after calls).registry.contains name = true ↔
    ∃ op ∈ (after calls).registry.operations, op.name = name
  /-- A taken name is refused, and nothing changes. -/
  taken : ∀ op, (∃ o ∈ (after calls).registry.operations, o.name = op.name) →
    (after calls).call (.register op) = (.refused (.duplicateOperation op.name), after calls) ∧
    (after calls).call (.registerPermanently op) =
      (.refused (.duplicateOperation op.name), after calls)
  /-- A free name is given, at the end of the list. -/
  free : ∀ op, (∀ o ∈ (after calls).registry.operations, o.name ≠ op.name) →
    (∃ i, ((after calls).call (.register op)).1 = .issued i) ∧
    ((after calls).call (.registerPermanently op)).1 = .kept ∧
    ((after calls).step (.register op)).registry.operations =
      (after calls).registry.operations ++ [op] ∧
    ((after calls).step (.registerPermanently op)).registry.operations =
      (after calls).registry.operations ++ [op]
  /-- The first use of a handle removes the registration it was issued for and leaves the others
  in their order; every later use does nothing. -/
  handle : ∀ t op i, calls[t]? = some (.register op) → answerAt calls t = some (.issued i) →
    ∃ x, (course calls).MadeAt t x ∧ x.operation = op ∧
      (.revoke i ∉ calls.drop (t + 1) → ∃ before behind,
        (after calls).registry.registrations = before ++ x :: behind ∧
        ((after calls).call (.revoke i)).1 = .revoked true ∧
        ((after calls).step (.revoke i)).registry.registrations = before ++ behind) ∧
      (.revoke i ∈ calls.drop (t + 1) → x ∉ (after calls).registry.registrations ∧
        (after calls).call (.revoke i) = (.revoked false, after calls))
  /-- What was registered for good is listed. -/
  for_good : ∀ t op, calls[t]? = some (.registerPermanently op) →
    answerAt calls t = some .kept →
    ∃ x, (course calls).MadeAt t x ∧ x.operation = op ∧
      x ∈ (after calls).registry.registrations

/-- **The laws hold of every run.** -/
theorem runLaws (calls : List Call) : RunLaws calls where
  distinct := (sound_after calls).wellFormed.distinct
  made_once x hx := by
    rw [← course_length] at hx
    obtain ⟨t, -, hmade⟩ := Course.exists_madeAt hx
    exact ⟨t, hmade, fun u hu => hu.unique hmade, call_of_madeAt hmade⟩
  in_order := by
    rw [← course_length]
    exact (course calls).pairwise_madeAt calls.length
  size_eq := size_eq_length
  found_iff _ _ := lookup?_eq_some_iff (sound_after calls).wellFormed.distinct
  contained_iff _ := contains_iff
  taken op ht := ⟨call_register_of_taken (contains_iff.2 ht),
    call_registerPermanently_of_taken (contains_iff.2 ht)⟩
  free op hf := by
    have hc := contains_eq_false_iff.2 hf
    rw [step, step, call_register_of_free hc, call_registerPermanently_of_free hc]
    exact ⟨⟨_, rfl⟩, rfl, add_operations, add_operations⟩
  handle t op i hc ha := by
    obtain ⟨x, hmade, hop, hheld⟩ := exists_held_of_issued hc ha
    have hs := (sound_after (calls.take t)).step (.register op)
    refine ⟨x, hmade, hop, fun hno => ?_, fun hyes => ?_⟩
    · rw [after_eq_run hc]
      exact (hheld.run hs hno).call_revoke (hs.run _)
    · rw [after_eq_run hc]
      have hspent := hheld.run_of_mem hs hyes
      exact ⟨hspent.gone, hspent.call_revoke⟩
  for_good t op hc ha := by
    obtain ⟨x, hmade, hop, hkept⟩ := exists_kept_of_kept hc ha
    have hs := (sound_after (calls.take t)).step (.registerPermanently op)
    rw [after_eq_run hc]
    exact ⟨x, hmade, hop, (hkept.run hs _).listed⟩

end Session

end Switchboard
