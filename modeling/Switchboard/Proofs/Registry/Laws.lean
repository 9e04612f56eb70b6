import Switchboard.Registry.Basic
/-!
# Laws of the registry

A registry changes in two ways only: an operation comes in at the end
(`add`), or the registration that a handle was issued for goes out (`remove`).
Registering and revoking are stated in terms of these, once, and everything
else about the registry is read off them. `WellFormed` is what both keep:
serial numbers grow in the order of registration and stay below the next
one, and no two operations have one name.
-/

namespace Switchboard

namespace Registry

variable {r : Registry} {op : Operation} {h : Handle} {x y : Registration} {name : String}

/-! ## Looking up -/

@[simp] theorem operations_empty : Registry.empty.operations = [] := rfl

theorem mem_operations : op ∈ r.operations ↔ ∃ x ∈ r.registrations, x.operation = op := by
  simp [operations]

theorem size_eq_length : r.size = r.operations.length := by
  simp [size, operations]

/-- There is an operation of a name exactly when one is listed under it. -/
theorem contains_iff : r.contains name = true ↔ ∃ op ∈ r.operations, op.name = name := by
  simp [contains, lookup?]

theorem contains_eq_false_iff :
    r.contains name = false ↔ ∀ op ∈ r.operations, op.name ≠ name := by
  simp [contains, lookup?]

theorem contains_of_lookup? (hop : r.lookup? name = some op) : r.contains name = true := by
  rw [contains, hop, Option.isSome_some]

theorem lookup?_eq_none (hc : ¬ r.contains name = true) : r.lookup? name = none := by
  simpa [contains] using hc

/-- Where no two operations have one name, a listed operation is found under its own. -/
theorem lookup?_of_mem (hd : (r.operations.map (·.name)).Nodup) (hop : op ∈ r.operations) :
    r.lookup? op.name = some op := by
  rw [lookup?]
  generalize r.operations = ops at hd hop
  induction ops with
  | nil => simp at hop
  | cons o rest ih =>
    rw [List.map_cons, List.nodup_cons] at hd
    rcases List.mem_cons.1 hop with rfl | hop
    · simp
    · have hne : o.name ≠ op.name := fun h => hd.1 (h ▸ List.mem_map_of_mem hop)
      rw [List.find?_cons_of_neg (by simpa using hne)]
      exact ih hd.2 hop

theorem lookup?_eq_some_iff (hd : (r.operations.map (·.name)).Nodup) :
    r.lookup? name = some op ↔ op ∈ r.operations ∧ op.name = name := by
  constructor
  · intro h
    exact ⟨mem_of_lookup? h, name_of_lookup? h⟩
  · rintro ⟨hop, rfl⟩
    exact lookup?_of_mem hd hop

/-- Where no two operations have one name, the order in which they are listed makes no difference
to what is found. -/
theorem lookup?_eq_of_perm {r' : Registry} (hd : (r.operations.map (·.name)).Nodup)
    (hperm : r.operations.Perm r'.operations) (name : String) :
    r'.lookup? name = r.lookup? name := by
  have hd' : (r'.operations.map (·.name)).Nodup := (hperm.map (·.name)).nodup_iff.1 hd
  refine Option.ext fun op => ?_
  rw [lookup?_eq_some_iff hd, lookup?_eq_some_iff hd', hperm.mem_iff]

/-! ## The two changes -/

/-- The registration that an operation would get. -/
def next (r : Registry) (op : Operation) : Registration := ⟨r.nextSerial, op⟩

/-- The registry with an operation at its end. -/
def add (r : Registry) (op : Operation) : Registry :=
  ⟨r.registrations ++ [r.next op], r.nextSerial + 1⟩

/-- The registry without what a handle was issued for. -/
def remove (r : Registry) (h : Handle) : Registry :=
  { r with registrations := r.registrations.filter fun x => !Handle.issuedFor h x }

/-- The handle that a registration is issued with. -/
def handleOf (x : Registration) : Handle := ⟨x.operation.name, x.serial, false⟩

@[simp] theorem next_operation : (r.next op).operation = op := rfl

@[simp] theorem next_serial : (r.next op).serial = r.nextSerial := rfl

@[simp] theorem add_registrations :
    (r.add op).registrations = r.registrations ++ [r.next op] := rfl

@[simp] theorem add_nextSerial : (r.add op).nextSerial = r.nextSerial + 1 := rfl

@[simp] theorem remove_nextSerial : (r.remove h).nextSerial = r.nextSerial := rfl

@[simp] theorem add_operations : (r.add op).operations = r.operations ++ [op] := by
  simp [operations]

theorem mem_remove :
    x ∈ (r.remove h).registrations ↔ x ∈ r.registrations ∧ Handle.issuedFor h x = false := by
  simp [remove]

theorem issuedFor_iff :
    Handle.issuedFor h x = true ↔ x.operation.name = h.name ∧ x.serial = h.serial := by
  simp [Handle.issuedFor]

@[simp] theorem issuedFor_handleOf : Handle.issuedFor (handleOf x) x = true := by
  simp [issuedFor_iff, handleOf]

/-- Adding an operation changes nothing under other names. -/
theorem lookup?_add (hne : op.name ≠ name) : (r.add op).lookup? name = r.lookup? name := by
  rw [lookup?, add_operations, List.find?_append, lookup?]
  simp [hne]

/-- Nor does removing one. -/
theorem lookup?_remove (hne : h.name ≠ name) : (r.remove h).lookup? name = r.lookup? name := by
  rw [lookup?, lookup?, operations, operations, List.find?_map, List.find?_map, remove,
    List.find?_filter]
  congr 2
  funext x
  by_cases hx : x.operation.name = name
  · simp [Handle.issuedFor, hx, Ne.symm hne]
  · simp [hx]

/-- Removing only removes: what is left stands in the order it stood in. -/
theorem remove_operations_sublist : (r.remove h).operations.Sublist r.operations :=
  List.filter_sublist.map _

/-! ## Registering and revoking -/

/-- **A free name is given:** the operation comes in at the end, and its handle is issued for
its registration. -/
theorem register_of_free (hf : r.contains op.name = false) :
    r.register op = .ok (handleOf (r.next op), r.add op) := by
  rw [register, if_neg (by simp [hf])]
  rfl

/-- **A taken name is refused,** and it is that name the error names. -/
theorem register_of_taken (ht : r.contains op.name = true) :
    r.register op = .error (.duplicateOperation op.name) := by
  rw [register, if_pos ht]

theorem registerPermanently_of_free (hf : r.contains op.name = false) :
    r.registerPermanently op = .ok (r.add op) := by
  rw [registerPermanently, register_of_free hf]
  rfl

theorem registerPermanently_of_taken (ht : r.contains op.name = true) :
    r.registerPermanently op = .error (.duplicateOperation op.name) := by
  rw [registerPermanently, register_of_taken ht]
  rfl

/-- What is registered is added at the end, -/
theorem eq_add_of_register {r' : Registry} (hr : r.register op = .ok (h, r')) : r' = r.add op := by
  cases hc : r.contains op.name with
  | true =>
    rw [register_of_taken hc] at hr
    cases hr
  | false =>
    rw [register_of_free hc] at hr
    cases hr
    rfl

/-- and so it is if there is no handle to be had. -/
theorem eq_add_of_registerPermanently {r' : Registry} (hr : r.registerPermanently op = .ok r') :
    r' = r.add op := by
  cases hc : r.contains op.name with
  | true =>
    rw [registerPermanently_of_taken hc] at hr
    cases hr
  | false =>
    rw [registerPermanently_of_free hc] at hr
    cases hr
    rfl

/-- Of operations with names of their own, none is left out. -/
theorem operations_ofOperations {ops : List Operation} (hd : (ops.map (·.name)).Nodup) :
    (ofOperations ops).operations = ops := by
  -- what is registered already stays in front, and its names differ from those to come
  have hfold : ∀ r : Registry, ((r.operations ++ ops).map (·.name)).Nodup →
      (ops.foldl (fun r op => (r.registerPermanently op).toOption.getD r) r).operations =
        r.operations ++ ops := by
    clear hd
    induction ops with
    | nil => simp
    | cons op rest ih =>
      intro r hd
      have hfree : r.contains op.name = false := by
        rw [contains_eq_false_iff]
        intro o ho heq
        rw [List.map_append, List.nodup_append] at hd
        exact hd.2.2 _ (List.mem_map_of_mem ho) _ (by simp) heq
      rw [List.foldl_cons, registerPermanently_of_free hfree, Except.toOption, Option.getD_some,
        ih _ (by simpa using hd)]
      simp
  have hempty := hfold .empty (by simpa using hd)
  rwa [operations_empty, List.nil_append] at hempty

/-- A used handle does nothing. -/
theorem revoke_of_revoked (hu : h.revoked = true) : r.revoke h = (false, h, r) := by
  obtain ⟨name, serial, revoked⟩ := h
  subst hu
  simp [revoke]

/-- A handle that has not been used removes what it was issued for, if that is still there. -/
theorem revoke_of_fresh (hu : h.revoked = false) :
    r.revoke h = (decide ((r.remove h).registrations.length < r.registrations.length),
      { h with revoked := true }, r.remove h) := by
  simp [revoke, hu, remove]

/-- Whatever the handle, revoking it removes what it was issued for or leaves everything. -/
theorem revoke_registry : (r.revoke h).2.2 = r ∨ (r.revoke h).2.2 = r.remove h := by
  cases hu : h.revoked with
  | true => exact .inl (by rw [revoke_of_revoked hu])
  | false => exact .inr (by rw [revoke_of_fresh hu])

/-! ## What both keep -/

/-- **What holds of every registry:** serial numbers grow in the order of registration and stay
below the next one, and no two operations have one name. -/
structure WellFormed (r : Registry) : Prop where
  increasing : r.registrations.Pairwise fun x y => x.serial < y.serial
  below : ∀ x ∈ r.registrations, x.serial < r.nextSerial
  distinct : (r.operations.map (·.name)).Nodup

namespace WellFormed

theorem empty : WellFormed .empty where
  increasing := List.Pairwise.nil
  below := by simp [Registry.empty]
  distinct := by simp

theorem add (w : r.WellFormed) (hf : r.contains op.name = false) : (r.add op).WellFormed where
  increasing := by
    rw [add_registrations, List.pairwise_append]
    refine ⟨w.increasing, List.pairwise_singleton _ _, fun x hx y hy => ?_⟩
    rw [List.mem_singleton.1 hy]
    exact w.below x hx
  below := by
    intro x hx
    rw [add_registrations, List.mem_append, List.mem_singleton] at hx
    rw [add_nextSerial]
    rcases hx with hx | rfl
    · have := w.below x hx; omega
    · exact Nat.lt_succ_self _
  distinct := by
    rw [add_operations, List.map_append, List.nodup_append]
    refine ⟨w.distinct, by simp, fun a ha b hb => ?_⟩
    obtain ⟨o, ho, rfl⟩ := List.mem_map.1 ha
    rw [List.map_singleton, List.mem_singleton] at hb
    exact hb ▸ contains_eq_false_iff.1 hf o ho

theorem remove (w : r.WellFormed) : (r.remove h).WellFormed where
  increasing := w.increasing.filter _
  below := fun x hx => w.below x (mem_remove.1 hx).1
  distinct := w.distinct.sublist (remove_operations_sublist.map _)

/-- A serial number stands for one registration. -/
theorem eq_of_serial (w : r.WellFormed) (hx : x ∈ r.registrations) (hy : y ∈ r.registrations)
    (h : x.serial = y.serial) : x = y := by
  have hxy : r.registrations.Pairwise fun x y => x.serial = y.serial → x = y :=
    w.increasing.imp fun hlt heq => absurd heq (Nat.ne_of_lt hlt)
  have hyx : r.registrations.Pairwise (flip fun x y => x.serial = y.serial → x = y) :=
    w.increasing.imp fun hlt heq => absurd heq (Nat.ne_of_gt hlt)
  exact List.Pairwise.forall_of_forall_of_flip (fun _ _ _ => rfl) hxy hyx hx hy h

/-- **The order of registration is that of the serial numbers:** however a table keeps the
registrations, sorted by serial number they are the operations in their order. -/
theorem operations_of_perm (w : r.WellFormed) {table : List Registration}
    (h : table.Perm r.registrations) :
    (table.mergeSort fun x y => x.serial ≤ y.serial).map (·.operation) = r.operations := by
  have hsorted : (table.mergeSort fun x y => x.serial ≤ y.serial).Pairwise fun x y =>
      x.serial ≤ y.serial := by
    refine (List.pairwise_mergeSort ?_ ?_ table).imp of_decide_eq_true
    · intro x y z hxy hyz
      exact decide_eq_true (Nat.le_trans (of_decide_eq_true hxy) (of_decide_eq_true hyz))
    · intro x y
      rw [← Bool.decide_or]
      exact decide_eq_true (Nat.le_total _ _)
  have hkept : r.registrations.Pairwise fun x y => x.serial ≤ y.serial :=
    w.increasing.imp Nat.le_of_lt
  have hperm : (table.mergeSort fun x y => x.serial ≤ y.serial).Perm r.registrations :=
    (List.mergeSort_perm table _).trans h
  rw [operations, hperm.eq_of_pairwise (fun x y hx hy hxy hyx => ?_) hsorted hkept]
  -- no two have one number
  exact w.eq_of_serial (hperm.mem_iff.1 hx) hy (Nat.le_antisymm hxy hyx)

/-- So a handle was issued for one registration at most. -/
theorem eq_of_issuedFor (w : r.WellFormed) (hx : x ∈ r.registrations) (hy : y ∈ r.registrations)
    (hhx : Handle.issuedFor h x = true) (hhy : Handle.issuedFor h y = true) : x = y :=
  w.eq_of_serial hx hy ((issuedFor_iff.1 hhx).2.trans (issuedFor_iff.1 hhy).2.symm)

/-- **Removal is exact:** the one registration goes out, and those before it and behind it stay
as they are. -/
theorem remove_of_split (w : r.WellFormed) {before behind : List Registration}
    (hs : r.registrations = before ++ x :: behind) (hh : Handle.issuedFor h x = true) :
    (r.remove h).registrations = before ++ behind := by
  have hx : x ∈ r.registrations := by simp [hs]
  have hkeep : ∀ y ∈ r.registrations, y ≠ x → Handle.issuedFor h y = false := by
    intro y hy hne
    exact Bool.eq_false_iff.2 fun hc => hne (w.eq_of_issuedFor hy hx hc hh)
  have hinc := w.increasing
  rw [hs, List.pairwise_append, List.pairwise_cons] at hinc
  obtain ⟨-, ⟨hbehind, -⟩, hbefore⟩ := hinc
  have hb : ∀ y ∈ before, Handle.issuedFor h y = false := fun y hy =>
    hkeep y (by simp [hs, hy]) fun heq =>
      Nat.lt_irrefl _ (heq ▸ hbefore y hy x List.mem_cons_self)
  have ha : ∀ y ∈ behind, Handle.issuedFor h y = false := fun y hy =>
    hkeep y (by simp [hs, hy]) fun heq => Nat.lt_irrefl _ (heq ▸ hbehind y hy)
  rw [Registry.remove, hs, List.filter_append, List.filter_cons_of_neg (by simp [hh]),
    List.filter_eq_self.2 fun y hy => by simp [hb y hy],
    List.filter_eq_self.2 fun y hy => by simp [ha y hy]]

/-- **The first use of a handle removes what it was issued for,** and says so. -/
theorem revoke_of_mem (w : r.WellFormed) (hu : h.revoked = false) (hx : x ∈ r.registrations)
    (hh : Handle.issuedFor h x = true) :
    ∃ before behind, r.registrations = before ++ x :: behind ∧
      (r.remove h).registrations = before ++ behind ∧
      r.revoke h = (true, { h with revoked := true }, r.remove h) := by
  obtain ⟨before, behind, hs⟩ := List.append_of_mem hx
  have hr := w.remove_of_split hs hh
  refine ⟨before, behind, hs, hr, ?_⟩
  rw [revoke_of_fresh hu, hr, hs]
  simp

end WellFormed

theorem wellFormed_ofOperations (ops : List Operation) : (ofOperations ops).WellFormed := by
  refine List.foldlRecOn (motive := WellFormed) ops _ WellFormed.empty ?_
  intro r w op _
  cases hc : r.contains op.name with
  | true =>
    rw [registerPermanently_of_taken hc]
    exact w
  | false =>
    rw [registerPermanently_of_free hc]
    exact w.add hc

end Registry

end Switchboard
