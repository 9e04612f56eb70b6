import Switchboard.Server.Lifecycle
/-!
# Stopping services

A shutdown goes through the services, the last one first, and ends with the first that fails
(`Service.stopAll`). Its result is that of the first failure, which is also the result of stopping
each of them whatever becomes of the others (`stopEach`). But the services in front of one that
fails are never asked to stop. Which are asked, and how, is seen from services that keep a record
of it (`recorded`): all of them exactly if none fails but the first (`stopLaws`), which leaves one
running in the shortest list where another fails (`first_left_running`).
-/

namespace Switchboard

namespace Service

variable {σ ε : Type} {terminate : Bool} {x : Service σ ε} {xs services : List (Service σ ε)}
variable {s s' : σ} {e : ε}

/-! ## Stopping each -/

/-- Stops services in order, those behind one that fails as well. The first failure is the
result. -/
def stopEach (terminate : Bool) : List (Service σ ε) → σ → Except ε Unit × σ
  | [], s => (.ok (), s)
  | x :: rest, s =>
    let (result, s) := x.stop terminate s
    let (others, s) := stopEach terminate rest s
    (result.bind fun _ => others, s)

/-- A service that keeps a record, beside its state, of every stop that it is asked for. -/
def recorded (x : Service σ ε) : Service (σ × List (Service σ ε × Bool)) ε where
  name := x.name
  start s := ((x.start s.1).1, (x.start s.1).2, s.2)
  stop terminate s :=
    ((x.stop terminate s.1).1, (x.stop terminate s.1).2, s.2 ++ [(x, terminate)])

/-- **The record of a shutdown:** who is asked to stop, in this order, and how. -/
def asked (terminate : Bool) (services : List (Service σ ε)) (s : σ) : List (Service σ ε × Bool) :=
  (stopAll terminate (services.map recorded) (s, [])).2.2

/-! ## In order -/

theorem stopInOrder_cons_of_ok (h : x.stop terminate s = (.ok (), s')) :
    stopInOrder terminate (x :: xs) s = stopInOrder terminate xs s' := by
  rw [stopInOrder, h]

theorem stopInOrder_cons_of_error (h : x.stop terminate s = (.error e, s')) :
    stopInOrder terminate (x :: xs) s = (.error e, s') := by
  rw [stopInOrder, h]

/-- One service by itself is stopped the same either way. -/
theorem stopEach_singleton (terminate : Bool) (x : Service σ ε) (s : σ) :
    stopEach terminate [x] s = stopInOrder terminate [x] s := by
  cases hx : x.stop terminate s with
  | mk result s' =>
    cases result with
    | ok =>
      rw [stopInOrder_cons_of_ok hx, stopEach, hx]
      rfl
    | error e =>
      rw [stopInOrder_cons_of_error hx, stopEach, hx]
      rfl

/-- **The first failure is the result,** whatever becomes of those behind it. -/
theorem result_stopInOrder (terminate : Bool) (xs : List (Service σ ε)) (s : σ) :
    (stopInOrder terminate xs s).1 = (stopEach terminate xs s).1 := by
  induction xs generalizing s with
  | nil => rfl
  | cons x rest ih =>
    cases hx : x.stop terminate s with
    | mk result s' =>
      cases result with
      | ok =>
        rw [stopInOrder_cons_of_ok hx, ih, stopEach, hx]
        rfl
      | error e =>
        rw [stopInOrder_cons_of_error hx, stopEach, hx]
        rfl

/-- The services up to the first that fails, and that one. -/
def reached (terminate : Bool) : List (Service σ ε) → σ → List (Service σ ε)
  | [], _ => []
  | x :: rest, s =>
    match x.stop terminate s with
    | (.ok _, s) => x :: reached terminate rest s
    | (.error _, _) => [x]

theorem reached_cons_of_ok (h : x.stop terminate s = (.ok (), s')) :
    reached terminate (x :: xs) s = x :: reached terminate xs s' := by
  rw [reached, h]

theorem reached_cons_of_error (h : x.stop terminate s = (.error e, s')) :
    reached terminate (x :: xs) s = [x] := by
  rw [reached, h]

theorem reached_singleton (terminate : Bool) (x : Service σ ε) (s : σ) :
    reached terminate [x] s = [x] := by
  rw [reached]
  split
  · rfl
  · rfl

/-- **These are asked to stop, and no others.** Otherwise a record makes no difference. -/
theorem stopInOrder_recorded (terminate : Bool) (xs : List (Service σ ε)) (s : σ)
    (log : List (Service σ ε × Bool)) :
    stopInOrder terminate (xs.map recorded) (s, log) =
      ((stopInOrder terminate xs s).1, (stopInOrder terminate xs s).2,
        log ++ (reached terminate xs s).map (·, terminate)) := by
  induction xs generalizing s log with
  | nil =>
    rw [reached, List.map_nil, List.map_nil, List.append_nil]
    rfl
  | cons x rest ih =>
    rw [List.map_cons]
    cases hx : x.stop terminate s with
    | mk result s' =>
      have hrecorded : (recorded x).stop terminate (s, log) =
          (result, s', log ++ [(x, terminate)]) := by
        change ((x.stop terminate s).1, (x.stop terminate s).2, log ++ [(x, terminate)]) = _
        rw [hx]
      cases result with
      | ok =>
        rw [stopInOrder_cons_of_ok hrecorded, ih, stopInOrder_cons_of_ok hx, reached_cons_of_ok hx,
          List.map_cons, ← List.append_cons]
      | error e =>
        rw [stopInOrder_cons_of_error hrecorded, stopInOrder_cons_of_error hx,
          reached_cons_of_error hx]
        rfl

/-- When each is stopped, all are asked. -/
theorem record_stopEach (terminate : Bool) (xs : List (Service σ ε)) (s : σ)
    (log : List (Service σ ε × Bool)) :
    (stopEach terminate (xs.map recorded) (s, log)).2.2 = log ++ xs.map (·, terminate) := by
  induction xs generalizing s log with
  | nil => exact (List.append_nil log).symm
  | cons x rest ih =>
    rw [List.map_cons, List.map_cons, List.append_cons]
    exact ih _ _

/-! ## The first failure -/

theorem stopInOrder_append_of_ok (h : stopInOrder terminate xs s = (.ok (), s'))
    (behind : List (Service σ ε)) :
    stopInOrder terminate (xs ++ behind) s = stopInOrder terminate behind s' ∧
      reached terminate (xs ++ behind) s = xs ++ reached terminate behind s' := by
  induction xs generalizing s with
  | nil =>
    cases h
    exact ⟨rfl, rfl⟩
  | cons x rest ih =>
    cases hx : x.stop terminate s with
    | mk result s₁ =>
      cases result with
      | ok =>
        rw [stopInOrder_cons_of_ok hx] at h
        rw [List.cons_append, stopInOrder_cons_of_ok hx, reached_cons_of_ok hx, (ih h).1, (ih h).2]
        exact ⟨rfl, rfl⟩
      | error e =>
        rw [stopInOrder_cons_of_error hx] at h
        cases h

theorem stopEach_append_of_ok (h : stopInOrder terminate xs s = (.ok (), s'))
    (behind : List (Service σ ε)) :
    stopEach terminate (xs ++ behind) s = stopEach terminate behind s' := by
  induction xs generalizing s with
  | nil =>
    cases h
    rfl
  | cons x rest ih =>
    cases hx : x.stop terminate s with
    | mk result s₁ =>
      cases result with
      | ok =>
        rw [stopInOrder_cons_of_ok hx] at h
        rw [List.cons_append, stopEach, hx]
        exact ih h
      | error e =>
        rw [stopInOrder_cons_of_error hx] at h
        cases h

/-- **A failure is that of one service:** those in front of it stop, and it is the last one that is
asked, whatever there is behind it. -/
theorem exists_of_stopInOrder_error (h : stopInOrder terminate xs s = (.error e, s')) :
    ∃ before x behind s₁, xs = before ++ x :: behind ∧
      stopInOrder terminate before s = (.ok (), s₁) ∧ x.stop terminate s₁ = (.error e, s') := by
  induction xs generalizing s with
  | nil => cases h
  | cons x rest ih =>
    cases hx : x.stop terminate s with
    | mk result s₁ =>
      cases result with
      | ok =>
        rw [stopInOrder_cons_of_ok hx] at h
        obtain ⟨before, y, behind, s₂, rfl, hbefore, hy⟩ := ih h
        exact ⟨x :: before, y, behind, s₂, rfl, (stopInOrder_cons_of_ok hx).trans hbefore, hy⟩
      | error e' =>
        rw [stopInOrder_cons_of_error hx] at h
        cases h
        exact ⟨[], x, rest, s, rfl, rfl, hx⟩

/-! ## Shutting down -/

theorem stopInOrder_reverse {result : Except ε Unit}
    (h : (stopAll terminate services s).1 = result) :
    stopInOrder terminate services.reverse s = (result, (stopAll terminate services s).2) :=
  Prod.ext h rfl

/-- What a shutdown reaches is what it asks. -/
theorem asked_eq (terminate : Bool) (services : List (Service σ ε)) (s : σ) :
    asked terminate services s =
      (reached terminate services.reverse s).map (·, terminate) := by
  rw [asked, stopAll, ← List.map_reverse, stopInOrder_recorded]
  rfl

theorem asked_of_ok (h : (stopAll terminate services s).1 = .ok ()) :
    asked terminate services s = services.reverse.map (·, terminate) := by
  have hreached := (stopInOrder_append_of_ok (stopInOrder_reverse h) []).2
  rw [List.append_nil, reached, List.append_nil] at hreached
  rw [asked_eq, hreached]

/-- **Those in front of the first failure are not asked.** -/
theorem asked_of_error (h : (stopAll terminate services s).1 = .error e) :
    ∃ before x behind, services = before ++ x :: behind ∧
      (stopAll terminate behind s).1 = .ok () ∧
      (x.stop terminate (stopAll terminate behind s).2).1 = .error e ∧
      asked terminate services s = (x :: behind).reverse.map (·, terminate) := by
  obtain ⟨later, x, earlier, s₁, hsplit, hlater, hx⟩ :=
    exists_of_stopInOrder_error (stopInOrder_reverse h)
  have hbehind : stopAll terminate later.reverse s = (.ok (), s₁) := by
    rw [stopAll, List.reverse_reverse, hlater]
  refine ⟨earlier.reverse, x, later.reverse, ?_, ?_, ?_, ?_⟩
  · rw [← List.reverse_reverse services, hsplit, List.reverse_append, List.reverse_cons,
      List.append_assoc, List.singleton_append]
  · rw [hbehind]
  · rw [hbehind, hx]
  · rw [asked_eq, hsplit, (stopInOrder_append_of_ok hlater _).2, reached_cons_of_error hx,
      List.reverse_cons, List.reverse_reverse]

/-- **All are asked** exactly if those behind the first stop. -/
theorem asked_eq_all_iff (terminate : Bool) (services : List (Service σ ε)) (s : σ) :
    asked terminate services s = services.reverse.map (·, terminate) ↔
      (stopAll terminate services.tail s).1 = .ok () := by
  cases services with
  | nil => exact iff_of_true rfl rfl
  | cons x rest =>
    rw [List.tail_cons, asked_eq, List.reverse_cons]
    cases hrest : (stopAll terminate rest s).1 with
    | ok =>
      refine iff_of_true ?_ rfl
      rw [(stopInOrder_append_of_ok (stopInOrder_reverse hrest) [x]).2, reached_singleton]
    | error e =>
      obtain ⟨later, y, earlier, s₁, hsplit, hlater, hy⟩ :=
        exists_of_stopInOrder_error (stopInOrder_reverse hrest)
      refine iff_of_false (fun hall => ?_) (fun hok => by cases hok)
      -- The first service is one more than there can be on the record.
      have hlength := congrArg List.length hall
      rw [hsplit, List.append_assoc, (stopInOrder_append_of_ok hlater _).2, List.cons_append,
        reached_cons_of_error hy] at hlength
      simp only [List.length_map, List.length_append, List.length_cons, List.length_nil] at hlength
      omega

/-- Where those behind the first stop, a shutdown is the same as stopping each. -/
theorem stopAll_eq_stopEach (h : (stopAll terminate services.tail s).1 = .ok ()) :
    stopAll terminate services s = stopEach terminate services.reverse s := by
  cases services with
  | nil => rfl
  | cons x rest =>
    have hall := stopInOrder_reverse h
    rw [List.tail_cons] at hall
    rw [stopAll, List.reverse_cons, (stopInOrder_append_of_ok hall [x]).1,
      stopEach_append_of_ok hall, stopEach_singleton]

/-! ## The laws of shutting down -/

/-- **What a shutdown comes to,** and whom it reaches. -/
structure StopLaws (terminate : Bool) (services : List (Service σ ε)) (s : σ) : Prop where
  /-- Services on record are stopped as others are. -/
  observed : ∀ log, ((stopAll terminate (services.map recorded) (s, log)).1,
    (stopAll terminate (services.map recorded) (s, log)).2.1) = stopAll terminate services s
  /-- **The result is that of the first failure,** as if each were stopped. -/
  result : (stopAll terminate services s).1 = (stopEach terminate services.reverse s).1
  /-- If none fails, each is asked to stop once, as told, the last one first. -/
  ok : (stopAll terminate services s).1 = .ok () →
    asked terminate services s = services.reverse.map (·, terminate)
  /-- If one fails, so are those behind it, and it; none in front of it is asked. -/
  error : ∀ e, (stopAll terminate services s).1 = .error e → ∃ before x behind,
    services = before ++ x :: behind ∧ (stopAll terminate behind s).1 = .ok () ∧
      (x.stop terminate (stopAll terminate behind s).2).1 = .error e ∧
      asked terminate services s = (x :: behind).reverse.map (·, terminate)
  /-- So **all are asked if and only if none fails but the first,** -/
  complete : asked terminate services s = services.reverse.map (·, terminate) ↔
    (stopAll terminate services.tail s).1 = .ok ()
  /-- and only then does a shutdown do what stopping each does. -/
  each : stopAll terminate (services.map recorded) (s, []) =
      stopEach terminate (services.map recorded).reverse (s, []) ↔
    (stopAll terminate services.tail s).1 = .ok ()

theorem stopLaws (terminate : Bool) (services : List (Service σ ε)) (s : σ) :
    StopLaws terminate services s where
  observed log := by
    rw [stopAll, ← List.map_reverse, stopInOrder_recorded]
    rfl
  result := result_stopInOrder terminate services.reverse s
  ok := asked_of_ok
  error _ := asked_of_error
  complete := asked_eq_all_iff terminate services s
  each := by
    constructor
    · intro heach
      have hrecord := record_stopEach terminate services.reverse s []
      rw [List.map_reverse, ← heach, List.nil_append] at hrecord
      exact (asked_eq_all_iff terminate services s).1 hrecord
    · intro h
      refine stopAll_eq_stopEach ?_
      rw [← List.map_tail, stopAll, ← List.map_reverse, stopInOrder_recorded]
      exact h

/-- **A failure leaves services running:** the first of two is not asked to stop if the second
fails. -/
theorem first_left_running :
    ((asked false [⟨"a", fun s => (.ok (), s), fun _ s => (.ok (), s)⟩,
        ⟨"b", fun s => (.ok (), s), fun _ s => (.error "boom", s)⟩] ()).map (·.1.name) = ["b"]) ∧
      ¬ ∀ services : List (Service Unit String),
        asked false services () = services.reverse.map (·, false) := by
  refine ⟨rfl, fun hall => ?_⟩
  have hlength := congrArg List.length (hall
    [⟨"a", fun s => (.ok (), s), fun _ s => (.ok (), s)⟩,
      ⟨"b", fun s => (.ok (), s), fun _ s => (.error "boom", s)⟩])
  exact absurd hlength (by decide)

end Service

end Switchboard
