import Switchboard.Proofs.Task.Runs
/-!
# One after the other

Work on a list that is done item by item, and that ends with the first failure
(`inTurn`). What is done about an item may depend on the results there are already.
How far a run of it gets is said by two relations: `Passes`, with the results of all
items, and `Stops`, with those of the items before the one that fails. One of the two
holds (`passes_or_stops`), and both say where the clock stands at each item.
-/

namespace Switchboard

namespace Task

variable {ρ ε α β γ : Type} {see : Nat → ρ} {c c' c'' : Clock}

/-! ## Sequencing with errors -/

theorem run_bind_of_ok {x : ExceptT ε (Task ρ) α} {a : α} (h : run see c x.run = (.ok a, c'))
    (f : α → ExceptT ε (Task ρ) β) : run see c (x >>= f).run = run see c' (f a).run := by
  rw [ExceptT.run_bind, run_bind, h]

theorem run_bind_of_error {x : ExceptT ε (Task ρ) α} {e : ε}
    (h : run see c x.run = (.error e, c')) (f : α → ExceptT ε (Task ρ) β) :
    run see c (x >>= f).run = (.error e, c') := by
  rw [ExceptT.run_bind, run_bind, h]
  rfl

/-- A sequence has a result if both parts do, -/
theorem run_bind_eq_ok_iff {x : ExceptT ε (Task ρ) α} {f : α → ExceptT ε (Task ρ) β} {b : β} :
    run see c (x >>= f).run = (.ok b, c') ↔
      ∃ a c₁, run see c x.run = (.ok a, c₁) ∧ run see c₁ (f a).run = (.ok b, c') := by
  constructor
  · intro h
    cases hx : run see c x.run with
    | mk r c₁ =>
      cases r with
      | ok a =>
        rw [run_bind_of_ok hx] at h
        exact ⟨a, c₁, rfl, h⟩
      | error e =>
        rw [run_bind_of_error hx] at h
        cases h
  · rintro ⟨a, c₁, hx, hf⟩
    rw [run_bind_of_ok hx, hf]

/-- and fails if the first part does, or the second one behind it. -/
theorem run_bind_eq_error_iff {x : ExceptT ε (Task ρ) α} {f : α → ExceptT ε (Task ρ) β} {e : ε} :
    run see c (x >>= f).run = (.error e, c') ↔
      run see c x.run = (.error e, c') ∨
        ∃ a c₁, run see c x.run = (.ok a, c₁) ∧ run see c₁ (f a).run = (.error e, c') := by
  constructor
  · intro h
    cases hx : run see c x.run with
    | mk r c₁ =>
      cases r with
      | ok a =>
        rw [run_bind_of_ok hx] at h
        exact .inr ⟨a, c₁, rfl, h⟩
      | error e' =>
        rw [run_bind_of_error hx] at h
        cases h
        exact .inl rfl
  · rintro (hx | ⟨a, c₁, hx, hf⟩)
    · exact run_bind_of_error hx f
    · rw [run_bind_of_ok hx, hf]

/-- What is made of a result does not change whether there is one, nor when. -/
theorem run_return (see : Nat → ρ) (c : Clock) (x : ExceptT ε (Task ρ) α) (k : α → β) :
    run see c (x >>= fun a => (return k a : ExceptT ε (Task ρ) β)).run =
      ((run see c x.run).1.map k, (run see c x.run).2) := by
  cases hx : run see c x.run with
  | mk r c' =>
    cases r with
    | ok a =>
      rw [run_bind_of_ok hx]
      rfl
    | error e =>
      rw [run_bind_of_error hx]
      rfl

theorem run_return_eq_ok_iff {x : ExceptT ε (Task ρ) α} {k : α → β} {b : β} :
    run see c (x >>= fun a => (return k a : ExceptT ε (Task ρ) β)).run = (.ok b, c') ↔
      ∃ a, run see c x.run = (.ok a, c') ∧ b = k a := by
  rw [run_bind_eq_ok_iff]
  constructor
  · rintro ⟨a, c₁, hx, hreturn⟩
    cases hreturn
    exact ⟨a, hx, rfl⟩
  · rintro ⟨a, hx, rfl⟩
    exact ⟨a, c', hx, rfl⟩

theorem run_return_eq_error_iff {x : ExceptT ε (Task ρ) α} {k : α → β} {e : ε} :
    run see c (x >>= fun a => (return k a : ExceptT ε (Task ρ) β)).run = (.error e, c') ↔
      run see c x.run = (.error e, c') := by
  rw [run_bind_eq_error_iff]
  constructor
  · rintro (hx | ⟨a, c₁, -, hreturn⟩)
    · exact hx
    · cases hreturn
  · exact .inl

/-! ## In turn -/

/-- Does what is to be done about each item, with the results that there are. -/
def inTurn (f : List β → α → ExceptT ε (Task ρ) β) :
    List β → List α → ExceptT ε (Task ρ) (List β)
  | _, [] => return []
  | past, x :: rest => do
    let b ← f past x
    return b :: (← inTurn f (past ++ [b]) rest)

/-- Where the results there are do not matter, that is `mapM`. -/
theorem inTurn_const (f : α → ExceptT ε (Task ρ) β) (past : List β) (xs : List α) :
    inTurn (fun _ => f) past xs = xs.mapM f := by
  induction xs generalizing past with
  | nil => rw [inTurn, List.mapM_nil]
  | cons x rest ih =>
    rw [inTurn, List.mapM_cons]
    exact bind_congr fun b => by rw [ih]

variable {f : List β → α → ExceptT ε (Task ρ) β} {past bs : List β} {x : α} {xs before : List α}
variable {b : β} {e : ε}

/-- **All items have results,** and the clock goes on from one to the next. -/
inductive Passes (see : Nat → ρ) (f : List β → α → ExceptT ε (Task ρ) β) :
    List β → Clock → List α → List β → Clock → Prop where
  | nil (past : List β) (c : Clock) : Passes see f past c [] [] c
  | cons {past bs : List β} {c c' c'' : Clock} {x : α} {xs : List α} {b : β}
      (first : run see c (f past x).run = (.ok b, c'))
      (rest : Passes see f (past ++ [b]) c' xs bs c'') :
      Passes see f past c (x :: xs) (b :: bs) c''

/-- **Some items have results,** and the one behind them fails. -/
inductive Stops (see : Nat → ρ) (f : List β → α → ExceptT ε (Task ρ) β) (past : List β)
    (c : Clock) : List α → List β → ε → Clock → Prop where
  | intro {before : List α} {bs : List β} {c' c'' : Clock} {x : α} {e : ε}
      (passes : Passes see f past c before bs c')
      (fails : run see c' (f (past ++ bs) x).run = (.error e, c'')) (behind : List α) :
      Stops see f past c (before ++ x :: behind) bs e c''

theorem Stops.cons (hx : run see c (f past x).run = (.ok b, c'))
    (h : Stops see f (past ++ [b]) c' xs bs e c'') :
    Stops see f past c (x :: xs) (b :: bs) e c'' := by
  obtain ⟨hpasses, hfails, behind⟩ := h
  rw [List.append_assoc, List.singleton_append] at hfails
  exact .intro (.cons hx hpasses) hfails behind

/-- **There is no third way.** -/
theorem passes_or_stops (see : Nat → ρ) (f : List β → α → ExceptT ε (Task ρ) β) (past : List β)
    (c : Clock) (xs : List α) :
    (∃ bs c', Passes see f past c xs bs c') ∨ ∃ bs e c', Stops see f past c xs bs e c' := by
  induction xs generalizing past c with
  | nil => exact .inl ⟨[], c, .nil past c⟩
  | cons x xs ih =>
    cases hx : run see c (f past x).run with
    | mk r c' =>
      cases r with
      | error e =>
        have hfails : run see c (f (past ++ []) x).run = (.error e, c') := by
          rw [List.append_nil, hx]
        exact .inr ⟨[], e, c', .intro (.nil past c) hfails xs⟩
      | ok b =>
        rcases ih (past ++ [b]) c' with ⟨bs, c'', hpasses⟩ | ⟨bs, e, c'', hstops⟩
        · exact .inl ⟨b :: bs, c'', .cons hx hpasses⟩
        · exact .inr ⟨b :: bs, e, c'', hstops.cons hx⟩

theorem Passes.length_eq (h : Passes see f past c xs bs c') : bs.length = xs.length := by
  induction h with
  | nil => rfl
  | cons _ _ ih => rw [List.length_cons, List.length_cons, ih]

/-! ## Runs -/

/-- Where all items have results, these come out. -/
theorem Passes.run_inTurn (h : Passes see f past c xs bs c') :
    run see c (inTurn f past xs).run = (.ok bs, c') := by
  induction h with
  | nil past c => rfl
  | cons hfirst _ ih =>
    rw [inTurn, run_bind_of_ok hfirst, run_bind_of_ok ih]
    rfl

/-- **What is in front comes first:** when it is done, the run has come to the item behind it. -/
theorem Passes.comesTo (h : Passes see f past c before bs c') (x : α) (behind : List α) :
    ComesTo see c (inTurn f past (before ++ x :: behind)).run c' (f (past ++ bs) x).run := by
  induction h with
  | nil past c =>
    rw [List.nil_append, List.append_nil, inTurn, ExceptT.run_bind]
    exact (ComesTo.refl see c _).bind _
  | cons hfirst _ ih =>
    rw [List.cons_append, inTurn, ExceptT.run_bind]
    refine comesTo_bind ?_
    rw [hfirst]
    dsimp only
    rw [ExceptT.run_bind]
    rw [List.append_assoc, List.singleton_append] at ih
    exact ih.bind _

/-- If that one fails, the whole does; what is behind does not matter. -/
theorem Passes.run_inTurn_append (h : Passes see f past c before bs c')
    (hx : run see c' (f (past ++ bs) x).run = (.error e, c'')) (behind : List α) :
    run see c (inTurn f past (before ++ x :: behind)).run = (.error e, c'') := by
  induction h with
  | nil past c =>
    rw [List.append_nil] at hx
    rw [List.nil_append, inTurn, run_bind_of_error hx]
  | cons hfirst _ ih =>
    rw [← List.append_cons] at ih
    rw [List.cons_append, inTurn, run_bind_of_ok hfirst, run_bind_of_error (ih hx)]

theorem Stops.run_inTurn (h : Stops see f past c xs bs e c') :
    run see c (inTurn f past xs).run = (.error e, c') := by
  obtain ⟨hpasses, hfails, behind⟩ := h
  exact hpasses.run_inTurn_append hfails behind

/-- **These are the ways to end:** with the results of all items, -/
theorem run_inTurn_eq_ok_iff :
    run see c (inTurn f past xs).run = (.ok bs, c') ↔ Passes see f past c xs bs c' := by
  refine ⟨fun hrun => ?_, Passes.run_inTurn⟩
  rcases passes_or_stops see f past c xs with ⟨bs', c'', hpasses⟩ | ⟨bs', e, c'', hstops⟩
  · rw [hpasses.run_inTurn] at hrun
    cases hrun
    exact hpasses
  · rw [hstops.run_inTurn] at hrun
    cases hrun

/-- or with the failure of one. -/
theorem run_inTurn_eq_error_iff :
    run see c (inTurn f past xs).run = (.error e, c') ↔ ∃ bs, Stops see f past c xs bs e c' := by
  refine ⟨fun hrun => ?_, fun ⟨bs, hstops⟩ => hstops.run_inTurn⟩
  rcases passes_or_stops see f past c xs with ⟨bs', c'', hpasses⟩ | ⟨bs', e, c'', hstops⟩
  · rw [hpasses.run_inTurn] at hrun
    cases hrun
  · rw [hstops.run_inTurn] at hrun
    cases hrun
    exact ⟨bs', hstops⟩

/-! ## Where the results do not matter -/

variable {g : α → ExceptT ε (Task ρ) β}

theorem run_mapM_eq_ok_iff (past : List β) :
    run see c (xs.mapM g).run = (.ok bs, c') ↔ Passes see (fun _ => g) past c xs bs c' := by
  rw [← inTurn_const g past]
  exact run_inTurn_eq_ok_iff

theorem run_mapM_eq_error_iff (past : List β) :
    run see c (xs.mapM g).run = (.error e, c') ↔
      ∃ bs, Stops see (fun _ => g) past c xs bs e c' := by
  rw [← inTurn_const g past]
  exact run_inTurn_eq_error_iff

theorem length_of_run_mapM (h : run see c (xs.mapM g).run = (.ok bs, c')) :
    bs.length = xs.length :=
  ((run_mapM_eq_ok_iff []).1 h).length_eq

end Task

end Switchboard
