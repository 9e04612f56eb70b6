import Switchboard.Proofs.Dispatch.Scope
import Switchboard.Proofs.Task.Series
/-!
# The iterations agree

The five operators that evaluate a body on the items of an array do so one item after the
other, and differ in what they make of the values and in when they have seen enough. Where
the body has a value on every item, the result is a function of the items and these values
(`Iteration.result`). Where it fails on an item, some of the operators have their result
already (`Iteration.early?`), and the others fail as the body does. That they agree with each
other is read off these two (`iterationLaws`).

What the body comes to may depend on when it is evaluated, so that all values are those that
come out when it is evaluated on one item after the other, from where evaluating the operand
left the clock (`Host.Values`).
-/

namespace Switchboard

open Switchboard.Expr

variable {ρ : Type} {see : Nat → ρ} {c c' c'' : Task.Clock} {kind : Iteration}
variable {items values before past : List Json} {e : EvalError}

/-! ## What the values say -/

namespace Iteration

/-- There is a value, and it is true. -/
def isTrue : Except EvalError Json → Bool
  | .ok v => v.truthy
  | .error _ => false

/-- The items on which the values are true. -/
def selected (items values : List Json) : List Json :=
  ((items.zip values).filter (·.2.truthy)).map Prod.fst

/-- **The result of an iteration** over items on which the body has these values. -/
def result (kind : Iteration) (items values : List Json) : Json :=
  match kind with
  | .map => .array values
  | .filter => .array (selected items values)
  | .all => .bool (!items.isEmpty && values.all (·.truthy))
  | .some => .bool (values.any (·.truthy))
  | .none => .bool (!values.any (·.truthy))

/-- **The result that there is already** when the body has had these values, if they are enough. -/
def early? (kind : Iteration) (values : List Json) : Option Json :=
  match kind with
  | .map => .none
  | .filter => .none
  | .all => if values.all (·.truthy) then .none else .some (.bool false)
  | .some => if values.any (·.truthy) then .some (.bool true) else .none
  | .none => if values.any (·.truthy) then .some (.bool false) else .none

theorem selected_cons_of_truthy {v : Json} (hv : v.truthy = true) (item : Json)
    (items values : List Json) :
    selected (item :: items) (v :: values) = item :: selected items values := by
  simp [selected, hv]

theorem selected_cons_of_not_truthy {v : Json} (hv : v.truthy = false) (item : Json)
    (items values : List Json) :
    selected (item :: items) (v :: values) = selected items values := by
  simp [selected, hv]

end Iteration

namespace Expr

open Iteration

variable {body : Json → Evaluation ρ Json}

/-! ## Going through the items -/

/-- Filtering is evaluating the body on every item, and then keeping those on which it is true. -/
theorem filterItems_eq (body : Json → Evaluation ρ Json) (items : List Json) :
    filterItems body items = (do return selected items (← items.mapM body)) := by
  induction items with
  | nil =>
    rw [filterItems, List.mapM_nil, pure_bind]
    rfl
  | cons item rest ih =>
    rw [filterItems, List.mapM_cons, bind_assoc]
    refine bind_congr fun v => ?_
    rw [bind_assoc, ih]
    cases hv : v.truthy with
    | true =>
      rw [if_pos rfl, bind_assoc]
      refine bind_congr fun values => ?_
      rw [pure_bind, pure_bind, selected_cons_of_truthy hv]
    | false =>
      rw [if_neg Bool.false_ne_true]
      refine bind_congr fun values => ?_
      rw [pure_bind, selected_cons_of_not_truthy hv]

/-- **Looking for a truth** goes through the items in front first, and no further if it is there. -/
theorem run_anyItem_append (wanted : Bool)
    (h : Task.Passes see (fun _ => body) past c before values c') (items : List Json) :
    (Task.run see c (anyItem body wanted (before ++ items)).run).1 =
      if values.any (·.truthy == wanted) then .ok true
      else (Task.run see c' (anyItem body wanted items).run).1 := by
  induction h with
  | nil past c => rfl
  | @cons past values c c' c'' item rest v hfirst _ ih =>
    rw [List.cons_append, anyItem, Task.run_bind_of_ok hfirst, List.any_cons]
    by_cases hv : v.truthy = wanted
    · rw [if_pos hv, beq_iff_eq.2 hv, Bool.true_or, if_pos rfl]
      rfl
    · rw [if_neg hv, ih, beq_eq_false_iff_ne.2 hv, Bool.false_or]

theorem run_anyItem_of_passes (wanted : Bool)
    (h : Task.Passes see (fun _ => body) past c items values c') :
    (Task.run see c (anyItem body wanted items).run).1 =
      .ok (values.any (·.truthy == wanted)) := by
  have hall := run_anyItem_append wanted h []
  rw [List.append_nil] at hall
  rw [hall]
  cases values.any (·.truthy == wanted) with
  | true => rfl
  | false => rfl

theorem run_anyItem_of_stops (wanted : Bool)
    (h : Task.Stops see (fun _ => body) past c items values e c') :
    (Task.run see c (anyItem body wanted items).run).1 =
      if values.any (·.truthy == wanted) then .ok true else .error e := by
  obtain ⟨hpasses, hfails, behind⟩ := h
  rw [run_anyItem_append wanted hpasses, anyItem, Task.run_bind_of_error hfails]

/-! ## The results -/

/-- Where no value is false, all are true. -/
theorem not_any_truthy_false (values : List Json) :
    (!values.any (·.truthy == false)) = values.all (·.truthy) := by
  rw [List.not_any_eq_all_not]
  simp

/-- Of items that there are, all are true unless one is false. -/
theorem iterateOver_all (hitems : items ≠ []) :
    iterateOver .all body items = (do return .bool (!(← anyItem body false items))) := by
  cases items with
  | nil => exact absurd rfl hitems
  | cons item rest => rfl

/-- **Where the body has a value on every item,** these decide the result. -/
theorem run_iterateOver_of_passes (h : Task.Passes see (fun _ => body) past c items values c') :
    (Task.run see c (iterateOver kind body items).run).1 = .ok (kind.result items values) := by
  cases kind with
  | map =>
    rw [iterateOver, Task.run_return, (Task.run_mapM_eq_ok_iff past).2 h]
    rfl
  | filter =>
    rw [iterateOver, filterItems_eq, bind_assoc]
    simp only [pure_bind]
    rw [Task.run_return, (Task.run_mapM_eq_ok_iff past).2 h]
    rfl
  | all =>
    cases items with
    | nil =>
      cases h
      rfl
    | cons item rest =>
      rw [iterateOver_all (List.cons_ne_nil item rest), Task.run_return,
        run_anyItem_of_passes false h]
      exact congrArg (fun b => Except.ok (Json.bool b)) (not_any_truthy_false values)
  | some =>
    rw [iterateOver, Task.run_return, run_anyItem_of_passes true h]
    simp only [beq_true]
    rfl
  | none =>
    rw [iterateOver, Task.run_return, run_anyItem_of_passes true h]
    simp only [beq_true]
    rfl

/-- **Where the body fails on an item,** the iteration does so too, unless the values before are
enough. -/
theorem run_iterateOver_of_stops (h : Task.Stops see (fun _ => body) past c items values e c') :
    (Task.run see c (iterateOver kind body items).run).1 =
      (kind.early? values).elim (.error e) .ok := by
  cases kind with
  | map =>
    rw [iterateOver, Task.run_return, (Task.run_mapM_eq_error_iff past).2 ⟨values, h⟩]
    rfl
  | filter =>
    rw [iterateOver, filterItems_eq, bind_assoc]
    simp only [pure_bind]
    rw [Task.run_return, (Task.run_mapM_eq_error_iff past).2 ⟨values, h⟩]
    rfl
  | all =>
    have hitems : items ≠ [] := by
      obtain ⟨-, -, -⟩ := h
      exact List.append_ne_nil_of_right_ne_nil _ (List.cons_ne_nil _ _)
    rw [iterateOver_all hitems, Task.run_return, run_anyItem_of_stops false h, early?,
      ← not_any_truthy_false]
    cases values.any (·.truthy == false) with
    | true => rfl
    | false => rfl
  | some =>
    rw [iterateOver, Task.run_return, run_anyItem_of_stops true h, early?]
    simp only [beq_true]
    cases values.any (·.truthy) with
    | true => rfl
    | false => rfl
  | none =>
    rw [iterateOver, Task.run_return, run_anyItem_of_stops true h, early?]
    simp only [beq_true]
    cases values.any (·.truthy) with
    | true => rfl
    | false => rfl

/-! ## Negated bodies -/

/-- **No value is false exactly if no negation is true,** and both are known at the same item. -/
theorem anyItem_not (body : Json → Evaluation ρ Json) (items : List Json) :
    anyItem (fun item => do return .bool (!(← body item).truthy)) true items =
      anyItem body false items := by
  induction items with
  | nil => rfl
  | cons item rest ih =>
    rw [anyItem, anyItem, bind_assoc]
    refine bind_congr fun v => ?_
    rw [pure_bind, ih]
    cases hv : v.truthy with
    | true => rfl
    | false => rfl

end Expr

/-- The expression that is true where this one is not. -/
def negationOf (expression : Json) : Json := .object [("!", .array [expression])]

theorem Expr.ofJson_negationOf (expression : Json) :
    ofJson (negationOf expression) = .apply .not [ofJson expression] := by
  have hop : Operator.ofName? "!" = some (.builtin .not) := by decide
  rw [negationOf, ofJson, ofCall, hop, ofOperands_array]
  rfl

theorem Expr.eval_negationOf (h : Host ρ) (expression data : Json) :
    eval h (ofJson (negationOf expression)) data =
      (do return .bool (!(← eval h (ofJson expression) data).truthy)) := by
  rw [ofJson_negationOf, eval, evalAll, bind_assoc]
  refine bind_congr fun v => ?_
  rw [evalAll, pure_bind, pure_bind]
  rfl

/-! ## Iterations of expressions -/

namespace Host

/-- What the evaluation of an expression comes to, on a host that sees this. -/
def outcome (h : Host ρ) (see : Nat → ρ) (c : Task.Clock) (expression data : Json) :
    Except EvalError Json :=
  (Task.run see c (eval h (.ofJson expression) data).run).1

/-- **The operand of an iteration supplies the items:** it comes to an array of them, or to null
where there are none. -/
def Supplies (h : Host ρ) (see : Nat → ρ) (c : Task.Clock) (source data : Json)
    (items : List Json) (c' : Task.Clock) : Prop :=
  ∃ v, (v = .array items ∨ v = .null ∧ items = []) ∧
    Task.run see c (eval h (.ofJson source) data).run = (.ok v, c')

/-- **The body has these values,** evaluated on one item after the other. -/
def Values (h : Host ρ) (see : Nat → ρ) (body : Json) (c : Task.Clock) (items values : List Json)
    (c' : Task.Clock) : Prop :=
  Task.Passes see (fun _ => eval h (.ofJson body)) [] c items values c'

variable {h : Host ρ} {source data : Json}

theorem Supplies.outcome_eq (hs : h.Supplies see c source data items c') (kind : Iteration)
    (body : Json) : h.outcome see c (iterationOf kind source body []) data =
      (Task.run see c' (iterateOver kind (eval h (.ofJson body)) items).run).1 := by
  obtain ⟨v, hv, hsource⟩ := hs
  rw [outcome, ofJson_iterationOf, eval, Task.run_bind_of_ok hsource]
  rcases hv with rfl | ⟨rfl, rfl⟩
  · rfl
  · rfl

/-- **What the iterations of a body come to** is decided together: either the body has a value on
every item, or it fails on one. -/
theorem Supplies.outcomes (hs : h.Supplies see c source data items c') (body : Json) :
    (∃ values c'', h.Values see body c' items values c'' ∧ ∀ kind : Iteration,
      h.outcome see c (iterationOf kind source body []) data = .ok (kind.result items values)) ∨
    ∃ values e c'',
      Task.Stops see (fun _ => eval h (.ofJson body)) [] c' items values e c'' ∧
      ∀ kind : Iteration, h.outcome see c (iterationOf kind source body []) data =
        (kind.early? values).elim (.error e) .ok := by
  rcases Task.passes_or_stops see (fun _ => eval h (.ofJson body)) [] c' items with
    ⟨values, c'', hpasses⟩ | ⟨values, e, c'', hstops⟩
  · refine .inl ⟨values, c'', hpasses, fun kind => ?_⟩
    rw [hs.outcome_eq, run_iterateOver_of_passes hpasses]
  · refine .inr ⟨values, e, c'', hstops, fun kind => ?_⟩
    rw [hs.outcome_eq, run_iterateOver_of_stops hstops]

end Host

namespace Iteration

/-! ## The laws of iterations -/

/-- **How the iterations agree,** on a host that sees this. -/
structure IterationLaws (h : Host ρ) (see : Nat → ρ) : Prop where
  /-- `none` is the negation of `some`, and fails as that does. -/
  negation : ∀ {c source data items c'}, h.Supplies see c source data items c' → ∀ body,
    (∃ b, h.outcome see c (iterationOf .some source body []) data = .ok (.bool b) ∧
      h.outcome see c (iterationOf .none source body []) data = .ok (.bool !b)) ∨
    ∃ e, h.outcome see c (iterationOf .some source body []) data = .error e ∧
      h.outcome see c (iterationOf .none source body []) data = .error e
  /-- `map` succeeds exactly if the body has a value on every item, with these in order. -/
  mapped : ∀ {c source data items c'}, h.Supplies see c source data items c' → ∀ body v,
    h.outcome see c (iterationOf .map source body []) data = .ok v ↔
      ∃ values c'', v = .array values ∧ h.Values see body c' items values c''
  /-- What `filter` keeps are the items on which the body is true, by its values on all of them;
  then `some` tells whether there are any, and `all` whether it is all of them and there are any. -/
  filtered : ∀ {c source data items c'}, h.Supplies see c source data items c' → ∀ body v,
    h.outcome see c (iterationOf .filter source body []) data = .ok v →
    ∃ values c'', h.Values see body c' items values c'' ∧ v = .array (selected items values) ∧
      (∃ b, h.outcome see c (iterationOf .some source body []) data = .ok (.bool b) ∧
        (b = true ↔ selected items values ≠ [])) ∧
      ∃ b, h.outcome see c (iterationOf .all source body []) data = .ok (.bool b) ∧
        (b = true ↔ items ≠ [] ∧ selected items values = items)
  /-- A body that comes to the same on an item whenever it is evaluated need not be evaluated in any
  order to tell what `filter` keeps. -/
  steady : ∀ {c source data items c'}, h.Supplies see c source data items c' →
    ∀ (body : Json) (value : Json → Except EvalError Json),
    (∀ c item, h.outcome see c body item = value item) → ∀ v,
    h.outcome see c (iterationOf .filter source body []) data = .ok v →
    v = .array (items.filter fun item => isTrue (value item))
  /-- If `filter` fails, the body fails on an item and has values on those before, and the others
  fail with the same error, unless the values before are enough for them. -/
  failing : ∀ {c source data items c'}, h.Supplies see c source data items c' → ∀ body e,
    h.outcome see c (iterationOf .filter source body []) data = .error e →
    ∃ before item behind values c'', items = before ++ item :: behind ∧
      h.Values see body c' before values c'' ∧ h.outcome see c'' body item = .error e ∧
      h.outcome see c (iterationOf .map source body []) data = .error e ∧
      h.outcome see c (iterationOf .some source body []) data =
        (if ∃ v ∈ values, v.truthy then .ok (.bool true) else .error e) ∧
      h.outcome see c (iterationOf .none source body []) data =
        (if ∃ v ∈ values, v.truthy then .ok (.bool false) else .error e) ∧
      h.outcome see c (iterationOf .all source body []) data =
        (if ∃ v ∈ values, ¬ v.truthy then .ok (.bool false) else .error e)
  /-- On items that there are, `all` comes to the same as `none` with the negated body. -/
  complement : ∀ {c source data items c'}, h.Supplies see c source data items c' → items ≠ [] →
    ∀ body, h.outcome see c (iterationOf .all source body []) data =
      h.outcome see c (iterationOf .none source (negationOf body) []) data
  /-- Where there are none, that is not so. -/
  empty : ∀ {c source data c'}, h.Supplies see c source data [] c' → ∀ body,
    h.outcome see c (iterationOf .all source body []) data = .ok (.bool false) ∧
      h.outcome see c (iterationOf .some source body []) data = .ok (.bool false) ∧
      h.outcome see c (iterationOf .none source body []) data = .ok (.bool true)

theorem length_selected_le (items values : List Json) :
    (selected items values).length ≤ items.length := by
  have hfilter := List.length_filter_le (fun p : Json × Json => p.2.truthy) (items.zip values)
  rw [List.length_zip] at hfilter
  rw [selected, List.length_map]
  omega

/-- Some value is true exactly if an item is selected, -/
theorem any_truthy_iff (hlength : values.length = items.length) :
    values.any (·.truthy) = true ↔ selected items values ≠ [] := by
  induction items generalizing values with
  | nil =>
    obtain rfl := List.length_eq_zero_iff.1 hlength
    simp [selected]
  | cons item rest ih =>
    obtain ⟨v, values, rfl⟩ := List.exists_cons_of_length_eq_add_one hlength
    cases hv : v.truthy with
    | true => simp [hv, selected_cons_of_truthy hv]
    | false =>
      rw [List.any_cons, hv, Bool.false_or, selected_cons_of_not_truthy hv]
      exact ih (Nat.succ.inj hlength)

/-- and all values are exactly if all items are. -/
theorem all_truthy_iff (hlength : values.length = items.length) :
    values.all (·.truthy) = true ↔ selected items values = items := by
  induction items generalizing values with
  | nil =>
    obtain rfl := List.length_eq_zero_iff.1 hlength
    simp [selected]
  | cons item rest ih =>
    obtain ⟨v, values, rfl⟩ := List.exists_cons_of_length_eq_add_one hlength
    cases hv : v.truthy with
    | true =>
      rw [List.all_cons, hv, Bool.true_and, selected_cons_of_truthy hv, List.cons.injEq]
      simpa using ih (Nat.succ.inj hlength)
    | false =>
      rw [List.all_cons, hv, Bool.false_and, selected_cons_of_not_truthy hv]
      -- This item is left out, and there are not enough behind it to make up for it.
      refine iff_of_false Bool.false_ne_true fun hall => ?_
      have hle := length_selected_le rest values
      rw [hall, List.length_cons] at hle
      omega

/-- **Values that do not depend on when** they come out select items one by one. -/
theorem selected_of_steady {h : Host ρ} {body : Json} {value : Json → Except EvalError Json}
    (hsteady : ∀ c item, h.outcome see c body item = value item)
    (hpasses : Task.Passes see (fun _ => eval h (.ofJson body)) past c items values c') :
    selected items values = items.filter fun item => isTrue (value item) := by
  induction hpasses with
  | nil => rfl
  | @cons past values c c' c'' item rest v hfirst _ ih =>
    have hvalue : value item = .ok v := by rw [← hsteady c item, Host.outcome, hfirst]
    have htrue : isTrue (value item) = v.truthy := by rw [hvalue, isTrue]
    rw [List.filter_cons, htrue, ← ih]
    cases hv : v.truthy with
    | true => rw [selected_cons_of_truthy hv, if_pos rfl]
    | false => rw [selected_cons_of_not_truthy hv, if_neg Bool.false_ne_true]

/-- A value that is true is enough for `some`, -/
theorem early?_some (values : List Json) (e : EvalError) :
    ((Iteration.some.early? values).elim (.error e) .ok : Except EvalError Json) =
      if ∃ v ∈ values, v.truthy then .ok (.bool true) else .error e := by
  simp only [early?, List.any_eq_true]
  split
  · rfl
  · rfl

/-- and for `none`; -/
theorem early?_none (values : List Json) (e : EvalError) :
    ((Iteration.none.early? values).elim (.error e) .ok : Except EvalError Json) =
      if ∃ v ∈ values, v.truthy then .ok (.bool false) else .error e := by
  simp only [early?, List.any_eq_true]
  split
  · rfl
  · rfl

/-- one that is false is for `all`. -/
theorem early?_all (values : List Json) (e : EvalError) :
    ((Iteration.all.early? values).elim (.error e) .ok : Except EvalError Json) =
      if ∃ v ∈ values, ¬ v.truthy then .ok (.bool false) else .error e := by
  simp only [early?, List.all_eq_true]
  by_cases hall : ∀ v ∈ values, v.truthy = true
  · have hnone : ¬ ∃ v ∈ values, ¬ v.truthy = true := fun ⟨v, hv, hfalse⟩ => hfalse (hall v hv)
    rw [if_pos hall, if_neg hnone]
    rfl
  · have hsome : ∃ v ∈ values, ¬ v.truthy = true := by simpa using hall
    rw [if_neg hall, if_pos hsome]
    rfl

theorem iterationLaws (h : Host ρ) (see : Nat → ρ) : IterationLaws h see where
  negation := by
    intro c source data items c' hs body
    rcases hs.outcomes body with ⟨values, c'', -, hall⟩ | ⟨values, e, c'', -, hall⟩
    · rw [hall, hall]
      exact .inl ⟨_, rfl, rfl⟩
    · rw [hall, hall, early?, early?]
      split
      · exact .inl ⟨true, rfl, rfl⟩
      · exact .inr ⟨e, rfl, rfl⟩
  mapped := by
    intro c source data items c' hs body v
    constructor
    · intro hv
      rcases hs.outcomes body with ⟨values, c'', hvalues, hall⟩ | ⟨values, e, c'', -, hall⟩
      · rw [hall] at hv
        exact ⟨values, c'', (Except.ok.inj hv).symm, hvalues⟩
      · rw [hall] at hv
        cases hv
    · rintro ⟨values, c'', rfl, hvalues⟩
      rw [hs.outcome_eq, run_iterateOver_of_passes hvalues]
      rfl
  filtered := by
    intro c source data items c' hs body v hv
    rcases hs.outcomes body with ⟨values, c'', hvalues, hall⟩ | ⟨values, e, c'', -, hall⟩
    · have hlength := Task.Passes.length_eq hvalues
      rw [hall] at hv
      rw [hall, hall]
      refine ⟨values, c'', hvalues, (Except.ok.inj hv).symm, ?_, ?_⟩
      · exact ⟨_, rfl, any_truthy_iff hlength⟩
      · refine ⟨_, rfl, ?_⟩
        rw [Bool.and_eq_true, all_truthy_iff hlength]
        simp
    · rw [hall] at hv
      cases hv
  steady := by
    intro c source data items c' hs body value hsteady v hv
    rcases hs.outcomes body with ⟨values, c'', hvalues, hall⟩ | ⟨values, e, c'', -, hall⟩
    · rw [hall, result, selected_of_steady hsteady hvalues] at hv
      exact (Except.ok.inj hv).symm
    · rw [hall] at hv
      cases hv
  failing := by
    intro c source data items c' hs body e he
    rcases hs.outcomes body with ⟨values, c'', -, hall⟩ | ⟨values, e', c'', hstops, hall⟩
    · rw [hall] at he
      cases he
    · rw [hall] at he
      cases he
      rw [hall, hall, hall, hall, early?_some, early?_none, early?_all]
      obtain ⟨hbefore, hfails, behind⟩ := hstops
      exact ⟨_, _, behind, values, _, rfl, hbefore, congrArg Prod.fst hfails, rfl, rfl, rfl, rfl⟩
  complement := by
    intro c source data items c' hs hitems body
    -- `all` looks for an item that is false, which is where the negated body is true.
    rw [hs.outcome_eq, hs.outcome_eq, iterateOver_all hitems, iterateOver]
    rw [funext (eval_negationOf h body), anyItem_not]
  empty := by
    intro c source data c' hs body
    rw [hs.outcome_eq, hs.outcome_eq, hs.outcome_eq]
    exact ⟨rfl, rfl, rfl⟩

end Iteration

end Switchboard
