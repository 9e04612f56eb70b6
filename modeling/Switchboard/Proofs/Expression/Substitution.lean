import Switchboard.Expression.Evaluation
import Switchboard.Proofs.Expression.Template
import Switchboard.Proofs.Task.Series
/-!
# Evaluating templates

The value of a template is the template, filled with the values of its expressions
(`templateLaws`). These are evaluated against the same data, one after the other in the order in
which they are come across, and nothing else is. The proof goes by the children of a template: what
holds of each (`FillsOut`) holds of a list of them, and of the template.
-/

namespace Switchboard

open Json (Place)
open Template

variable {ρ : Type}

namespace Expr

/-! ## Templates and their children -/

theorem evalAll_map (h : Host ρ) (f : Json → Expr) (xs : List Json) (data : Json) :
    evalAll h (xs.map f) data = xs.mapM fun x => eval h (f x) data := by
  induction xs with
  | nil => rw [List.map_nil, evalAll, List.mapM_nil]
  | cons x rest ih => rw [List.map_cons, evalAll, List.mapM_cons, ih]

theorem evalFields_map (h : Host ρ) (f : Json → Expr) (fields : Json.Fields) (data : Json) :
    evalFields h (fields.map fun e => (e.1, f e.2)) data =
      (do
        let vs ← (fields.map Prod.snd).mapM fun x => eval h (f x) data
        return (fields.map Prod.fst).zip vs) := by
  induction fields with
  | nil =>
    rw [List.map_nil, evalFields, List.map_nil, List.mapM_nil, pure_bind]
    rfl
  | cons e rest ih =>
    rw [List.map_cons, evalFields, ih, List.map_cons, List.map_cons, List.mapM_cons, bind_assoc]
    refine bind_congr fun v => ?_
    rw [bind_assoc, bind_assoc]
    refine bind_congr fun vs => ?_
    rw [pure_bind, pure_bind]
    rfl

theorem ofTemplate_expression (x : Json) :
    ofTemplate (.object [(expressionMarker, x)]) = ofJson x := by
  rw [ofTemplate, if_pos rfl]

theorem ofTemplate_literal (x : Json) :
    ofTemplate (.object [(literalMarker, x)]) = .literal x := by
  rw [ofTemplate, if_neg expressionMarker_ne_literalMarker.symm, if_pos rfl]

/-- An object that is not marked is a record, with one key or with more. -/
theorem ofTemplate_object {fields : Json.Fields} (h : ¬ IsMarked (.object fields)) :
    ofTemplate (.object fields) = .record (fields.map fun e => (e.1, ofTemplate e.2)) := by
  by_cases hsingle : ∃ key x, fields = [(key, x)]
  · obtain ⟨key, x, rfl⟩ := hsingle
    have hexpression : key ≠ expressionMarker := by
      rintro rfl
      exact h (isMarked_expression x)
    have hliteral : key ≠ literalMarker := by
      rintro rfl
      exact h (isMarked_literal x)
    rw [ofTemplate, if_neg hexpression, if_neg hliteral]
    rfl
  · have hfields := List.attach_map_val (l := fields)
      (f := fun e : String × Json => (e.1, ofTemplate e.2))
    rw [ofTemplate.eq_2 fields fun key x heq => hsingle ⟨key, x, heq⟩]
    exact congrArg Expr.record hfields

/-- **A value that is not marked keeps its form,** with the values of its children. -/
theorem eval_ofTemplate {t : Json} (ht : ¬ IsMarked t) (h : Host ρ) (data : Json) :
    eval h (ofTemplate t) data =
      (do return t.withChildren (← t.children.mapM fun x => eval h (ofTemplate x) data)) := by
  cases t with
  | null =>
    rw [Json.children, List.mapM_nil, pure_bind]
    simp only [ofTemplate, eval, Json.withChildren]
  | bool b =>
    rw [Json.children, List.mapM_nil, pure_bind]
    simp only [ofTemplate, eval, Json.withChildren]
  | number n =>
    rw [Json.children, List.mapM_nil, pure_bind]
    simp only [ofTemplate, eval, Json.withChildren]
  | string s =>
    rw [Json.children, List.mapM_nil, pure_bind]
    simp only [ofTemplate, eval, Json.withChildren]
  | array items =>
    have hitems := List.attach_map_val (l := items) (f := ofTemplate)
    rw [ofTemplate, hitems, eval, evalAll_map]
    rfl
  | object fields =>
    rw [ofTemplate_object ht, eval, evalFields_map, bind_assoc]
    refine bind_congr fun vs => ?_
    rw [pure_bind]
    rfl

end Expr

namespace Template

open Switchboard.Expr

/-- The value of what is marked as an expression, wherever that is. -/
def valueOf (h : Host ρ) (data : Json) (e : Place × Json) : Evaluation ρ Json :=
  eval h (ofJson e.2) data

/-- The values, in order, at the places of the expressions that they are of. -/
def At (es : List (Place × Json)) (vs : List Json) (place : Place) (v : Json) : Prop :=
  (place, v) ∈ (es.map Prod.fst).zip vs

/-- **A template comes to what its expressions make of it,** on a host that sees this. -/
structure FillsOut (h : Host ρ) (see : Nat → ρ) (data t : Json) : Prop where
  ok : ∀ {c vs c'}, Task.run see c ((expressions t).mapM (valueOf h data)).run = (.ok vs, c') →
    ∃ r, Task.run see c (eval h (ofTemplate t) data).run = (.ok r, c') ∧
      Fills t (At (expressions t) vs) r
  error : ∀ {c e c'}, Task.run see c ((expressions t).mapM (valueOf h data)).run = (.error e, c') →
    Task.run see c (eval h (ofTemplate t) data).run = (.error e, c')

/-- The same of templates that are the children of one, from the `i`-th on. -/
structure FillOut (h : Host ρ) (see : Nat → ρ) (data : Json) (i : Nat) (xs : List Json) :
    Prop where
  ok : ∀ {c vs c'},
    Task.run see c ((expressionsFrom i xs).mapM (valueOf h data)).run = (.ok vs, c') →
    ∃ rs, Task.run see c (xs.mapM fun x => eval h (ofTemplate x) data).run = (.ok rs, c') ∧
      ∀ j x r, xs[j]? = some x → rs[j]? = some r →
        Fills x (fun place => At (expressionsFrom i xs) vs ((i + j) :: place)) r
  error : ∀ {c e c'},
    Task.run see c ((expressionsFrom i xs).mapM (valueOf h data)).run = (.error e, c') →
    Task.run see c (xs.mapM fun x => eval h (ofTemplate x) data).run = (.error e, c')

variable {h : Host ρ} {see : Nat → ρ} {data t : Json} {vs ws : List Json}
variable {es fs : List (Place × Json)} {place : Place} {v : Json} {i : Nat}

/-! ## Where the values are -/

theorem At.under (hv : At es vs place v) (i : Nat) :
    At (es.map (under i)) vs (i :: place) v := by
  rw [At, List.map_map]
  change _ ∈ (es.map ((i :: ·) ∘ Prod.fst)).zip vs
  rw [← List.map_map, List.zip_map_left, List.mem_map]
  exact ⟨(place, v), hv, rfl⟩

theorem at_append (hlength : vs.length = es.length) :
    At (es ++ fs) (vs ++ ws) place v ↔ At es vs place v ∨ At fs ws place v := by
  rw [At, List.map_append, List.zip_append (by rw [List.length_map, hlength]), List.mem_append]
  rfl

/-- At every place there is one value. -/
theorem At.unique {w : Json} (hv : At (expressions t) vs place v)
    (hw : At (expressions t) vs place w) : v = w := by
  have hnodup := places_nodup t
  obtain ⟨j, hj⟩ := List.mem_iff_getElem?.1 hv
  obtain ⟨k, hk⟩ := List.mem_iff_getElem?.1 hw
  rw [List.getElem?_zip_eq_some] at hj hk
  have hjk : j = k := by
    obtain ⟨hlt, hplace⟩ := List.getElem?_eq_some_iff.1 hj.1
    obtain ⟨hlt', hplace'⟩ := List.getElem?_eq_some_iff.1 hk.1
    exact (List.getElem_inj hnodup).1 (hplace.trans hplace'.symm)
  rw [hjk, hk.2] at hj
  exact (Option.some.inj hj.2).symm

/-! ## Filling out -/

theorem fillsOut_expression (h : Host ρ) (see : Nat → ρ) (data x : Json) :
    FillsOut h see data (.object [(expressionMarker, x)]) := by
  have hmapM : [([], x)].mapM (valueOf h data) = (do return [← eval h (ofJson x) data]) := by
    rw [List.mapM_cons]
    refine bind_congr fun v => ?_
    rw [List.mapM_nil, pure_bind]
  constructor
  · intro c vs c' hrun
    rw [expressions_expression, hmapM] at hrun
    obtain ⟨v, hv, rfl⟩ := Task.run_return_eq_ok_iff.1 hrun
    refine ⟨v, by rw [ofTemplate_expression, hv], Fills.of_expression ?_⟩
    rw [expressions_expression]
    exact List.mem_singleton_self _
  · intro c e c' hrun
    rw [expressions_expression, hmapM] at hrun
    rw [ofTemplate_expression]
    exact Task.run_return_eq_error_iff.1 hrun

theorem fillsOut_literal (h : Host ρ) (see : Nat → ρ) (data x : Json) :
    FillsOut h see data (.object [(literalMarker, x)]) := by
  constructor
  · intro c vs c' hrun
    rw [expressions_literal, List.mapM_nil] at hrun
    cases hrun
    refine ⟨x, ?_, Fills.of_literal _ x⟩
    rw [ofTemplate_literal, eval]
    rfl
  · intro c e c' hrun
    rw [expressions_literal, List.mapM_nil] at hrun
    cases hrun

/-- A place does not change the value, so that those of the first child come first, as alone. -/
theorem mapM_expressionsFrom_cons (h : Host ρ) (data x : Json) (xs : List Json) (i : Nat) :
    (expressionsFrom i (x :: xs)).mapM (valueOf h data) = (do
      let vs ← (expressions x).mapM (valueOf h data)
      let ws ← (expressionsFrom (i + 1) xs).mapM (valueOf h data)
      return vs ++ ws) := by
  rw [expressionsFrom, List.mapM_append, List.mapM_map]
  rfl

/-- The values of the first child are in front, those of the others behind. -/
theorem fills_cons {x r : Json} {xs rs : List Json} (hlength : vs.length = (expressions x).length)
    (hx : Fills x (At (expressions x) vs) r)
    (hxs : ∀ j y w, xs[j]? = some y → rs[j]? = some w →
      Fills y (fun place => At (expressionsFrom (i + 1) xs) ws ((i + 1 + j) :: place)) w) :
    ∀ j y w, (x :: xs)[j]? = some y → (r :: rs)[j]? = some w →
      Fills y (fun place => At (expressionsFrom i (x :: xs)) (vs ++ ws) ((i + j) :: place)) w := by
  intro j y w hy hw
  have hunder : vs.length = ((expressions x).map (under i)).length := by
    rw [List.length_map, hlength]
  rw [expressionsFrom]
  cases j with
  | zero =>
    cases hy
    cases hw
    exact hx.mono fun place v hv => (at_append hunder).2 (.inl (hv.under i))
  | succ j =>
    refine (hxs j y w hy hw).mono fun place v hv => ?_
    rw [Nat.add_right_comm, Nat.add_assoc] at hv
    exact (at_append hunder).2 (.inr hv)

/-- **If each of the templates fills out, they do one after the other.** -/
theorem fillOut_of_forall {xs : List Json} (hxs : ∀ x ∈ xs, FillsOut h see data x) (i : Nat) :
    FillOut h see data i xs := by
  induction xs generalizing i with
  | nil =>
    constructor
    · intro c vs c' hrun
      rw [expressionsFrom, List.mapM_nil] at hrun
      cases hrun
      refine ⟨[], by rw [List.mapM_nil]; rfl, fun j x r hx => ?_⟩
      cases hx
    · intro c e c' hrun
      rw [expressionsFrom, List.mapM_nil] at hrun
      cases hrun
  | cons x xs ih =>
    obtain ⟨hx, hrest⟩ := List.forall_mem_cons.1 hxs
    have hall := ih hrest (i + 1)
    constructor
    · intro c us c' hrun
      rw [mapM_expressionsFrom_cons, Task.run_bind_eq_ok_iff] at hrun
      obtain ⟨vs, c₁, hvs, hrun⟩ := hrun
      obtain ⟨ws, hws, rfl⟩ := Task.run_return_eq_ok_iff.1 hrun
      obtain ⟨r, hr, hfills⟩ := hx.ok hvs
      obtain ⟨rs, hrs, hfillsRest⟩ := hall.ok hws
      refine ⟨r :: rs, ?_, fills_cons (Task.length_of_run_mapM hvs) hfills hfillsRest⟩
      rw [List.mapM_cons, Task.run_bind_of_ok hr, Task.run_bind_of_ok hrs]
      rfl
    · intro c e c' hrun
      rw [mapM_expressionsFrom_cons, Task.run_bind_eq_error_iff] at hrun
      rcases hrun with hvs | ⟨vs, c₁, hvs, hrun⟩
      · rw [List.mapM_cons, Task.run_bind_of_error (hx.error hvs)]
      · have hws := Task.run_return_eq_error_iff.1 hrun
        obtain ⟨r, hr, -⟩ := hx.ok hvs
        rw [List.mapM_cons, Task.run_bind_of_ok hr, Task.run_bind_of_error (hall.error hws)]

theorem fillsOut_of_children (hunmarked : ¬ IsMarked t)
    (hchildren : ∀ x ∈ t.children, FillsOut h see data x) : FillsOut h see data t := by
  have hall := fillOut_of_forall hchildren 0
  have hexpressions := expressions_of_not_isMarked hunmarked
  constructor
  · intro c vs c' hrun
    rw [hexpressions] at hrun
    obtain ⟨rs, hrs, hfills⟩ := hall.ok hrun
    refine ⟨t.withChildren rs, ?_, ?_⟩
    · rw [eval_ofTemplate hunmarked]
      exact Task.run_return_eq_ok_iff.2 ⟨rs, hrs, rfl⟩
    · rw [hexpressions]
      refine Fills.of_children hunmarked (Task.length_of_run_mapM hrs) fun i x w hx hw => ?_
      have hchild := hfills i x w hx hw
      rwa [Nat.zero_add] at hchild
  · intro c e c' hrun
    rw [hexpressions] at hrun
    rw [eval_ofTemplate hunmarked]
    exact Task.run_return_eq_error_iff.2 (hall.error hrun)

/-- **Every template fills out.** -/
theorem fillsOut (h : Host ρ) (see : Nat → ρ) (data t : Json) : FillsOut h see data t := by
  induction t using Json.induction_on_children with
  | step t ih =>
    rcases mark?_cases t with ⟨x, rfl⟩ | ⟨x, rfl⟩ | ⟨hunmarked, -⟩
    · exact fillsOut_expression h see data x
    · exact fillsOut_literal h see data x
    · exact fillsOut_of_children hunmarked ih

theorem fills_unique {r r' : Json} (hr : Fills t (At (expressions t) vs) r)
    (hr' : Fills t (At (expressions t) vs) r') : r = r' := by
  have hvalues : ∀ place v w, At (expressions t) vs place v → At (expressions t) vs place w →
      v = w := fun _ _ _ hv hw => hv.unique hw
  exact Fills.unique hvalues hr hr'

theorem run_ofTemplate_eq_ok_iff {c c' : Task.Clock} {r : Json} :
    Task.run see c (eval h (ofTemplate t) data).run = (.ok r, c') ↔
      ∃ vs, Task.run see c ((expressions t).mapM (valueOf h data)).run = (.ok vs, c') ∧
        Fills t (At (expressions t) vs) r := by
  have hfillsOut := fillsOut h see data t
  constructor
  · intro hrun
    cases hvalues : Task.run see c ((expressions t).mapM (valueOf h data)).run with
    | mk result c'' =>
      cases result with
      | ok vs =>
        obtain ⟨r', hr, hfills⟩ := hfillsOut.ok hvalues
        rw [hr] at hrun
        cases hrun
        exact ⟨vs, rfl, hfills⟩
      | error e =>
        rw [hfillsOut.error hvalues] at hrun
        cases hrun
  · rintro ⟨vs, hvalues, hfills⟩
    obtain ⟨r', hr, hfills'⟩ := hfillsOut.ok hvalues
    rw [hr, fills_unique hfills hfills']

theorem run_ofTemplate_eq_error_iff {c c' : Task.Clock} {e : EvalError} :
    Task.run see c (eval h (ofTemplate t) data).run = (.error e, c') ↔
      Task.run see c ((expressions t).mapM (valueOf h data)).run = (.error e, c') := by
  have hfillsOut := fillsOut h see data t
  refine ⟨fun hrun => ?_, hfillsOut.error⟩
  cases hvalues : Task.run see c ((expressions t).mapM (valueOf h data)).run with
  | mk result c'' =>
    cases result with
    | ok vs =>
      obtain ⟨r', hr, -⟩ := hfillsOut.ok hvalues
      rw [hr] at hrun
      cases hrun
    | error e =>
      rw [hfillsOut.error hvalues] at hrun
      cases hrun
      rfl

/-! ## Templates without marks -/

theorem mapM_eq_pure {f : Json → Evaluation ρ Json} {xs : List Json}
    (hf : ∀ x ∈ xs, f x = pure x) : xs.mapM f = pure xs := by
  induction xs with
  | nil => rw [List.mapM_nil]
  | cons x rest ih =>
    obtain ⟨hx, hrest⟩ := List.forall_mem_cons.1 hf
    rw [List.mapM_cons, hx, ih hrest, pure_bind, pure_bind]

/-- **A template in which nothing is marked is its own value.** -/
theorem eval_ofTemplate_of_plain
    (hplain : ∀ place v, Exposed t place → t.part? place = some v → ¬ IsMarked v)
    (h : Host ρ) (data : Json) : eval h (ofTemplate t) data = pure t := by
  induction t using Json.induction_on_children with
  | step t ih =>
    have hunmarked := hplain [] t (exposed_nil t) rfl
    have hchildren : t.children.mapM (fun x => eval h (ofTemplate x) data) = pure t.children := by
      refine mapM_eq_pure fun x hx => ih x hx fun place v hexposed hpart => ?_
      obtain ⟨i, hi⟩ := List.mem_iff_getElem?.1 hx
      refine hplain (i :: place) v ((exposed_cons_iff hi).2 ⟨hunmarked, hexposed⟩) ?_
      rw [Json.part?_cons hi, hpart]
    rw [eval_ofTemplate hunmarked, hchildren, pure_bind, Json.withChildren_children]

/-! ## The laws of templates -/

/-- **What a template comes to,** on a host that sees this. -/
structure TemplateLaws (h : Host ρ) (see : Nat → ρ) : Prop where
  /-- Its expressions are all that is marked as such and not inside of anything marked, -/
  listed : ∀ t place x, (place, x) ∈ expressions t ↔
    Exposed t place ∧ t.part? place = some (.object [(expressionMarker, x)])
  /-- in the order of items and fields. -/
  ordered : ∀ t, (expressions t).Pairwise fun e f => Before e.1 f.1
  /-- **There is a value** exactly if each of them has one, and it is the template filled with
  these as they are. -/
  success : ∀ t data c r c', Task.run see c (eval h (ofTemplate t) data).run = (.ok r, c') ↔
    ∃ vs, Task.Passes see (fun _ => valueOf h data) [] c (expressions t) vs c' ∧
      Fills t (At (expressions t) vs) r
  /-- Otherwise it fails, and as the first of them that has none. -/
  failure : ∀ t data c e c', Task.run see c (eval h (ofTemplate t) data).run = (.error e, c') ↔
    ∃ vs, Task.Stops see (fun _ => valueOf h data) [] c (expressions t) vs e c'
  /-- There is one way to fill a template with them. -/
  unique : ∀ t vs r r', Fills t (At (expressions t) vs) r → Fills t (At (expressions t) vs) r' →
    r = r'
  /-- Where nothing is marked, the value is the template, against whatever data. -/
  plain : ∀ t, (∀ place v, Exposed t place → t.part? place = some v → ¬ IsMarked v) →
    ∀ data, eval h (ofTemplate t) data = pure t

theorem templateLaws (h : Host ρ) (see : Nat → ρ) : TemplateLaws h see where
  listed := fun _ _ _ => mem_expressions_iff
  ordered := pairwise_expressions
  success := by
    intro t data c r c'
    rw [run_ofTemplate_eq_ok_iff]
    simp only [Task.run_mapM_eq_ok_iff []]
  failure := by
    intro t data c e c'
    rw [run_ofTemplate_eq_error_iff, Task.run_mapM_eq_error_iff []]
  unique := fun _ _ _ _ => fills_unique
  plain := fun t hplain => eval_ofTemplate_of_plain hplain h

end Template

end Switchboard
