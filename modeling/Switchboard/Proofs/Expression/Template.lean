import Switchboard.Expression.Basic
import Switchboard.Proofs.Json.Children
/-!
# Templates

What stands in a template is kept, but for what is marked there: an object whose only key is one of
the two markers (`Template.IsMarked`). Inside of what is marked nothing counts, so that only the
outermost marks do: those at places that are exposed (`Template.Exposed`). The expressions of a
template are listed in the order in which they are come across (`Template.expressions`), and they
are those that are marked at exposed places (`Template.mem_expressions_iff`).

With values for its expressions, there is one way of filling a template (`Template.Fills`,
`Template.Fills.unique`).
-/

namespace Switchboard

namespace Template

open Json (Place)

/-! ## Marks -/

/-- An object whose only key is one of the markers. -/
def IsMarked (v : Json) : Prop :=
  ∃ x, v = .object [(Expr.expressionMarker, x)] ∨ v = .object [(Expr.literalMarker, x)]

/-- What a mark says of the value behind it. -/
inductive Mark where
  | expression
  | literal

/-- The mark of a value, and what is behind it. -/
def mark? (v : Json) : Option (Mark × Json) :=
  match v with
  | .object [(key, x)] =>
    if key = Expr.expressionMarker then some (.expression, x)
    else if key = Expr.literalMarker then some (.literal, x)
    else none
  | _ => none

variable {t v x r r' : Json} {i : Nat} {place : Place}

theorem expressionMarker_ne_literalMarker : Expr.expressionMarker ≠ Expr.literalMarker := by decide

/-- No value has both marks. -/
theorem expression_ne_literal (x y : Json) :
    Json.object [(Expr.expressionMarker, x)] ≠ .object [(Expr.literalMarker, y)] := by
  intro h
  rw [Json.object.injEq, List.cons.injEq, Prod.mk.injEq] at h
  exact expressionMarker_ne_literalMarker h.1.1

theorem mark?_expression (x : Json) :
    mark? (.object [(Expr.expressionMarker, x)]) = some (.expression, x) := by
  rw [mark?, if_pos rfl]

theorem mark?_literal (x : Json) :
    mark? (.object [(Expr.literalMarker, x)]) = some (.literal, x) := by
  rw [mark?, if_neg expressionMarker_ne_literalMarker.symm, if_pos rfl]

/-- **There are three kinds of values in a template.** -/
theorem mark?_cases (v : Json) :
    (∃ x, v = .object [(Expr.expressionMarker, x)]) ∨
      (∃ x, v = .object [(Expr.literalMarker, x)]) ∨ ¬ IsMarked v ∧ mark? v = none := by
  by_cases hexpression : ∃ x, v = .object [(Expr.expressionMarker, x)]
  · exact .inl hexpression
  · by_cases hliteral : ∃ x, v = .object [(Expr.literalMarker, x)]
    · exact .inr (.inl hliteral)
    · refine .inr (.inr ⟨?_, ?_⟩)
      · rintro ⟨x, hx | hx⟩
        · exact hexpression ⟨x, hx⟩
        · exact hliteral ⟨x, hx⟩
      · unfold mark?
        split
        · next key x =>
          split
          · next hkey => exact absurd ⟨x, by rw [hkey]⟩ hexpression
          · split
            · next hkey => exact absurd ⟨x, by rw [hkey]⟩ hliteral
            · rfl
        · rfl

theorem isMarked_expression (x : Json) : IsMarked (.object [(Expr.expressionMarker, x)]) :=
  ⟨x, .inl rfl⟩

theorem isMarked_literal (x : Json) : IsMarked (.object [(Expr.literalMarker, x)]) :=
  ⟨x, .inr rfl⟩

theorem mark?_of_not_isMarked (h : ¬ IsMarked v) : mark? v = none := by
  rcases mark?_cases v with ⟨x, rfl⟩ | ⟨x, rfl⟩ | ⟨-, hnone⟩
  · exact absurd (isMarked_expression x) h
  · exact absurd (isMarked_literal x) h
  · exact hnone

/-! ## Exposed places -/

/-- **The place is not inside of anything marked.** What stands there may be marked itself. -/
def Exposed (t : Json) (place : Place) : Prop :=
  ∀ outer v, outer <+: place → outer ≠ place → t.part? outer = some v → ¬ IsMarked v

theorem exposed_nil (t : Json) : Exposed t [] :=
  fun _ _ hprefix hne _ => absurd (List.prefix_nil.1 hprefix) hne

theorem Exposed.not_isMarked (h : Exposed t (i :: place)) : ¬ IsMarked t :=
  h [] t List.nil_prefix (List.cons_ne_nil i place).symm rfl

/-- In what is marked, nothing else is exposed. -/
theorem Exposed.eq_nil (h : Exposed t place) (hmarked : IsMarked t) : place = [] := by
  cases place with
  | nil => rfl
  | cons i place => exact absurd hmarked h.not_isMarked

/-- **A place is exposed where it is in a child,** unless the whole is marked. -/
theorem exposed_cons_iff (hx : t.children[i]? = some x) :
    Exposed t (i :: place) ↔ ¬ IsMarked t ∧ Exposed x place := by
  constructor
  · intro h
    refine ⟨h.not_isMarked, fun outer v hprefix hne hpart => ?_⟩
    rw [← Json.part?_cons hx] at hpart
    refine h (i :: outer) v ((List.prefix_cons_inj i).2 hprefix) ?_ hpart
    exact fun heq => hne (List.cons.inj heq).2
  · rintro ⟨hunmarked, hchild⟩ outer v hprefix hne hpart
    cases outer with
    | nil =>
      cases hpart
      exact hunmarked
    | cons j outer =>
      obtain ⟨rfl, hbelow⟩ := List.cons_prefix_cons.1 hprefix
      rw [Json.part?_cons hx] at hpart
      exact hchild outer v hbelow (fun heq => hne (congrArg (j :: ·) heq)) hpart

/-! ## The expressions of a template -/

/-- What was at a place is at this place of the `i`-th child. -/
def under {α : Type} (i : Nat) (e : Place × α) : Place × α := (i :: e.1, e.2)

mutual

/-- **The expressions that are marked in a template,** with their places: those of a child before
those of the next. -/
def expressions (t : Json) : List (Place × Json) :=
  match mark? t with
  | some (.expression, x) => [([], x)]
  | some (.literal, _) => []
  | none => expressionsFrom 0 t.children
termination_by 2 * sizeOf t + 1
decreasing_by
  have := Json.sizeOf_children_le t
  omega

/-- Those of the children from the `i`-th on. -/
def expressionsFrom (i : Nat) (children : List Json) : List (Place × Json) :=
  match children with
  | [] => []
  | x :: rest => (expressions x).map (under i) ++ expressionsFrom (i + 1) rest
termination_by 2 * sizeOf children
decreasing_by
  · simp only [List.cons.sizeOf_spec]
    omega
  · simp only [List.cons.sizeOf_spec]
    omega

end

theorem expressions_expression (x : Json) :
    expressions (.object [(Expr.expressionMarker, x)]) = [([], x)] := by
  rw [expressions, mark?_expression]

theorem expressions_literal (x : Json) :
    expressions (.object [(Expr.literalMarker, x)]) = [] := by
  rw [expressions, mark?_literal]

theorem expressions_of_not_isMarked (h : ¬ IsMarked t) :
    expressions t = expressionsFrom 0 t.children := by
  rw [expressions, mark?_of_not_isMarked h]

theorem mem_expressionsFrom_iff {xs : List Json} : (place, x) ∈ expressionsFrom i xs ↔
    ∃ j child rest, xs[j]? = some child ∧ place = (i + j) :: rest ∧
      (rest, x) ∈ expressions child := by
  induction xs generalizing i with
  | nil =>
    rw [expressionsFrom]
    simp
  | cons child xs ih =>
    rw [expressionsFrom, List.mem_append, List.mem_map, ih]
    constructor
    · rintro (⟨e, he, heq⟩ | ⟨j, child', rest, hchild, rfl, hmem⟩)
      · cases heq
        exact ⟨0, child, e.1, rfl, rfl, he⟩
      · refine ⟨j + 1, child', rest, hchild, ?_, hmem⟩
        rw [Nat.add_right_comm, Nat.add_assoc]
    · rintro ⟨j, child', rest, hchild, rfl, hmem⟩
      cases j with
      | zero =>
        cases hchild
        exact .inl ⟨(rest, x), hmem, rfl⟩
      | succ j =>
        refine .inr ⟨j, child', rest, hchild, ?_, hmem⟩
        rw [Nat.add_right_comm, Nat.add_assoc]

/-- **The expressions of a template are its outermost ones.** -/
theorem mem_expressions_iff : (place, x) ∈ expressions t ↔
    Exposed t place ∧ t.part? place = some (.object [(Expr.expressionMarker, x)]) := by
  -- By the place: one step of it goes from a template to a child, and so does the listing.
  induction place generalizing t with
  | nil =>
    rw [Json.part?, and_iff_right (exposed_nil t), Option.some.injEq]
    rcases mark?_cases t with ⟨y, rfl⟩ | ⟨y, rfl⟩ | ⟨hunmarked, -⟩
    · rw [expressions_expression]
      simp [eq_comm]
    · rw [expressions_literal]
      simp [expressionMarker_ne_literalMarker.symm]
    · rw [expressions_of_not_isMarked hunmarked, mem_expressionsFrom_iff]
      refine iff_of_false ?_ ?_
      · rintro ⟨j, child, rest, -, hplace, -⟩
        cases hplace
      · rintro rfl
        exact hunmarked (isMarked_expression x)
  | cons k place ih =>
    by_cases hmarked : IsMarked t
    · refine iff_of_false ?_ fun h => h.1.not_isMarked hmarked
      rcases hmarked with ⟨y, rfl | rfl⟩
      · rw [expressions_expression]
        simp
      · rw [expressions_literal]
        simp
    · rw [expressions_of_not_isMarked hmarked, mem_expressionsFrom_iff,
        Json.part?_cons_eq_some_iff]
      constructor
      · rintro ⟨j, child, rest, hchild, hplace, hmem⟩
        rw [Nat.zero_add] at hplace
        cases hplace
        obtain ⟨hexposed, hpart⟩ := ih.1 hmem
        exact ⟨(exposed_cons_iff hchild).2 ⟨hmarked, hexposed⟩, child, hchild, hpart⟩
      · rintro ⟨hexposed, child, hchild, hpart⟩
        have hbelow := ((exposed_cons_iff hchild).1 hexposed).2
        refine ⟨k, child, place, hchild, ?_, ih.2 ⟨hbelow, hpart⟩⟩
        rw [Nat.zero_add]

/-! ### Their order -/

/-- **The place comes first** when going through a value child by child: where they part, it is in
the earlier one. -/
inductive Before : Place → Place → Prop where
  | parting {i j : Nat} (h : i < j) (p q : Place) : Before (i :: p) (j :: q)
  | within (i : Nat) {p q : Place} (h : Before p q) : Before (i :: p) (i :: q)

theorem Before.irrefl (p : Place) : ¬ Before p p := by
  intro h
  induction p with
  | nil => cases h
  | cons i p ih =>
    cases h with
    | parting h => exact Nat.lt_irrefl i h
    | within i h => exact ih h

theorem pairwise_expressionsFrom {xs : List Json}
    (h : ∀ x ∈ xs, (expressions x).Pairwise fun e f => Before e.1 f.1) (i : Nat) :
    (expressionsFrom i xs).Pairwise fun e f => Before e.1 f.1 := by
  induction xs generalizing i with
  | nil =>
    rw [expressionsFrom]
    exact .nil
  | cons x rest ih =>
    obtain ⟨hx, hrest⟩ := List.forall_mem_cons.1 h
    rw [expressionsFrom, List.pairwise_append, List.pairwise_map]
    refine ⟨hx.imp fun hbefore => .within i hbefore, ih hrest (i + 1), fun e he f hf => ?_⟩
    -- The first is in this child, the second in a later one.
    obtain ⟨e', -, rfl⟩ := List.mem_map.1 he
    obtain ⟨place, y⟩ := f
    obtain ⟨j, child, below, -, rfl, -⟩ := mem_expressionsFrom_iff.1 hf
    exact .parting (by omega) _ _

/-- **They are listed as they are come across.** -/
theorem pairwise_expressions (t : Json) :
    (expressions t).Pairwise fun e f => Before e.1 f.1 := by
  induction t using Json.induction_on_children with
  | step t ih =>
    rcases mark?_cases t with ⟨y, rfl⟩ | ⟨y, rfl⟩ | ⟨hunmarked, -⟩
    · rw [expressions_expression]
      exact List.pairwise_singleton _ _
    · rw [expressions_literal]
      exact .nil
    · rw [expressions_of_not_isMarked hunmarked]
      exact pairwise_expressionsFrom ih 0

theorem places_nodup (t : Json) : ((expressions t).map Prod.fst).Nodup := by
  rw [List.Nodup, List.pairwise_map]
  refine (pairwise_expressions t).imp fun {e f} hbefore heq => ?_
  rw [heq] at hbefore
  exact Before.irrefl f.1 hbefore

/-! ## Filled templates -/

/-- **The template is filled** with values for the expressions at their places: what is marked as
an expression has become such a value, what is marked as literal is what it holds, and all else
has kept its form. -/
structure Fills (t : Json) (values : Place → Json → Prop) (r : Json) : Prop where
  expression : ∀ {place x}, Exposed t place →
    t.part? place = some (.object [(Expr.expressionMarker, x)]) →
    ∃ v, values place v ∧ r.part? place = some v
  literal : ∀ {place x}, Exposed t place →
    t.part? place = some (.object [(Expr.literalMarker, x)]) → r.part? place = some x
  form : ∀ {place v}, Exposed t place → t.part? place = some v → ¬ IsMarked v →
    ∃ w, r.part? place = some w ∧ v.SameForm w

variable {values values' : Place → Json → Prop} {rs : List Json}

namespace Fills

theorem mono (h : Fills t values r) (hvalues : ∀ place v, values place v → values' place v) :
    Fills t values' r where
  expression := by
    intro place x hexposed hpart
    obtain ⟨v, hv, hr⟩ := h.expression hexposed hpart
    exact ⟨v, hvalues place v hv, hr⟩
  literal := h.literal
  form := h.form

/-- An expression is replaced by its value, whatever that is. -/
theorem of_expression (hv : values [] v) :
    Fills (.object [(Expr.expressionMarker, x)]) values v where
  expression := by
    intro place y hexposed hpart
    obtain rfl := hexposed.eq_nil (isMarked_expression x)
    exact ⟨v, hv, rfl⟩
  literal := by
    intro place y hexposed hpart
    obtain rfl := hexposed.eq_nil (isMarked_expression x)
    exact absurd (Option.some.inj hpart) (expression_ne_literal x y)
  form := by
    intro place w hexposed hpart hunmarked
    obtain rfl := hexposed.eq_nil (isMarked_expression x)
    cases hpart
    exact absurd (isMarked_expression x) hunmarked

/-- A literal is replaced by what it holds. -/
theorem of_literal (values : Place → Json → Prop) (x : Json) :
    Fills (.object [(Expr.literalMarker, x)]) values x where
  expression := by
    intro place y hexposed hpart
    obtain rfl := hexposed.eq_nil (isMarked_literal x)
    exact absurd (Option.some.inj hpart).symm (expression_ne_literal y x)
  literal := by
    intro place y hexposed hpart
    obtain rfl := hexposed.eq_nil (isMarked_literal x)
    cases hpart
    rfl
  form := by
    intro place w hexposed hpart hunmarked
    obtain rfl := hexposed.eq_nil (isMarked_literal x)
    cases hpart
    exact absurd (isMarked_literal x) hunmarked

/-- Any other value is filled if its children are. -/
theorem of_children (hunmarked : ¬ IsMarked t) (hlength : rs.length = t.children.length)
    (h : ∀ i x w, t.children[i]? = some x → rs[i]? = some w →
      Fills x (fun place => values (i :: place)) w) : Fills t values (t.withChildren rs) := by
  -- Of every part below, the child that it is in is filled.
  have hbelow : ∀ {i place v}, Exposed t (i :: place) → t.part? (i :: place) = some v →
      ∃ x w, Fills x (fun place => values (i :: place)) w ∧ Exposed x place ∧
        x.part? place = some v ∧ (t.withChildren rs).part? (i :: place) = w.part? place := by
    intro i place v hexposed hpart
    obtain ⟨x, hx, hpart⟩ := Json.part?_cons_eq_some_iff.1 hpart
    obtain ⟨w, hw⟩ : ∃ w, rs[i]? = some w := by
      obtain ⟨hi, -⟩ := List.getElem?_eq_some_iff.1 hx
      exact ⟨_, List.getElem?_eq_getElem (hlength ▸ hi)⟩
    refine ⟨x, w, h i x w hx hw, ((exposed_cons_iff hx).1 hexposed).2, hpart, ?_⟩
    rw [Json.part?, Json.children_withChildren hlength, hw, Option.bind_some]
  constructor
  · intro place x hexposed hpart
    cases place with
    | nil =>
      cases hpart
      exact absurd (isMarked_expression x) hunmarked
    | cons i place =>
      obtain ⟨y, w, hfills, hexposed, hpart, heq⟩ := hbelow hexposed hpart
      rw [heq]
      exact hfills.expression hexposed hpart
  · intro place x hexposed hpart
    cases place with
    | nil =>
      cases hpart
      exact absurd (isMarked_literal x) hunmarked
    | cons i place =>
      obtain ⟨y, w, hfills, hexposed, hpart, heq⟩ := hbelow hexposed hpart
      rw [heq]
      exact hfills.literal hexposed hpart
  · intro place v hexposed hpart hv
    cases place with
    | nil =>
      cases hpart
      exact ⟨_, rfl, Json.sameForm_withChildren hlength⟩
    | cons i place =>
      obtain ⟨y, w, hfills, hexposed, hpart, heq⟩ := hbelow hexposed hpart
      rw [heq]
      exact hfills.form hexposed hpart hv

/-- What fills a value that is not marked fills its children. -/
theorem child (h : Fills t values r) (hunmarked : ¬ IsMarked t) {x w : Json}
    (hx : t.children[i]? = some x) (hw : r.children[i]? = some w) :
    Fills x (fun place => values (i :: place)) w := by
  have hexposed : ∀ {place}, Exposed x place → Exposed t (i :: place) :=
    fun hplace => (exposed_cons_iff hx).2 ⟨hunmarked, hplace⟩
  constructor
  · intro place y hplace hpart
    rw [← Json.part?_cons hx] at hpart
    rw [← Json.part?_cons hw]
    exact h.expression (hexposed hplace) hpart
  · intro place y hplace hpart
    rw [← Json.part?_cons hx] at hpart
    rw [← Json.part?_cons hw]
    exact h.literal (hexposed hplace) hpart
  · intro place v hplace hpart hv
    rw [← Json.part?_cons hx] at hpart
    rw [← Json.part?_cons hw]
    exact h.form (hexposed hplace) hpart hv

/-- **There is one way of filling a template** with given values. -/
theorem unique (hvalues : ∀ place v w, values place v → values place w → v = w)
    (h : Fills t values r) (h' : Fills t values r') : r = r' := by
  induction t using Json.induction_on_children generalizing values r r' with
  | step t ih =>
    rcases mark?_cases t with ⟨x, rfl⟩ | ⟨x, rfl⟩ | ⟨hunmarked, -⟩
    · obtain ⟨v, hv, hr⟩ := h.expression (exposed_nil _) rfl
      obtain ⟨v', hv', hr'⟩ := h'.expression (exposed_nil _) rfl
      cases hr
      cases hr'
      exact hvalues [] _ _ hv hv'
    · have hr := h.literal (exposed_nil _) rfl
      have hr' := h'.literal (exposed_nil _) rfl
      cases hr
      cases hr'
      rfl
    · obtain ⟨w, hw, hform⟩ := h.form (exposed_nil t) rfl hunmarked
      obtain ⟨w', hw', hform'⟩ := h'.form (exposed_nil t) rfl hunmarked
      cases hw
      cases hw'
      -- Both have the form of the template, so that it is their children that have to agree.
      have hchildren : r.children = r'.children := by
        refine List.ext_getElem (hform.length_eq.trans hform'.length_eq.symm) fun i hi hi' => ?_
        have hx := List.getElem?_eq_getElem (hform.length_eq ▸ hi)
        have hfills := h.child hunmarked hx (List.getElem?_eq_getElem hi)
        have hfills' := h'.child hunmarked hx (List.getElem?_eq_getElem hi')
        exact ih _ (List.mem_of_getElem? hx) (fun place => hvalues (i :: place)) hfills hfills'
      rw [hform.eq, hform'.eq, hchildren]

end Fills

end Template

end Switchboard
