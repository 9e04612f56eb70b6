import Switchboard.Json.Basic
/-!
# Values and their children

The children of a value are the items of an array, or the values of the fields of an object, in
their order. A place in a value says which child to go to, and which of its children from there;
what stands there is a part of the value (`Json.part?`). What a value is apart from its children
is its form (`Json.SameForm`), and the two together are all of it (`Json.SameForm.eq`).
-/

namespace Switchboard

namespace Json

/-- The items of an array, or the values of an object's fields; a scalar has none. -/
def children : Json → List Json
  | .null => []
  | .bool _ => []
  | .number _ => []
  | .string _ => []
  | .array items => items
  | .object fields => fields.map Prod.snd

/-- The value with these for its children. -/
def withChildren : Json → List Json → Json
  | .null, _ => .null
  | .bool b, _ => .bool b
  | .number n, _ => .number n
  | .string s, _ => .string s
  | .array _, vs => .array vs
  | .object fields, vs => .object ((fields.map Prod.fst).zip vs)

/-- **The same but for what the children are:** arrays of one length, objects with the same names
in the same order, or the same scalar. -/
inductive SameForm : Json → Json → Prop where
  | array {vs ws : List Json} (length_eq : ws.length = vs.length) :
      SameForm (.array vs) (.array ws)
  | object {fs gs : Fields} (names_eq : gs.map Prod.fst = fs.map Prod.fst) :
      SameForm (.object fs) (.object gs)
  | refl (v : Json) : SameForm v v

/-- Which child to go to, and which of its children, and so on. -/
abbrev Place := List Nat

/-- **The part of a value** that stands at a place. -/
def part? : Json → Place → Option Json
  | v, [] => some v
  | v, i :: place => (v.children[i]?).bind fun x => part? x place

variable {v w x : Json} {vs : List Json} {i : Nat} {place : Place}

/-! ## Children -/

theorem zip_names_values (fields : Fields) :
    (fields.map Prod.fst).zip (fields.map Prod.snd) = fields := by
  induction fields with
  | nil => rfl
  | cons f rest ih => rw [List.map_cons, List.map_cons, List.zip_cons_cons, ih]

@[simp] theorem withChildren_children (v : Json) : v.withChildren v.children = v := by
  cases v with
  | null => rfl
  | bool b => rfl
  | number n => rfl
  | string s => rfl
  | array items => rfl
  | object fields => exact congrArg Json.object (zip_names_values fields)

theorem children_withChildren (h : vs.length = v.children.length) :
    (v.withChildren vs).children = vs := by
  cases v with
  | null => exact (List.length_eq_zero_iff.1 h).symm
  | bool b => exact (List.length_eq_zero_iff.1 h).symm
  | number n => exact (List.length_eq_zero_iff.1 h).symm
  | string s => exact (List.length_eq_zero_iff.1 h).symm
  | array items => rfl
  | object fields =>
    rw [children, List.length_map] at h
    refine List.map_snd_zip ?_
    rw [List.length_map]
    omega

/-! ## Forms -/

/-- Other children leave the form as it is. -/
theorem sameForm_withChildren (h : vs.length = v.children.length) :
    SameForm v (v.withChildren vs) := by
  cases v with
  | null => exact .refl _
  | bool b => exact .refl _
  | number n => exact .refl _
  | string s => exact .refl _
  | array items => exact .array h
  | object fields =>
    rw [children, List.length_map] at h
    refine .object (List.map_fst_zip ?_)
    rw [List.length_map]
    omega

theorem SameForm.length_eq (h : SameForm v w) : w.children.length = v.children.length := by
  cases h with
  | array hlength => exact hlength
  | object hnames =>
    rw [children, children, List.length_map, List.length_map]
    simpa using congrArg List.length hnames
  | refl => rfl

/-- **A value is made of its form and its children.** -/
theorem SameForm.eq (h : SameForm v w) : w = v.withChildren w.children := by
  cases h with
  | array hlength => rfl
  | @object fs gs hnames =>
    rw [withChildren, children, ← hnames, zip_names_values]
  | refl => exact (withChildren_children v).symm

/-! ## Parts -/

theorem part?_cons (h : v.children[i]? = some x) (place : Place) :
    v.part? (i :: place) = x.part? place := by
  rw [part?, h, Option.bind_some]

theorem part?_cons_eq_some_iff :
    v.part? (i :: place) = some w ↔ ∃ x, v.children[i]? = some x ∧ x.part? place = some w := by
  rw [part?, Option.bind_eq_some_iff]

/-! ## Going through all parts -/

theorem sizeOf_children_le (v : Json) : sizeOf v.children ≤ sizeOf v := by
  have hvalues : ∀ fields : Fields, sizeOf (fields.map Prod.snd) ≤ sizeOf fields := by
    intro fields
    induction fields with
    | nil => exact Nat.le_refl _
    | cons f rest ih =>
      obtain ⟨name, x⟩ := f
      simp only [List.map_cons, List.cons.sizeOf_spec, Prod.mk.sizeOf_spec]
      omega
  cases v with
  | null => exact Nat.le_refl _
  | bool b => simp [children]
  | number n => simp [children]
  | string s => simp [children]
  | array items => simp [children]
  | object fields =>
    have := hvalues fields
    simp only [children, object.sizeOf_spec]
    omega

theorem sizeOf_child_lt (h : x ∈ v.children) : sizeOf x < sizeOf v :=
  Nat.lt_of_lt_of_le (List.sizeOf_lt_of_mem h) (sizeOf_children_le v)

/-- **What holds of a value if it does of its children** holds of every value. -/
theorem induction_on_children {P : Json → Prop} (step : ∀ v, (∀ x ∈ v.children, P x) → P v)
    (v : Json) : P v :=
  step v fun x _ => induction_on_children step x
termination_by sizeOf v
decreasing_by exact sizeOf_child_lt ‹x ∈ v.children›

end Json

end Switchboard
