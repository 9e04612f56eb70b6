import Switchboard.Number.Basic
/-!
# JSON values

The values every document, expression, argument and result is made of. The
fields of an object are listed in the order of their names, which is the order
of their characters' code points; `Fields.insert` keeps it, and a name given
twice keeps its last value.
-/

namespace Switchboard

/-- A JSON value. -/
inductive Json where
  | null
  | bool (b : Bool)
  | number (n : Number)
  | string (s : String)
  | array (items : List Json)
  | object (fields : List (String × Json))

namespace Json

instance : Inhabited Json := ⟨.null⟩

/-! ## Fields -/

/-- Named values in the order of their names. -/
abbrev Fields := List (String × Json)

/-- Sets a field, in its place in the order of names. -/
def insertField {α : Type} (name : String) (value : α) :
    List (String × α) → List (String × α)
  | [] => [(name, value)]
  | (n, v) :: rest =>
    if name = n then (name, value) :: rest
    else if name < n then (name, value) :: (n, v) :: rest
    else (n, v) :: insertField name value rest

@[simp] theorem lookup_insertField {α : Type} (name other : String) (value : α)
    (fields : List (String × α)) :
    (insertField name value fields).lookup other =
      if other = name then some value else fields.lookup other := by
  induction fields with
  | nil =>
    by_cases h : other = name
    · simp [insertField, h]
    · simp [insertField, List.lookup_cons, h, beq_eq_false_iff_ne.2 h]
  | cons f rest ih =>
    obtain ⟨n, v⟩ := f
    simp only [insertField]
    split
    · next h =>
      subst h
      by_cases h' : other = name
      · simp [h']
      · simp [List.lookup_cons, h', beq_eq_false_iff_ne.2 h']
    · next h =>
      split
      · by_cases h' : other = name
        · simp [h']
        · simp [List.lookup_cons, h', beq_eq_false_iff_ne.2 h']
      · rw [List.lookup_cons, List.lookup_cons, ih]
        by_cases h' : other = name
        · simp [h', beq_eq_false_iff_ne.2 h]
        · simp [h']

/-- The fields of a list of named values, each in its place; of two with one
name the later counts. -/
def Fields.ofList (entries : List (String × Json)) : Fields :=
  entries.foldl (fun fields e => insertField e.1 e.2 fields) []

/-- The object with these fields, in whatever order they are given. -/
def ofFields (entries : List (String × Json)) : Json := .object (Fields.ofList entries)

/-- The field of an object; other values have none. -/
def field? (name : String) : Json → Option Json
  | .object fields => fields.lookup name
  | _ => none

/-! ## Equality -/

mutual

/-- Structural equality. Numbers of different kinds are different, and the two
zeros of binary64 are equal. -/
def beq : Json → Json → Bool
  | .null, .null => true
  | .bool a, .bool b => a == b
  | .number m, .number n => m == n
  | .string s, .string t => s == t
  | .array xs, .array ys => beqItems xs ys
  | .object fs, .object gs => beqFields fs gs
  | _, _ => false

/-- Equality of lists of values, item by item. -/
def beqItems : List Json → List Json → Bool
  | [], [] => true
  | x :: xs, y :: ys => beq x y && beqItems xs ys
  | _, _ => false

/-- Equality of fields, name by name. -/
def beqFields : List (String × Json) → List (String × Json) → Bool
  | [], [] => true
  | (m, x) :: fs, (n, y) :: gs => m == n && beq x y && beqFields fs gs
  | _, _ => false

end

instance : BEq Json := ⟨beq⟩

/-! ## Views -/

/-- The text of a string value. -/
def string? : Json → Option String
  | .string s => some s
  | _ => none

/-- The items of an array value. -/
def items? : Json → Option (List Json)
  | .array items => some items
  | _ => none

/-- Whether the value is an object. -/
def isObject : Json → Bool
  | .object _ => true
  | _ => false

/-- Whether the value is null. -/
def isNull : Json → Bool
  | .null => true
  | _ => false

/-- A count as a value; it is null past 64 bits. -/
def ofNat (n : Nat) : Json :=
  if h : n < 2 ^ 64 then .number (.ofNat n h) else .null

/-- A whole number as a value; it is null where words end. -/
def ofInt (i : Int) : Json :=
  if h : FitsWord i then .number (.whole i h) else .null

/-- An optional text as a value. -/
def ofString? : Option String → Json
  | some s => .string s
  | none => .null

end Json

end Switchboard
