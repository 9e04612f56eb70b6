import Switchboard.Json.Basic
/-!
# The shape of values

Three things that matter when a value is written and read again. The fields of its objects stand in
the order of their names (`Json.Ordered`), as they do in every value that is built or read. Its
numbers are whole (`Json.Whole`), so that digits are all there is to them. And its arrays and
objects nest so many levels deep (`Json.nesting`), of which a reader takes only so many.
-/

namespace Switchboard

namespace Json

/-! ## Order -/

/-- **The fields of all objects stand in the order of their names.** -/
inductive Ordered : Json → Prop where
  | null : Ordered .null
  | bool (b : Bool) : Ordered (.bool b)
  | number (n : Number) : Ordered (.number n)
  | string (s : String) : Ordered (.string s)
  | array {items : List Json} (items_ordered : ∀ v ∈ items, Ordered v) : Ordered (.array items)
  | object {fields : Fields} (increasing : fields.Pairwise fun f g => f.1 < g.1)
      (fields_ordered : ∀ f ∈ fields, Ordered f.2) : Ordered (.object fields)

variable {α : Type} {name : String} {value : α} {fields : List (String × α)} {v : Json}

/-- What comes after all fields is put at the end. -/
theorem insertField_of_lt (h : ∀ f ∈ fields, f.1 < name) :
    insertField name value fields = fields ++ [(name, value)] := by
  induction fields with
  | nil => rfl
  | cons f rest ih =>
    obtain ⟨n, v⟩ := f
    have hn : n < name := h (n, v) List.mem_cons_self
    have hne : name ≠ n := by
      rintro rfl
      exact String.lt_irrefl _ hn
    rw [insertField, if_neg hne, if_neg (String.lt_asymm hn),
      ih fun f hf => h f (List.mem_cons_of_mem _ hf), List.cons_append]

theorem mem_insertField {f : String × α} (h : f ∈ insertField name value fields) :
    f = (name, value) ∨ f ∈ fields := by
  induction fields with
  | nil => exact .inl (List.mem_singleton.1 h)
  | cons g rest ih =>
    obtain ⟨n, v⟩ := g
    rw [insertField] at h
    split at h
    · exact (List.mem_cons.1 h).imp_right (List.mem_cons_of_mem _)
    · split at h
      · exact List.mem_cons.1 h
      · rcases List.mem_cons.1 h with rfl | h
        · exact .inr List.mem_cons_self
        · exact (ih h).imp_right (List.mem_cons_of_mem _)

theorem pairwise_insertField (h : fields.Pairwise fun f g => f.1 < g.1) :
    (insertField name value fields).Pairwise fun f g => f.1 < g.1 := by
  induction fields with
  | nil => exact List.pairwise_singleton _ _
  | cons f rest ih =>
    obtain ⟨n, v⟩ := f
    obtain ⟨hfirst, hrest⟩ := List.pairwise_cons.1 h
    rw [insertField]
    split
    · next heq => exact List.pairwise_cons.2 ⟨heq ▸ hfirst, hrest⟩
    · split
      · next hlt =>
        refine List.pairwise_cons.2 ⟨fun g hg => ?_, h⟩
        rcases List.mem_cons.1 hg with rfl | hg
        · exact hlt
        · exact String.lt_trans hlt (hfirst g hg)
      · next hne hnlt =>
        refine List.pairwise_cons.2 ⟨fun g hg => ?_, ih hrest⟩
        rcases mem_insertField hg with rfl | hg
        · exact Decidable.byContradiction fun h =>
            hne (String.le_antisymm (String.not_lt.1 h) (String.not_lt.1 hnlt))
        · exact hfirst g hg

/-! ## Lists of fields -/

variable {entries : Fields} {f : String × Json}

theorem mem_of_lookup {fields : Fields} {name : String} {v : Json}
    (h : fields.lookup name = some v) : (name, v) ∈ fields := by
  obtain ⟨before, behind, rfl, -⟩ := List.lookup_eq_some_iff.1 h
  simp

theorem increasing_ofList (entries : Fields) :
    (Fields.ofList entries).Pairwise fun f g => f.1 < g.1 := by
  have hall : ∀ fields : Fields, fields.Pairwise (fun f g => f.1 < g.1) →
      (entries.foldl (fun fields e => insertField e.1 e.2 fields) fields).Pairwise
        fun f g => f.1 < g.1 := by
    induction entries with
    | nil => exact fun _ h => h
    | cons e rest ih => exact fun fields h => ih _ (pairwise_insertField h)
  exact hall [] List.Pairwise.nil

/-- Nothing but what is listed becomes a field, -/
theorem mem_of_mem_ofList (h : f ∈ Fields.ofList entries) : f ∈ entries := by
  have hall : ∀ fields : Fields,
      f ∈ entries.foldl (fun fields e => insertField e.1 e.2 fields) fields →
        f ∈ entries ∨ f ∈ fields := by
    clear h
    induction entries with
    | nil => exact fun _ h => .inr h
    | cons e rest ih =>
      intro fields h
      rcases ih _ h with hrest | hfields
      · exact .inl (List.mem_cons_of_mem _ hrest)
      · rcases mem_insertField hfields with rfl | hfields
        · exact .inl List.mem_cons_self
        · exact .inr hfields
  rcases hall [] h with hentries | hnil
  · exact hentries
  · cases hnil

/-- and there is a field of each name that is listed. -/
theorem exists_lookup_ofList (h : f ∈ entries) :
    ∃ w, (Fields.ofList entries).lookup f.1 = some w := by
  have hall : ∀ fields : Fields, f ∈ entries ∨ (∃ w, fields.lookup f.1 = some w) →
      ∃ w, (entries.foldl (fun fields e => insertField e.1 e.2 fields) fields).lookup f.1 =
        some w := by
    clear h
    induction entries with
    | nil =>
      intro fields h
      rcases h with hnil | hfields
      · cases hnil
      · exact hfields
    | cons e rest ih =>
      intro fields h
      refine ih _ ?_
      rw [lookup_insertField]
      by_cases hname : f.1 = e.1
      · exact .inr ⟨e.2, if_pos hname⟩
      · rw [if_neg hname]
        rcases h with hmem | hfields
        · rcases List.mem_cons.1 hmem with rfl | hrest
          · exact absurd rfl hname
          · exact .inl hrest
        · exact .inr hfields
  exact hall [] (.inl h)

/-- It has the last value that is listed under it. -/
theorem lookup_ofList (entries : Fields) (name : String) :
    (Fields.ofList entries).lookup name = entries.reverse.lookup name := by
  have hall : ∀ fields : Fields,
      (entries.foldl (fun fields e => insertField e.1 e.2 fields) fields).lookup name =
        (entries.reverse.lookup name).or (fields.lookup name) := by
    induction entries with
    | nil => exact fun _ => rfl
    | cons e rest ih =>
      intro fields
      have hlast : [e].lookup name = if name = e.1 then some e.2 else none :=
        lookup_insertField e.1 name e.2 []
      rw [List.foldl_cons, ih, lookup_insertField, List.reverse_cons, List.lookup_append, hlast,
        Option.or_assoc]
      split
      · rfl
      · rfl
  rw [Fields.ofList, hall []]
  exact Option.or_none

/-- Fields that are in order already stay as they are. -/
theorem ofList_of_increasing (h : entries.Pairwise fun f g => f.1 < g.1) :
    Fields.ofList entries = entries := by
  have hall : ∀ fields : Fields, (fields ++ entries).Pairwise (fun f g => f.1 < g.1) →
      entries.foldl (fun fields e => insertField e.1 e.2 fields) fields = fields ++ entries := by
    clear h
    induction entries with
    | nil => exact fun fields _ => (List.append_nil fields).symm
    | cons e rest ih =>
      intro fields h
      have hlast : insertField e.1 e.2 fields = fields ++ [e] :=
        insertField_of_lt fun f hf =>
          (List.pairwise_append.1 h).2.2 f hf e List.mem_cons_self
      rw [List.append_cons] at h
      rw [List.foldl_cons, hlast, ih _ h, ← List.append_cons]
  exact hall [] h

/-! ## Numbers -/

/-- **All numbers are whole.** -/
inductive Whole : Json → Prop where
  | null : Whole .null
  | bool (b : Bool) : Whole (.bool b)
  | number (i : Int) (fits : FitsWord i) : Whole (.number (.whole i fits))
  | string (s : String) : Whole (.string s)
  | array {items : List Json} (items_whole : ∀ v ∈ items, Whole v) : Whole (.array items)
  | object {fields : Fields} (fields_whole : ∀ f ∈ fields, Whole f.2) : Whole (.object fields)

/-! ## Nesting -/

mutual

/-- How many levels of arrays and objects there are. -/
def nesting : Json → Nat
  | .null => 0
  | .bool _ => 0
  | .number _ => 0
  | .string _ => 0
  | .array items => 1 + nestingOfItems items
  | .object fields => 1 + nestingOfFields fields

/-- How many levels there are in the items of an array. -/
def nestingOfItems : List Json → Nat
  | [] => 0
  | v :: rest => max (nesting v) (nestingOfItems rest)

/-- How many levels there are in the fields of an object. -/
def nestingOfFields : List (String × Json) → Nat
  | [] => 0
  | (_, v) :: rest => max (nesting v) (nestingOfFields rest)

end

/-- The levels of an array are one more than those of its items, -/
theorem nesting_array_lt {k : Nat} {items : List Json} (hk : 0 < k) :
    (Json.array items).nesting < k + 1 ↔ ∀ v ∈ items, v.nesting < k := by
  rw [nesting, Nat.add_comm, Nat.add_lt_add_iff_right]
  induction items with
  | nil => exact iff_of_true hk fun v hv => (by cases hv)
  | cons v items ih => rw [nestingOfItems, Nat.max_lt, ih, List.forall_mem_cons]

/-- and those of an object than those of its fields. -/
theorem nesting_object_lt {k : Nat} {fields : Fields} (hk : 0 < k) :
    (Json.object fields).nesting < k + 1 ↔ ∀ f ∈ fields, f.2.nesting < k := by
  rw [nesting, Nat.add_comm, Nat.add_lt_add_iff_right]
  induction fields with
  | nil => exact iff_of_true hk fun f hf => (by cases hf)
  | cons f fields ih =>
    obtain ⟨n, v⟩ := f
    rw [nestingOfFields, Nat.max_lt, ih, List.forall_mem_cons]

/-- An empty array with so many arrays around it. -/
def arraysAround : Nat → Json
  | 0 => .array []
  | n + 1 => .array [arraysAround n]

theorem nesting_arraysAround (n : Nat) : (arraysAround n).nesting = n + 1 := by
  induction n with
  | zero => rfl
  | succ n ih =>
    rw [arraysAround, nesting, nestingOfItems, nestingOfItems, ih]
    omega

theorem ordered_arraysAround (n : Nat) : (arraysAround n).Ordered ∧ (arraysAround n).Whole := by
  induction n with
  | zero => exact ⟨.array fun v hv => (by cases hv), .array fun v hv => (by cases hv)⟩
  | succ n ih =>
    exact ⟨.array (List.forall_mem_singleton.2 ih.1), .array (List.forall_mem_singleton.2 ih.2)⟩

end Json

end Switchboard
