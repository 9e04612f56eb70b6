import Switchboard.Operation.Basic
/-!
# Binding by name

What binding does with an object, where the parameters have distinct names
(`Arguments.bind_object`): each parameter gets what the object gives to its name, and the first
required one that gets nothing is what is missing.
-/

namespace Switchboard

/-- What an object gives to a name: null if there is no such field. -/
def Json.given (fields : Json.Fields) (name : String) : Json := (fields.lookup name).getD .null

namespace Arguments

open Json (given)

variable {ps : List Parameter} {fields : Json.Fields} {operation : String} {names : List String}
variable {values : List Json} {args : Arguments} {payload : Json}

/-- The first required parameter to which an object gives nothing. -/
def missing? (fields : Json.Fields) (ps : List Parameter) : Option Parameter :=
  ps.find? fun p => p.required && (given fields p.name).isNull

theorem lookup_filter_ne {name other : String} (h : name ≠ other) (fields : Json.Fields) :
    (fields.filter (·.1 ≠ other)).lookup name = fields.lookup name := by
  induction fields with
  | nil => rfl
  | cons f rest ih =>
    obtain ⟨n, v⟩ := f
    by_cases hn : n = other
    · have hother : name ≠ n := fun heq => h (heq.trans hn)
      rw [List.filter_cons_of_neg (by simp [hn]), ih, List.lookup_cons, beq_false_of_ne hother]
    · rw [List.filter_cons_of_pos (by simp [hn]), List.lookup_cons, List.lookup_cons, ih]

/-- Distinct names do not take anything from each other. -/
theorem takeNamed_of_nodup (h : names.Nodup) (fields : Json.Fields) :
    takeNamed names fields = names.map (given fields) := by
  induction names generalizing fields with
  | nil => rfl
  | cons name rest ih =>
    rw [List.nodup_cons] at h
    rw [takeNamed, ih h.2, List.map_cons]
    refine congrArg (given fields name :: ·) (List.map_congr_left fun n hn => ?_)
    have hne : n ≠ name := fun heq => h.1 (heq ▸ hn)
    rw [given, lookup_filter_ne hne, given]

theorem firstMissing?_map (g : Parameter → Json) (ps : List Parameter) :
    firstMissing? ps (ps.map g) = ps.find? fun p => p.required && (g p).isNull := by
  induction ps with
  | nil => rfl
  | cons p rest ih =>
    rw [firstMissing?] at ih ⊢
    rw [List.map_cons, List.zip_cons_cons, List.find?_cons, List.find?_cons]
    dsimp only
    cases hp : p.required && (g p).isNull with
    | true => rfl
    | false => exact ih

theorem firstMissing?_takeNamed (h : (ps.map Parameter.name).Nodup) (fields : Json.Fields) :
    firstMissing? ps (takeNamed (ps.map Parameter.name) fields) = missing? fields ps := by
  rw [takeNamed_of_nodup h, List.map_map, firstMissing?_map]
  rfl

/-- **An object that gives nothing to a required parameter** is refused for the first such. -/
theorem bind_object_of_missing (h : (ps.map Parameter.name).Nodup) {p : Parameter}
    (hmissing : missing? fields ps = some p) (operation : String) :
    bind operation ps (.object fields) = .error (.missingParameter operation p.name) := by
  rw [← firstMissing?_takeNamed h] at hmissing
  rw [bind, distribute]
  dsimp only [Bind.bind, Except.bind]
  rw [hmissing]
  rfl

/-- **Any other object is bound,** each parameter to what is given to its name. -/
theorem bind_object_of_given (h : (ps.map Parameter.name).Nodup)
    (hgiven : missing? fields ps = none) (operation : String) :
    bind operation ps (.object fields) =
      .ok ⟨operation, ps.map Parameter.name, ps.map fun p => given fields p.name⟩ := by
  rw [← firstMissing?_takeNamed h] at hgiven
  rw [bind, distribute]
  dsimp only [Bind.bind, Except.bind]
  rw [hgiven, takeNamed_of_nodup h, List.map_map]
  rfl

/-! ## What is bound -/

theorem length_takeNamed (names : List String) (fields : Json.Fields) :
    (takeNamed names fields).length = names.length := by
  induction names generalizing fields with
  | nil => rfl
  | cons name rest ih => rw [takeNamed, List.length_cons, ih, List.length_cons]

theorem length_of_distribute (h : distribute operation names payload = .ok values) :
    values.length = names.length := by
  cases payload with
  | null =>
    cases h
    rw [List.length_map]
  | object fields =>
    cases h
    exact length_takeNamed names fields
  | array items =>
    rw [distribute] at h
    split at h
    · cases h
    · cases h
      rw [List.length_append, List.length_replicate]
      omega
  | _ => cases h

/-- **What is bound** was distributed, and none of it is missing that is required. -/
theorem exists_of_bind (h : bind operation ps payload = .ok args) :
    ∃ values, distribute operation (ps.map Parameter.name) payload = .ok values ∧
      firstMissing? ps values = none ∧ args = ⟨operation, ps.map Parameter.name, values⟩ := by
  rw [bind] at h
  cases hvalues : distribute operation (ps.map Parameter.name) payload with
  | error e =>
    rw [hvalues] at h
    cases h
  | ok values =>
    rw [hvalues] at h
    dsimp only [Bind.bind, Except.bind] at h
    cases hmissing : firstMissing? ps values with
    | some p =>
      rw [hmissing] at h
      cases h
    | none =>
      rw [hmissing] at h
      cases h
      exact ⟨values, rfl, hmissing, rfl⟩

/-- **A required argument that is bound is there.** -/
theorem value?_ne_none_of_bind (h : bind operation ps payload = .ok args) {i : Nat} {p : Parameter}
    (hp : ps[i]? = some p) (hrequired : p.required = true) : args.value? i ≠ none := by
  obtain ⟨values, hvalues, hmissing, rfl⟩ := exists_of_bind h
  have hlength : values.length = ps.length :=
    (length_of_distribute hvalues).trans (List.length_map _)
  obtain ⟨hi, rfl⟩ := List.getElem?_eq_some_iff.1 hp
  have hi' : i < values.length := hlength ▸ hi
  rw [firstMissing?, Option.map_eq_none_iff, List.find?_eq_none] at hmissing
  have hzip : i < (ps.zip values).length := List.length_zip ▸ Nat.lt_min.2 ⟨hi, hi'⟩
  have hmem : (ps[i], values[i]) ∈ ps.zip values :=
    List.getElem_zip (h := hzip) ▸ List.getElem_mem hzip
  have hthere := hmissing _ hmem
  dsimp only at hthere
  rw [hrequired, Bool.true_and, Bool.not_eq_true] at hthere
  rw [value?, List.getElem?_eq_getElem hi', Option.filter_some, hthere]
  exact Option.some_ne_none _

/-! ## Texts for all parameters -/

/-- The payload gives these texts to the names, one to each, by name or by position. -/
inductive GivesTexts (names texts : List String) : Json → Prop where
  | byName {fields : Json.Fields} (hgiven : names.map (given fields) = texts.map .string) :
      GivesTexts names texts (.object fields)
  | byPosition (hlength : names.length = texts.length) :
      GivesTexts names texts (.array (texts.map .string))

theorem firstMissing?_of_texts (ps : List Parameter) (texts : List String) :
    firstMissing? ps (texts.map .string) = none := by
  rw [firstMissing?, Option.map_eq_none_iff, List.find?_eq_none]
  rintro ⟨p, v⟩ hmem
  obtain ⟨t, -, rfl⟩ := List.mem_map.1 (List.of_mem_zip hmem).2
  rw [Bool.and_eq_true]
  exact fun h => Bool.false_ne_true h.2

/-- **Texts that are given are bound.** -/
theorem bind_of_givesTexts {texts : List String} (h : (ps.map Parameter.name).Nodup)
    (hgives : GivesTexts (ps.map Parameter.name) texts payload) (operation : String) :
    bind operation ps payload =
      .ok ⟨operation, ps.map Parameter.name, texts.map .string⟩ := by
  have hvalues : distribute operation (ps.map Parameter.name) payload =
      .ok (texts.map .string) := by
    cases hgives with
    | byName hgiven => exact congrArg Except.ok ((takeNamed_of_nodup h _).trans hgiven)
    | byPosition hlength =>
      rw [distribute, List.length_map (.string : String → Json), hlength,
        if_neg (Nat.lt_irrefl _), Nat.sub_self, List.replicate_zero, List.append_nil]
  rw [bind, hvalues]
  dsimp only [Bind.bind, Except.bind]
  rw [firstMissing?_of_texts]
  rfl

end Arguments

end Switchboard
