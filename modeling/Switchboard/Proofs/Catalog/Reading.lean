import Switchboard.Catalog.Document
import Switchboard.Proofs.Json.Records
/-!
# Reading a catalog that was written

What a catalog is written as, part by part, with the fields that may be left out set apart
(`CatalogParam.toJson_eq`, `CatalogMethod.toJson_eq`). Each part is read back
(`Catalog.ofText_text`): what was left out is what the reader fills in by default. How deep the whole
nests depends on its schemas alone (`Catalog.nesting_catalog_lt`).
-/

namespace Switchboard

open Json

theorem CatalogTag.toJson_eq (t : CatalogTag) :
    t.toJson = .object [("name", .string t.name), ("summary", .string t.summary)] := by
  simp only [toJson, ofFields, Fields.ofList, List.foldl, insertField, String.reduceLT,
    String.reduceEq, reduceIte]

/-- The field that a hint is written in. -/
def CatalogParam.hint (p : CatalogParam) : Fields :=
  match p.widget with
  | some w => [("ui", .object [("widget", .string w)])]
  | none => []

theorem CatalogParam.toJson_eq (p : CatalogParam) :
    p.toJson = .object (optionalText "description" p.description ++
      [("name", .string p.name), ("required", .bool p.required), ("schema", p.schema)] ++
      p.hint) := by
  rw [toJson, optionalText, hint]
  cases p.widget <;> split <;>
    simp only [ofFields, Fields.ofList, List.foldl, List.nil_append, List.cons_append, insertField,
      String.reduceLT, String.reduceEq, reduceIte]

/-- The field that tags are written in. -/
def CatalogMethod.labels (m : CatalogMethod) : Fields :=
  if m.tags.isEmpty then [] else [("tags", .array (m.tags.map CatalogTag.toJson))]

theorem CatalogResult.toJson_eq (r : CatalogResult) :
    ofFields [("name", .string r.name), ("schema", r.schema)] =
      .object [("name", .string r.name), ("schema", r.schema)] := by
  simp only [ofFields, Fields.ofList, List.foldl, insertField, String.reduceLT, String.reduceEq,
    reduceIte]

theorem CatalogMethod.toJson_eq (m : CatalogMethod) :
    m.toJson = .object (optionalText "description" m.description ++
      [("name", .string m.name), ("params", .array (m.params.map CatalogParam.toJson)),
       ("result", .object [("name", .string m.result.name), ("schema", m.result.schema)])] ++
      m.labels) := by
  rw [toJson, optionalText, labels, CatalogResult.toJson_eq]
  split <;> split <;>
    simp only [ofFields, Fields.ofList, List.foldl, List.nil_append, List.cons_append, insertField,
      String.reduceLT, String.reduceEq, reduceIte]

theorem Catalog.toJson_eq (c : Catalog) :
    c.toJson = .object
      [("info", .object [("title", .string c.info.title), ("version", .string c.info.version)]),
       ("methods", .array (c.methods.map CatalogMethod.toJson)),
       ("openrpc", .string c.form)] := by
  simp only [toJson, ofFields, Fields.ofList, List.foldl, insertField, String.reduceLT,
    String.reduceEq, reduceIte]

/-! ## Schemas -/

/-- The schemas of a method: those of its parameters, and that of its result. -/
def CatalogMethod.schemas (m : CatalogMethod) : List Json :=
  m.params.map (·.schema) ++ [m.result.schema]

/-- All schemas in a catalog. -/
def Catalog.schemas (c : Catalog) : List Json := c.methods.flatMap CatalogMethod.schemas

/-! ## Part by part -/

namespace Catalog

theorem reads_tag (t : CatalogTag) : Reads readTag t.toJson t := by
  rw [t.toJson_eq]
  exact Fills.reads
    (.field rfl rfl ((reads_aString t.name).field)
      (.field rfl rfl ((reads_aString t.summary).field) (.done rfl)))

theorem reads_widget (w : String) : Reads readWidget (.object [("widget", .string w)]) w :=
  Fills.reads (.field rfl rfl ((reads_aString w).field) (.done rfl))

theorem reads_param {p : CatalogParam} (hordered : p.schema.Ordered) (hwhole : p.schema.Whole) :
    Reads readParam p.toJson p := by
  rw [p.toJson_eq]
  have hdescription := reads_aString p.description
  have hname := reads_aString p.name
  have hrequired := reads_aBoolean p.required
  have hschema := reads_anyValue hordered hwhole
  obtain ⟨name, description, required, schema, widget⟩ := p
  refine Fills.reads ?_
  unfold optionalText CatalogParam.hint
  -- What is left out keeps the value that a parameter has to start with.
  by_cases h : description = ""
  · subst h
    rw [if_pos rfl]
    refine .field rfl rfl hname.field (.field rfl rfl hrequired.field
      (.field rfl rfl hschema.field ?_))
    cases widget with
    | none => exact .done rfl
    | some w => exact .field rfl rfl (reads_widget w).optional.field (.done rfl)
  · rw [if_neg h]
    refine .field rfl rfl hdescription.field (.field rfl rfl hname.field
      (.field rfl rfl hrequired.field (.field rfl rfl hschema.field ?_)))
    cases widget with
    | none => exact .done rfl
    | some w => exact .field rfl rfl (reads_widget w).optional.field (.done rfl)

theorem reads_result {r : CatalogResult} (hordered : r.schema.Ordered) (hwhole : r.schema.Whole) :
    Reads readResult (.object [("name", .string r.name), ("schema", r.schema)]) r :=
  Fills.reads (.field rfl rfl (reads_aString r.name).field
    (.field rfl rfl (reads_anyValue hordered hwhole).field (.done rfl)))

theorem reads_info (info : CatalogInfo) :
    Reads readInfo (.object [("title", .string info.title), ("version", .string info.version)])
      info :=
  Fills.reads (.field rfl rfl (reads_aString info.title).field
    (.field rfl rfl (reads_aString info.version).field (.done rfl)))

theorem readsItems_tags (tags : List CatalogTag) :
    ReadsItems readTag CatalogTag.toJson tags := fun t _ =>
  ⟨fun rest => t.toJson_eq ▸ startsValue_object _ rest, reads_tag t⟩

theorem reads_method {m : CatalogMethod} (hordered : ∀ v ∈ m.schemas, v.Ordered)
    (hwhole : ∀ v ∈ m.schemas, v.Whole) : Reads readMethod m.toJson m := by
  have hdescription := reads_aString m.description
  have hname := reads_aString m.name
  have hparams : Reads (listOf readParam) (.array (m.params.map CatalogParam.toJson)) m.params := by
    refine Reads.listOf fun p hp => ⟨fun rest => p.toJson_eq ▸ startsValue_object _ rest, ?_⟩
    have hmem : p.schema ∈ m.schemas := List.mem_append_left _ (List.mem_map_of_mem hp)
    exact reads_param (hordered _ hmem) (hwhole _ hmem)
  have hresult := reads_result (hordered _ (List.mem_append_right _ (List.mem_singleton_self _)))
    (hwhole _ (List.mem_append_right _ (List.mem_singleton_self _)))
  have htags := Reads.listOf (readsItems_tags m.tags)
  rw [m.toJson_eq]
  obtain ⟨name, description, tags, params, result⟩ := m
  refine Fills.reads ?_
  unfold optionalText CatalogMethod.labels
  by_cases h : description = ""
  · subst h
    rw [if_pos rfl]
    refine .field rfl rfl hname.field (.field rfl rfl hparams.field
      (.field rfl rfl hresult.field ?_))
    cases tags with
    | nil => exact .done rfl
    | cons t tags => exact .field rfl rfl htags.field (.done rfl)
  · rw [if_neg h]
    refine .field rfl rfl hdescription.field (.field rfl rfl hname.field
      (.field rfl rfl hparams.field (.field rfl rfl hresult.field ?_)))
    cases tags with
    | nil => exact .done rfl
    | cons t tags => exact .field rfl rfl htags.field (.done rfl)

/-- **A catalog is read back,** if its schemas are in order and have whole numbers only. -/
theorem reads_catalog {c : Catalog} (hordered : ∀ v ∈ c.schemas, v.Ordered)
    (hwhole : ∀ v ∈ c.schemas, v.Whole) : Reads read c.toJson c := by
  have hmethods : Reads (listOf readMethod) (.array (c.methods.map CatalogMethod.toJson))
      c.methods := by
    refine Reads.listOf fun m hm => ⟨fun rest => m.toJson_eq ▸ startsValue_object _ rest, ?_⟩
    have hmem {v : Json} (hv : v ∈ m.schemas) : v ∈ c.schemas := List.mem_flatMap.2 ⟨m, hm, hv⟩
    exact reads_method (fun v hv => hordered v (hmem hv)) fun v hv => hwhole v (hmem hv)
  rw [c.toJson_eq]
  exact Fills.reads (.field rfl rfl (reads_info c.info).field
    (.field rfl rfl hmethods.field (.field rfl rfl (reads_aString c.form).field (.done rfl))))

/-- So it is from its text, if that nests less deep than readers go. -/
theorem ofText_text {c : Catalog} (hordered : ∀ v ∈ c.schemas, v.Ordered)
    (hwhole : ∀ v ∈ c.schemas, v.Whole) :
    YieldsIf (c.toJson.nesting < Json.nestingLimit) (ofText c.toJson.text) c :=
  (reads_catalog hordered hwhole).readDocument

/-! ## Levels -/

theorem nesting_optionalText {name text : String} :
    ∀ f ∈ optionalText name text, f.2.nesting = 0 := by
  unfold optionalText
  split
  · intro f hf
    cases hf
  · intro f hf
    rw [List.mem_singleton.1 hf]
    rfl

/-- A parameter adds a level to those of its schema, -/
theorem nesting_param_lt (p : CatalogParam) {k : Nat} (hk : 1 < k) :
    p.toJson.nesting < k + 1 ↔ p.schema.nesting < k := by
  have hk' : 0 < k := Nat.lt_of_succ_lt hk
  have hhint : ∀ f ∈ p.hint, f.2.nesting < k := by
    unfold CatalogParam.hint
    cases p.widget with
    | none =>
      intro f hf
      cases hf
    | some w =>
      intro f hf
      rw [List.mem_singleton.1 hf]
      exact hk
  rw [p.toJson_eq, nesting_object_lt hk']
  refine ⟨fun h => h ("schema", p.schema) ?_, fun h f hf => ?_⟩
  · exact List.mem_append_left _ (List.mem_append_right _ (.tail _ (.tail _ (.head _))))
  · rw [List.mem_append, List.mem_append] at hf
    rcases hf with (hf | hf) | hf
    · rw [nesting_optionalText f hf]
      exact hk'
    · simp only [List.mem_cons, List.not_mem_nil, or_false] at hf
      rcases hf with rfl | rfl | rfl
      · exact hk'
      · exact hk'
      · exact h
    · exact hhint f hf

theorem nesting_result_lt (r : CatalogResult) {k : Nat} (hk : 0 < k) :
    (Json.object [("name", .string r.name), ("schema", r.schema)]).nesting < k + 1 ↔
      r.schema.nesting < k := by
  rw [nesting_object_lt hk, List.forall_mem_cons, List.forall_mem_singleton]
  exact and_iff_right hk

/-- a method three to those of its parameters, and two to those of its result, -/
theorem nesting_method_lt (m : CatalogMethod) {k : Nat} (hk : 1 < k) :
    m.toJson.nesting < k + 3 ↔
      (∀ p ∈ m.params, p.schema.nesting < k) ∧ m.result.schema.nesting < k + 1 := by
  have hlabels : ∀ f ∈ m.labels, f.2.nesting < k + 2 := by
    unfold CatalogMethod.labels
    split
    · intro f hf
      cases hf
    · intro f hf
      rw [List.mem_singleton.1 hf, nesting_array_lt (Nat.succ_pos k), List.forall_mem_map]
      intro t ht
      rw [t.toJson_eq]
      exact Nat.succ_lt_succ (Nat.lt_of_succ_lt hk)
  have hparams : (Json.array (m.params.map CatalogParam.toJson)).nesting < k + 2 ↔
      ∀ p ∈ m.params, p.schema.nesting < k := by
    rw [nesting_array_lt (Nat.succ_pos k), List.forall_mem_map]
    exact forall₂_congr fun p _ => nesting_param_lt p hk
  rw [m.toJson_eq, nesting_object_lt (Nat.succ_pos _), ← hparams,
    ← nesting_result_lt m.result (Nat.succ_pos k)]
  refine ⟨fun h => ⟨h ("params", _) ?_, h ("result", _) ?_⟩, fun h f hf => ?_⟩
  · exact List.mem_append_left _ (List.mem_append_right _ (.tail _ (.head _)))
  · exact List.mem_append_left _ (List.mem_append_right _ (.tail _ (.tail _ (.head _))))
  · rw [List.mem_append, List.mem_append] at hf
    rcases hf with (hf | hf) | hf
    · rw [nesting_optionalText f hf]
      exact Nat.succ_pos _
    · simp only [List.mem_cons, List.not_mem_nil, or_false] at hf
      rcases hf with rfl | rfl | rfl
      · exact Nat.succ_pos _
      · exact h.1
      · exact h.2
    · exact hlabels f hf

/-- **and a catalog two more.** -/
theorem nesting_catalog_lt (c : Catalog) {k : Nat} (hk : 1 < k) :
    c.toJson.nesting < k + 5 ↔ ∀ m ∈ c.methods,
      (∀ p ∈ m.params, p.schema.nesting < k) ∧ m.result.schema.nesting < k + 1 := by
  have hmethods : (Json.array (c.methods.map CatalogMethod.toJson)).nesting < k + 4 ↔
      ∀ m ∈ c.methods,
        (∀ p ∈ m.params, p.schema.nesting < k) ∧ m.result.schema.nesting < k + 1 := by
    rw [nesting_array_lt (Nat.succ_pos _), List.forall_mem_map]
    exact forall₂_congr fun m _ => nesting_method_lt m hk
  rw [c.toJson_eq, nesting_object_lt (Nat.succ_pos _), List.forall_mem_cons, List.forall_mem_cons,
    List.forall_mem_singleton, hmethods]
  refine ⟨fun h => h.2.1, fun h => ⟨?_, h, Nat.succ_pos _⟩⟩
  exact Nat.succ_lt_succ (Nat.succ_pos _)

end Catalog

end Switchboard
