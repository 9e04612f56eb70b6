import Switchboard.Proofs.Catalog.Reading
import Switchboard.Proofs.Json.Parsed
/-!
# Catalogs there and back

A catalog that is written is read back as itself, whatever it leaves out
(`Catalog.serializationLaws`). Schemas are values of any kind, and there a text cannot say
everything: numbers must be whole, and what the catalog is written as must nest less deep than
readers go. A catalog that was read from a text has the second for sure, and every description of
operations has both.
-/

namespace Switchboard

namespace Catalog

open Json

variable {c : Catalog} {m : CatalogMethod} {text : String} {depth : Nat}

/-! ## What is read -/

theorem makes_readParam (hdepth : 0 < depth) :
    Makes (depth + 1) readParam fun p => Sound depth p.schema := by
  refine makes_readRecord ?_ ⟨.null, hdepth⟩ _
  simp only [List.forall_mem_cons, List.not_mem_nil, false_implies, implies_true, and_true]
  refine ⟨keeps_of_indifferent ?_, keeps_of_indifferent ?_, keeps_of_indifferent ?_,
    (makes_anyValue hdepth).field ?_, keeps_of_indifferent ?_⟩
  · exact fun _ _ hp => hp
  · exact fun _ _ hp => hp
  · exact fun _ _ hp => hp
  · exact fun _ _ hschema _ => hschema
  · exact fun _ _ hp => hp

theorem makes_readResult (hdepth : 0 < depth) :
    Makes (depth + 1) readResult fun r => Sound depth r.schema := by
  refine makes_readRecord ?_ ⟨.null, hdepth⟩ _
  simp only [List.forall_mem_cons, List.not_mem_nil, false_implies, implies_true, and_true]
  refine ⟨keeps_of_indifferent ?_, (makes_anyValue hdepth).field ?_⟩
  · exact fun _ _ hr => hr
  · exact fun _ _ hschema _ => hschema

/-- A method whose schemas are in order, with so many levels left for those of its parameters. -/
structure SoundMethod (depth : Nat) (m : CatalogMethod) : Prop where
  params : ∀ p ∈ m.params, Sound depth p.schema
  result : Sound (depth + 1) m.result.schema

theorem makes_readMethod (hdepth : 0 < depth) :
    Makes (depth + 3) readMethod (SoundMethod depth) := by
  have hparams := (makes_readParam hdepth).listOf
  have hresult := makes_readResult (Nat.succ_pos depth)
  refine makes_readRecord ?_ ⟨fun p hp => (by cases hp), ⟨.null, Nat.succ_pos depth⟩⟩ _
  simp only [List.forall_mem_cons, List.not_mem_nil, false_implies, implies_true, and_true]
  refine ⟨keeps_of_indifferent ?_, keeps_of_indifferent ?_, keeps_of_indifferent ?_,
    hparams.field ?_, hresult.field ?_⟩
  · exact fun _ _ hm => ⟨hm.params, hm.result⟩
  · exact fun _ _ hm => ⟨hm.params, hm.result⟩
  · exact fun _ _ hm => ⟨hm.params, hm.result⟩
  · exact fun _ _ hp hm => ⟨hp, hm.result⟩
  · exact fun _ _ hr hm => ⟨hm.params, hr⟩

theorem makes_read (hdepth : 0 < depth) :
    Makes (depth + 5) read fun c => ∀ m ∈ c.methods, SoundMethod depth m := by
  have hmethods := (makes_readMethod hdepth).listOf
  refine makes_readRecord ?_ (fun m hm => (by cases hm)) _
  simp only [List.forall_mem_cons, List.not_mem_nil, false_implies, implies_true, and_true]
  refine ⟨keeps_of_indifferent ?_, keeps_of_indifferent ?_, hmethods.field ?_⟩
  · exact fun _ _ hc => hc
  · exact fun _ _ hc => hc
  · exact fun _ _ hmethods _ => hmethods

/-- The levels that readers go down in a catalog to what is in the schema of a parameter. -/
def levelsLeft : Nat := 123

theorem sound_of_methods (h : ∀ m ∈ c.methods, SoundMethod levelsLeft m) :
    (∀ v ∈ c.schemas, v.Ordered) ∧ c.toJson.nesting < Json.nestingLimit := by
  constructor
  · intro v hv
    obtain ⟨m, hm, hv⟩ := List.mem_flatMap.1 hv
    rcases List.mem_append.1 hv with hv | hv
    · obtain ⟨p, hp, rfl⟩ := List.mem_map.1 hv
      exact ((h m hm).params p hp).ordered
    · rw [List.mem_singleton.1 hv]
      exact (h m hm).result.ordered
  · exact (nesting_catalog_lt c (k := levelsLeft) (by decide)).2 fun m hm =>
      ⟨fun p hp => ((h m hm).params p hp).nesting, (h m hm).result.nesting⟩

/-- **A catalog that was read** has its schemas in order, and nests less deep than readers go. -/
theorem sound_of_ofText (h : ofText text = .ok c) :
    (∀ v ∈ c.schemas, v.Ordered) ∧ c.toJson.nesting < Json.nestingLimit := by
  have hlevels : 0 < levelsLeft := by decide
  exact sound_of_methods ((makes_read hlevels).readDocument text c h)

/-! ## What is described -/

theorem sound_schemaOf (p : Parameter) : Sound 3 (schemaOf p) ∧ (schemaOf p).Whole := by
  have htype : ∀ f ∈ [("type", Json.string p.type.schemaName)], Sound 2 f.2 ∧ f.2.Whole := by
    intro f hf
    rw [List.mem_singleton.1 hf]
    exact ⟨⟨.string _, Nat.two_pos⟩, .string _⟩
  have htext : ∀ v ∈ p.allowed.map Json.string, Sound 1 v ∧ v.Whole := by
    rw [List.forall_mem_map]
    exact fun s _ => ⟨⟨.string s, Nat.one_pos⟩, .string s⟩
  rw [schemaOf]
  split
  · have hfields : SoundFields 2 [("type", Json.string p.type.schemaName)] :=
      ⟨List.pairwise_singleton _ _, fun f hf => (htype f hf).1⟩
    exact ⟨hfields.object Nat.two_pos, .object fun f hf => (htype f hf).2⟩
  · have henum := sound_array Nat.one_pos fun v hv => (htext v hv).1
    have hfields : SoundFields 2 [("enum", .array (p.allowed.map Json.string)),
        ("type", Json.string p.type.schemaName)] := by
      refine ⟨?_, List.forall_mem_cons.2 ⟨henum, fun f hf => (htype f hf).1⟩⟩
      refine List.pairwise_cons.2 ⟨fun f hf => ?_, List.pairwise_singleton _ _⟩
      rw [List.mem_singleton.1 hf]
      change "enum" < "type"
      decide
    refine ⟨hfields.object Nat.two_pos, .object (List.forall_mem_cons.2 ⟨?_, ?_⟩)⟩
    · exact .array fun v hv => (htext v hv).2
    · exact fun f hf => (htype f hf).2

/-- **So has the description of operations,** and there are no numbers in it. -/
theorem sound_describe (info : CatalogInfo) (ops : List Operation) :
    (∀ v ∈ (describe info ops).schemas, v.Ordered ∧ v.Whole) ∧
      (describe info ops).toJson.nesting < Json.nestingLimit := by
  -- A result is of any kind, and the schema of a parameter nests no more than two levels.
  have hresult : SoundFields levelsLeft [] := ⟨.nil, fun f hf => (by cases hf)⟩
  have hsound : ∀ m ∈ (describe info ops).methods, SoundMethod levelsLeft m := by
    refine List.forall_mem_map.2 fun op _ => ⟨?_, hresult.object (by decide)⟩
    exact List.forall_mem_map.2 fun p _ => (sound_schemaOf p).1.mono (by decide)
  have hwhole : ∀ v ∈ (describe info ops).schemas, v.Whole := by
    intro v hv
    obtain ⟨m, hm, hv⟩ := List.mem_flatMap.1 hv
    obtain ⟨op, -, rfl⟩ := List.mem_map.1 hm
    rcases List.mem_append.1 hv with hv | hv
    · obtain ⟨q, hq, rfl⟩ := List.mem_map.1 hv
      obtain ⟨p, -, rfl⟩ := List.mem_map.1 hq
      exact (sound_schemaOf p).2
    · rw [List.mem_singleton.1 hv]
      exact .object fun f hf => (by cases hf)
  obtain ⟨hordered, hnesting⟩ := sound_of_methods hsound
  exact ⟨fun v hv => ⟨hordered v hv, hwhole v hv⟩, hnesting⟩

/-- **A description that was written is read back.** -/
theorem ofText_describe (info : CatalogInfo) (ops : List Operation) :
    ofText (describe info ops).toJson.text = .ok (describe info ops) := by
  obtain ⟨hschemas, hnesting⟩ := sound_describe info ops
  exact (ofText_text (fun v hv => (hschemas v hv).1) fun v hv => (hschemas v hv).2).eq_ok hnesting

/-! ## The laws of serialization -/

/-- **When a catalog survives being written and read.** -/
structure SerializationLaws : Prop where
  /-- If its schemas are in order, as all values are that are built or read, and have whole numbers
  only, then it does if and only if what it is written as nests less deep than readers go. -/
  round_trip : ∀ c : Catalog, (∀ v ∈ c.schemas, v.Ordered) → (∀ v ∈ c.schemas, v.Whole) → ∀ c',
    ofText c.toJson.text = .ok c' ↔ c.toJson.nesting < Json.nestingLimit ∧ c' = c
  /-- What it is written as has five levels around the schema of a parameter, and four around that
  of a result. -/
  nesting : ∀ c : Catalog, c.toJson.nesting < Json.nestingLimit ↔ ∀ m ∈ c.methods,
    (∀ p ∈ m.params, p.schema.nesting + 5 < Json.nestingLimit) ∧
      m.result.schema.nesting + 4 < Json.nestingLimit
  /-- What was read from any text survives if its schemas have whole numbers only, -/
  read : ∀ text c, ofText text = .ok c → (∀ v ∈ c.schemas, v.Whole) →
    ofText c.toJson.text = .ok c
  /-- so that reading and writing again changes nothing once it has been done. -/
  idempotent : ∀ text c, ofText text = .ok c → (∀ v ∈ c.schemas, v.Whole) →
    (ofText c.toJson.text).map (·.toJson.text) = .ok c.toJson.text
  /-- And the description of any operations survives. -/
  described : ∀ info ops, ofText (describe info ops).toJson.text = .ok (describe info ops)

theorem ofText_text_of_ofText (h : ofText text = .ok c) (hwhole : ∀ v ∈ c.schemas, v.Whole) :
    ofText c.toJson.text = .ok c := by
  obtain ⟨hordered, hnesting⟩ := sound_of_ofText h
  exact (ofText_text hordered hwhole).eq_ok hnesting

/-- **Catalogs that are written are read back.** -/
theorem serializationLaws : SerializationLaws where
  round_trip c hordered hwhole := ofText_text hordered hwhole
  nesting c := by
    refine (nesting_catalog_lt c (k := levelsLeft) (by decide)).trans ?_
    unfold levelsLeft Json.nestingLimit
    refine forall₂_congr fun m _ => and_congr (forall₂_congr fun p _ => ?_) ?_
    · omega
    · omega
  read text c h hwhole := ofText_text_of_ofText h hwhole
  idempotent text c h hwhole := by
    rw [ofText_text_of_ofText h hwhole]
    rfl
  described := ofText_describe

/-- A catalog with a parameter whose schema nests 123 levels. -/
def deepCatalog : Catalog where
  form := currentForm
  info := ⟨"title", "version"⟩
  methods :=
    [{ name := "method"
       params := [{ name := "parameter", required := false, schema := arraysAround 122 }]
       result := ⟨"result", .object []⟩ }]

/-- **It does not do that schemas nest less deep than readers go.** The levels around them count,
too. -/
theorem deepCatalog_not_read_back :
    (∀ v ∈ deepCatalog.schemas, v.Ordered ∧ v.Whole ∧ v.nesting < Json.nestingLimit) ∧
      ofText deepCatalog.toJson.text ≠ .ok deepCatalog := by
  have hschemas : ∀ v ∈ deepCatalog.schemas,
      v.Ordered ∧ v.Whole ∧ v.nesting < Json.nestingLimit := by
    change ∀ v ∈ [arraysAround 122, .object []], _
    refine List.forall_mem_cons.2 ⟨?_, List.forall_mem_singleton.2 ?_⟩
    · rw [nesting_arraysAround]
      exact ⟨(ordered_arraysAround 122).1, (ordered_arraysAround 122).2, by decide⟩
    · exact ⟨.object .nil fun f hf => (by cases hf), .object fun f hf => (by cases hf), by decide⟩
  refine ⟨hschemas, fun h => ?_⟩
  have hread := ofText_text (c := deepCatalog) (fun v hv => (hschemas v hv).1)
    fun v hv => (hschemas v hv).2.1
  -- If it had been read, there would have been levels enough.
  have hlevels := ((hread _).1 h).1
  have hnesting := (nesting_catalog_lt deepCatalog (k := levelsLeft) (by decide)).1 hlevels
  have hparam := (hnesting _ (.head _)).1 _ (.head _)
  rw [nesting_arraysAround] at hparam
  exact absurd hparam (by decide)

end Catalog

end Switchboard
