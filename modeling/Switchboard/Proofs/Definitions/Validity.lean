import Switchboard.Definitions.Document
import Switchboard.Proofs.Operation.Drafts
import Mathlib.Data.List.Forall2
/-!
# Valid definitions

Which definitions make an operation (`Valid`), and which operation a valid one
makes (`Describes`). The definitions of a document are checked together, before
any of them is installed: `mapM_toOperation_of_valid` and
`mapM_toOperation_of_invalid` say what comes of that.
-/

namespace Switchboard

/-- A parameter is what its definition declares. -/
structure ParameterDefinition.Describes (p : ParameterDefinition) (q : Parameter) : Prop where
  name : q.name = p.name
  type : q.type = p.type
  required : q.required = p.required
  documentation : q.documentation = p.documentation.getD ""
  uiHint : q.uiHint = p.uiHint
  allowed : q.allowed = []

namespace Definition

variable {d : Definition} {op : Operation} {seen names : List String} {ds : List Definition}

/-- The parameters that a definition declares. -/
def declared (d : Definition) : List ParameterDefinition := d.parameters.getD []

/-- The name of the operation that a definition makes. -/
def operationName (d : Definition) : String := Text.trim d.name

/-- What a definition must have in order to make an operation. -/
structure Valid (d : Definition) : Prop where
  named : d.operationName ≠ ""
  defined : d.expression ≠ .null
  distinct : (d.declared.map (·.name)).Nodup

/-- An operation is what a definition describes. -/
structure Describes (d : Definition) (op : Operation) : Prop where
  name : op.name = Text.trim d.name
  named : op.name ≠ ""
  documentation : op.documentation = d.description.getD ""
  /-- There is one parameter for each that is declared. -/
  length : op.parameters.length = d.declared.length
  /-- The parameter at a position is the one declared at that position. -/
  parameter : ∀ (i : Nat) (p : ParameterDefinition), d.declared[i]? = some p →
    ∃ q, op.parameters[i]? = some q ∧ p.Describes q
  tags : op.tags = [⟨"root_label", "Custom Operations"⟩, ⟨"command_prefix", ""⟩]
  handler : op.handler = .expression d.expression .registry

/-! ## One definition -/

/-- No name is found repeated exactly when none is, and none has been seen before. -/
theorem firstRepeated?_eq_none_iff :
    firstRepeated? seen names = none ↔ names.Nodup ∧ ∀ n ∈ names, n ∉ seen := by
  induction names generalizing seen with
  | nil => simp [firstRepeated?]
  | cons n rest ih =>
    rw [firstRepeated?, List.nodup_cons]
    by_cases hn : n ∈ seen
    · simp [hn]
    · rw [if_neg (by simpa using hn), ih]
      constructor
      · rintro ⟨hrest, hseen⟩
        refine ⟨⟨fun h => hseen n h List.mem_cons_self, hrest⟩, fun m hm => ?_⟩
        rcases List.mem_cons.1 hm with rfl | hm
        · exact hn
        · exact fun h => hseen m hm (List.mem_cons_of_mem _ h)
      · rintro ⟨⟨hnr, hrest⟩, hseen⟩
        refine ⟨hrest, fun m hm h => ?_⟩
        rcases List.mem_cons.1 h with rfl | h
        · exact hnr hm
        · exact hseen m (List.mem_cons_of_mem _ hm) h

/-- The operation that a definition makes if it is valid. -/
def operation (d : Definition) : Operation where
  name := d.operationName
  documentation := d.description.getD ""
  parameters := d.declared.map toParameter
  tags := Tag.menu menuLabel ""
  handler := .expression d.expression .registry

/-- What is checked, in order. -/
theorem toOperation_eq (d : Definition) :
    d.toOperation =
      if d.operationName = "" then .error (.malformed "operation name must not be empty")
      else if d.expression.isNull then
        .error (.malformed ("`" ++ d.operationName ++ "` has no jsonLogic expression"))
      else match firstRepeated? [] (d.declared.map (·.name)) with
        | some p => .error (.malformed
            ("`" ++ d.operationName ++ "` declares parameter `" ++ p ++ "` twice"))
        | none => .ok d.operation := rfl

theorem isNull_iff {v : Json} : v.isNull = true ↔ v = .null := by
  cases v <;> simp [Json.isNull]

/-- **A valid definition makes its operation.** -/
theorem toOperation_of_valid (h : d.Valid) : d.toOperation = .ok d.operation := by
  have hrep : firstRepeated? [] (d.declared.map (·.name)) = none :=
    firstRepeated?_eq_none_iff.2 ⟨h.distinct, by simp⟩
  rw [toOperation_eq, if_neg h.named, if_neg fun hn => h.defined (isNull_iff.1 hn), hrep]

/-- **An invalid one makes none,** and is what the error calls malformed. -/
theorem toOperation_of_invalid (h : ¬ d.Valid) :
    ∃ reason, d.toOperation = .error (.malformed reason) := by
  rw [toOperation_eq]
  by_cases hname : d.operationName = ""
  · exact ⟨_, by rw [if_pos hname]⟩
  rw [if_neg hname]
  by_cases hnull : d.expression.isNull = true
  · exact ⟨_, by rw [if_pos hnull]⟩
  rw [if_neg hnull]
  cases hrep : firstRepeated? [] (d.declared.map (·.name)) with
  | some p => exact ⟨_, rfl⟩
  | none =>
    have hdistinct := (firstRepeated?_eq_none_iff.1 hrep).1
    exact absurd ⟨hname, fun hn => hnull (isNull_iff.2 hn), hdistinct⟩ h

/-- The operation of a valid definition is what the definition describes. -/
theorem describes_operation (h : d.Valid) : d.Describes d.operation where
  name := rfl
  named := h.named
  documentation := rfl
  length := List.length_map _
  parameter i p hp := by
    refine ⟨toParameter p, ?_, ⟨rfl, rfl, rfl, rfl, rfl, rfl⟩⟩
    change (d.declared.map toParameter)[i]? = _
    rw [List.getElem?_map, hp, Option.map_some]
  tags := rfl
  handler := rfl

/-! ## Its operation, put together -/

/-- What a definition says of its operation, in the order in which it is put together. -/
def words (d : Definition) : List Draft.Word :=
  .documentation (d.description.getD "") :: .menu menuLabel "" ::
    (d.declared.map toParameter).map fun p => .parameter ⟨p, 0⟩

/-- **The operation of a definition is put together word by word,** as any other. -/
theorem finish_words (d : Definition) :
    (Draft.ofWords d.operationName d.words).finish (.expression d.expression .registry) =
      d.operation := by
  rw [Draft.ofWords, words, List.foldl_cons, List.foldl_cons, Draft.finish_foldl_parameters]
  rfl

/-- So the parameters of a loaded operation have the positions 0, 1 and so on, in the order in which
the definition declares them. -/
theorem positions_words (d : Definition) :
    (Draft.ofWords d.operationName d.words).parameters.map (·.parameter) =
        d.declared.map toParameter ∧
      (Draft.ofWords d.operationName d.words).parameters.map (·.position) =
        List.range d.declared.length := by
  have hparameters : (Draft.ofWords d.operationName d.words).parameters.map (·.parameter) =
      d.declared.map toParameter := congrArg Operation.parameters d.finish_words
  have hlength := congrArg List.length hparameters
  rw [List.length_map, List.length_map] at hlength
  exact ⟨hparameters, (Draft.positions_ofWords _ _).trans (congrArg List.range hlength)⟩

/-! ## All definitions of a document -/

/-- Where all definitions are valid, each makes its operation. -/
theorem mapM_toOperation_of_valid (h : ∀ d ∈ ds, d.Valid) :
    ds.mapM toOperation = .ok (ds.map operation) := by
  induction ds with
  | nil => rfl
  | cons d rest ih =>
    rw [List.forall_mem_cons] at h
    rw [List.mapM_cons, toOperation_of_valid h.1, ih h.2]
    rfl

/-- Where one is not, no operation is made. -/
theorem mapM_toOperation_of_invalid (h : ¬ ∀ d ∈ ds, d.Valid) :
    ∃ reason, ds.mapM toOperation = .error (.malformed reason) := by
  induction ds with
  | nil => exact absurd (by simp) h
  | cons d rest ih =>
    rw [List.mapM_cons]
    by_cases hd : d.Valid
    · obtain ⟨reason, hrest⟩ := ih fun hall => h (List.forall_mem_cons.2 ⟨hd, hall⟩)
      exact ⟨reason, by rw [toOperation_of_valid hd, hrest]; rfl⟩
    · obtain ⟨reason, hbad⟩ := toOperation_of_invalid hd
      exact ⟨reason, by rw [hbad]; rfl⟩

theorem forall₂_describes (h : ∀ d ∈ ds, d.Valid) :
    List.Forall₂ Describes ds (ds.map operation) := by
  rw [List.forall₂_map_right_iff, List.forall₂_same]
  exact fun d hd => describes_operation (h d hd)

end Definition

end Switchboard
