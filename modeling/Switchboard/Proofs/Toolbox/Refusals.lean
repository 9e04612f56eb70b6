import Switchboard.Proofs.Operation.Outcomes
import Switchboard.Toolbox.Standard
/-!
# Refused arguments of built-in operations

The code of the built-in operations fails in one way only: it refuses its arguments (`Complains`),
and says of which operation they are (`operation?_of_throws`). Only of an argument that has no
value, and that the operation requires, does it say that it is missing.
-/

namespace Switchboard

namespace Toolbox

variable {ps : List Parameter} {args : Arguments} {i : Nat} {op : Operation} {e : CallError}

/-- There is a parameter at the position, and it is required. -/
def Requires (ps : List Parameter) (i : Nat) : Prop := ∃ p, ps[i]? = some p ∧ p.required = true

/-- **What code complains about** that is given arguments for these parameters: one of them, or
that a required one is not there. -/
inductive Complains (ps : List Parameter) (args : Arguments) : CallError → Prop where
  | invalid (i : Nat) (reason : String) : Complains ps args (args.invalid i reason)
  | missing {i : Nat} (required : Requires ps i) (absent : args.value? i = none) :
      Complains ps args (.missingParameter args.operation (args.nameAt i))

theorem Complains.operation? (h : Complains ps args e) : e.operation? = some args.operation := by
  cases h <;> rfl

/-- A result that is there, or what there is to complain about. -/
abbrev Complaining (ps : List Parameter) (args : Arguments) {α : Type} (x : Except CallError α) :
    Prop :=
  FailsOnly (Complains ps args) x

/-- An argument that is no text is refused. -/
theorem complaining_string? (ps : List Parameter) (args : Arguments) (i : Nat) :
    Complaining ps args (args.string? i) := by
  rw [Arguments.string?]
  split
  · exact failsOnly_ok _
  · exact failsOnly_ok _
  · exact failsOnly_error (.invalid i _)

/-- A required one is refused, too, where it is missing. -/
theorem complaining_requireString (h : Requires ps i) (args : Arguments) :
    Complaining ps args (args.requireString i) := by
  intro e he
  rw [Arguments.requireString] at he
  cases hs : args.string? i with
  | error e' =>
    rw [hs] at he
    cases he
    exact complaining_string? ps args i e hs
  | ok s =>
    rw [hs] at he
    cases s with
    | some s => cases he
    | none =>
      cases he
      -- A value that is no text would have been refused, so there is none.
      refine .missing h ?_
      rw [Arguments.string?] at hs
      split at hs
      · assumption
      · cases hs
      · cases hs

/-- A mode is refused that is not one of those that have a name here. -/
theorem complaining_modeOf {α : Type} (named : List (String × α)) (args : Arguments) :
    Complaining ps args (modeOf named args) := by
  refine (complaining_string? ps args 0).bind fun s => ?_
  dsimp only
  split
  · exact failsOnly_ok _
  · exact failsOnly_error (.invalid 0 _)

/-- Bytes that are no text are refused. -/
theorem complaining_textOf (args : Arguments) (i : Nat) (bs : List UInt8) :
    Complaining ps args (textOf args i bs) := by
  rw [textOf]
  split
  · exact failsOnly_ok _
  · exact failsOnly_error (.invalid i _)

theorem complaining_parseArgument (args : Arguments) (i : Nat) (text : String) :
    Complaining ps args (parseArgument args i text) := by
  rw [parseArgument]
  cases Json.parse text with
  | ok v => exact failsOnly_ok v
  | error reason => exact failsOnly_error (.invalid i reason)

/-- A pattern that does not compile is always the first argument. -/
theorem complaining_patternOf (args : Arguments) (text : String) :
    Complaining ps args (patternOf args text) := by
  rw [patternOf]
  split
  · exact failsOnly_ok _
  · exact failsOnly_error (.invalid 0 _)

/-! ## Each operation -/

theorem complaining_encodeBase64 (h : Requires ps 1) : Complaining ps args (encodeBase64 args) :=
  (complaining_requireString h args).bind fun _ =>
    (complaining_modeOf _ args).bind fun _ => failsOnly_ok _

theorem complaining_decodeBase64 (h : Requires ps 1) : Complaining ps args (decodeBase64 args) := by
  refine (complaining_requireString h args).bind fun value => ?_
  refine (complaining_modeOf _ args).bind fun mode => ?_
  cases decodeBytes mode value with
  | ok bs => exact complaining_textOf args 1 bs
  | error e => exact failsOnly_error (.invalid 1 _)

theorem complaining_encodeHex (h : Requires ps 0) : Complaining ps args (encodeHex args) :=
  (complaining_requireString h args).bind fun _ => failsOnly_ok _

theorem complaining_decodeHex (h : Requires ps 0) : Complaining ps args (decodeHex args) := by
  refine (complaining_requireString h args).bind fun value => ?_
  cases Hex.decode (Text.bytes (Text.trim value)) with
  | ok bs => exact complaining_textOf args 0 bs
  | error e => exact failsOnly_error (.invalid 0 _)

theorem complaining_regexMatches (h₀ : Requires ps 0) (h₁ : Requires ps 1) :
    Complaining ps args (regexMatches args) := by
  refine (complaining_requireString h₀ args).bind fun regex => ?_
  refine (complaining_requireString h₁ args).bind fun text => ?_
  refine (complaining_patternOf args _).bind fun pattern => ?_
  split
  · exact failsOnly_ok _
  · exact failsOnly_ok _

theorem complaining_regexFind (h₀ : Requires ps 0) (h₁ : Requires ps 1) :
    Complaining ps args (regexFind args) := by
  refine (complaining_requireString h₀ args).bind fun regex => ?_
  refine (complaining_patternOf args regex).bind fun pattern => ?_
  exact (complaining_requireString h₁ args).bind fun _ => failsOnly_ok _

theorem complaining_formatJson (h : Requires ps 0) : Complaining ps args (formatJson args) := by
  refine (complaining_requireString h args).bind fun text => ?_
  exact (complaining_parseArgument args 0 text).bind fun _ => failsOnly_ok _

theorem complaining_unescapeJson (h : Requires ps 0) :
    Complaining ps args (unescapeJson args) :=
  (complaining_requireString h args).bind fun _ => complaining_parseArgument args 0 _

theorem complaining_readJwt (h : Requires ps 0) : Complaining ps args (readJwt args) :=
  (complaining_requireString h args).bind fun _ => failsOnly_ok _

/-! ## All of them -/

/-- An operation's own code, if it has any, only refuses the arguments it is given. -/
def OwnRefusals (op : Operation) : Prop :=
  ∀ run, op.handler = .native run → ∀ args bits,
    Task.Ensures bits (Complaining op.parameters args) (run args)

theorem ownRefusals_immediate {f : Arguments → Except CallError Json}
    (hop : op.handler = immediate f) (hf : ∀ args, Complaining op.parameters args (f args)) :
    OwnRefusals op := by
  intro run hrun args bits
  rw [hop] at hrun
  cases hrun
  exact Task.ensures_done (hf args)

/-- **The code of the built-in operations only refuses its arguments.** -/
theorem ownRefusals_of_mem (hop : op ∈ operations) : OwnRefusals op := by
  simp only [operations, encodingOperations, textOperations, formatterOperations,
    generatorOperations, securityOperations, List.cons_append, List.nil_append,
    List.mem_cons, List.not_mem_nil, or_false] at hop
  rcases hop with rfl | rfl | rfl | rfl | rfl | rfl | rfl | rfl | rfl | rfl
  · exact ownRefusals_immediate rfl fun _ => complaining_encodeBase64 ⟨_, rfl, rfl⟩
  · exact ownRefusals_immediate rfl fun _ => complaining_decodeBase64 ⟨_, rfl, rfl⟩
  · exact ownRefusals_immediate rfl fun _ => complaining_encodeHex ⟨_, rfl, rfl⟩
  · exact ownRefusals_immediate rfl fun _ => complaining_decodeHex ⟨_, rfl, rfl⟩
  · exact ownRefusals_immediate rfl fun _ => complaining_regexMatches ⟨_, rfl, rfl⟩ ⟨_, rfl, rfl⟩
  · exact ownRefusals_immediate rfl fun _ => complaining_regexFind ⟨_, rfl, rfl⟩ ⟨_, rfl, rfl⟩
  · exact ownRefusals_immediate rfl fun _ => complaining_formatJson ⟨_, rfl, rfl⟩
  · exact ownRefusals_immediate rfl fun _ => complaining_unescapeJson ⟨_, rfl, rfl⟩
  · intro run hrun args bits
    cases hrun
    exact Task.ensures_look fun _ => Task.ensures_done (failsOnly_ok _)
  · exact ownRefusals_immediate rfl fun _ => complaining_readJwt ⟨_, rfl, rfl⟩

/-- What the code of a built-in operation ends with is about the arguments it was given. -/
theorem complains_of_throws (hop : op ∈ operations) (h : op.Throws args e) :
    Complains op.parameters args e := by
  obtain ⟨run, bits, c, hrun, he⟩ := h
  exact ownRefusals_of_mem hop run hrun args bits c e he

/-- **What the code of a built-in operation ends with** names the operation of its arguments. -/
theorem operation?_of_throws (hop : op ∈ operations) (h : op.Throws args e) :
    e.operation? = some args.operation :=
  (complains_of_throws hop h).operation?

end Toolbox

end Switchboard
