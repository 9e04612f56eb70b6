import Switchboard.Proofs.Json.Layout
import Switchboard.Proofs.Server.Encoding
import Switchboard.Toolbox.Formatter
/-!
# Formatting on a server

What calls of `json-format` come to. Any document is laid out over lines (`FormattingLaws.laidOut`),
and any other text is refused (`FormattingLaws.refused`). With integers for its numbers a document
means the same then as before, and to lay it out again makes no difference
(`FormattingLaws.formatted`). That need not be so of other numbers, whose shortest texts a reader
may round to others. Of several fields of one name the last is kept
(`FormattingLaws.lastCounts`).
-/

namespace Switchboard

variable {x : String} {v : Json}

namespace Toolbox

theorem formatJson_eq (x : String) : formatJson (hexArguments "json-format" x) =
    ((Json.parse x).mapError (.invalidParameter "json-format" "value")).map
      fun v => .string v.prettyText := by
  have hvalue : (hexArguments "json-format" x).requireString 0 = .ok x := rfl
  rw [formatJson, hvalue]
  dsimp only [bind, Except.bind]
  rw [parseArgument]
  cases Json.parse x with
  | ok v => rfl
  | error reason => rfl

end Toolbox

/-! ## Calls -/

open Toolbox
open Json (parse)

/-- How a registry lays documents out. -/
structure FormattingLaws (r : Registry) : Prop where
  /-- A document is laid out, -/
  laidOut : ∀ x v, parse x = .ok v →
    r.Answers "json-format" (GivesText x) (.ok (.string v.prettyText))
  /-- and if its numbers are integers, what comes of it is read as the same, and is laid out as it
  is. -/
  formatted : ∀ x v, parse x = .ok v → v.Exact → ∃ y,
    r.Answers "json-format" (GivesText x) (.ok (.string y)) ∧ parse y = .ok v ∧
    r.Answers "json-format" (GivesText y) (.ok (.string y))
  /-- What is written with several fields of one name is laid out as the value it stands for, -/
  resolved : ∀ (v : Json) (sp : Json.Spacing), v.Exact → v.nesting < Json.nestingLimit →
    r.Answers "json-format" (GivesText (v.spacedText sp)) (.ok (.string v.resolved.prettyText)) ∧
    parse v.resolved.prettyText = .ok v.resolved
  /-- which has under each name what was written last, -/
  lastCounts : ∀ (fields : Json.Fields) (name : String),
    (Json.object fields).resolved.at? name = (fields.reverse.lookup name).map Json.resolved
  /-- and a text that is no document is refused. -/
  refused : ∀ x reason, parse x = .error reason →
    r.Answers "json-format" (GivesText x)
      (.error (.invalidParameter "json-format" "value" reason))

variable {r : Registry}

theorem Registry.TakesText.answers_formatJson (h : r.TakesText "json-format" formatJson)
    (hparse : parse x = .ok v) :
    r.Answers "json-format" (GivesText x) (.ok (.string v.prettyText)) := by
  refine h.answers ?_
  rw [formatJson_eq, hparse]
  rfl

/-- **Laying out keeps what a document means,** and is done after one time. -/
theorem FormattingLaws.of_takesText (h : r.TakesText "json-format" formatJson) :
    FormattingLaws r where
  laidOut x v hparse := h.answers_formatJson hparse
  formatted x v hparse hexact := by
    have hagain := Json.parse_prettyText_of_parse hparse hexact
    exact ⟨v.prettyText, h.answers_formatJson hparse, hagain, h.answers_formatJson hagain⟩
  resolved v sp hexact hnesting := by
    have hparse := (Json.parse_spacedText hexact sp).eq_ok hnesting
    exact ⟨h.answers_formatJson hparse, Json.parse_prettyText_of_parse hparse hexact.resolved⟩
  lastCounts := Json.lookup_resolvedFields
  refused x reason hparse := by
    refine h.answers ?_
    rw [formatJson_eq, hparse]
    rfl

namespace Deployment

variable (settings : Settings) (randomBits : Nat → Nat) (calls : List Call)

/-- **What any server makes of documents.** -/
theorem formattingLaws : FormattingLaws ((new settings randomBits).run calls).registry := by
  have hmem : formatterOperations[0] ∈ operations := by
    simp only [operations, List.mem_append, List.getElem_mem, true_or, or_true]
  exact .of_takesText (takesText_of_mem settings randomBits calls hmem rfl rfl)

end Deployment

end Switchboard
