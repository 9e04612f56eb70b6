import Switchboard.Proofs.Json.Ends
import Switchboard.Proofs.Json.Records
import Switchboard.Proofs.Server.Encoding
import Switchboard.Toolbox.Formatter
/-!
# Unescaping on a server

What calls of `json-unescape` come to. The text of a string is read as the string
(`UnescapingLaws.quoted`). So is what stands between the quotes of that text, unless the string
ends in a quote (`UnescapingLaws.bare`): the quote is then escaped, but it is taken for the one
that surrounds the text, and none are added. What is left is no text of a string, as it does not
start with a quote (`UnescapingLaws.refused`). Any text whatever is read as a string or refused
(`UnescapingLaws.total`).
-/

namespace Switchboard

namespace Json

open Source (ofChars)

variable {c : Char} {cs : List Char} {s : String} {rest : Source}

/-! ## The ends of what is escaped -/

/-- What a character is escaped as is never nothing, and never has a quote or a blank in front,
but a blank that stands for itself. -/
theorem exists_escapeChar (c : Char) :
    ∃ d ds, escapeChar c = d :: ds ∧ d ≠ '"' ∧ (isBlank d = true → ds = []) := by
  have hescaped (ds : List Char) : ∃ d ds', '\\' :: ds = d :: ds' ∧ d ≠ '"' ∧
      (isBlank d = true → ds' = []) :=
    ⟨_, ds, rfl, by decide, fun h => absurd h (by decide)⟩
  rw [escapeChar]
  split
  · exact hescaped _
  next hquote =>
  repeat' split
  all_goals first | exact hescaped _ | exact ⟨c, [], rfl, hquote, fun _ => rfl⟩

theorem hexDigit_ne_quote : ∀ n < 16, Text.hexDigit n ≠ '"' := by decide

/-- It ends in a quote only if it stands for one. -/
theorem getLast?_escapeChar (c : Char) : (escapeChar c).getLast? = some '"' ↔ c = '"' := by
  constructor
  · intro h
    by_contra hquote
    rw [escapeChar, if_neg hquote] at h
    repeat' split at h
    all_goals first | exact hquote (Option.some.inj h) | cases h | skip
    next hcontrol =>
      exact hexDigit_ne_quote _ (Nat.mod_lt _ (by decide)) (Option.some.inj h)
  · rintro rfl
    rfl

theorem head?_escape (s : String) : (escape s).head? ≠ some '"' := by
  rw [escape]
  cases s.toList with
  | nil => exact fun h => by cases h
  | cons c cs =>
    obtain ⟨d, ds, hc, hd, -⟩ := exists_escapeChar c
    rw [List.flatMap_cons, hc]
    exact fun h => hd (Option.some.inj h)

theorem getLast?_escape (s : String) :
    (escape s).getLast? = some '"' ↔ s.toList.getLast? = some '"' := by
  rw [escape]
  generalize s.toList = cs
  induction cs with
  | nil => rfl
  | cons c cs ih =>
    rw [List.flatMap_cons]
    cases cs with
    | nil =>
      rw [List.flatMap_nil, List.append_nil, getLast?_escapeChar]
      exact ⟨fun h => congrArg some h, Option.some.inj⟩
    | cons d ds =>
      obtain ⟨e, es, hd, -⟩ := exists_escapeChar d
      have hne : (d :: ds).flatMap escapeChar ≠ [] := by
        rw [List.flatMap_cons, hd]
        exact List.cons_ne_nil _ _
      rw [List.getLast?_append_of_ne_nil _ hne, List.getLast?_cons_cons, ih]

/-- Blanks that stand for themselves may be skipped, but no quote follows. -/
theorem skipBlanks_escape (cs : List Char) (rest : Source) :
    skipBlanks (ofChars (cs.flatMap escapeChar)) ≠ some '"' :: rest := by
  induction cs with
  | nil => exact fun h => by cases h
  | cons c cs ih =>
    obtain ⟨d, ds, hc, hd, hblank⟩ := exists_escapeChar c
    rw [List.flatMap_cons, hc, List.cons_append, ofChars_cons]
    cases hb : isBlank d with
    | true =>
      have hskip : skipBlanks (some d :: ofChars (cs.flatMap escapeChar)) =
          skipBlanks (ofChars (cs.flatMap escapeChar)) := List.dropWhile_cons_of_pos hb
      rw [hblank hb, List.nil_append, hskip]
      exact ih
    | false =>
      rw [skipBlanks_cons hb]
      exact fun h => hd (Option.some.inj (List.cons.inj h).1)

/-! ## Texts of strings -/

/-- What stands between the quotes of a string's text. -/
def bareText (s : String) : String :=
  String.ofList ((string s).text.toList.tail.dropLast)

theorem toList_bareText (s : String) : (bareText s).toList = escape s := by
  have htext : (string s).text.toList = quote s := String.toList_ofList
  rw [bareText, String.toList_ofList, htext, quote, List.tail_cons, List.dropLast_concat]

/-- The text of a string is read as the string. -/
theorem parse_text_string (s : String) : parse (string s).text = .ok (string s) := by
  have hread := readValue_string s (2 * (ofChars (quote s)).length + 1) nestingLimit []
  rw [List.append_nil] at hread
  rw [parse, ofString_text, render, parseSource, parseWith, enoughFuel, hread]
  rfl

/-- A text that has a quote at one of its ends is read as a string, if as anything. -/
theorem parse_of_quote {x : String}
    (h : x.toList.head? = some '"' ∨ x.toList.getLast? = some '"') :
    GivesOnly IsString (parse x) := by
  rw [parse, parseSource]
  refine GivesOnly.mapError _ ?_
  rcases h with hhead | hlast
  · obtain ⟨cs, hcs⟩ := List.head?_eq_some_iff.1 hhead
    rw [Source.ofString, hcs, List.map_cons]
    exact parseWith_of_startsInQuote _
  · refine parseWith_of_endsInQuote ?_
    rw [Source.EndsInQuote, Source.ofString, List.getLast?_map, hlast, Option.map_some]

/-- What stands between the quotes of a string's text is never read as a string. -/
theorem parse_bareText (s : String) : GivesOnly (fun v => ¬IsString v) (parse (bareText s)) := by
  rw [parse, parseSource]
  refine GivesOnly.mapError _ fun v hv hstring => ?_
  obtain ⟨rest, hrest⟩ := startsInQuote_of_parseWith v hv hstring
  rw [Source.ofString, toList_bareText] at hrest
  exact skipBlanks_escape _ rest hrest

/-- So it is refused as it is if the string ends in a quote. -/
theorem parse_bareText_of_quote (h : s.toList.getLast? = some '"') :
    ∃ reason, parse (bareText s) = .error reason := by
  have hlast : (bareText s).toList.getLast? = some '"' := by
    rw [toList_bareText, getLast?_escape, h]
  cases hparse : parse (bareText s) with
  | ok v => exact absurd (parse_of_quote (.inr hlast) v hparse) (parse_bareText s v hparse)
  | error reason => exact ⟨reason, rfl⟩

end Json

namespace Toolbox

open Json (IsString bareText)

variable {s x : String}

/-! ## Surrounding quotes -/

/-- A text that has a quote at one of its ends is left as it is. -/
theorem quoted_of_quote (h : x.toList.head? = some '"' ∨ x.toList.getLast? = some '"') :
    quoted x = x := if_pos h

theorem quoted_of_not_quote (h : ¬(x.toList.head? = some '"' ∨ x.toList.getLast? = some '"')) :
    quoted x = String.ofList ('"' :: (x.toList ++ ['"'])) := if_neg h

/-- In every case there is a quote at one of the ends then. -/
theorem quote_of_quoted (x : String) :
    (quoted x).toList.head? = some '"' ∨ (quoted x).toList.getLast? = some '"' := by
  by_cases h : x.toList.head? = some '"' ∨ x.toList.getLast? = some '"'
  · rwa [quoted_of_quote h]
  · rw [quoted_of_not_quote h, String.toList_ofList]
    exact .inl rfl

theorem quoted_text (s : String) : quoted (Json.string s).text = (Json.string s).text :=
  quoted_of_quote (.inl (congrArg List.head? String.toList_ofList))

/-- The quotes are put back that were taken away, unless one seems to be left. -/
theorem quoted_bareText (h : s.toList.getLast? ≠ some '"') :
    quoted (bareText s) = (Json.string s).text := by
  rw [quoted_of_not_quote, Json.toList_bareText]
  · rfl
  · rw [Json.toList_bareText, Json.getLast?_escape]
    exact not_or.2 ⟨Json.head?_escape s, h⟩

theorem quoted_bareText_of_quote (h : s.toList.getLast? = some '"') :
    quoted (bareText s) = bareText s := by
  rw [quoted_of_quote]
  rw [Json.toList_bareText, Json.getLast?_escape]
  exact .inr h

/-! ## The code of the operation -/

theorem unescapeJson_eq (x : String) : unescapeJson (hexArguments "json-unescape" x) =
    (Json.parse (quoted x)).mapError (.invalidParameter "json-unescape" "value") := by
  have hvalue : (hexArguments "json-unescape" x).requireString 0 = .ok x := rfl
  rw [unescapeJson, hvalue]
  dsimp only [bind, Except.bind]
  rw [parseArgument]
  rfl

/-- It gives a string, or refuses the text. -/
theorem unescapeJson_cases (x : String) :
    (∃ s, unescapeJson (hexArguments "json-unescape" x) = .ok (.string s)) ∨
    ∃ reason, unescapeJson (hexArguments "json-unescape" x) =
      .error (.invalidParameter "json-unescape" "value" reason) := by
  rw [unescapeJson_eq]
  have hstring := Json.parse_of_quote (quote_of_quoted x)
  cases hparse : Json.parse (quoted x) with
  | ok v =>
    obtain ⟨s, rfl⟩ := hstring v hparse
    exact .inl ⟨s, rfl⟩
  | error reason => exact .inr ⟨reason, rfl⟩

end Toolbox

/-! ## Calls -/

open Toolbox

/-- How a registry takes escaping back. -/
structure UnescapingLaws (r : Registry) : Prop where
  /-- The text of a string is read as the string, -/
  quoted : ∀ s, r.Answers "json-unescape" (GivesText (Json.string s).text) (.ok (.string s))
  /-- and so is what stands between its quotes, if the string does not end in a quote. -/
  bare : ∀ s : String, s.toList.getLast? ≠ some '"' →
    r.Answers "json-unescape" (GivesText (Json.bareText s)) (.ok (.string s))
  /-- If it does, this is refused, as no quotes are added. -/
  refused : ∀ s : String, s.toList.getLast? = some '"' → ∃ reason,
    r.Answers "json-unescape" (GivesText (Json.bareText s))
      (.error (.invalidParameter "json-unescape" "value" reason))
  /-- Any text is read as a string or refused. -/
  total : ∀ x,
    (∃ s, r.Answers "json-unescape" (GivesText x) (.ok (.string s))) ∨
    ∃ reason, r.Answers "json-unescape" (GivesText x)
      (.error (.invalidParameter "json-unescape" "value" reason))

/-- Calls of the operation are carried out by the code. -/
def Registry.Unescapes (r : Registry) : Prop :=
  ∃ ps : List Parameter, ps.map Parameter.name = ["value"] ∧
    r.CarriesOut "json-unescape" ps unescapeJson

namespace Registry.Unescapes

variable {r : Registry} {x : String} {answer : Except CallError Json}

theorem answers (h : r.Unescapes) (hcode : unescapeJson (hexArguments "json-unescape" x) = answer) :
    r.Answers "json-unescape" (GivesText x) answer :=
  Registry.TakesText.answers h hcode

/-- **What was escaped is read,** but for a quote at the end that seems not to have been. -/
theorem laws (h : r.Unescapes) : UnescapingLaws r where
  quoted s := by
    refine h.answers ?_
    rw [unescapeJson_eq, quoted_text, Json.parse_text_string]
    rfl
  bare s hlast := by
    refine h.answers ?_
    rw [unescapeJson_eq, quoted_bareText hlast, Json.parse_text_string]
    rfl
  refused s hlast := by
    obtain ⟨reason, hreason⟩ := Json.parse_bareText_of_quote hlast
    refine ⟨reason, h.answers ?_⟩
    rw [unescapeJson_eq, quoted_bareText_of_quote hlast, hreason]
    rfl
  total x := by
    obtain ⟨s, hs⟩ | ⟨reason, hreason⟩ := unescapeJson_cases x
    · exact .inl ⟨s, h.answers hs⟩
    · exact .inr ⟨reason, h.answers hreason⟩

end Registry.Unescapes

namespace Deployment

variable (settings : Settings) (randomBits : Nat → Nat) (calls : List Call)

theorem unescapes : ((new settings randomBits).run calls).registry.Unescapes := by
  have hmem : formatterOperations[1] ∈ operations := by
    simp only [operations, List.mem_append, List.getElem_mem, true_or, or_true]
  exact takesText_of_mem settings randomBits calls hmem rfl rfl

/-- **What any server makes of escaped strings.** -/
theorem unescapingLaws : UnescapingLaws ((new settings randomBits).run calls).registry :=
  (unescapes settings randomBits calls).laws

/-- **A string that is a quote** is not read from what stands between the quotes of its text. -/
theorem quote_not_unescaped :
    Json.bareText "\"" = "\\\"" ∧ ∀ settings randomBits calls,
      ¬ ((new settings randomBits).run calls).registry.Answers "json-unescape"
        (GivesText "\\\"") (.ok (.string "\"")) := by
  have hbare : Json.bareText "\"" = "\\\"" := by decide
  refine ⟨hbare, fun settings randomBits calls hanswers => ?_⟩
  obtain ⟨reason, hrefused⟩ := (unescapes settings randomBits calls).laws.refused "\"" (by decide)
  rw [hbare] at hrefused
  have hok := hanswers (fun _ => 0) ⟨0, 0⟩ _ .byPosition
  have herror := hrefused (fun _ => 0) ⟨0, 0⟩ _ .byPosition
  cases hok.symm.trans herror

end Deployment

end Switchboard
