import Switchboard.Proofs.Pattern.Searching
import Switchboard.Proofs.Pattern.WholeTexts
import Switchboard.Proofs.Server.Encoding
import Switchboard.Toolbox.Standard
/-!
# Matching on a server

What calls of `regex-matches` and `regex-find` come to. What a pattern reads is what `regex-find`
looks for (`MatchingLaws.found`). For whole texts, `regex-matches` writes the regex into a group
between the places where a text starts and ends. If the regex stays within the group (`Contained`),
it is refused where `regex-find` refuses it and nowhere else (`MatchingLaws.agree`), and otherwise
the answer is whether it reads the whole text (`MatchingLaws.decides`). A pattern that does not stay
there is refused though `regex-find` accepts it (`MatchingLaws.apart`), and what closes the group by
itself may be accepted though it is no pattern (`regexes_leave_group`).
-/

namespace Switchboard

namespace Pattern

open Toolbox (anchored)

variable {p : String} {q : Pattern} {core : Core}

/-! ## Patterns in their group -/

/-- The text writes a pattern. -/
def Compiles (p : String) : Prop := ∃ q, compile p = .ok q

instance (p : String) : Decidable (Compiles p) :=
  decidable_of_iff ((compile p).isOk = true) (by
    unfold Compiles
    cases compile p with
    | error refusal =>
      refine iff_of_false (fun h => by cases h) ?_
      rintro ⟨q, h⟩
      cases h
    | ok q => exact iff_of_true rfl ⟨q, rfl⟩)

theorem compile_eq_ok_iff : compile p = .ok q ↔
    ∃ core, meaning p.toList = .ok core ∧ core.size ≤ sizeLimit ∧ q = ofProgram (.ofCore core) := by
  unfold compile
  cases meaning p.toList with
  | error f =>
    refine iff_of_false (fun h => by cases h) ?_
    rintro ⟨core, h, -⟩
    cases h
  | ok core =>
    dsimp only
    split
    · next hsize =>
      refine iff_of_false (fun h => by cases h) ?_
      rintro ⟨core', h, hle, -⟩
      cases h
      exact absurd hle (Nat.not_le.2 hsize)
    · next hsize =>
      constructor
      · intro h
        exact ⟨core, rfl, Nat.not_lt.1 hsize, (Except.ok.inj h).symm⟩
      · rintro ⟨core', h, -, rfl⟩
        cases h
        rfl

theorem compiles_iff : Compiles p ↔ ∃ core, meaning p.toList = .ok core ∧ core.size ≤ sizeLimit := by
  constructor
  · rintro ⟨q, hq⟩
    obtain ⟨core, hcore, hsize, -⟩ := compile_eq_ok_iff.1 hq
    exact ⟨core, hcore, hsize⟩
  · rintro ⟨core, hcore, hsize⟩
    exact ⟨_, compile_eq_ok_iff.2 ⟨core, hcore, hsize, rfl⟩⟩

theorem not_compiles_of_error {e : Fault} (h : meaning p.toList = .error e) : ¬Compiles p := by
  intro hp
  obtain ⟨core, hcore, -⟩ := compiles_iff.1 hp
  cases h.symm.trans hcore

/-- What is refused is refused for a reason. -/
theorem exists_refusal (h : ¬Compiles p) : ∃ refusal, compile p = .error refusal := by
  cases hp : compile p with
  | error refusal => exact ⟨refusal, rfl⟩
  | ok q => exact absurd ⟨q, hp⟩ h

/-- **The regex stays within a group** that is written around it. -/
structure Contained (p : String) : Prop where
  /-- It does not close the group. -/
  opened : ∀ f, meaning p.toList = .error f → f.cause ≠ .groupUnopened
  /-- It does not take in what closes the group. -/
  closed : Compiles p → ¬Compiles (p ++ ")\\z")
  /-- It is not nested too deep there. -/
  nested : Compiles p → NestedBelow 2 p.toList
  /-- There is room for what is around it. -/
  room : Compiles p → ∃ core, meaning p.toList = .ok core ∧ core.size + 64 ≤ sizeLimit

theorem toList_anchored (p : String) : (anchored p).toList = around p.toList := by
  unfold anchored
  rw [String.toList_append, String.toList_append, List.append_assoc]
  rfl

theorem toList_closed (p : String) : (p ++ ")\\z").toList = p.toList ++ closing := by
  rw [String.toList_append]
  rfl

/-- **A pattern that stays within its group is a pattern there,** -/
theorem meaning_anchored (h : Contained p) (hp : Compiles p) (hcore : meaning p.toList = .ok core) :
    meaning (anchored p).toList = .ok (.between .textStart .textEnd core) := by
  obtain ⟨core', hcore', hsize⟩ := compiles_iff.1 hp
  cases hcore.symm.trans hcore'
  rw [toList_anchored]
  rcases meaning_around hcore with ⟨-, haround, -⟩ | ⟨hclosed, -⟩
  · exact haround (h.nested hp)
  · exact absurd (compiles_iff.2 ⟨core, (toList_closed p).symm ▸ hclosed, hsize⟩) (h.closed hp)

/-- and any other is none there. -/
theorem compiles_anchored_iff (hp : Compiles p) : Compiles (anchored p) ↔ Contained p := by
  obtain ⟨core, hcore, hsize⟩ := compiles_iff.1 hp
  constructor
  · intro h
    obtain ⟨core', haround, hsize'⟩ := compiles_iff.1 h
    rw [toList_anchored] at haround
    rcases meaning_around hcore with ⟨⟨e, hclosed⟩, hnested, hdeep⟩ | ⟨-, e, he⟩
    · have hbelow : NestedBelow 2 p.toList := by
        by_contra hbelow
        obtain ⟨e, he⟩ := hdeep hbelow
        cases he.symm.trans haround
      cases (hnested hbelow).symm.trans haround
      refine ⟨fun f hf => ?_, fun _ => ?_, fun _ => hbelow, fun _ => ?_⟩
      · cases hf.symm.trans hcore
      · exact not_compiles_of_error ((toList_closed p).symm ▸ hclosed)
      · exact ⟨core, hcore, (size_around_le_iff hcore).1 hsize'⟩
    · cases he.symm.trans haround
  · intro h
    obtain ⟨core', hcore', hroom⟩ := h.room hp
    cases hcore.symm.trans hcore'
    exact compiles_iff.2
      ⟨_, meaning_anchored h hp hcore, (size_around_le_iff hcore).2 hroom⟩

/-- **What is no pattern is none in the group,** unless it closes the group. -/
theorem not_compiles_anchored (h : Contained p) (hp : ¬Compiles p) : ¬Compiles (anchored p) := by
  intro hanchored
  obtain ⟨core', haround, hsize'⟩ := compiles_iff.1 hanchored
  rw [toList_anchored] at haround
  cases hmeaning : meaning p.toList with
  | error f =>
    obtain ⟨e, he⟩ := meaning_around_of_error hmeaning (h.opened f hmeaning)
    cases he.symm.trans haround
  | ok core =>
    -- It takes too much room by itself, and more in the group.
    refine hp (compiles_iff.2 ⟨core, hmeaning, ?_⟩)
    rcases meaning_around hmeaning with ⟨-, hnested, hdeep⟩ | ⟨-, e, he⟩
    · by_cases hbelow : NestedBelow 2 p.toList
      · cases (hnested hbelow).symm.trans haround
        exact Nat.le_of_add_right_le ((size_around_le_iff hmeaning).1 hsize')
      · obtain ⟨e, he⟩ := hdeep hbelow
        cases he.symm.trans haround
    · cases he.symm.trans haround

/-- **In its group a pattern has a match if and only if it reads the whole text.** -/
theorem find?_anchored_isSome_iff (hp : Compiles p) (hcore : meaning p.toList = .ok core)
    (hq : compile (anchored p) = .ok q) (t : List Char) :
    (q.find? (.start t)).isSome = true ↔ core.ReadsWhole t := by
  obtain ⟨core', hanchored, -, rfl⟩ := compile_eq_ok_iff.1 hq
  have hcontained := (compiles_anchored_iff hp).1 ⟨_, hq⟩
  cases (meaning_anchored hcontained hp hcore).symm.trans hanchored
  rw [find?_isSome_iff, Core.exists_reads_between_iff]

end Pattern

namespace Toolbox

open Pattern

variable {p t : String} {q : Pattern} {refusal : Refusal}

/-! ## The code of the operations -/

/-- What the operations get to see of a regex and a text. -/
def regexArguments (operation p t : String) : Arguments :=
  ⟨operation, ["regex", "text"], [.string p, .string t]⟩

theorem regexMatches_of_refusal (h : compile (anchored p) = .error refusal) :
    regexMatches (regexArguments "regex-matches" p t) =
      .error (.invalidParameter "regex-matches" "regex" refusal.message) := by
  have hregex : (regexArguments "regex-matches" p t).requireString 0 = .ok p := rfl
  have htext : (regexArguments "regex-matches" p t).requireString 1 = .ok t := rfl
  rw [regexMatches, hregex, htext]
  dsimp only [bind, Except.bind]
  rw [patternOf, h]
  rfl

theorem regexMatches_of_compile (h : compile (anchored p) = .ok q) :
    ∃ groups, regexMatches (regexArguments "regex-matches" p t) =
      .ok (.ofFields [("matches", .bool (q.find? (.start t.toList)).isSome),
        ("groups", groups)]) := by
  have hregex : (regexArguments "regex-matches" p t).requireString 0 = .ok p := rfl
  have htext : (regexArguments "regex-matches" p t).requireString 1 = .ok t := rfl
  rw [regexMatches, hregex, htext]
  dsimp only [bind, Except.bind]
  rw [patternOf, h]
  dsimp only
  cases q.find? (.start t.toList) with
  | none => exact ⟨_, rfl⟩
  | some m => exact ⟨_, rfl⟩

theorem regexFind_of_refusal (h : compile p = .error refusal) :
    regexFind (regexArguments "regex-find" p t) =
      .error (.invalidParameter "regex-find" "regex" refusal.message) := by
  have hregex : (regexArguments "regex-find" p t).requireString 0 = .ok p := rfl
  rw [regexFind, hregex]
  dsimp only [bind, Except.bind]
  rw [patternOf, h]
  rfl

theorem regexFind_of_compile (h : compile p = .ok q) :
    ∃ finds, regexFind (regexArguments "regex-find" p t) =
        .ok (.ofFields [("finds", .array finds)]) ∧ finds.length = (q.findAll t).length := by
  have hregex : (regexArguments "regex-find" p t).requireString 0 = .ok p := rfl
  have htext : (regexArguments "regex-find" p t).requireString 1 = .ok t := rfl
  rw [regexFind, hregex, htext]
  dsimp only [bind, Except.bind]
  rw [patternOf, h]
  exact ⟨_, rfl, List.length_map _⟩

end Toolbox

/-! ## Calls -/

open Toolbox Pattern

/-- The payload gives a regex and a text, by name or by position. -/
abbrev GivesRegex (p t : String) : Json → Prop := Arguments.GivesTexts ["regex", "text"] [p, t]

/-- A call of the operation is refused for its regex. -/
def Registry.RefusesRegex (r : Registry) (name p t : String) : Prop :=
  ∃ reason, r.Answers name (GivesRegex p t) (.error (.invalidParameter name "regex" reason))

/-- How a registry matches texts against a regex. -/
structure MatchingLaws (r : Registry) : Prop where
  /-- What `regex-find` refuses is no pattern. -/
  find : ∀ p t, r.RefusesRegex "regex-find" p t ↔ ¬Compiles p
  /-- It finds something if and only if the pattern reads something. -/
  found : ∀ p t core, Compiles p → meaning p.toList = .ok core →
    ∃ finds, (finds ≠ [] ↔ ∃ s s', (Spot.start t.toList).Ahead s ∧ core.Reads s s') ∧
      r.Answers "regex-find" (GivesRegex p t) (.ok (.ofFields [("finds", .array finds)]))
  /-- A regex that stays within the group is refused by both operations or by neither. -/
  agree : ∀ p t, Contained p →
    (r.RefusesRegex "regex-matches" p t ↔ r.RefusesRegex "regex-find" p t)
  /-- A pattern that does not is refused by one of them. -/
  apart : ∀ p t, Compiles p → ¬Contained p → r.RefusesRegex "regex-matches" p t
  /-- If it does, the answer is whether it reads the whole text. -/
  decides : ∀ p t core, Compiles p → Contained p → meaning p.toList = .ok core →
    ∃ whole groups, (whole = true ↔ core.ReadsWhole t.toList) ∧
      r.Answers "regex-matches" (GivesRegex p t)
        (.ok (.ofFields [("matches", .bool whole), ("groups", groups)]))

/-- Calls of the operations are carried out by the code. -/
structure Registry.SearchesTexts (r : Registry) : Prop where
  whole : r.CarriesOut "regex-matches" regexParameters regexMatches
  parts : r.CarriesOut "regex-find" regexParameters regexFind

namespace Registry

variable {r : Registry} {name p t : String} {f : Arguments → Except CallError Json}
  {answer : Except CallError Json}

theorem CarriesOut.answers_regex (h : r.CarriesOut name regexParameters f)
    (hcode : f (regexArguments name p t) = answer) : r.Answers name (GivesRegex p t) answer := by
  intro bits c payload hpayload
  have hnodup : (regexParameters.map Parameter.name).Nodup := by decide
  rw [h.outcome_eq, Arguments.bind_of_givesTexts hnodup hpayload]
  exact hcode

/-- A call has one answer only. -/
theorem not_refusesRegex_of_answers {value : Json}
    (h : r.Answers name (GivesRegex p t) (.ok value)) : ¬r.RefusesRegex name p t := by
  rintro ⟨reason, hrefused⟩
  have hok := h (fun _ => 0) ⟨0, 0⟩ _ (.byPosition rfl)
  have herror := hrefused (fun _ => 0) ⟨0, 0⟩ _ (.byPosition rfl)
  cases hok.symm.trans herror

namespace SearchesTexts

theorem refuses_find_iff (h : r.SearchesTexts) (p t : String) :
    r.RefusesRegex "regex-find" p t ↔ ¬Compiles p := by
  constructor
  · rintro hrefused ⟨q, hq⟩
    obtain ⟨finds, hanswer, -⟩ := regexFind_of_compile (t := t) hq
    exact not_refusesRegex_of_answers (h.parts.answers_regex hanswer) hrefused
  · intro hp
    obtain ⟨refusal, hrefusal⟩ := exists_refusal hp
    exact ⟨_, h.parts.answers_regex (regexFind_of_refusal hrefusal)⟩

theorem refuses_matches_iff (h : r.SearchesTexts) (p t : String) :
    r.RefusesRegex "regex-matches" p t ↔ ¬Compiles (anchored p) := by
  constructor
  · rintro hrefused ⟨q, hq⟩
    obtain ⟨groups, hanswer⟩ := regexMatches_of_compile (t := t) hq
    exact not_refusesRegex_of_answers (h.whole.answers_regex hanswer) hrefused
  · intro hp
    obtain ⟨refusal, hrefusal⟩ := exists_refusal hp
    exact ⟨_, h.whole.answers_regex (regexMatches_of_refusal hrefusal)⟩

/-- **The whole text is matched** by what stays within the group. -/
theorem laws (h : r.SearchesTexts) : MatchingLaws r where
  find := h.refuses_find_iff
  found p t core hp hcore := by
    obtain ⟨q, hq⟩ := hp
    obtain ⟨finds, hanswer, hlength⟩ := regexFind_of_compile (t := t) hq
    refine ⟨finds, ?_, h.parts.answers_regex hanswer⟩
    obtain ⟨core', hcore', -, rfl⟩ := compile_eq_ok_iff.1 hq
    cases hcore.symm.trans hcore'
    rw [← find?_isSome_iff, ← findAll_ne_nil_iff, ← List.length_pos_iff, hlength,
      List.length_pos_iff]
  agree p t hcontained := by
    rw [h.refuses_matches_iff, h.refuses_find_iff]
    refine not_congr ⟨fun hanchored => ?_, fun hp => (compiles_anchored_iff hp).2 hcontained⟩
    by_contra hp
    exact not_compiles_anchored hcontained hp hanchored
  apart p t hp hcontained := by
    rw [h.refuses_matches_iff]
    exact fun hanchored => hcontained ((compiles_anchored_iff hp).1 hanchored)
  decides p t core hp hcontained hcore := by
    obtain ⟨q, hq⟩ := (compiles_anchored_iff hp).2 hcontained
    obtain ⟨groups, hanswer⟩ := regexMatches_of_compile (t := t) hq
    exact ⟨_, groups, find?_anchored_isSome_iff hp hcore hq _, h.whole.answers_regex hanswer⟩

end SearchesTexts

end Registry

namespace Deployment

variable (settings : Settings) (randomBits : Nat → Nat) (calls : List Call)

theorem searchesTexts : ((new settings randomBits).run calls).registry.SearchesTexts := by
  have hwhole : textOperations[0] ∈ operations := by
    simp only [operations, List.mem_append, List.getElem_mem, true_or, or_true]
  have hparts : textOperations[1] ∈ operations := by
    simp only [operations, List.mem_append, List.getElem_mem, true_or, or_true]
  exact ⟨carriesOut_of_mem hwhole rfl settings randomBits calls,
    carriesOut_of_mem hparts rfl settings randomBits calls⟩

/-- **How any server matches texts.** -/
theorem matchingLaws : MatchingLaws ((new settings randomBits).run calls).registry :=
  (searchesTexts settings randomBits calls).laws

/-- **A regex that closes the group and opens another** is no pattern, and it matches a text; one
that ends in a note is a pattern, and it is refused. -/
theorem regexes_leave_group :
    (¬Compiles ")|(" ∧ Compiles "(?x)a #b") ∧ ∀ settings randomBits calls,
      (((new settings randomBits).run calls).registry.RefusesRegex "regex-find" ")|(" "x" ∧
        ∃ groups, ((new settings randomBits).run calls).registry.Answers "regex-matches"
          (GivesRegex ")|(" "x") (.ok (.ofFields [("matches", .bool true), ("groups", groups)]))) ∧
      ¬((new settings randomBits).run calls).registry.RefusesRegex "regex-find" "(?x)a #b" "a" ∧
        ((new settings randomBits).run calls).registry.RefusesRegex "regex-matches"
          "(?x)a #b" "a" := by
  have hclosing : ¬Compiles ")|(" := by decide +kernel
  have hfound : ∃ q, compile (anchored ")|(") = .ok q ∧
      (q.find? (.start "x".toList)).isSome = true := by
    have hany : (compile (anchored ")|(")).toOption.any
        (fun q => (q.find? (.start "x".toList)).isSome) = true := by decide +kernel
    cases hq : compile (anchored ")|(") with
    | error refusal =>
      rw [hq] at hany
      cases hany
    | ok q =>
      rw [hq] at hany
      exact ⟨q, rfl, hany⟩
  obtain ⟨q, hq, hsome⟩ := hfound
  obtain ⟨groups, hanswer⟩ := regexMatches_of_compile (t := "x") hq
  rw [hsome] at hanswer
  have hnote : Compiles "(?x)a #b" := by decide +kernel
  have htaken : ¬Contained "(?x)a #b" := by
    intro hcontained
    refine hcontained.closed hnote ?_
    decide +kernel
  refine ⟨⟨hclosing, hnote⟩, fun settings randomBits calls => ?_⟩
  have hsearches := searchesTexts settings randomBits calls
  refine ⟨⟨?_, groups, hsearches.whole.answers_regex hanswer⟩, ?_, ?_⟩
  · exact (hsearches.refuses_find_iff _ _).2 hclosing
  · rw [hsearches.refuses_find_iff]
    exact not_not_intro hnote
  · exact hsearches.laws.apart _ _ hnote htaken

end Deployment

end Switchboard
