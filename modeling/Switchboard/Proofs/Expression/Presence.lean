import Switchboard.Proofs.Dispatch.Scope
import Switchboard.Proofs.Expression.Sequence
import Switchboard.Proofs.Json.Values
import Switchboard.Proofs.Number.Rounding
/-!
# What data have at a key

`missing` and `missing_some` tell at which of some keys the data have nothing, and `var` gives
what they have. Both take a key for a path, but not for the same one: `missing` takes the text of
the key as `cat` would write it, and `var` takes a number as it is spelled. The two differ for
binary64 numbers without a fractional part, `1` and `1.0` for one, and for no other keys
(`Number.Narrows`). So the operators agree on all keys but these (`presenceLaws`), and on these
they do not (`missing_not_lacked`).

How many keys there are is compared with the minimum in binary64, which is exact below `2^53`.
-/

namespace Switchboard

open Switchboard.Expr

variable {ρ : Type} {h : Host ρ} {data key : Json} {keys : List Json}

/-! ## Keys -/

/-- What is a key: a string or a number. -/
def Json.IsKey : Json → Prop
  | .string _ => True
  | .number _ => True
  | _ => False

/-- A binary64 number that is written as a whole one in texts. -/
def Number.Narrows : Number → Prop
  | .whole _ _ => False
  | .float x => x.isIntegral = true ∧ x.truncate.natAbs < 2 ^ 63

/-- A key that is spelled in one way and written in texts in another. -/
def Json.SpelledTwice : Json → Prop
  | .number n => n.Narrows
  | _ => False

theorem Json.SpelledTwice.isKey (htwice : key.SpelledTwice) : key.IsKey := by
  cases key with
  | number n => trivial
  | null | bool | string | array | object => exact htwice.elim

/-- A key as it is spelled. -/
def Json.spelling : Json → String
  | .string s => s
  | v => v.text

/-- Null and the empty string say nothing. -/
def Json.saysNothing : Json → Bool
  | .null => true
  | .string s => s = ""
  | _ => false

/-! ## Expressions -/

/-- What the data have at a key. -/
def variableOf (key : Json) : Json := .object [("var", .array [key])]

/-- The keys at which the data have nothing. -/
def missingOf (keys : List Json) : Json := .object [("missing", .array [.array keys])]

/-- These keys, unless there are so many others. -/
def missingSomeOf (least : Number) (keys : List Json) : Json :=
  .object [("missing_some", .array [.number least, .array keys])]

/-- The value of an evaluation that is finished, if it has one. -/
def Evaluation.value? (x : Evaluation ρ Json) : Option Json :=
  match x.run with
  | .done (.ok v) => some v
  | _ => none

/-- **Whether `var` finds nothing** at a key: null, or the empty string. -/
def Host.lacks (h : Host ρ) (data key : Json) : Bool :=
  (eval h (ofJson (variableOf key)) data).value?.any Json.saysNothing

namespace Expr

theorem ofJson_of_isKey (hkey : key.IsKey) : ofJson key = .literal key := by
  cases key with
  | string s => simp [ofJson]
  | number n => simp [ofJson]
  | null | bool | array | object => exact hkey.elim

theorem evalAll_of_keys (hkeys : ∀ k ∈ keys, k.IsKey) (h : Host ρ) (data : Json) :
    evalAll h (keys.map ofJson) data = pure keys := by
  induction keys with
  | nil => rw [List.map_nil, evalAll]
  | cons k rest ih =>
    rw [List.forall_mem_cons] at hkeys
    rw [List.map_cons, evalAll, ofJson_of_isKey hkeys.1, eval, pure_bind, ih hkeys.2, pure_bind]

theorem eval_of_keys (hkeys : ∀ k ∈ keys, k.IsKey) (h : Host ρ) (data : Json) :
    eval h (ofJson (.array keys)) data = pure (.array keys) := by
  have hitems : ofJson (.array keys) = .list (keys.map ofJson) := by
    rw [ofJson]
    exact congrArg Expr.list List.attach_map_val
  rw [hitems, eval, evalAll_of_keys hkeys, pure_bind]

theorem eval_variableOf (hkey : key.IsKey) (h : Host ρ) (data : Json) :
    eval h (ofJson (variableOf key)) data =
      pure ((Builtin.found? (data.lookup? key.spelling)).getD .null) := by
  have hop : Operator.ofName? "var" = some (.builtin .var) := by decide
  have hkeys : ∀ k ∈ [key], k.IsKey := List.forall_mem_singleton.2 hkey
  have hlook : Builtin.lookUp [key] data =
      .ok ((Builtin.found? (data.lookup? key.spelling)).getD .null) := by
    cases key with
    | string s => rfl
    | number n =>
      change _ = Except.ok ((Builtin.found? (data.lookup? (String.ofList n.text.toList))).getD _)
      rw [String.ofList_toList]
      rfl
    | null | bool | array | object => exact hkey.elim
  rw [variableOf, ofJson, ofCall, hop, ofOperands_array]
  change eval h (.apply .var _) data = _
  rw [eval, evalAll_of_keys hkeys, pure_bind]
  change liftM (Builtin.lookUp [key] data) = _
  rw [hlook]
  rfl

theorem eval_missingOf (hkeys : ∀ k ∈ keys, k.IsKey) (h : Host ρ) (data : Json) :
    eval h (ofJson (missingOf keys)) data =
      pure (.array (keys.filter (Builtin.isMissing data))) := by
  have hop : Operator.ofName? "missing" = some (.builtin .missing) := by decide
  rw [missingOf, ofJson, ofCall, hop, ofOperands_array]
  change eval h (.apply .missing _) data = _
  rw [eval, List.map_singleton, evalAll, evalAll, eval_of_keys hkeys, pure_bind, pure_bind,
    pure_bind]
  rfl

theorem eval_missingSomeOf (hkeys : ∀ k ∈ keys, k.IsKey) (h : Host ρ) (least : Number)
    (data : Json) : eval h (ofJson (missingSomeOf least keys)) data =
      pure (.array (
        if (Binary64.ofInt (keys.countP (!Builtin.isMissing data ·))).ge least.toBinary64 then []
        else keys.filter (Builtin.isMissing data))) := by
  have hop : Operator.ofName? "missing_some" = some (.builtin .missingSome) := by decide
  have hleast : ofJson (.number least) = .literal (.number least) :=
    ofJson_of_isKey trivial
  have hcount : keys.length - (keys.filter (Builtin.isMissing data)).length =
      keys.countP (!Builtin.isMissing data ·) := by
    have hlength := keys.length_eq_countP_add_countP (Builtin.isMissing data)
    simp only [Bool.not_eq_true, Bool.decide_eq_false] at hlength
    rw [← List.countP_eq_length_filter]
    omega
  rw [missingSomeOf, ofJson, ofCall, hop, ofOperands_array]
  change eval h (.apply .missingSome _) data = _
  rw [eval, List.map_cons, List.map_singleton, evalAll, evalAll, evalAll, hleast, eval, pure_bind,
    eval_of_keys hkeys, pure_bind, pure_bind, pure_bind, pure_bind, ← hcount]
  rfl

end Expr

/-! ## What is at a key -/

/-- Missing is what is not there, or says nothing. -/
theorem Builtin.isMissing_eq (data key : Json) :
    isMissing data key = (data.lookup? key.toText).all Json.saysNothing := by
  rw [isMissing]
  cases data.lookup? key.toText with
  | none => rfl
  | some v => cases v <;> rfl

theorem Host.lacks_eq (hkey : key.IsKey) (h : Host ρ) (data : Json) :
    h.lacks data key = (data.lookup? key.spelling).all Json.saysNothing := by
  rw [lacks, eval_variableOf hkey]
  change Json.saysNothing ((Builtin.found? (data.lookup? key.spelling)).getD .null) = _
  cases data.lookup? key.spelling with
  | none => rfl
  | some v => cases v <;> rfl

/-- **What is missing is what `var` does not find** at the text of the key. -/
theorem Host.isMissing_eq (h : Host ρ) (data key : Json) :
    Builtin.isMissing data key = h.lacks data (.string key.toText) := by
  have hkey : (Json.string key.toText).IsKey := trivial
  exact (Builtin.isMissing_eq data key).trans (h.lacks_eq hkey data).symm

/-! ## Texts of keys -/

namespace Number

/-- A number that narrows is written as the whole number it is. -/
theorem toText_of_narrows {x : Binary64.Finite} (hx : (Number.float x).Narrows) :
    ∃ i fits, (Json.number (.float x)).toText = (Number.whole i fits).text := by
  obtain ⟨hintegral, hsmall⟩ := hx
  have hfits : FitsWord x.truncate := ⟨by omega, by omega⟩
  refine ⟨x.truncate, hfits, ?_⟩
  rw [Json.toText, Json.ofBinary64, Number.ofBinary64?, if_pos ⟨hintegral, hsmall⟩, dif_pos hfits]
  exact String.ofList_toList

/-- Any other is written as it is spelled. -/
theorem toText_of_not_narrows {n : Number} (hn : ¬ n.Narrows) :
    (Json.number n).toText = (Json.number n).spelling := by
  cases n with
  | whole i fits => rfl
  | float x =>
    have hsame : Number.ofBinary64? (.finite x) = some (.float x) := by
      rw [Number.ofBinary64?]
      exact if_neg hn
    rw [Json.toText, Json.ofBinary64, hsame]
    rfl

/-- The text of a binary64 number shows that it is one. -/
theorem marked_text (x : Binary64.Finite) : '.' ∈ x.text.toList ∨ 'e' ∈ x.text.toList := by
  have hbody : ∀ (sign : String) (body : List Char), '.' ∈ body ∨ 'e' ∈ body →
      '.' ∈ (sign ++ String.ofList body).toList ∨ 'e' ∈ (sign ++ String.ofList body).toList := by
    intro sign body hbody
    rw [String.toList_append, String.toList_ofList, List.mem_append, List.mem_append]
    exact hbody.imp .inr .inr
  rw [Binary64.Finite.text]
  split
  · exact hbody _ ['0', '.', '0'] (.inl (by decide))
  · refine hbody _ _ ?_
    split
    · exact .inr (by simp)
    split
    · exact .inl (by simp)
    split
    · exact .inl (by simp)
    · exact .inl (by simp)

/-- That of a whole number has digits only, behind a sign. -/
theorem not_mem_text_whole {i : Int} (fits : FitsWord i) {c : Char} (hc : c ≠ '-')
    (hdigit : c.isDigit = false) : c ∉ (Number.whole i fits).text.toList := by
  have hdigits : c ∉ Nat.toDigits 10 i.natAbs := fun hmem =>
    Bool.false_ne_true
      (hdigit.symm.trans (Nat.isDigit_of_mem_toDigits (by decide) (by decide) hmem))
  rw [Json.toList_text]
  split
  · rw [List.mem_cons, not_or]
    exact ⟨hc, hdigits⟩
  · exact hdigits

end Number

namespace Json

theorem toText_of_not_spelledTwice (hkey : key.IsKey) (hone : ¬ key.SpelledTwice) :
    key.toText = key.spelling := by
  cases key with
  | string s => rfl
  | number n => exact Number.toText_of_not_narrows hone
  | null | bool | array | object => exact hkey.elim

/-! ## Keys that are spelled twice -/

/-- Where there is but one name, with nothing below it, no other path leads anywhere. -/
theorem lookup?_singleton {name path : String} (hne : path ≠ "") (hother : path ≠ name) :
    (Json.object [(name, .bool true)]).lookup? path = none := by
  have hbelow : ∀ segment, (Json.bool true).at? segment = none := fun _ => rfl
  have hat : ∀ segment, (Json.object [(name, .bool true)]).at? segment =
      if segment = name then some (.bool true) else none := by
    intro segment
    exact lookup_insertField name segment (Json.bool true) []
  rw [lookup?, if_neg hne, segments]
  obtain ⟨s, rest, hsplit⟩ := List.exists_cons_of_ne_nil (splitPoints_ne_nil path.toList)
  rw [hsplit, List.map_cons, follow?, hat]
  split
  · next hs =>
    -- This segment is the name, so that there are others behind it.
    obtain ⟨s', rest', rfl⟩ := List.exists_cons_of_ne_nil (l := rest) (by
      rintro rfl
      rw [← hs, ← eq_of_splitPoints_eq hsplit, String.ofList_toList] at hother
      exact hother rfl)
    rw [Option.bind_some, List.map_cons, follow?, hbelow]
    rfl
  · rfl

/-- **On a key that is spelled twice the operators differ** where the data have just its text. -/
theorem lacks_of_spelledTwice (htwice : key.SpelledTwice) (h : Host ρ) :
    h.lacks (.object [(key.toText, .bool true)]) key = true ∧
      Builtin.isMissing (.object [(key.toText, .bool true)]) key = false := by
  obtain ⟨x, rfl⟩ : ∃ x, key = .number (.float x) := by
    cases key with
    | number n =>
      cases n with
      | whole i fits => exact htwice.elim
      | float x => exact ⟨x, rfl⟩
    | null | bool | string | array | object => exact htwice.elim
  obtain ⟨i, fits, htext⟩ := Number.toText_of_narrows htwice
  have hspelling : (Json.number (.float x)).spelling = x.text := String.ofList_toList
  have hpoint : '.' ∉ (Number.whole i fits).text.toList :=
    Number.not_mem_text_whole fits (by decide) rfl
  have he : 'e' ∉ (Number.whole i fits).text.toList :=
    Number.not_mem_text_whole fits (by decide) rfl
  have hempty : (Number.whole i fits).text ≠ "" := by
    intro heq
    obtain ⟨c, cs, hrender, -⟩ := exists_render (.number i fits)
    rw [render, heq] at hrender
    cases hrender
  have hother : x.text ≠ (Number.whole i fits).text := by
    intro heq
    rw [← heq] at hpoint he
    exact (Number.marked_text x).elim hpoint he
  have hne : x.text ≠ "" := by
    intro heq
    have hmarked := Number.marked_text x
    rw [heq] at hmarked
    exact hmarked.elim (List.not_mem_nil) (List.not_mem_nil)
  rw [htext]
  constructor
  · rw [Host.lacks_eq htwice.isKey, hspelling, lookup?_singleton hne hother]
    rfl
  · rw [Builtin.isMissing_eq, htext, lookup?_of_segment rfl hempty hpoint]
    change (List.lookup _ [((Number.whole i fits).text, Json.bool true)]).all saysNothing = false
    rw [List.lookup_cons_self]
    rfl

end Json

/-! ## The laws of presence -/

/-- **How the three operators agree,** on a host. -/
structure PresenceLaws (h : Host ρ) : Prop where
  /-- Missing are those of the keys at which `var` finds nothing, -/
  missing : ∀ data keys, (∀ k ∈ keys, k.IsKey ∧ ¬ k.SpelledTwice) →
    eval h (ofJson (missingOf keys)) data = pure (.array (keys.filter (h.lacks data)))
  /-- and the same are missing where a minimum is asked for, unless it finds something at so many
  of the others. -/
  missingSome : ∀ data least keys, (∀ k ∈ keys, k.IsKey ∧ ¬ k.SpelledTwice) →
    keys.length < 2 ^ 53 → eval h (ofJson (missingSomeOf least keys)) data =
      pure (.array (if least.AtMost (keys.countP (!h.lacks data ·)) then []
        else keys.filter (h.lacks data)))
  /-- Of all keys, missing are those at the text of which it finds nothing, -/
  missing_text : ∀ data keys, (∀ k ∈ keys, k.IsKey) →
    eval h (ofJson (missingOf keys)) data =
      pure (.array (keys.filter fun k => h.lacks data (.string k.toText)))
  /-- however many there are. -/
  missingSome_text : ∀ data least keys, (∀ k ∈ keys, k.IsKey) →
    eval h (ofJson (missingSomeOf least keys)) data = pure (.array (
      if (Binary64.ofInt (keys.countP fun k => !h.lacks data (.string k.toText))).ge
        least.toBinary64 then []
      else keys.filter fun k => h.lacks data (.string k.toText)))
  /-- On a key that is spelled twice there are data on which they do not agree. -/
  differs : ∀ key, key.SpelledTwice → ∃ data, h.lacks data key = true ∧
    eval h (ofJson (missingOf [key])) data = pure (.array [])

theorem Host.isMissing_eq_lacks (h : Host ρ) (data : Json) (hkey : key.IsKey)
    (hone : ¬ key.SpelledTwice) : Builtin.isMissing data key = h.lacks data key := by
  rw [Builtin.isMissing_eq, Json.toText_of_not_spelledTwice hkey hone, h.lacks_eq hkey]

theorem presenceLaws (h : Host ρ) : PresenceLaws h where
  missing := by
    intro data keys hkeys
    rw [eval_missingOf (fun k hk => (hkeys k hk).1)]
    have hfilter : keys.filter (Builtin.isMissing data) = keys.filter (h.lacks data) :=
      List.filter_congr fun k hk => h.isMissing_eq_lacks data (hkeys k hk).1 (hkeys k hk).2
    rw [hfilter]
  missingSome := by
    intro data least keys hkeys hlength
    rw [eval_missingSomeOf (fun k hk => (hkeys k hk).1)]
    have hsame : ∀ k ∈ keys, Builtin.isMissing data k = h.lacks data k :=
      fun k hk => h.isMissing_eq_lacks data (hkeys k hk).1 (hkeys k hk).2
    have hfilter : keys.filter (Builtin.isMissing data) = keys.filter (h.lacks data) :=
      List.filter_congr hsame
    have hcount : keys.countP (!Builtin.isMissing data ·) = keys.countP (!h.lacks data ·) :=
      List.countP_congr fun k hk => by rw [hsame k hk]
    have hfew : keys.countP (!h.lacks data ·) < 2 ^ 53 :=
      Nat.lt_of_le_of_lt List.countP_le_length hlength
    have hexact := Binary64.ofInt_ge_iff hfew least
    rw [hfilter, hcount]
    simp only [hexact]
  missing_text := by
    intro data keys hkeys
    rw [eval_missingOf hkeys, funext (h.isMissing_eq data)]
  missingSome_text := by
    intro data least keys hkeys
    rw [eval_missingSomeOf hkeys, funext (h.isMissing_eq data)]
  differs := by
    intro key htwice
    obtain ⟨hlacks, hmissing⟩ := Json.lacks_of_spelledTwice htwice h
    refine ⟨_, hlacks, ?_⟩
    rw [eval_missingOf (List.forall_mem_singleton.2 htwice.isKey),
      List.filter_cons_of_neg (by rw [hmissing]; exact Bool.false_ne_true), List.filter_nil]

/-- The binary64 number one. -/
def Binary64.Finite.unit : Binary64.Finite := ⟨false, one, by decide +kernel⟩

/-- One as a key that is spelled `1.0`. -/
def onePointZero : Json := .number (.float .unit)

/-- **On `1.0` they do not agree:** what data have under `1` is not missing, and yet `var` finds
nothing. -/
theorem missing_not_lacked :
    eval (Host.alone (ρ := Unit)) (ofJson (missingOf [onePointZero]))
        (.object [("1", .bool true)]) = pure (.array []) ∧
      eval (Host.alone (ρ := Unit)) (ofJson (variableOf onePointZero))
        (.object [("1", .bool true)]) = pure .null ∧
      ¬ ∀ data keys, (∀ k ∈ keys, k.IsKey) →
        eval (Host.alone (ρ := Unit)) (ofJson (missingOf keys)) data =
          pure (.array (keys.filter ((Host.alone (ρ := Unit)).lacks data))) := by
  have htwice : onePointZero.SpelledTwice := by
    have hintegral : Binary64.Finite.unit.isIntegral = true := by decide +kernel
    have hsmall : Binary64.Finite.unit.truncate.natAbs < 2 ^ 63 := by decide +kernel
    exact ⟨hintegral, hsmall⟩
  have htext : onePointZero.toText = "1" := by decide +kernel
  have hspelling : onePointZero.spelling = "1.0" := by decide +kernel
  obtain ⟨hlacks, hmissing⟩ := Json.lacks_of_spelledTwice htwice (Host.alone (ρ := Unit))
  have hnone : eval (Host.alone (ρ := Unit)) (ofJson (missingOf [onePointZero]))
      (.object [("1", .bool true)]) = pure (.array []) := by
    rw [htext] at hmissing
    rw [eval_missingOf (List.forall_mem_singleton.2 htwice.isKey),
      List.filter_cons_of_neg (by rw [hmissing]; exact Bool.false_ne_true), List.filter_nil]
  refine ⟨hnone, ?_, fun hall => ?_⟩
  · rw [eval_variableOf htwice.isKey, hspelling,
      Json.lookup?_singleton (by decide) (by decide)]
    rfl
  · have hone := hall (.object [("1", .bool true)]) [onePointZero]
      (List.forall_mem_singleton.2 htwice.isKey)
    rw [htext] at hlacks
    rw [hnone, List.filter_cons_of_pos hlacks, List.filter_nil] at hone
    cases hone

end Switchboard
