import Switchboard.Proofs.Dispatch.Scope
import Switchboard.Proofs.Number.Integral
/-!
# Cutting texts

`substr` cuts a text at two places, and what stands between them is the result. Whatever the
operands are, the places are in order and within the text (`Builtin.places_ordered`). This does not
hang on numbers without bounds: the same places are found if every sum is held within 64 bits
(`Builtin.cutInWords_eq`), as there are no texts of so many characters.

A number alone is one place, counted from the end if it is negative (`Builtin.place`). As a length
from the start of the text it is the place where the result ends, and as a start the one where the
result begins. So the two results are the text again, if they are joined
(`SubstringLaws.rejoined`). That needs a number without a fractional part: one between minus one
and zero is negative as a length, and no number of characters at all as a start.
-/

namespace Switchboard

open Switchboard.Expr

variable {ρ : Type}

/-! ## Expressions -/

/-- The call of an operator on values. -/
def builtinOf (op : Builtin) (operands : List Json) : Json :=
  .object [(op.name, .array operands)]

theorem Operator.ofName?_name (op : Builtin) : ofName? op.name = some (.builtin op) := by
  cases op <;> decide

namespace Expr

/-- The operands are evaluated first, and then the operator has their values. -/
theorem eval_builtinOf (h : Host ρ) (op : Builtin) (operands : List Json) (data : Json) :
    eval h (ofJson (builtinOf op operands)) data =
      (do op.apply (← evalAll h (operands.map ofJson) data) data) := by
  rw [builtinOf, ofJson, ofCall, Operator.ofName?_name, ofOperands_array]
  change eval h (.apply op _) data = _
  rw [eval]

theorem eval_string (h : Host ρ) (s : String) (data : Json) :
    eval h (ofJson (.string s)) data = pure (.string s) := by
  rw [ofJson, eval]
  · exact fun _ _ heq => Json.noConfusion heq
  · exact fun _ heq => Json.noConfusion heq

theorem eval_number (h : Host ρ) (n : Number) (data : Json) :
    eval h (ofJson (.number n)) data = pure (.number n) := by
  rw [ofJson, eval]
  · exact fun _ _ heq => Json.noConfusion heq
  · exact fun _ heq => Json.noConfusion heq

end Expr

namespace Builtin

variable {length : Nat} {k : Int} {n : Number} {start : Json} {extent : Option Json}

/-! ## Places -/

/-- The characters that are cut. -/
def subject (args : List Json) : List Char := (operand args 0).toText.toList

/-- The places where they are. -/
def places (args : List Json) : Nat × Nat :=
  cut (subject args).length (operand args 1) args[2]?

theorem substring_eq (args : List Json) : substring args =
    .string (String.ofList (((subject args).take (places args).2).drop (places args).1)) := rfl

theorem clamp_le (length : Nat) (i : Int) : clamp length i ≤ length := Nat.min_le_right _ _

theorem cut_ordered (length : Nat) (start : Json) (extent : Option Json) :
    (cut length start extent).1 ≤ (cut length start extent).2 ∧
      (cut length start extent).2 ≤ length := by
  unfold cut
  refine ⟨Nat.le_max_right _ _, Nat.max_le.2 ⟨?_, clamp_le _ _⟩⟩
  split
  · exact Nat.le_refl length
  · split
    · exact clamp_le _ _
    · exact clamp_le _ _

/-- **The two places are in order, and within the text.** -/
theorem places_ordered (args : List Json) :
    (places args).1 ≤ (places args).2 ∧ (places args).2 ≤ (subject args).length :=
  cut_ordered _ _ _

/-- **The result is what stands between them.** -/
theorem exists_run (args : List Json) : ∃ before run behind,
    subject args = before ++ run ++ behind ∧ before.length = (places args).1 ∧
      (before ++ run).length = (places args).2 ∧ substring args = .string (String.ofList run) := by
  obtain ⟨hfirst, hlast⟩ := places_ordered args
  have hsubstring := substring_eq args
  generalize places args = p at hfirst hlast hsubstring ⊢
  have hbefore : (subject args).take p.1 = ((subject args).take p.2).take p.1 := by
    rw [List.take_take, Nat.min_eq_left hfirst]
  refine ⟨(subject args).take p.1, ((subject args).take p.2).drop p.1, (subject args).drop p.2,
    ?_, ?_, ?_, hsubstring⟩
  · rw [hbefore, List.take_append_drop, List.take_append_drop]
  · rw [List.length_take]
    omega
  · rw [hbefore, List.take_append_drop, List.length_take]
    omega

/-! ## Sums within 64 bits -/

/-- A whole number, held within the range of signed 64-bit integers. -/
def heldInWord (i : Int) : Int := Max.max (-2 ^ 63) (Min.min i (2 ^ 63 - 1))

/-- The places of a cut, each sum of which is held within 64 bits. -/
def cutInWords (length : Nat) (start : Json) (extent : Option Json) : Nat × Nat :=
  let start := ((start.toNumber?).getD (.ofInt 0)).toInt64
  let first := clamp length (if start < 0 then heldInWord (length + start) else start)
  let last := match extent.bind Json.toNumber? with
    | none => length
    | some n =>
      if n.lt (.ofInt 0) then clamp length (heldInWord (length + n.toInt64))
      else clamp length (heldInWord (first + n.toInt64))
  (first, Nat.max last first)

theorem clamp_eq (length : Nat) (i : Int) : clamp length i = Min.min i.toNat length := rfl

theorem clamp_heldInWord (h : length < 2 ^ 63) (i : Int) :
    clamp length (heldInWord i) = clamp length i := by
  rw [clamp_eq, clamp_eq, heldInWord]
  omega

/-- **Sums beyond 64 bits make no difference,** for a text of fewer than `2^63` characters. -/
theorem cutInWords_eq (h : length < 2 ^ 63) (start : Json) (extent : Option Json) :
    cutInWords length start extent = cut length start extent := by
  have hfirst (i : Int) : clamp length (if i < 0 then heldInWord (length + i) else i) =
      clamp length (if i < 0 then length + i else i) := by
    split
    · exact clamp_heldInWord h _
    · rfl
  unfold cutInWords cut
  cases extent.bind Json.toNumber? with
  | none => simp only [hfirst]
  | some n => simp only [hfirst, clamp_heldInWord h]

/-! ## One place -/

/-- The place in a text that a number stands for: so many characters from the start, or from the
end if it is negative. -/
def place (length : Nat) (k : Int) : Nat := clamp length (if k < 0 then length + k else k)

theorem place_le (length : Nat) (k : Int) : place length k ≤ length := clamp_le _ _

theorem place_eq (length : Nat) (k : Int) :
    place length k = if k < 0 then length - k.natAbs else Min.min k.toNat length := by
  rw [place, clamp_eq]
  split
  · omega
  · rfl

/-- Where a cut that has a length begins and ends. -/
theorem cut_of_length {x : Binary64} (h : extent.bind Json.toNumber? = some x) :
    cut length start extent =
      (place length ((start.toNumber?).getD (.ofInt 0)).toInt64,
        Nat.max
          (if x.lt (.ofInt 0) then clamp length (length + x.toInt64)
            else clamp length
              (place length ((start.toNumber?).getD (.ofInt 0)).toInt64 + x.toInt64))
          (place length ((start.toNumber?).getD (.ofInt 0)).toInt64)) := by
  unfold cut
  rw [h]
  rfl

/-- As a start, a number is the place from which the text is taken. -/
theorem cut_from (length : Nat) (n : Number) :
    cut length (.number n) none = (place length n.toBinary64.toInt64, length) := by
  have hlast : Nat.max length (place length n.toBinary64.toInt64) = length :=
    Nat.max_eq_left (place_le _ _)
  change (place length n.toBinary64.toInt64, Nat.max length (place length n.toBinary64.toInt64)) = _
  rw [hlast]

/-- The start of a text. -/
def zero : Json := .number (.ofNat 0 (by decide))

/-- As a length from the start on, it is the place up to which it is taken, if it has no
fractional part. -/
theorem cut_upTo (length : Nat) (h : n.IsIntegral) :
    cut length zero (some (.number n)) = (0, place length n.toBinary64.toInt64) := by
  obtain ⟨x, hx, hintegral⟩ := n.exists_isIntegral h
  have hextent : (some (Json.number n)).bind Json.toNumber? = some n.toBinary64 := rfl
  have hstart : ((zero.toNumber?).getD (.ofInt 0)).toInt64 = 0 := by
    have hnumber : zero.toNumber? = some (.ofInt 0) := rfl
    rw [hnumber, Option.getD_some]
    exact Binary64.toInt64_ofInt (by decide)
  have hzero : place length 0 = 0 := Nat.zero_min length
  have hlast : (if n.toBinary64.lt (.ofInt 0) then clamp length (length + n.toBinary64.toInt64)
      else clamp length ((0 : Nat) + n.toBinary64.toInt64)) =
        place length n.toBinary64.toInt64 := by
    rw [hx, place, Int.natCast_zero, Int.zero_add]
    by_cases hneg : (Binary64.finite x).toInt64 < 0
    · rw [if_pos ((Binary64.lt_zero_iff hintegral).2 hneg), if_pos hneg]
    · rw [if_neg (mt (Binary64.lt_zero_iff hintegral).1 hneg), if_neg hneg]
  rw [cut_of_length hextent, hstart, hzero, hlast]
  exact congrArg (Prod.mk 0) (Nat.max_zero _)

/-- In texts of up to `2^53` characters, whole numbers are the places they stand for. -/
theorem place_ofInt (hlength : length ≤ 2 ^ 53) {i : Int} (fits : FitsWord i) :
    place length (Binary64.ofInt i).toInt64 = place length i := by
  by_cases hi : i.natAbs ≤ 2 ^ 53
  · rw [Binary64.toInt64_ofInt hi]
  · have hbeyond := Binary64.toInt64_ofInt_of_lt fits (by omega)
    rw [place_eq, place_eq]
    generalize (Binary64.ofInt i).toInt64 = j at hbeyond ⊢
    by_cases hneg : i < 0
    · rw [if_pos hneg] at hbeyond
      rw [if_pos hneg, if_pos (by omega)]
      omega
    · rw [if_neg hneg] at hbeyond
      rw [if_neg hneg, if_neg (by omega)]
      omega

/-! ## The two parts -/

theorem substring_from (s : String) (n : Number) : substring [.string s, .number n] =
    .string (String.ofList (s.toList.drop (place s.length n.toBinary64.toInt64))) := by
  have hplaces : places [.string s, .number n] =
      (place s.length n.toBinary64.toInt64, s.length) := cut_from s.length n
  rw [substring_eq, hplaces]
  exact congrArg (fun cs => Json.string (String.ofList (List.drop _ cs))) List.take_length

theorem substring_upTo (s : String) (h : n.IsIntegral) :
    substring [.string s, zero, .number n] =
      .string (String.ofList (s.toList.take (place s.length n.toBinary64.toInt64))) := by
  have hplaces : places [.string s, zero, .number n] =
      (0, place s.length n.toBinary64.toInt64) := cut_upTo s.length h
  rw [substring_eq, hplaces]
  rfl

end Builtin

open Builtin

/-- The part of a text between two places. -/
def substringOf (operands : List Json) : Json := builtinOf .substr operands

/-- Texts joined. -/
def concatenationOf (operands : List Json) : Json := builtinOf .cat operands

/-- **What is cut out of texts,** on a host. -/
structure SubstringLaws (h : Host ρ) : Prop where
  /-- A text is cut when the values of the operands are known, whatever they are. -/
  evaluated : ∀ operands data, eval h (ofJson (substringOf operands)) data =
    (do return substring (← evalAll h (operands.map ofJson) data))
  /-- The places are in order and within the text, -/
  ordered : ∀ args,
    (places args).1 ≤ (places args).2 ∧ (places args).2 ≤ (subject args).length
  /-- also if every sum is held within 64 bits. -/
  words : ∀ args, (subject args).length < 2 ^ 63 →
    places args = cutInWords (subject args).length (operand args 1) args[2]?
  /-- The result is what stands between them. -/
  run : ∀ args, ∃ before run behind, subject args = before ++ run ++ behind ∧
    before.length = (places args).1 ∧ (before ++ run).length = (places args).2 ∧
      substring args = .string (String.ofList run)
  /-- **Two parts make up the whole:** as many characters as a number says, and those behind. -/
  parts : ∀ (s : String) (n : Number), n.IsIntegral →
    ∃ t u, substring [.string s, zero, .number n] = .string t ∧
      substring [.string s, .number n] = .string u ∧ t ++ u = s
  /-- In texts of up to `2^53` characters these are as many as a whole number says itself, and all
  but so many if it is negative. -/
  place : ∀ (s : String) i fits, s.length ≤ 2 ^ 53 →
    substring [.string s, zero, .number (.whole i fits)] = .string (String.ofList
      (s.toList.take (if i < 0 then s.length - i.natAbs else i.natAbs)))
  /-- So the expression that joins the two parts is the text, whatever the data are. -/
  rejoined : ∀ (s : String) (n : Number), n.IsIntegral → ∀ data,
    eval h (ofJson (concatenationOf [substringOf [.string s, zero, .number n],
      substringOf [.string s, .number n]])) data = pure (.string s)

theorem Expr.eval_substringOf (h : Host ρ) (operands : List Json) (data : Json) :
    eval h (ofJson (substringOf operands)) data =
      (do return substring (← evalAll h (operands.map ofJson) data)) :=
  eval_builtinOf h .substr operands data

theorem substring_parts (s : String) {n : Number} (hn : n.IsIntegral) :
    ∃ t u, substring [.string s, zero, .number n] = .string t ∧
      substring [.string s, .number n] = .string u ∧ t ++ u = s := by
  refine ⟨_, _, substring_upTo s hn, substring_from s n, ?_⟩
  rw [← String.ofList_append, List.take_append_drop, String.ofList_toList]

/-- **Every cut is within its text,** and no character is lost between two parts. -/
theorem substringLaws (h : Host ρ) : SubstringLaws h where
  evaluated operands data := eval_substringOf h operands data
  ordered args := places_ordered args
  words args hlength := (cutInWords_eq hlength _ _).symm
  run args := exists_run args
  parts s n hn := substring_parts s hn
  place s i fits hlength := by
    have htake : s.toList.take (Builtin.place s.length i) =
        s.toList.take (if i < 0 then s.length - i.natAbs else i.natAbs) := by
      rw [place_eq]
      split
      · rfl
      · have hnat : i.toNat = i.natAbs := by omega
        rw [hnat]
        exact List.take_eq_take_min.symm
    have hn : (Number.whole i fits).IsIntegral := trivial
    rw [substring_upTo s hn, Number.toBinary64, place_ofInt hlength fits, htake]
  rejoined s n hn data := by
    obtain ⟨t, u, ht, hu, hjoined⟩ := substring_parts s hn
    have hzero : eval h (ofJson zero) data = pure zero := eval_number h _ data
    have hfirst : eval h (ofJson (substringOf [.string s, zero, .number n])) data =
        pure (.string t) := by
      rw [eval_substringOf]
      simp only [List.map_cons, List.map_nil, evalAll, eval_string, hzero, eval_number, pure_bind,
        ht]
    have hsecond : eval h (ofJson (substringOf [.string s, .number n])) data =
        pure (.string u) := by
      rw [eval_substringOf]
      simp only [List.map_cons, List.map_nil, evalAll, eval_string, eval_number, pure_bind, hu]
    have hcat : Builtin.apply .cat [.string t, .string u] data = .ok (.string s) := by
      rw [← hjoined]
      exact congrArg (fun r => Except.ok (Json.string r)) (by simp [Json.toText, String.join])
    rw [concatenationOf, eval_builtinOf]
    simp only [List.map_cons, List.map_nil, evalAll, hfirst, hsecond, pure_bind, hcat]
    rfl

-- Minus one half is negative as a length and nothing as a start, and both parts are the whole.
example : let half : Number := .float ⟨true, Binary64.one / 2, by decide +kernel⟩
    (substring [.string "ab", zero, .number half]).string? = some "ab" ∧
      (substring [.string "ab", .number half]).string? = some "ab" := by
  decide +kernel

end Switchboard
