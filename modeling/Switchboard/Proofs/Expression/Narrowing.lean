import Switchboard.Proofs.Expression.Cuts
import Switchboard.Proofs.Number.Narrowing
import Switchboard.Proofs.Task.Ends
import Switchboard.Proofs.Task.Success
/-!
# The results of arithmetic

Arithmetic is done in binary64, and its results are narrowed to numbers of documents. That changes
no value: not at the ends of the range of words, where the bound itself is rounded, and of zeros
only the sign (`NarrowingLaws`). Whatever its operands are, what an arithmetic operator comes to has
been narrowed, so that it stays as it is when it is an operand in turn.
-/

namespace Switchboard

open Switchboard.Expr

variable {ρ : Type} {op : Builtin}

/-- **The value has been narrowed:** it is a number that is not changed any more, or null. -/
def Json.IsNarrowed (v : Json) : Prop := ∃ x, v = .ofBinary64 x

namespace Builtin

/-- The operators whose results are numbers. -/
def arithmetic : List Builtin := [.add, .subtract, .multiply, .divide, .remainder, .min, .max]

theorem isNarrowed_reduceNumbers (join : Binary64 → Binary64 → Binary64) (xs : List Binary64) :
    (reduceNumbers join xs).IsNarrowed := by
  cases xs with
  | nil => exact ⟨.undefined, rfl⟩
  | cons x xs => exact ⟨_, rfl⟩

theorem givesOnly_difference (xs : List Binary64) :
    GivesOnly Json.IsNarrowed (difference xs) := by
  rcases xs with _ | ⟨x, _ | ⟨y, rest⟩⟩
  · exact givesOnly_error _
  · exact givesOnly_ok ⟨_, rfl⟩
  · exact givesOnly_ok ⟨_, rfl⟩

theorem givesOnly_ofTwo (operator : String) (join : Binary64 → Binary64 → Binary64)
    (xs : List Binary64) :
    GivesOnly Json.IsNarrowed (ofTwo operator join xs) := by
  rcases xs with _ | ⟨x, _ | ⟨y, rest⟩⟩
  · exact givesOnly_error _
  · exact givesOnly_error _
  · exact givesOnly_ok ⟨_, rfl⟩

/-- **Arithmetic gives narrowed numbers only,** or null where there is none. -/
theorem givesOnly_apply (hop : op ∈ arithmetic) (args : List Json) (data : Json) :
    GivesOnly Json.IsNarrowed (op.apply args data) := by
  simp only [arithmetic, List.mem_cons, List.not_mem_nil, or_false] at hop
  rcases hop with rfl | rfl | rfl | rfl | rfl | rfl | rfl
  · exact givesOnly_bind fun xs => givesOnly_ok ⟨_, rfl⟩
  · exact givesOnly_bind givesOnly_difference
  · exact givesOnly_bind fun xs => givesOnly_ok ⟨_, rfl⟩
  · exact givesOnly_bind (givesOnly_ofTwo _ _)
  · exact givesOnly_bind (givesOnly_ofTwo _ _)
  · exact givesOnly_bind fun xs => givesOnly_ok (isNarrowed_reduceNumbers _ xs)
  · exact givesOnly_bind fun xs => givesOnly_ok (isNarrowed_reduceNumbers _ xs)

end Builtin

/-- What an arithmetic operator ends with has been narrowed, whatever its operands come to. -/
theorem Expr.ends_of_arithmetic (hop : op ∈ Builtin.arithmetic) (h : Host ρ) (operands : List Json)
    (data : Json) :
    Task.Ends (fun _ => True) (GivesOnly Json.IsNarrowed)
      (eval h (ofJson (builtinOf op operands)) data).run := by
  rw [eval_builtinOf, ExceptT.run_bind]
  refine Task.Ends.bind (Task.ends_of_forall (fun _ => trivial) _) fun r _ => ?_
  cases r with
  | ok args => exact Builtin.givesOnly_apply hop args data
  | error e => exact givesOnly_error e

/-- **What narrowing does,** and with what the operators of a host end. -/
structure NarrowingLaws (h : Host ρ) : Prop where
  /-- A number is tested and cast in binary64, where the greatest signed word is rounded. -/
  computed : ∀ x : Binary64, Json.ofBinary64 x =
    if x.fract.beq (.ofInt 0) = true ∧ x.abs.lt (.ofInt (2 ^ 63 - 1)) = true then
      .number (.whole x.toInt64 x.fitsWord_toInt64)
    else .ofFloat x
  /-- There is no number exactly if it is not finite, -/
  null : ∀ x : Binary64, Json.ofBinary64 x = .null ↔ ¬ x.IsFinite
  /-- and otherwise there is one of equal value, -/
  value : ∀ x : Binary64, x.IsFinite →
    ∃ n, Json.ofBinary64 x = .number n ∧ n.toBinary64.beq x = true
  /-- which is whole exactly if the number has no fractional part and is below `2^63`. -/
  whole : ∀ (x : Binary64) n, Json.ofBinary64 x = .number n →
    ((∃ i fits, n = .whole i fits) ↔ ∃ i : Int, x.IsWhole i ∧ i.natAbs < 2 ^ 63)
  /-- Then the cast is exact, -/
  cast : ∀ (x : Binary64) (i : Int), x.IsWhole i → i.natAbs < 2 ^ 63 →
    x.toInt64 = i ∧ ∃ fits, Json.ofBinary64 x = .number (.whole i fits)
  /-- and either zero becomes the one there is. -/
  zero : ∀ negative, ∃ fits,
    Json.ofBinary64 (.finite (.zero negative)) = .number (.whole 0 fits)
  /-- Narrowing its value again gives the same number, -/
  again : ∀ (x : Binary64) n, Json.ofBinary64 x = .number n →
    Json.ofBinary64 n.toBinary64 = .number n
  /-- and it is written in texts as the number was. -/
  text : ∀ f : Binary64.Finite,
    (Json.number (.float f)).toText = (Json.ofBinary64 (.finite f)).toText
  /-- All that arithmetic ends with has been narrowed. -/
  results : ∀ op ∈ Builtin.arithmetic, ∀ operands data,
    Task.Ends (fun _ => True) (GivesOnly Json.IsNarrowed)
      (eval h (ofJson (builtinOf op operands)) data).run

open Binary64 (narrowsTo_iff isWhole_zero) in
/-- **Narrowing changes no value,** and on every host arithmetic ends with narrowed values. -/
theorem narrowingLaws (h : Host ρ) : NarrowingLaws h where
  computed := Json.ofBinary64_eq_ite
  null x := (narrowsTo_iff.2 rfl : x.NarrowsTo _).eq_null_iff
  value x hx := by
    have hnarrow : x.NarrowsTo (.ofBinary64 x) := narrowsTo_iff.2 rfl
    obtain ⟨n, hn⟩ := hnarrow.exists_number hx
    rw [hn] at hnarrow
    exact ⟨n, hn, hnarrow.beq⟩
  whole x n hn := (narrowsTo_iff.2 hn).eq_whole_iff
  cast x i hi hlt :=
    ⟨hi.toInt64_eq hlt, Json.ofBinary64_of_isWhole hi hlt⟩
  zero negative := Json.ofBinary64_of_isWhole (isWhole_zero negative) (by decide)
  again x n hn := narrowsTo_iff.1 (narrowsTo_iff.2 hn).again
  text := Json.toText_float
  results op hop operands data := ends_of_arithmetic hop h operands data

end Switchboard
