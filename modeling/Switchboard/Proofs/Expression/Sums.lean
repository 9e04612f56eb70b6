import Switchboard.Proofs.Expression.Cuts
import Switchboard.Proofs.Number.Narrowing
import Switchboard.Proofs.Number.Sums
/-!
# Sums of whole operands

Operands that are whole numbers, or texts that spell them, are added exactly as long as their
magnitudes come to `2^53` together, since no sum from the left is beyond that
(`Adds.exists_isWhole`). So their order does not matter. The difference of two is exact in the same
way (`SumLaws`).
-/

namespace Switchboard

open Switchboard.Expr
open Binary64 (Spells IsWhole isWhole_ofInt)
open Builtin (numbers)

variable {ρ : Type} {h : Host ρ} {op : String} {v w : Json} {vs vs' : List Json}
variable {i j total : Int} {size : Nat} {x : Binary64}

/-- **The operand stands for a whole number:** it is the number, or a text that spells it. -/
inductive Json.StandsFor : Json → Int → Prop
  | number {i : Int} (fits : FitsWord i) : StandsFor (.number (.whole i fits)) i
  | text {s : String} {i : Int} (hs : Spells s i) : StandsFor (.string s) i

/-- **The operands stand for whole numbers,** which have this sum, and whose magnitudes have that
one. -/
inductive Adds : List Json → Int → Nat → Prop
  | nil : Adds [] 0 0
  | cons {v : Json} {vs : List Json} {i total : Int} {size : Nat} (hv : v.StandsFor i)
      (h : Adds vs total size) : Adds (v :: vs) (i + total) (i.natAbs + size)

namespace Json.StandsFor

/-- In binary64 it is that number, -/
theorem exists_isWhole (h : v.StandsFor i) (hi : i.natAbs ≤ 2 ^ 53) :
    ∃ x, v.toNumber? = some x ∧ x.IsWhole i := by
  cases h with
  | number fits => exact ⟨_, rfl, isWhole_ofInt hi⟩
  | text hs => exact Binary64.exists_isWhole_of_spells hs hi

/-- and as an expression it is its own value. -/
theorem eval_eq (hv : v.StandsFor i) (h : Host ρ) (data : Json) :
    eval h (ofJson v) data = pure v := by
  cases hv with
  | number fits => exact eval_number h _ data
  | text hs => exact eval_string h _ data

end Json.StandsFor

theorem Builtin.numbers_cons (hv : v.toNumber? = some x) {xs : List Binary64}
    (hvs : numbers op vs = .ok xs) : numbers op (v :: vs) = .ok (x :: xs) := by
  rw [numbers] at hvs ⊢
  rw [List.mapM_cons, hv, hvs]
  rfl

namespace Adds

/-- **No sum from the left is rounded,** whatever whole number it starts from. -/
theorem exists_isWhole (h : Adds vs total size) (op : String) (hx : x.IsWhole i)
    (hsize : i.natAbs + size ≤ 2 ^ 53) :
    ∃ xs, numbers op vs = .ok xs ∧ (xs.foldl Binary64.add x).IsWhole (i + total) := by
  induction h generalizing x i with
  | nil =>
    rw [Int.add_zero]
    exact ⟨[], rfl, hx⟩
  | @cons v vs j total size hv _ ih =>
    obtain ⟨y, hread, hy⟩ := hv.exists_isWhole (by omega)
    have hstep : (x.add y).IsWhole (i + j) := hx.add hy (by omega)
    obtain ⟨xs, hxs, hsum⟩ := ih hstep (by omega)
    refine ⟨y :: xs, Builtin.numbers_cons hread hxs, ?_⟩
    rw [List.foldl_cons, ← Int.add_assoc]
    exact hsum

/-- The sum is not larger than the magnitudes together. -/
theorem natAbs_le (h : Adds vs total size) : total.natAbs ≤ size := by
  induction h with
  | nil => exact Nat.le_refl 0
  | cons hv h ih => omega

/-- **Order does not matter.** -/
theorem perm (h : Adds vs total size) (hperm : vs.Perm vs') : Adds vs' total size := by
  induction hperm generalizing total size with
  | nil => exact h
  | cons v _ ih =>
    cases h with
    | cons hv h => exact .cons hv (ih h)
  | swap v w vs =>
    cases h with
    | @cons _ _ i _ _ hw h =>
      cases h with
      | @cons _ _ j total size hv h =>
        have hswap := Adds.cons hv (.cons hw h)
        rwa [Int.add_left_comm, Nat.add_left_comm] at hswap
  | trans _ _ ih ih' => exact ih' (ih h)

theorem evalAll_eq (hvs : Adds vs total size) (h : Host ρ) (data : Json) :
    evalAll h (vs.map ofJson) data = pure vs := by
  induction hvs with
  | nil => rw [List.map_nil, evalAll]
  | cons hv _ ih => rw [List.map_cons, evalAll, hv.eval_eq, ih, pure_bind, pure_bind]

/-- **The values are added exactly,** and the sum is a whole number. -/
theorem apply_add (h : Adds vs total size) (hsize : size ≤ 2 ^ 53) (data : Json) :
    ∃ fits, Builtin.apply .add vs data = .ok (.number (.whole total fits)) := by
  have hzero : (Binary64.ofInt 0).IsWhole 0 := isWhole_ofInt (by decide)
  obtain ⟨xs, hxs, hsum⟩ := h.exists_isWhole Builtin.add.name hzero (by omega)
  rw [Int.zero_add] at hsum
  have hle := h.natAbs_le
  obtain ⟨fits, hnarrow⟩ := Json.ofBinary64_of_isWhole hsum (by omega)
  refine ⟨fits, ?_⟩
  rw [Builtin.apply, hxs]
  exact congrArg Except.ok hnarrow

end Adds

theorem Builtin.apply_subtract (hv : v.StandsFor i) (hw : w.StandsFor j)
    (hsize : i.natAbs + j.natAbs ≤ 2 ^ 53) (data : Json) :
    ∃ fits, Builtin.apply .subtract [v, w] data = .ok (.number (.whole (i - j) fits)) := by
  obtain ⟨x, hx, hxi⟩ := hv.exists_isWhole (by omega)
  obtain ⟨y, hy, hyj⟩ := hw.exists_isWhole (by omega)
  have hnumbers : numbers Builtin.subtract.name [v, w] = .ok [x, y] :=
    numbers_cons hx (numbers_cons hy rfl)
  obtain ⟨fits, hnarrow⟩ := Json.ofBinary64_of_isWhole (hxi.sub hyj (by omega)) (by omega)
  refine ⟨fits, ?_⟩
  rw [Builtin.apply, hnumbers]
  exact congrArg Except.ok hnarrow

/-! ## Expressions -/

/-- **How whole numbers are added and subtracted,** on a host. -/
structure SumLaws (h : Host ρ) : Prop where
  /-- The sum is exact, and a whole number of a document, -/
  sum : ∀ vs total size, Adds vs total size → size ≤ 2 ^ 53 → ∀ data, ∃ fits,
    eval h (ofJson (builtinOf .add vs)) data = pure (.number (.whole total fits))
  /-- the same in whatever order, -/
  perm : ∀ vs vs' total size, Adds vs total size → size ≤ 2 ^ 53 → vs.Perm vs' → ∀ data,
    eval h (ofJson (builtinOf .add vs')) data = eval h (ofJson (builtinOf .add vs)) data
  /-- and zero if there is nothing to add. -/
  empty : ∀ data, ∃ fits,
    eval h (ofJson (builtinOf .add [])) data = pure (.number (.whole 0 fits))
  /-- The difference is exact as well. -/
  difference : ∀ v w i j, v.StandsFor i → w.StandsFor j → i.natAbs + j.natAbs ≤ 2 ^ 53 →
    ∀ data, ∃ fits,
      eval h (ofJson (builtinOf .subtract [v, w])) data = pure (.number (.whole (i - j) fits))
  /-- Every whole number is spelled by the text it is written as. -/
  spelled : ∀ i fits, Spells (Number.whole i fits).text i

theorem Adds.eval_add (hvs : Adds vs total size) (hsize : size ≤ 2 ^ 53) (h : Host ρ)
    (data : Json) : ∃ fits,
      eval h (ofJson (builtinOf .add vs)) data = pure (.number (.whole total fits)) := by
  obtain ⟨fits, happly⟩ := hvs.apply_add hsize data
  refine ⟨fits, ?_⟩
  rw [eval_builtinOf, hvs.evalAll_eq, pure_bind, happly]
  rfl

/-- **Whole numbers are added and subtracted exactly** while they are small, on every host. -/
theorem sumLaws (h : Host ρ) : SumLaws h where
  sum vs total size hvs hsize data := hvs.eval_add hsize h data
  perm vs vs' total size hvs hsize hperm data := by
    obtain ⟨fits, hsum⟩ := hvs.eval_add hsize h data
    obtain ⟨fits', hsum'⟩ := (hvs.perm hperm).eval_add hsize h data
    rw [hsum, hsum']
  empty data := Adds.nil.eval_add (Nat.zero_le _) h data
  difference v w i j hv hw hsize data := by
    obtain ⟨fits, happly⟩ := Builtin.apply_subtract hv hw hsize data
    refine ⟨fits, ?_⟩
    have hoperands : evalAll h ([v, w].map ofJson) data = pure [v, w] :=
      (Adds.cons hv (.cons hw .nil)).evalAll_eq h data
    rw [eval_builtinOf, hoperands, pure_bind, happly]
    rfl
  spelled := Binary64.spells_text

end Switchboard
