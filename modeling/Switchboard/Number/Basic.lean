import Switchboard.Number.Decimal
/-!
# The numbers of documents

A number is *whole*, within the ranges of signed and unsigned 64-bit integers,
or a finite binary64 number. The two kinds stay apart: `1` and `1.0` are
different numbers with equal values. Arithmetic is done in binary64
(`Number.toBinary64`), and a result goes back to a number by
`Number.ofBinary64?`, whole whenever it can be.
-/

namespace Switchboard

/-- The whole numbers a document can hold: those of 64 bits, signed or not. -/
def FitsWord (i : Int) : Prop := -2 ^ 63 ≤ i ∧ i < 2 ^ 64

instance (i : Int) : Decidable (FitsWord i) :=
  inferInstanceAs (Decidable (_ ∧ _))

/-- A number of a document. -/
inductive Number where
  | whole (value : Int) (fits : FitsWord value)
  | float (x : Binary64.Finite)
  deriving DecidableEq

namespace Number

/-- The number of a whole value that fits a word. -/
def ofNat (n : Nat) (h : n < 2 ^ 64) : Number := .whole n ⟨by omega, by omega⟩

/-- The value in binary64; a whole number beyond `2^53` is rounded. -/
def toBinary64 : Number → Binary64
  | .whole i _ => .ofInt i
  | .float x => .finite x

/-- **Narrowing.** A result without a fractional part, of magnitude below
`2^63`, becomes whole; any other finite result stays as it is; and one that is
not finite is no number. -/
def ofBinary64? (x : Binary64) : Option Number :=
  match x with
  | .finite f =>
    if f.isIntegral ∧ f.truncate.natAbs < 2 ^ 63 then
      some (if h : FitsWord f.truncate then .whole f.truncate h else .float f)
    else some (.float f)
  | _ => none

/-- Two numbers are the same when they are of one kind and have equal values. -/
def beq : Number → Number → Bool
  | .whole i _, .whole j _ => i = j
  | .float x, .float y => x.beq y
  | _, _ => false

instance : BEq Number := ⟨beq⟩

/-- The digits of a whole number, or the shortest text of a binary64 one. -/
def text : Number → String
  | .whole i _ => if i < 0 then "-" ++ toString i.natAbs else toString i.natAbs
  | .float x => x.text

/-- The unsigned whole numbers, which alone serve as counts. -/
def toNat? : Number → Option Nat
  | .whole i _ => if 0 ≤ i then some i.toNat else none
  | .float _ => none

end Number

end Switchboard
