import Switchboard.Text.Utf8
/-!
# Base64

Three bytes are written as four symbols of six bits each. One or two bytes left
over are written as two or three symbols, which padding may fill up to four
(`Base64.encode`).

Reading (`Base64.decode`) takes symbols in groups of four. Only the last group
may be shorter or padded; its unused bits must be zero. A symbol that is refused
is reported with its place.
-/

namespace Switchboard

namespace Base64

/-! ## Symbols -/

/-- The two sets of symbols, which differ in the last two. -/
inductive Alphabet where
  | standard
  | urlSafe
  deriving DecidableEq

/-- The symbol for the number 62. -/
def Alphabet.symbol62 : Alphabet → Char
  | .standard => '+'
  | .urlSafe => '-'

/-- The symbol for the number 63. -/
def Alphabet.symbol63 : Alphabet → Char
  | .standard => '/'
  | .urlSafe => '_'

/-- The symbol for a number below 64. -/
def Alphabet.symbol (a : Alphabet) (n : Nat) : Char :=
  if n < 26 then Char.ofNat ('A'.toNat + n)
  else if n < 52 then Char.ofNat ('a'.toNat + (n - 26))
  else if n < 62 then Char.ofNat ('0'.toNat + (n - 52))
  else if n = 62 then a.symbol62 else a.symbol63

/-- The number a byte stands for as a symbol. -/
def Alphabet.value? (a : Alphabet) (b : UInt8) : Option Nat :=
  let n := b.toNat
  if 'A'.toNat ≤ n ∧ n ≤ 'Z'.toNat then some (n - 'A'.toNat)
  else if 'a'.toNat ≤ n ∧ n ≤ 'z'.toNat then some (n - 'a'.toNat + 26)
  else if '0'.toNat ≤ n ∧ n ≤ '9'.toNat then some (n - '0'.toNat + 52)
  else if n = a.symbol62.toNat then some 62
  else if n = a.symbol63.toNat then some 63
  else none

/-- A symbol reads back as its number. -/
theorem Alphabet.value?_symbol (a : Alphabet) :
    ∀ n < 64, a.value? (UInt8.ofNat (a.symbol n).toNat) = some n := by
  cases a <;> decide

/-- The byte of the padding symbol. -/
def pad : UInt8 := 61

/-! ## Writing -/

/-- The symbols of some bytes, padded or not. -/
def encode (a : Alphabet) (padded : Bool) : List UInt8 → List Char
  | [] => []
  | [x] =>
    [a.symbol (x.toNat / 4), a.symbol (x.toNat % 4 * 16)] ++ if padded then ['=', '='] else []
  | [x, y] =>
    [a.symbol (x.toNat / 4), a.symbol (x.toNat % 4 * 16 + y.toNat / 16),
      a.symbol (y.toNat % 16 * 4)] ++ if padded then ['='] else []
  | x :: y :: z :: rest =>
    a.symbol (x.toNat / 4) :: a.symbol (x.toNat % 4 * 16 + y.toNat / 16)
      :: a.symbol (y.toNat % 16 * 4 + z.toNat / 64) :: a.symbol (z.toNat % 64)
      :: encode a padded rest

/-! ## Reading -/

/-- Why symbols cannot be read. -/
inductive DecodeError where
  | invalidSymbol (place : Nat) (symbol : UInt8)
  | invalidLength (length : Nat)
  | invalidLastSymbol (place : Nat) (symbol : UInt8)
  | invalidPadding

/-- The words for why symbols cannot be read. -/
def DecodeError.message : DecodeError → String
  | .invalidSymbol place symbol =>
    "Invalid symbol " ++ toString symbol.toNat ++ ", offset " ++ toString place ++ "."
  | .invalidLength length => "Invalid input length: " ++ toString length
  | .invalidLastSymbol place symbol =>
    "Invalid last symbol " ++ toString symbol.toNat ++ ", offset " ++ toString place ++ "."
  | .invalidPadding => "Invalid padding"

/-- The number of the symbol at a place. -/
def valueAt (a : Alphabet) (place : Nat) (b : UInt8) : Except DecodeError Nat :=
  match a.value? b with
  | some n => .ok n
  | none => .error (.invalidSymbol place b)

/-- The numbers of the last group's symbols and how much padding follows them.
Padding starts at the third symbol at the earliest and goes up to the end. -/
def lastGroup (a : Alphabet) (start : Nat) :
    Nat → List Nat → Nat → List UInt8 → Except DecodeError (List Nat × Nat)
  | _, values, padding, [] => .ok (values, padding)
  | i, values, padding, b :: rest =>
    if b = pad then
      if i < 2 then .error (.invalidSymbol (start + i) b)
      else lastGroup a start (i + 1) values (padding + 1) rest
    else if 0 < padding then .error (.invalidSymbol (start + i - padding) pad)
    else do
      let v ← valueAt a (start + i) b
      lastGroup a start (i + 1) (values ++ [v]) padding rest

/-- The bytes of a group's numbers, with the bits left over. -/
def groupBytes : List Nat → List UInt8 × Nat
  | [p, q] => ([UInt8.ofNat (p * 4 + q / 16)], q % 16)
  | [p, q, r] => ([UInt8.ofNat (p * 4 + q / 16), UInt8.ofNat (q % 16 * 16 + r / 4)], r % 4)
  | [p, q, r, s] =>
    ([UInt8.ofNat (p * 4 + q / 16), UInt8.ofNat (q % 16 * 16 + r / 4),
      UInt8.ofNat (r % 4 * 64 + s)], 0)
  | _ => ([], 0)

/-- Reads the last group, of at most four symbols. If padding is required, it
fills the group up. -/
def decodeLast (a : Alphabet) (paddingRequired : Bool) (start : Nat) (bs : List UInt8) :
    Except DecodeError (List UInt8) := do
  let (values, padding) ← lastGroup a start 0 [] 0 bs
  if (bs ≠ [] ∨ start ≠ 0) ∧ values.length < 2 then
    throw (.invalidLength (start + values.length))
  if paddingRequired ∧ (padding + values.length) % 4 ≠ 0 then throw .invalidPadding
  let (out, spare) := groupBytes values
  if spare ≠ 0 then
    throw (.invalidLastSymbol (start + values.length - 1) (bs[values.length - 1]?.getD 0))
  return out

/-- Reads groups from a place on. -/
def decodeFrom (a : Alphabet) (paddingRequired : Bool) (start : Nat) :
    List UInt8 → Except DecodeError (List UInt8)
  | p :: q :: r :: s :: t :: rest => do
    let p ← valueAt a start p
    let q ← valueAt a (start + 1) q
    let r ← valueAt a (start + 2) r
    let s ← valueAt a (start + 3) s
    return (groupBytes [p, q, r, s]).1
      ++ (← decodeFrom a paddingRequired (start + 4) (t :: rest))
  | bs => decodeLast a paddingRequired start bs

/-- **The bytes of some symbols.** A symbol alone in the last group that is none
is reported before anything else. -/
def decode (a : Alphabet) (paddingRequired : Bool) (bs : List UInt8) :
    Except DecodeError (List UInt8) :=
  match bs.getLast? with
  | some b =>
    if bs.length % 4 = 1 ∧ b ≠ pad ∧ a.value? b = none then
      .error (.invalidSymbol (bs.length - 1) b)
    else decodeFrom a paddingRequired 0 bs
  | none => .ok []

/-! ## Lines -/

/-- How many symbols a line holds. -/
def lineLength : Nat := 76

/-- Breaks symbols into lines, the last one of which may be shorter. -/
def wrap (cs : List Char) : List Char :=
  if _h : cs.length ≤ lineLength then cs
  else cs.take lineLength ++ '\r' :: '\n' :: wrap (cs.drop lineLength)
termination_by cs.length
decreasing_by
  simp only [List.length_drop, lineLength] at _h ⊢
  omega

end Base64

end Switchboard
