import Switchboard.Number.Binary64
/-!
# Decimal forms of binary64 numbers

A decimal form is a whole number `c` and a power of ten `k`, standing for
`c * 10^k`. Reading one rounds it to the grid once (`Binary64.ofDecimal`).
Writing a number chooses the coarsest power of ten at which some multiple reads
back as the number, and of two such multiples the nearer one
(`Binary64.Finite.shortest`).

`Binary64.ofText?` reads the text forms a string may have when it is used as a
number: digits with an optional point, exponent and sign, and the names of the
infinities and of the undefined number.
-/

namespace Switchboard

namespace Binary64

/-! ## Reading -/

/-- The number of decimal digits of `c`, one for zero. -/
def digitCount (c : Nat) : Nat := (Nat.toDigits 10 c).length

/-- The number nearest to `±c * 10^k`. Powers that leave the range whatever
the digits are not computed. -/
def ofDecimal (negative : Bool) (c : Nat) (k : Int) : Binary64 :=
  if c = 0 then .finite (.zero negative)
  else if 400 < k then .infinite negative
  else if k + digitCount c < -400 then .finite (.zero negative)
  else if 0 ≤ k then ofRatio negative (c * 10 ^ k.toNat) 1
  else ofRatio negative c (10 ^ (-k).toNat)

/-- The value of a run of decimal digits. -/
def digitsValue (ds : List Char) : Nat :=
  ds.foldl (fun n d => n * 10 + (d.toNat - '0'.toNat)) 0

/-- An optional sign in front of `cs`: whether it is a minus, and the rest. -/
def splitSign : List Char → Bool × List Char
  | '-' :: cs => (true, cs)
  | '+' :: cs => (false, cs)
  | cs => (false, cs)

/-- The exponent that ends a decimal text, zero when there is none. -/
def exponentOfText? : List Char → Option Int
  | [] => some 0
  | e :: cs =>
    let (negative, ds) := splitSign cs
    if (e = 'e' ∨ e = 'E') ∧ ds ≠ [] ∧ ds.all Char.isDigit then
      some (if negative then -(digitsValue ds) else digitsValue ds)
    else none

/-- The number of an unsigned decimal text: digits, at least one of them, around
an optional point, and an optional exponent. -/
def ofDigits? (negative : Bool) (cs : List Char) : Option Binary64 :=
  let whole := cs.takeWhile Char.isDigit
  let (fraction, rest) :=
    match cs.dropWhile Char.isDigit with
    | '.' :: r => (r.takeWhile Char.isDigit, r.dropWhile Char.isDigit)
    | r => ([], r)
  if whole ++ fraction = [] then none
  else (exponentOfText? rest).map fun e =>
    ofDecimal negative (digitsValue (whole ++ fraction)) (e - fraction.length)

/-- The number of a text; words are read in either case. -/
def ofText? (cs : List Char) : Option Binary64 :=
  let (negative, body) := splitSign cs
  let word := body.map Char.toLower
  if word = "inf".toList ∨ word = "infinity".toList then some (.infinite negative)
  else if word = "nan".toList then some .undefined
  else ofDigits? negative body

/-! ## Writing -/

namespace Finite

/-- Whether `c * 10^k`, for a number that is not zero, rounds to `u` units. -/
def readsBack (u c : Nat) (k : Int) : Bool :=
  if 0 ≤ k then nearest (c * 10 ^ k.toNat * one) 1 = u
  else nearest (c * one) (10 ^ (-k).toNat) = u

/-- Whether `u` units are nearer to `c + 1` than to `c` multiples of `10^k`;
a tie goes to the even multiple. -/
def nearerAbove (u c : Nat) (k : Int) : Bool :=
  let (l, r) :=
    if 0 ≤ k then (2 * u, (2 * c + 1) * 10 ^ k.toNat * one)
    else (2 * u * 10 ^ (-k).toNat, (2 * c + 1) * one)
  if l = r then c % 2 = 1 else r < l

/-- The greatest multiple of `10^k` that is at most `u` units. -/
def multipleBelow (u : Nat) (k : Int) : Nat :=
  if 0 ≤ k then u / (10 ^ k.toNat * one) else u * 10 ^ (-k).toNat / one

/-- The multiple of `10^k` that reads back as `u` units, if one of the two
neighbours does. -/
def onDecimalGrid? (u : Nat) (k : Int) : Option Nat :=
  let c := multipleBelow u k
  match readsBack u c k, readsBack u (c + 1) k with
  | true, true => some (if nearerAbove u c k then c + 1 else c)
  | true, false => some c
  | false, true => some (c + 1)
  | false, false => none

/-- Tries `fuel` powers of ten from `10^k` down. -/
def shortestFrom (u : Nat) : Nat → Int → Nat × Int
  | 0, k => (multipleBelow u k, k)
  | fuel + 1, k =>
    match onDecimalGrid? u k with
    | some c => (c, k)
    | none => shortestFrom u fuel (k - 1)

/-- Trailing zeros of `c` move into the power of ten. -/
def stripZeros : Nat → Nat → Int → Nat × Int
  | 0, c, k => (c, k)
  | fuel + 1, c, k => if c % 10 = 0 then stripZeros fuel (c / 10) (k + 1) else (c, k)

/-- **The decimal form with the fewest digits that reads back** as the
magnitude of `x`, and of those the nearest. Seventeen digits always do; the
search starts above the number's own power of ten. -/
def shortest (x : Finite) : Nat × Int :=
  if x.units = 0 then (0, 0)
  else
    -- The factor is the logarithm of two to the base ten, rounded up.
    let k : Int := ((x.units.log2 : Int) + 1 - 1074) * 30103 / 100000 + 1
    let (c, k) := shortestFrom x.units 24 k
    stripZeros (digitCount c) c k

/-- The text of a number: the shortest digits, with a point for a leading
power of ten from `-5` to `15`, and otherwise with an exponent whose sign is
always written. -/
def text (x : Finite) : String :=
  let sign := if x.negative then "-" else ""
  if x.units = 0 then sign ++ "0.0"
  else
    let (c, k) := x.shortest
    let ds := Nat.toDigits 10 c
    let lead : Int := k + ds.length - 1
    let zeros (n : Int) : List Char := List.replicate n.toNat '0'
    let body : List Char :=
      if lead < -5 ∨ 16 ≤ lead then
        let mantissa := match ds with
          | [d] => [d]
          | d :: r => d :: '.' :: r
          | [] => []
        mantissa ++ 'e' :: (if lead < 0 then '-' else '+') :: Nat.toDigits 10 lead.natAbs
      else if lead < 0 then '0' :: '.' :: zeros (-lead - 1) ++ ds
      else if 0 ≤ k then ds ++ zeros k ++ ['.', '0']
      else
        let n := (lead + 1).toNat
        ds.take n ++ '.' :: ds.drop n
    sign ++ String.ofList body

end Finite

end Binary64

end Switchboard
