import Switchboard.Text.Digit
import Switchboard.Text.Utf8
/-!
# Hexadecimal

Each byte is written as two digits in lower case (`Hex.encode`); digits of either
case are read (`Hex.decode`).
-/

namespace Switchboard

namespace Hex

/-- The digits of some bytes. -/
def encode (bs : List UInt8) : List Char :=
  bs.flatMap fun b => [Text.hexDigit (b.toNat / 16), Text.hexDigit (b.toNat % 16)]

/-- Why digits cannot be read. -/
inductive DecodeError where
  | oddLength
  | invalidDigit (place : Nat) (byte : UInt8)

/-- A byte shown as the character of its number, in single quotes, control
characters escaped. -/
def showByte (b : UInt8) : List Char :=
  let c := Char.ofNat b.toNat
  let shown : List Char :=
    if c = '\'' then ['\\', '\'']
    else if c = '\\' then ['\\', '\\']
    else if c = '\n' then ['\\', 'n']
    else if c = '\r' then ['\\', 'r']
    else if c = '\t' then ['\\', 't']
    else if c = '\x00' then ['\\', '0']
    else if b < 0x20 || (0x7f ≤ b && b ≤ 0xa0) || b == 0xad then
      ['\\', 'u', '{'] ++ Nat.toDigits 16 b.toNat ++ ['}']
    else [c]
  '\'' :: (shown ++ ['\''])

/-- The words for why digits cannot be read. -/
def DecodeError.message : DecodeError → String
  | .oddLength => "Odd number of digits"
  | .invalidDigit place byte =>
    "Invalid character " ++ String.ofList (showByte byte) ++ " at position " ++ toString place

/-- The value of the digit at a place. -/
def valueAt (place : Nat) (b : UInt8) : Except DecodeError Nat :=
  match Text.hexValue? (Char.ofNat b.toNat) with
  | some n => .ok n
  | none => .error (.invalidDigit place b)

/-- Reads pairs of digits from a place on. -/
def decodeFrom (place : Nat) : List UInt8 → Except DecodeError (List UInt8)
  | p :: q :: rest => do
    let p ← valueAt place p
    let q ← valueAt (place + 1) q
    return UInt8.ofNat (p * 16 + q) :: (← decodeFrom (place + 2) rest)
  | _ => .ok []

/-- **The bytes of some digits,** of which there must be an even number. -/
def decode (bs : List UInt8) : Except DecodeError (List UInt8) :=
  if bs.length % 2 ≠ 0 then .error .oddLength else decodeFrom 0 bs

end Hex

end Switchboard
