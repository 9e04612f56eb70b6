import Switchboard.Text.Digit
import Switchboard.Toolbox.Basic
/-!
# Generating operations

An operation that makes a random identifier: 128 bits, of which six say that it
is random, written as 32 hexadecimal digits in five groups.
-/

namespace Switchboard

namespace Toolbox

/-- The lowest `n` hexadecimal digits of a number, the highest of them first. -/
def lowDigits : Nat → Nat → List Char
  | 0, _ => []
  | n + 1, bits => lowDigits n (bits / 16) ++ [Text.hexDigit (bits % 16)]

/-- The identifier of some random bits: the thirteenth digit is `4`, and the
seventeenth one of `8`, `9`, `a` and `b`. -/
def identifier (bits : Nat) : String :=
  let ds := lowDigits 32 bits
  let marked := ds.take 12 ++ '4' :: (ds.drop 13).take 3
    ++ Text.hexDigit (8 + bits / 16 ^ 15 % 4) :: ds.drop 17
  String.ofList (marked.take 8 ++ '-' :: (marked.drop 8).take 4 ++ '-' :: (marked.drop 12).take 4
    ++ '-' :: (marked.drop 16).take 4 ++ '-' :: marked.drop 20)

/-- The generating operations. -/
def generatorOperations : List Operation :=
  [{ name := "uuid-generator"
     documentation := "Creates a new random UUID."
     tags := Tag.menu "Generator" "uuid-"
     handler := .native fun _ => .look fun bits => .done (.ok (.string (identifier bits))) }]

end Toolbox

end Switchboard
