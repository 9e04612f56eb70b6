import Switchboard.Json.Fault
/-!
# Bytes and text

The bytes of a text in UTF-8 (`Text.bytes`), the text of bytes that are
well-formed (`Text.ofBytes?`), and the characters of bytes that may not be: each
byte that belongs to no character stands for itself (`Json.Source.ofBytes`).
-/

namespace Switchboard

namespace Text

/-- The bytes of a text. -/
def bytes (s : String) : List UInt8 := s.toUTF8.data.toList

/-- The text of well-formed bytes. -/
def ofBytes? (bs : List UInt8) : Option String := String.fromUTF8? ⟨bs.toArray⟩

/-- Whether a byte continues a character. -/
def isTail (b : UInt8) : Bool := 0x80 ≤ b && b ≤ 0xbf

/-- The low six bits of a byte that continues a character. -/
def tailBits (b : UInt8) : Nat := b.toNat % 0x40

/-- The character that starts with the byte `a`, and how many of the bytes behind
it are part of it. -/
def characterAt? (a : UInt8) (behind : List UInt8) : Option (Char × Nat) :=
  if a < 0x80 then some (Char.ofNat a.toNat, 0)
  else match behind with
    | b :: c :: d :: _ =>
      if 0xf0 ≤ a && a ≤ 0xf4 && isTail b && isTail c && isTail d
          && (a != 0xf0 || 0x90 ≤ b) && (a != 0xf4 || b ≤ 0x8f) then
        some (Char.ofNat (a.toNat % 8 * 0x40000 + tailBits b * 0x1000 + tailBits c * 0x40
          + tailBits d), 3)
      else short a b (some c)
    | [b, c] => short a b (some c)
    | [b] => short a b none
    | [] => none
where
  /-- The character of two or three bytes. -/
  short (a b : UInt8) (c : Option UInt8) : Option (Char × Nat) :=
    if 0xc2 ≤ a && a ≤ 0xdf && isTail b then
      some (Char.ofNat (a.toNat % 0x20 * 0x40 + tailBits b), 1)
    else match c with
      | some c =>
        if 0xe0 ≤ a && a ≤ 0xef && isTail b && isTail c
            && (a != 0xe0 || 0xa0 ≤ b) && (a != 0xed || b ≤ 0x9f) then
          some (Char.ofNat (a.toNat % 0x10 * 0x1000 + tailBits b * 0x40 + tailBits c), 2)
        else none
      | none => none

end Text

/-- The source that bytes hold, well-formed or not. -/
def Json.Source.ofBytes : List UInt8 → Json.Source
  | [] => []
  | a :: rest =>
    match Text.characterAt? a rest with
    | some (c, n) => some c :: Json.Source.ofBytes (rest.drop n)
    | none => none :: Json.Source.ofBytes rest
termination_by bs => bs.length
decreasing_by
  · simp only [List.length_drop, List.length_cons]; omega
  · simp

end Switchboard
