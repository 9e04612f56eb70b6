import Switchboard.Json.Text
import Switchboard.Text.Blank
/-!
# Values as truths, numbers and texts

Operators read their operands as what they need: a truth (`Json.truthy`), a
number (`Json.toNumber?`) or a text (`Json.toText`). Two equalities compare
operands. The strict one takes numbers by value and everything else by
structure; the loose one also takes strings and truth values as numbers.
-/

namespace Switchboard

namespace Json

/-! ## Readings -/

/-- **Truth.** Null, false, zero, the empty string and the empty array are
false, and all else is true. -/
def truthy : Json → Bool
  | .null => false
  | .bool b => b
  | .number n => !n.toBinary64.beq (.ofInt 0)
  | .string s => s ≠ ""
  | .array items => !items.isEmpty
  | .object _ => true

/-- **Number.** A string is read as a decimal text without the blanks around it;
null is zero, and arrays and objects are no numbers. -/
def toNumber? : Json → Option Binary64
  | .null => some (.ofInt 0)
  | .bool b => some (.ofInt (if b then 1 else 0))
  | .number n => some n.toBinary64
  | .string s => Binary64.ofText? (Text.trimChars s.toList)
  | .array _ => none
  | .object _ => none

/-- The value of a computed number, null when it is not finite. -/
def ofBinary64 (x : Binary64) : Json :=
  match Number.ofBinary64? x with
  | some n => .number n
  | none => .null

/-- **Text.** Null is the empty text and a string its own; a binary64 number
without a fractional part is written as a whole one; all else is written in
compact form. -/
def toText : Json → String
  | .null => ""
  | .string s => s
  | .number (.float x) => (ofBinary64 (.finite x)).text
  | v => v.text

/-! ## Equality and order -/

/-- The distance under which the loose equality takes numbers for equal, `2^-52`. -/
def tolerance : Binary64 := .ofRatio false 1 (2 ^ 52)

/-- **Strict equality.** -/
def strictEq : Json → Json → Bool
  | .number m, .number n => m.toBinary64.beq n.toBinary64
  | a, b => a == b

/-- Loose equality of two operands that are taken as numbers. -/
def numericEq (a b : Json) : Bool :=
  match a.toNumber?, b.toNumber? with
  | some x, some y => (x.sub y).abs.lt tolerance
  | _, _ => false

/-- **Loose equality.** Null equals only itself; strings are compared with
strings as texts; a container is compared by structure; and all else as
numbers. -/
def looseEq : Json → Json → Bool
  | .null, .null => true
  | .null, _ => false
  | _, .null => false
  | .string s, .string t => s = t
  | .array xs, b => Json.array xs == b
  | .object fs, b => Json.object fs == b
  | a, .array ys => a == .array ys
  | a, .object gs => a == .object gs
  | a, b => numericEq a b

/-- **Order.** Strings are ordered as texts, all else as numbers; operands that
are no numbers have no order. -/
def order (a b : Json) : Option Ordering :=
  match a, b with
  | .string s, .string t => some (if s < t then .lt else if s = t then .eq else .gt)
  | a, b => do (← a.toNumber?).compare (← b.toNumber?)

end Json

end Switchboard
