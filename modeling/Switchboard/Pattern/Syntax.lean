import Switchboard.Pattern.Span
/-!
# What patterns say

The parts of a pattern as they are written, each with its span. What they mean
depends on the flags in force, which a pattern sets on its way.
-/

namespace Switchboard

namespace Pattern

/-! ## Leaves -/

/-- A character that stands for itself. It is written as a byte if it is written with
two hexadecimal digits. -/
structure Literal where
  span : Span
  char : Char
  asByte : Bool

/-- The classes with a letter of their own. -/
inductive Shorthand where
  | digit
  | space
  | word

/-- What a Unicode class asks for: what has a name, or a property with a value. -/
inductive Query where
  | named (name : List Char)
  | valued (property value : List Char)

/-- The places that are asked for without reading anything. -/
inductive Anchor where
  | lineStart
  | lineEnd
  | textStart
  | textEnd
  | wordBoundary
  | noWordBoundary
  | wordStart
  | wordEnd
  | wordStartHalf
  | wordEndHalf

/-- The classes of ASCII that go by a name within brackets. -/
inductive AsciiClass where
  | alnum
  | alpha
  | ascii
  | blank
  | cntrl
  | digit
  | graph
  | lower
  | print
  | punct
  | space
  | upper
  | word
  | xdigit

/-- The classes of ASCII by name. -/
def AsciiClass.named : List (String × AsciiClass) :=
  [("alnum", .alnum), ("alpha", .alpha), ("ascii", .ascii), ("blank", .blank),
   ("cntrl", .cntrl), ("digit", .digit), ("graph", .graph), ("lower", .lower),
   ("print", .print), ("punct", .punct), ("space", .space), ("upper", .upper),
   ("word", .word), ("xdigit", .xdigit)]

/-! ## Classes in brackets -/

/-- How two classes are put together. -/
inductive SetOperation where
  | intersection
  | difference
  | symmetricDifference

/-- What stands in brackets. -/
inductive ClassItem where
  | nothing (span : Span)
  | literal (l : Literal)
  | range (span : Span) (first last : Literal)
  | ascii (span : Span) (negated : Bool) (kind : AsciiClass)
  | property (span : Span) (negated : Bool) (query : Query)
  | shorthand (span : Span) (negated : Bool) (kind : Shorthand)
  | bracketed (span : Span) (negated : Bool) (items : ClassItem)
  | union (span : Span) (items : List ClassItem)
  | combined (span : Span) (operation : SetOperation) (left right : ClassItem)

/-- Where an item stands. -/
def ClassItem.span : ClassItem → Span
  | .nothing s => s
  | .literal l => l.span
  | .range s _ _ => s
  | .ascii s _ _ => s
  | .property s _ _ => s
  | .shorthand s _ _ => s
  | .bracketed s _ _ => s
  | .union s _ => s
  | .combined s _ _ _ => s

/-! ## Flags -/

/-- What can be switched on and off within a pattern. -/
inductive Flag where
  | ignoreCase
  | manyLines
  | dotAll
  | swapGreed
  | unicode
  | carriageReturns
  | spaced
  deriving DecidableEq

/-- The flags by letter. -/
def Flag.lettered : List (Char × Flag) :=
  [('i', .ignoreCase), ('m', .manyLines), ('s', .dotAll), ('U', .swapGreed), ('u', .unicode),
   ('R', .carriageReturns), ('x', .spaced)]

/-- Flags as a group sets them: those in front of the minus sign on, the others off. -/
structure FlagChange where
  on : List Flag
  off : List Flag

/-- What a change says about a flag, if anything. -/
def FlagChange.state? (change : FlagChange) (flag : Flag) : Option Bool :=
  if change.on.contains flag then some true
  else if change.off.contains flag then some false
  else none

/-! ## Patterns -/

/-- What a group does with what it matches. -/
inductive GroupKind where
  | capturing (index : Nat)
  | plain (change : FlagChange)

/-- A pattern as it is written. -/
inductive Node where
  | nothing (span : Span)
  | flags (span : Span) (change : FlagChange)
  | literal (l : Literal)
  | dot (span : Span)
  | anchor (span : Span) (kind : Anchor)
  | property (span : Span) (negated : Bool) (query : Query)
  | shorthand (span : Span) (negated : Bool) (kind : Shorthand)
  | bracketed (span : Span) (negated : Bool) (items : ClassItem)
  | repetition (span : Span) (body : Node) (min : Nat) (max : Option Nat) (greedy : Bool)
  | group (span : Span) (kind : GroupKind) (body : Node)
  | choice (span : Span) (branches : List Node)
  | sequence (span : Span) (parts : List Node)

/-- Where a part stands. -/
def Node.span : Node → Span
  | .nothing s => s
  | .flags s _ => s
  | .literal l => l.span
  | .dot s => s
  | .anchor s _ => s
  | .property s _ _ => s
  | .shorthand s _ _ => s
  | .bracketed s _ _ => s
  | .repetition s _ _ _ _ => s
  | .group s _ _ => s
  | .choice s _ => s
  | .sequence s _ => s

/-- Whether a part can be repeated. -/
def Node.isRepeatable : Node → Bool
  | .nothing _ => false
  | .flags _ _ => false
  | _ => true

end Pattern

end Switchboard
