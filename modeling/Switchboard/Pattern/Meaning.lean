import Switchboard.Pattern.Core
import Switchboard.Pattern.Fault
import Switchboard.Pattern.Syntax
import Switchboard.Unicode.Folding
import Switchboard.Unicode.Naming
/-!
# From what is written to what is meant

Flags decide what the parts of a pattern mean: whether case matters, whether classes
are those of Unicode or of ASCII, and where lines start and end. They hold from where
they are set to the end of the group. Without Unicode only characters of ASCII can be
in a class.
-/

namespace Switchboard

namespace Pattern

/-! ## Flags in force -/

/-- The flags in force, but for the one that is about writing only. -/
structure Mode where
  ignoreCase : Bool := false
  manyLines : Bool := false
  dotAll : Bool := false
  swapGreed : Bool := false
  unicode : Bool := true
  carriageReturns : Bool := false

/-- The mode after a change of flags. -/
def Mode.apply (mode : Mode) (change : FlagChange) : Mode where
  ignoreCase := (change.state? .ignoreCase).getD mode.ignoreCase
  manyLines := (change.state? .manyLines).getD mode.manyLines
  dotAll := (change.state? .dotAll).getD mode.dotAll
  swapGreed := (change.state? .swapGreed).getD mode.swapGreed
  unicode := (change.state? .unicode).getD mode.unicode
  carriageReturns := (change.state? .carriageReturns).getD mode.carriageReturns

/-! ## Sets -/

/-- The range between two characters. -/
def charRange (first last : Char) : CharRange := ⟨first.toNat, last.toNat⟩

/-- The characters of a class of ASCII. -/
def AsciiClass.set : AsciiClass → CharSet
  | .alnum => .ofRanges [charRange '0' '9', charRange 'A' 'Z', charRange 'a' 'z']
  | .alpha => .ofRanges [charRange 'A' 'Z', charRange 'a' 'z']
  | .ascii => .ofRange 0 0x7f
  | .blank => .ofRanges [charRange '\t' '\t', charRange ' ' ' ']
  | .cntrl => .ofRanges [⟨0, 0x1f⟩, ⟨0x7f, 0x7f⟩]
  | .digit => .ofRanges [charRange '0' '9']
  | .graph => .ofRanges [charRange '!' '~']
  | .lower => .ofRanges [charRange 'a' 'z']
  | .print => .ofRanges [charRange ' ' '~']
  | .punct => .ofRanges
    [charRange '!' '/', charRange ':' '@', ⟨0x5b, 0x60⟩, charRange '\x7b' '~']
  | .space => .ofRanges [charRange '\t' '\r', charRange ' ' ' ']
  | .upper => .ofRanges [charRange 'A' 'Z']
  | .word => .ofRanges
    [charRange '0' '9', charRange 'A' 'Z', charRange '_' '_', charRange 'a' 'z']
  | .xdigit => .ofRanges [charRange '0' '9', charRange 'A' 'F', charRange 'a' 'f']

/-- The characters of a class with a letter of its own. -/
def Shorthand.set (unicode : Bool) : Shorthand → CharSet
  | .digit => if unicode then Unicode.decimalDigits else AsciiClass.digit.set
  | .space => if unicode then Unicode.whiteSpace else AsciiClass.space.set
  | .word => if unicode then Unicode.word else AsciiClass.word.set

namespace Mode

/-- The set with what differs from its members in case only, if case does not matter. -/
def fold (mode : Mode) (set : CharSet) : CharSet :=
  if !mode.ignoreCase then set
  else if mode.unicode then set.foldCase
  else set.foldAsciiCase

/-- The set, or what is not in it. Without Unicode it must be within ASCII. -/
def negate (mode : Mode) (span : Span) (negated : Bool) (set : CharSet) : Except Fault CharSet :=
  let set := if negated then set.complement else set
  if !mode.unicode && !set.isAscii then .error ⟨.invalidUtf8, span, none⟩ else .ok set

/-- A character that is written as a byte must not be a part of another. -/
def checkByte (mode : Mode) (l : Literal) : Except Fault Unit :=
  if !mode.unicode && l.asByte && 0x7f < l.char.toNat then .error ⟨.invalidUtf8, l.span, none⟩
  else .ok ()

/-- The code point of a character in a class. -/
def codePoint (mode : Mode) (l : Literal) : Except Fault Nat := do
  mode.checkByte l
  if !mode.unicode && 0x7f < l.char.toNat then throw ⟨.unicodeNotAllowed, l.span, none⟩
  return l.char.toNat

/-- The set that a Unicode class asks for. -/
def property (mode : Mode) (span : Span) (negated : Bool) (query : Query) :
    Except Fault CharSet := do
  if !mode.unicode then throw ⟨.unicodeNotAllowed, span, none⟩
  let found := match query with
    | .named name => Unicode.classNamed name
    | .valued property value => Unicode.classValued property value
  match found with
  | .ok set => mode.negate span negated (mode.fold set)
  | .error .property => throw ⟨.propertyNotFound, span, none⟩
  | .error .value => throw ⟨.propertyValueNotFound, span, none⟩

/-- The set of a class with a letter of its own. -/
def shorthand (mode : Mode) (span : Span) (negated : Bool) (kind : Shorthand) :
    Except Fault CharSet :=
  mode.negate span negated (kind.set mode.unicode)

end Mode

/-- Two sets put together. -/
def SetOperation.apply : SetOperation → CharSet → CharSet → CharSet
  | .intersection, s, t => s ∩ t
  | .difference, s, t => s \ t
  | .symmetricDifference, s, t => s.symmDiff t

mutual

/-- The set of what stands in brackets. -/
def ClassItem.set (mode : Mode) : ClassItem → Except Fault CharSet
  | .nothing _ => .ok .empty
  | .literal l => do return .singleton (← mode.codePoint l)
  | .range _ first last => do
    let low ← mode.codePoint first
    return .ofRange low (← mode.codePoint last)
  | .ascii span negated kind => mode.negate span negated (mode.fold kind.set)
  | .property span negated query => mode.property span negated query
  | .shorthand span negated kind => mode.shorthand span negated kind
  | .bracketed span negated items => do mode.negate span negated (mode.fold (← items.set mode))
  | .union _ items => do return .ofRanges (← ClassItem.ranges mode [] items)
  | .combined _ operation left right => do
    let l ← left.set mode
    let r ← right.set mode
    return operation.apply (mode.fold l) (mode.fold r)

/-- The ranges of some items, in addition to others. -/
def ClassItem.ranges (mode : Mode) (others : List CharRange) :
    List ClassItem → Except Fault (List CharRange)
  | [] => .ok others
  | item :: rest =>
    match item.set mode with
    | .error e => .error e
    | .ok set => ClassItem.ranges mode (set.ranges ++ others) rest

end

/-! ## Meanings -/

/-- What a character means. -/
def Literal.core (mode : Mode) (l : Literal) : Except Fault Core := do
  mode.checkByte l
  return .ofSet (mode.fold (.singleton l.char.toNat))

/-- What a dot means: any character, or any that ends no line. -/
def dotCore (mode : Mode) (span : Span) : Except Fault Core :=
  if !mode.unicode then .error ⟨.invalidUtf8, span, none⟩
  else
    let ends := if mode.dotAll then [] else if mode.carriageReturns then ['\r', '\n'] else ['\n']
    .ok (.ofSet (CharSet.ofList (ends.map Char.toNat)).complement)

/-- The condition on a place that is asked for. -/
def Anchor.condition (mode : Mode) : Anchor → Condition
  | .lineStart =>
    if !mode.manyLines then .textStart
    else if mode.carriageReturns then .returnLineStart else .lineStart
  | .lineEnd =>
    if !mode.manyLines then .textEnd
    else if mode.carriageReturns then .returnLineEnd else .lineEnd
  | .textStart => .textStart
  | .textEnd => .textEnd
  | .wordBoundary => .wordBoundary mode.unicode
  | .noWordBoundary => .noWordBoundary mode.unicode
  | .wordStart => .wordStart mode.unicode
  | .wordEnd => .wordEnd mode.unicode
  | .wordStartHalf => .wordStartHalf mode.unicode
  | .wordEndHalf => .wordEndHalf mode.unicode

mutual

/-- **Meaning.** What a part of a pattern means, and the mode behind it. -/
def Node.core (mode : Mode) : Node → Except Fault (Core × Mode)
  | .nothing _ => .ok (.nothing, mode)
  | .flags _ change => .ok (.nothing, mode.apply change)
  | .literal l => do return (← l.core mode, mode)
  | .dot span => do return (← dotCore mode span, mode)
  | .anchor _ kind => .ok (.require (kind.condition mode), mode)
  | .property span negated query => do
    return (.ofSet (← mode.property span negated query), mode)
  | .shorthand span negated kind => do
    return (.ofSet (← mode.shorthand span negated kind), mode)
  | .bracketed span negated items => do
    let set ← mode.negate span negated (mode.fold (← items.set mode))
    return (.ofSet set, mode)
  | .repetition _ body min max greedy => do
    let (core, _) ← body.core mode
    return (.ofRepetition core min max (greedy ^^ mode.swapGreed), mode)
  | .group _ (.capturing index) body => do
    let (core, _) ← body.core mode
    return (.group index core, mode)
  | .group _ (.plain change) body => do
    let (core, _) ← body.core (mode.apply change)
    return (core, mode)
  | .choice _ branches => do
    let (cores, mode) ← Node.cores mode [] branches
    return (.ofBranches cores, mode)
  | .sequence _ parts => do
    let (cores, mode) ← Node.cores mode [] parts
    return (.ofParts cores, mode)

/-- What parts mean one after the other, behind those that stand in reverse. -/
def Node.cores (mode : Mode) (before : List Core) : List Node → Except Fault (List Core × Mode)
  | [] => .ok (before.reverse, mode)
  | part :: rest =>
    match part.core mode with
    | .error e => .error e
    | .ok (core, mode) => Node.cores mode (core :: before) rest

end

end Pattern

end Switchboard
