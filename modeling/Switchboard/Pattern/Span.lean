/-!
# Places in a pattern

A place counts the characters before it, and says on which line and in which column
it stands. A span is what lies between two places.
-/

namespace Switchboard

namespace Pattern

/-- A place between the characters of a pattern. Lines and columns count from one. -/
structure Place where
  offset : Nat
  line : Nat
  column : Nat
  deriving DecidableEq

/-- The place in front of a pattern. -/
def Place.start : Place := ⟨0, 1, 1⟩

/-- The place behind a character. -/
def Place.after (p : Place) (c : Char) : Place :=
  if c = '\n' then ⟨p.offset + 1, p.line + 1, 1⟩ else ⟨p.offset + 1, p.line, p.column + 1⟩

/-- What lies between two places. -/
structure Span where
  start : Place
  stop : Place
  deriving DecidableEq

namespace Span

/-- The empty span at a place. -/
def point (p : Place) : Span := ⟨p, p⟩

/-- Whether a span starts and stops on one line. -/
def onOneLine (s : Span) : Bool := s.start.line = s.stop.line

/-- The order of spans by where they start, and then by where they stop. -/
def precedes (s t : Span) : Bool :=
  s.start.offset < t.start.offset
    || s.start.offset = t.start.offset && s.stop.offset ≤ t.stop.offset

end Span

end Pattern

end Switchboard
