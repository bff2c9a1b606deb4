/-!
# Places and spans

What is wrong with a pattern is shown by marks under it, so every part of a pattern knows where it
stands.

* `Place.after` moves a place past one character.
* A `Span` reaches from one place to another; it may be empty.
-/

namespace StatusDigest.Pattern

/-- A place in a text: how many characters stand before it, and its line and column, which count
from one. -/
structure Place where
  offset : Nat := 0
  line : Nat := 1
  column : Nat := 1
deriving DecidableEq, Repr

/-- The place behind a character that stands at this place. -/
def Place.after (place : Place) (c : Char) : Place :=
  if c = '\n' then { offset := place.offset + 1, line := place.line + 1, column := 1 }
  else { place with offset := place.offset + 1, column := place.column + 1 }

/-- A part of a text, between two places. -/
structure Span where
  start : Place
  stop : Place
deriving DecidableEq, Repr

namespace Span

/-- Whether a span begins and ends on one line. -/
def isOneLine (span : Span) : Bool :=
  span.start.line = span.stop.line

/-- Whether a span comes before another one: it starts earlier, or ends earlier if both start at
the same place. -/
def isBefore (span other : Span) : Bool :=
  span.start.offset < other.start.offset ||
    (span.start.offset = other.start.offset && span.stop.offset < other.stop.offset)

end Span

end StatusDigest.Pattern
