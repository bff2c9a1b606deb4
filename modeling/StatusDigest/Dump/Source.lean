import StatusDigest.Text.Pieces

/-!
# Byte sources and their lines

A source delivers octets in chunks, as a file or a pipe does, and ends either with the end of
its input or with a failure. Lines end at line feeds wherever the chunks happen to be cut:

* `Source.lines` are the lines that a reader gets to see, each without its line feed. What
  follows the last line feed is a line of its own at the end of input, but is lost to a failure.
-/

namespace StatusDigest.Dump

/-- A stream of octets: the chunks in which it arrives, and the text of the failure that ends it,
if it does not end with the end of input. -/
structure Source where
  chunks : List (List UInt8)
  failure : Option String := none
deriving DecidableEq, Repr

/-- The octet that ends a line. -/
def lineFeed : UInt8 := 10

/-- The complete lines of some octets, and what follows the last line feed. -/
def cutLines : List UInt8 → List (List UInt8) × List UInt8
  | [] => ([], [])
  | octet :: rest =>
    let (complete, unfinished) := cutLines rest
    if octet = lineFeed then
      ([] :: complete, unfinished)
    else
      match complete with
      | [] => ([], octet :: unfinished)
      | line :: more => ((octet :: line) :: more, unfinished)

/-- The complete lines of the chunks, and what follows the last line feed. A line that is
unfinished at the end of a chunk goes on with the next one. -/
def gatherLines (unfinished : List UInt8) :
    List (List UInt8) → List (List UInt8) × List UInt8
  | [] => ([], unfinished)
  | chunk :: rest =>
    let (complete, unfinished) := cutLines (unfinished ++ chunk)
    let (more, last) := gatherLines unfinished rest
    (complete ++ more, last)

namespace Source

/-- The source that delivers the octets at once and ends well. -/
def ofBytes (octets : List UInt8) : Source :=
  { chunks := [octets] }

/-- All octets of the source, however they arrive. -/
def bytes (source : Source) : List UInt8 :=
  source.chunks.flatten

/-- The lines that the source delivers, without their line feeds. -/
def lines (source : Source) : List (List UInt8) :=
  let (complete, unfinished) := gatherLines [] source.chunks
  if source.failure.isNone && !unfinished.isEmpty then
    complete ++ [unfinished]
  else
    complete

end Source

end StatusDigest.Dump
