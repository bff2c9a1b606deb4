import StatusDigest.Dump.Kind
import StatusDigest.Text.Pieces
import StatusDigest.Text.Utf8

/-!
# Lines of a dump

What a line means does not depend on the lines around it. After padding is stripped from both
ends a line opens a block, closes one, holds a field, or says nothing:

* an empty line and a line that starts with `#` say nothing;
* a marker opens a block of its kind, and a lone brace closes one;
* any other line is cut at its first `=`, and holds a field if something follows the sign.

Whether a line that closes or holds a field has an effect is decided by the reader, which knows
whether a block is open.
-/

namespace StatusDigest.Dump

/-- The characters that may surround a line. -/
def isPadding (c : Char) : Bool :=
  c = ' ' || c = '\t' || c = '\r' || c = '\n'

/-- The text of a line: its octets read as UTF-8 with repairs, without padding at the ends. -/
def lineText (octets : List UInt8) : List Char :=
  Text.trimEnds isPadding (Text.Utf8.repair octets)

/-- A key and a value that is not empty, from a text with an equals sign between them. Everything
after the first equals sign belongs to the value. -/
def assignment? (text : List Char) : Option (String × String) :=
  match Text.cutFirst '=' text with
  | some (key, c :: value) => some (String.ofList key, String.ofList (c :: value))
  | _ => none

/-- Whether a stripped line says nothing at all: it is empty or a comment. -/
def isIdle (text : List Char) : Bool :=
  text.isEmpty || text.head? = some '#'

/-- What a line of a dump says. -/
inductive Line where
  /-- A block is opened. -/
  | opening (kind : Kind)
  /-- The open block is closed. -/
  | closing
  /-- A field of the open block. -/
  | field (key value : String)
  /-- Nothing. -/
  | idle
deriving DecidableEq, Repr

/-- The meaning of a stripped line. -/
def Line.ofText (text : List Char) : Line :=
  if isIdle text then .idle
  else
    match Kind.ofMarker? text with
    | some kind => .opening kind
    | none =>
      if text = ['}'] then .closing
      else
        match assignment? text with
        | some (key, value) => .field key value
        | none => .idle

/-- The meaning of the octets between two line feeds. -/
def Line.ofOctets (octets : List UInt8) : Line :=
  .ofText (lineText octets)

end StatusDigest.Dump
