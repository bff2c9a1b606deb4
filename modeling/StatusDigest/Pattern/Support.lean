import StatusDigest.Pattern.Fault
import StatusDigest.Pattern.Tree

/-!
# What patterns can ask for

A pattern that is well-formed may still ask for what matching cannot do. Matching knows no
properties and no case of characters beyond ASCII, and it must never match a part of a character.

A pattern is gone through from left to right. `Modes` are the flags that decide what its parts
mean; a group of flags alone changes them up to the end of the group around it.
-/

namespace StatusDigest.Pattern

/-- The flags in force, and what has been found under them. -/
structure Modes where
  unicode : Bool := true
  ignoreCase : Bool := false
  /-- Whether a condition on words has been met where words are not only made of ASCII. -/
  unicodeWords : Bool := false
deriving DecidableEq, Repr

namespace Modes

/-- The modes under flags. -/
def update (modes : Modes) (flags : Flags) : Modes :=
  { modes with
    unicode := flags.update .unicode modes.unicode
    ignoreCase := flags.update .ignoreCase modes.ignoreCase }

/-- Whether cases of all characters would have to be known. -/
def foldsUnicode (modes : Modes) : Bool :=
  modes.unicode && modes.ignoreCase

end Modes

/-- Whether a literal is an octet that is not a character by itself. -/
def Literal.isLoneOctet (literal : Literal) : Bool :=
  literal.octet && 0x80 ≤ literal.char.toNat

/-! ## Sets of characters -/

/-- Checks a character of a set. -/
def Literal.checkInSet (modes : Modes) (literal : Literal) : Except Fault Unit :=
  if modes.unicode then .ok ()
  else if literal.isLoneOctet then fail .notText literal.span
  else if 0x80 ≤ literal.char.toNat then fail .unicodeNotAllowed literal.span
  else .ok ()

/-- Checks a set that has a letter. -/
def checkShorthand (modes : Modes) (span : Span) (negated : Bool) : Except Fault Unit :=
  if modes.unicode then fail .noUnicodeShorthand span
  else if negated then fail .notText span
  else .ok ()

/-- Checks the characters with a property. -/
def checkProperty (modes : Modes) (span : Span) : Except Fault Unit :=
  fail (if modes.unicode then .noProperty else .unicodeNotAllowed) span

/-- Checks a set whose cases have to be known if it has characters, and which is negated or
not. -/
def checkWhole (modes : Modes) (span : Span) (negated hasChars : Bool) : Except Fault Unit :=
  if modes.foldsUnicode && hasChars then fail .noUnicodeCase span
  else if !modes.unicode && negated then fail .notText span
  else .ok ()

mutual

/-- Checks a set, and tells whether it has characters whose cases have not been asked for. -/
def CharSet.check (modes : Modes) : CharSet → Except Fault Bool
  | .empty _ => .ok false
  | .literal l => do
    l.checkInSet modes
    return true
  | .range _ first last => do
    first.checkInSet modes
    last.checkInSet modes
    return true
  | .named span negated => do
    checkWhole modes span negated true
    return true
  | .shorthand span negated => do
    checkShorthand modes span negated
    return true
  | .property span => do
    checkProperty modes span
    return true
  | .bracketed span negated inner => do
    checkWhole modes span negated (← inner.check modes)
    return false
  | .union _ items => checkItems modes items
  | .operation _ left right => do
    let leftHas ← left.check modes
    let rightHas ← right.check modes
    checkWhole modes right.span false rightHas
    checkWhole modes left.span false leftHas
    return false

/-- Checks the items of a set, and tells whether one has characters whose cases have not been
asked for. -/
def checkItems (modes : Modes) : List CharSet → Except Fault Bool
  | [] => .ok false
  | item :: items => do
    let first ← item.check modes
    let others ← checkItems modes items
    return first || others

end

/-! ## Trees -/

mutual

/-- Checks a tree, and gives the modes behind it. -/
def Tree.check (modes : Modes) : Tree → Except Fault Modes
  | .empty _ => .ok modes
  | .flags _ items => .ok (modes.update items)
  | .literal l =>
    if modes.foldsUnicode then fail .noUnicodeCase l.span
    else if !modes.unicode && l.isLoneOctet then fail .notText l.span
    else .ok modes
  | .anyChar span => if modes.unicode then .ok modes else fail .notText span
  | .assertion _ onWords =>
    .ok { modes with unicodeWords := modes.unicodeWords || (onWords && modes.unicode) }
  | .shorthand span negated => do
    checkShorthand modes span negated
    return modes
  | .property span => do
    checkProperty modes span
    return modes
  | .set s => do
    let _ ← s.check modes
    return modes
  | .repetition _ inner => inner.check modes
  | .group _ items inner => do
    let behind ← inner.check (modes.update items)
    return { modes with unicodeWords := behind.unicodeWords }
  | .alternation _ parts | .concat _ parts => checkAll modes parts

/-- Checks trees one after the other, and gives the modes behind them. -/
def checkAll (modes : Modes) : List Tree → Except Fault Modes
  | [] => .ok modes
  | tree :: trees => do checkAll (← tree.check modes) trees

end

end StatusDigest.Pattern
