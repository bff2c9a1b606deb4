import StatusDigest.Pattern.Cursor
import StatusDigest.Pattern.Fault
import StatusDigest.Pattern.Tree

/-!
# Escapes

A backslash gives the characters after it another meaning: a character by its number, a set, a
condition, or a sign that stands for itself. A pattern itself stands in braces and has no closing
brace, so an escape that opens one is never complete.
-/

namespace StatusDigest.Pattern

/-! ## Characters by number -/

/-- The value of a hexadecimal digit. -/
def hexValue? (c : Char) : Option Nat :=
  if c.isDigit then some (c.toNat - '0'.toNat)
  else if 'a' ≤ c ∧ c ≤ 'f' then some (c.toNat - 'a'.toNat + 10)
  else if 'A' ≤ c ∧ c ≤ 'F' then some (c.toNat - 'A'.toNat + 10)
  else none

/-- Reads so many hexadecimal digits, and gives the number that they denote after the digits
before them. -/
def readHexDigits : Nat → Nat → Cursor → Except Fault (Nat × Cursor)
  | 0, number, cursor => .ok (number, cursor)
  | more + 1, number, cursor =>
    match cursor.rest with
    | [] => fail .escapeCut cursor.here
    | c :: _ =>
      match hexValue? c with
      | none => fail .hexDigitInvalid cursor.charSpan
      | some value => readHexDigits more (number * 16 + value) cursor.nextSpaced

/-- How many digits the number of a character has after a letter. -/
def hexLength : Char → Nat
  | 'x' => 2
  | 'u' => 4
  | _ => 8

/-- Reads a character by its number, after the backslash at `start`. -/
def readHex (start : Cursor) (letter : Char) (cursor : Cursor) : Except Fault (Tree × Cursor) :=
  let digits := cursor.nextSpaced
  if digits.rest.head? = some '{' then
    let (_, stop) := digits.nextSpaced.takeSpaced fun c => (hexValue? c).isSome
    if stop.rest.isEmpty then fail .escapeCut (digits.spanTo stop)
    else fail .hexDigitInvalid stop.charSpan
  else
    match readHexDigits (hexLength letter) 0 digits with
    | .error fault => .error fault
    | .ok (number, stop) =>
      if number.isValidChar then
        let span := start.spanTo stop
        .ok (.literal { span, char := Char.ofNat number, octet := letter = 'x' }, stop)
      else fail .hexNoCharacter (digits.spanTo stop)

/-! ## Sets and conditions -/

/-- Reads the name of a Unicode property, after the backslash at `start`. A name of more than one
letter stands in braces. -/
def readProperty (start cursor : Cursor) : Except Fault (Tree × Cursor) :=
  let name := cursor.nextSpaced
  match name.rest with
  | [] => fail .escapeCut name.here
  | '{' :: _ => fail .escapeCut (name.skip name.rest.length).here
  | '\\' :: _ => fail .propertyInvalid name.charSpan
  | _ => .ok (.property (start.spanTo name.nextSpaced), name.nextSpaced)

/-- Whether a character can stand in the name of a word boundary. -/
def inBoundaryName (c : Char) : Bool :=
  c.isAlpha || c = '-'

/-- Reads a word boundary that reaches from `start` to a cursor, unless a name in braces
follows. -/
def readBoundary (start cursor : Cursor) : Except Fault (Tree × Cursor) :=
  let name := cursor.nextSpaced
  if cursor.rest.head? ≠ some '{' then .ok (.assertion (start.spanTo cursor) true, cursor)
  else if name.rest.isEmpty then fail .boundaryCut (start.spanTo name)
  else if name.rest.head?.any inBoundaryName then
    fail .boundaryUnclosed (cursor.spanTo (name.takeSpaced inBoundaryName).2)
  else .ok (.assertion (start.spanTo cursor) true, cursor)

/-! ## Signs -/

/-- The characters with a meaning of their own, which a backslash takes away. -/
def metaChars : List Char :=
  ['\\', '.', '+', '*', '?', '(', ')', '|', '[', ']', '\x7b', '\x7d', '^', '$', '#', '&', '-', '~']

/-- Whether a character stands for itself after a backslash. -/
def isSign (c : Char) : Bool :=
  c ∈ metaChars || (c.toNat < 128 && !c.isAlphanum && c ≠ '<' && c ≠ '>')

/-- The control character that a letter stands for. -/
def controlChar? : Char → Option Char
  | 'a' => some '\x07'
  | 'f' => some '\x0c'
  | 't' => some '\t'
  | 'n' => some '\n'
  | 'r' => some '\r'
  | 'v' => some '\x0b'
  | _ => none

/-- Reads an escape of one character, from the backslash at `start` to a cursor. -/
def readSign (start : Cursor) (c : Char) (cursor : Cursor) : Except Fault (Tree × Cursor) :=
  let span := start.spanTo cursor
  if isSign c then .ok (.literal { span, char := c }, cursor)
  else
    match controlChar? c with
    | some char => .ok (.literal { span, char }, cursor)
    | none =>
      if c = 'A' ∨ c = 'z' then .ok (.assertion span false, cursor)
      else if c = 'b' then readBoundary start cursor
      else if c = 'B' ∨ c = '<' ∨ c = '>' then .ok (.assertion span true, cursor)
      else fail .escapeUnknown span

/-- Reads an escape, at its backslash. -/
def readEscape (start : Cursor) : Except Fault (Tree × Cursor) :=
  let cursor := start.next
  match cursor.rest with
  | [] => fail .escapeCut (start.spanTo cursor)
  | c :: _ =>
    if c.isDigit then fail .backReference (start.spanTo cursor.next)
    else if c ∈ ['x', 'u', 'U'] then readHex start c cursor
    else if c = 'p' ∨ c = 'P' then readProperty start cursor
    else if c ∈ ['d', 's', 'w'] then .ok (.shorthand (start.spanTo cursor.next) false, cursor.next)
    else if c ∈ ['D', 'S', 'W'] then .ok (.shorthand (start.spanTo cursor.next) true, cursor.next)
    else readSign start c cursor.next

end StatusDigest.Pattern
