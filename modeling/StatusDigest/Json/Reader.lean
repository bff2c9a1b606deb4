import StatusDigest.Json.Skip
import StatusDigest.Json.Value

/-!
# Reading values of a given shape

A text is read against a shape. A record may be written as an object, or as an array of all its
fields in order:

* in an object fields come in any order and none comes twice; unknown keys are passed over, and
  only an optional field may be missing;
* in an array nothing is missing, and nothing follows the last field.

Integers are accepted where a floating-point number is asked for, but not the other way round.
-/

namespace StatusDigest.Json

/-- A reader of values: it gives the value at the start of a text and the text after it. -/
abbrev Reader := List Char → Except Fault (Value × List Char)

/-- The fault of a text that has another value than the one that is asked for. It is read far
enough to tell whether it is JSON at all. -/
def mismatch (c : Char) (rest : List Char) : Fault :=
  let outcome : Except Fault Unit :=
    if c = '"' then discard (readString rest)
    else if c = 'n' then discard (readWord ['u', 'l', 'l'] rest)
    else if c = 't' then discard (readWord ['r', 'u', 'e'] rest)
    else if c = 'f' then discard (readWord ['a', 'l', 's', 'e'] rest)
    else if c = '-' then discard (readNumber true rest)
    else if c.isDigit then discard (readNumber false (c :: rest))
    else if c = '[' ∨ c = '{' then .ok ()
    else .error .malformed
  match outcome with
  | .ok () => .mismatched
  | .error fault => fault

/-- Reads a number that the given function accepts. -/
def readNumberAs (accept : Number → Option Value) : Reader := fun text =>
  match skipSpace text with
  | [] => .error .truncated
  | c :: rest =>
    if c = '-' ∨ c.isDigit then do
      let (number, after) ←
        if c = '-' then readNumber true rest else readNumber false (c :: rest)
      match accept number with
      | some value => .ok (value, after)
      | none => .error .mismatched
    else .error (mismatch c rest)

/-- Accepts integers of 64 bits with sign. -/
def signed? : Number → Option Value
  | .integer i => if i < Nat.pow 2 63 then some (.integer i) else none
  | .real _ => none

/-- Accepts integers of 64 bits without sign. -/
def unsigned? : Number → Option Value
  | .integer i => if 0 ≤ i then some (.integer i) else none
  | .real _ => none

/-- Accepts all numbers, as floating-point numbers. -/
def real? : Number → Option Value
  | .integer i => some (.real (Float.ofInt i))
  | .real x => some (.real x)

/-- Reads a string. -/
def readTextValue : Reader := fun text =>
  match skipSpace text with
  | [] => .error .truncated
  | '"' :: rest => (readString rest).map fun (text, after) => (.text text, after)
  | c :: rest => .error (mismatch c rest)

/-- Reads a value or its absence. -/
def readOptional (read : Reader) : Reader := fun text =>
  match skipSpace text with
  | 'n' :: rest => (readWord ['u', 'l', 'l'] rest).map fun after => (.absent, after)
  | _ => read text

/-- How a field of a record is read. -/
structure FieldReader where
  name : String
  isOptional : Bool
  read : Reader

/-! ## Records as arrays -/

/-- Reads the end of an array. -/
def closeArray (text : List Char) : Except Fault (List Char) :=
  match skipSpace text with
  | [] => .error .truncated
  | ']' :: rest => .ok rest
  | _ => .error .malformed

/-- Passes over what stands before an item: nothing before the first and a comma before the
others. An array that ends here has too few items. -/
def openItem (first : Bool) (text : List Char) : Except Fault (List Char) :=
  match skipSpace text with
  | [] => .error .truncated
  | ']' :: _ => .error .mismatched
  | c :: rest =>
    if first then .ok (c :: rest)
    else if c ≠ ',' then .error .malformed
    else
      match skipSpace rest with
      | [] => .error .truncated
      | ']' :: _ => .error .malformed
      | after => .ok after

/-- Reads the fields of a record one after the other up to the end of the array. -/
def readItems (first : Bool) :
    List FieldReader → List Char → Except Fault (List (String × Value) × List Char)
  | [], text => (closeArray text).map fun after => ([], after)
  | field :: fields, text => do
    let start ← openItem first text
    let (value, after) ← field.read start
    let (values, after) ← readItems false fields after
    return ((field.name, value) :: values, after)

/-! ## Records as objects -/

/-- The fields of a record in order, from those that an object has. An optional field may be
missing. -/
def arrange (found : List (String × Value)) :
    List FieldReader → Except Fault (List (String × Value))
  | [] => .ok []
  | field :: fields =>
    match found.lookup field.name with
    | some value => (arrange found fields).map ((field.name, value) :: ·)
    | none =>
      if field.isOptional then (arrange found fields).map ((field.name, .absent) :: ·)
      else .error .mismatched

/-- Reads the value of a key. A key that was read before is refused before its value is looked at,
and the value of an unknown key is passed over. -/
def readMember (fields : List FieldReader) (found : List (String × Value)) (key : String)
    (text : List Char) : Except Fault (List (String × Value) × List Char) :=
  match fields.find? fun field => field.name = key with
  | none => do
    let value ← readColon text
    let after ← skipValue value
    return (found, after)
  | some field =>
    if (found.lookup key).isSome then .error .mismatched
    else do
      let start ← readColon text
      let (value, after) ← field.read start
      return ((key, value) :: found, after)

/-- Reads the rest of an object. `first` says that no member has been read yet. -/
def readMembers (fields : List FieldReader) (first : Bool) (found : List (String × Value))
    (text : List Char) : Except Fault (List (String × Value) × List Char) :=
  match skipSpace text with
  | [] => .error .truncated
  | '}' :: rest => (arrange found fields).map (·, rest)
  | c :: rest =>
    if !first && c ≠ ',' then .error .malformed
    else
      match openKey (if first then c :: rest else rest) >>= readString with
      | .error fault => .error fault
      | .ok (key, after) =>
        match readMember fields found key after with
        | .error fault => .error fault
        | .ok (found, after) =>
          if _shorter : after.length < text.length then readMembers fields false found after
          else .error .malformed
termination_by text.length

/-- Reads a record, written as an object or as an array. -/
def readRecord (fields : List FieldReader) : Reader := fun text =>
  match skipSpace text with
  | [] => .error .truncated
  | '[' :: rest => (readItems true fields rest).map fun (values, after) => (.record values, after)
  | '{' :: rest =>
    (readMembers fields true [] rest).map fun (values, after) => (.record values, after)
  | c :: rest => .error (mismatch c rest)

/-! ## Shapes -/

mutual

/-- The reader of values of a shape. -/
def Shape.read : Shape → Reader
  | .signed => readNumberAs signed?
  | .unsigned => readNumberAs unsigned?
  | .real => readNumberAs real?
  | .text => readTextValue
  | .optional shape => readOptional shape.read
  | .record fields => readRecord (Shape.fieldReaders fields)

/-- The readers of the fields of a record. -/
def Shape.fieldReaders : List (String × Shape) → List FieldReader
  | [] => []
  | (name, shape) :: rest =>
    { name, isOptional := shape.isOptional, read := shape.read } :: Shape.fieldReaders rest

end

/-- Reads a text that holds one value of a shape and nothing else. -/
def Shape.ofText (shape : Shape) (text : String) : Except Fault Value := do
  let (value, after) ← shape.read text.toList
  if (skipSpace after).isEmpty then .ok value else .error .malformed

end StatusDigest.Json
