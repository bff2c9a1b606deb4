import StatusDigest.Decimal.Numeral
import StatusDigest.Pattern.Check
import StatusDigest.Text.Alphanumeric
import StatusDigest.Text.Blank
import StatusDigest.Text.Pieces

/-!
# Log filters

A filter says what is logged. It is a list of directives with commas between them; empty ones do
not count. A directive has a target, or a span in brackets, or a target and a span, and may end
with an equals sign and a level:

    target[span{field=pattern}]=level

A span may do without a field, and a field without a pattern; in place of a pattern a number may
stand. A directive that is a lone level reads like a target, and a level that is left out is a
valid one.

Blank characters around a directive do not count when it is divided into parts. The parts
themselves are cut out of the directive as it is written, at as many octets from its start as
their places are from the start of what is not blank. So a blank character before a directive
moves its parts, and one behind a level makes it none.
-/

namespace StatusDigest.LogFilter

/-! ## Faults -/

/-- What is wrong with a filter. -/
inductive Fault where
  /-- A directive is not built like one. -/
  | malformed
  /-- What stands in the place of a level is none. -/
  | noLevel
  /-- What stands in the place of a pattern cannot be used as one. -/
  | noPattern (refusal : Pattern.Refusal)
deriving DecidableEq, Repr

/-- The names of the levels. The number of a level is its place in this list. -/
def levelNames : List String :=
  ["off", "error", "warn", "info", "debug", "trace"]

/-- The text about a level that is none. -/
def noLevelText : String :=
  "error parsing level filter: expected one of " ++
    String.join (levelNames.map fun name => "\"" ++ name ++ "\", ") ++ "or a number 0-5"

/-- The texts of a fault and of the faults behind it. Behind a fault of a directive's part stands
that of the part itself, and the first text repeats the second. -/
def Fault.causes : Fault → List String
  | .malformed => ["invalid filter directive"]
  | .noLevel => [noLevelText, noLevelText]
  | .noPattern refusal =>
    refusal.causes.head?.toList.map ("invalid field filter: " ++ ·) ++ refusal.causes

/-! ## Levels and fields -/

/-- Whether a text is a name of a level; capital letters count as small ones. -/
def isLevelName (text : List Char) : Bool :=
  String.ofList (text.map Char.toLower) ∈ levelNames

/-- Whether a text is the number of a level, which may have a plus sign and leading zeros. -/
def isLevelNumber (text : List Char) : Bool :=
  let digits := if text.head? = some '+' then text.drop 1 else text
  !digits.isEmpty && digits.all Char.isDigit && Decimal.ofDigits digits < levelNames.length

/-- Checks the level at the end of a directive. -/
def checkLevel (text : List Char) : Except Fault Unit :=
  if text.isEmpty || isLevelName text || isLevelNumber text then .ok () else .error .noLevel

/-- The words for what is no finite number. -/
def numberWords : List String :=
  ["inf", "infinity", "nan"]

/-- Whether a text is a number: a numeral, or a word for what is no finite number. -/
def isNumber (text : List Char) : Bool :=
  let (_, word) := Decimal.takeSign text
  String.ofList (word.map Char.toLower) ∈ numberWords ||
    (Decimal.leadingNumeral text).any fun (_, rest) => rest.isEmpty

/-- Checks a field: the second of the pieces between its equals signs, if there is one, is a number
or a pattern. -/
def checkField (text : List Char) : Except Fault Unit :=
  match Text.pieces '=' text with
  | _ :: value :: _ =>
    if isNumber value then .ok () else (Pattern.check value).mapError .noPattern
  | _ => if text.isEmpty then .error .malformed else .ok ()

/-! ## Directives -/

/-- A text without so many octets at its start. -/
def dropOctets : Nat → List Char → List Char
  | _, [] => []
  | n, c :: rest => if c.utf8Size ≤ n then dropOctets (n - c.utf8Size) rest else c :: rest

/-- The characters in so many octets at the start of a text. -/
def takeOctets : Nat → List Char → List Char
  | _, [] => []
  | n, c :: rest => if c.utf8Size ≤ n then c :: takeOctets (n - c.utf8Size) rest else []

/-- The part of a directive that a character stands in. Places count octets. -/
inductive Part where
  | start
  | target
  | span
  /-- In the braces of a span; the field starts at a place. -/
  | field (place : Nat)
  | fieldEnd
  | spanEnd
  /-- The level starts at a place. -/
  | level (place : Nat)
deriving DecidableEq, Repr

/-- Whether a target can start with a character. -/
def startsTarget (c : Char) : Bool :=
  Text.isAlphanumeric c || c = '-' || c = ':' || c = '_'

/-- The part that follows a character at a place of a directive. A field is checked where it
ends. -/
def Part.step (directive : List Char) (place : Nat) (c : Char) : Part → Except Fault Part
  | .start =>
    if c = '[' then .ok .span else if startsTarget c then .ok .target else .error .malformed
  | .target =>
    if c = '=' then .ok (.level (place + 1)) else if c = '[' then .ok .span else .ok .target
  | .span =>
    if c = ']' then .ok .spanEnd else if c = '\x7b' then .ok (.field (place + 1)) else .ok .span
  | .field first => do
    if c = '\x7d' then
      checkField (takeOctets (place - first) (dropOctets first directive))
      return .fieldEnd
    else return .field first
  | .fieldEnd => if c = ']' then .ok .spanEnd else .error .malformed
  | .spanEnd => if c = '=' then .ok (.level (place + 1)) else .error .malformed
  | .level first => .ok (.level first)

/-- The part at the end of a text that stands at a place of a directive. -/
def Part.run (directive : List Char) (place : Nat) (part : Part) :
    List Char → Except Fault Part
  | [] => .ok part
  | c :: rest => do (← part.step directive place c).run directive (place + c.utf8Size) rest

/-- Checks that a directive can end with a part. -/
def Part.checkEnd (directive : List Char) : Part → Except Fault Unit
  | .target | .spanEnd => .ok ()
  | .level first => checkLevel (dropOctets first directive)
  | .start | .span | .field _ | .fieldEnd => .error .malformed

/-- Checks a directive. -/
def checkDirective (directive : List Char) : Except Fault Unit := do
  (← Part.start.run directive 0 (Text.trimEnds Text.isBlank directive)).checkEnd directive

/-! ## Filters -/

/-- The directives of a filter. -/
def directives (filter : String) : List (List Char) :=
  (Text.pieces ',' filter.toList).filter fun directive => !directive.isEmpty

/-- Checks a filter; the first directive with a fault decides. -/
def check (filter : String) : Except Fault Unit :=
  (directives filter).forM checkDirective

/-- Whether a filter has no fault. -/
def isValid (filter : String) : Bool :=
  (check filter).isOk

/-- The environment variable that holds a filter. -/
def environmentVariable : String :=
  "RUST_LOG"

example : ["", "warn", "a=Debug,,b[c]=4", "a=b", "[c", " a=off"].map isValid =
    [true, true, true, false, false, false] := by
  decide +kernel

end StatusDigest.LogFilter
