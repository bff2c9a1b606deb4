import StatusDigest.Decimal.Numeral

/-!
# Tokens of JSON texts

A JSON text is read from left to right, and the first problem decides how reading fails:

* the text ends too early (`truncated`),
* what follows is not JSON (`malformed`),
* it is JSON but not what is asked for (`mismatched`).

Each reader takes a text and gives what it read and the text after it. This module holds the
readers of tokens: blanks, words, strings and numbers.
-/

namespace StatusDigest.Json

/-- How reading a JSON text fails. -/
inductive Fault where
  /-- The text ends before the value does. -/
  | truncated
  /-- The text is not JSON. -/
  | malformed
  /-- The text has another value than the one that is asked for. -/
  | mismatched
deriving DecidableEq, Repr

/-- The characters between tokens. -/
def isSpace (c : Char) : Bool :=
  c = ' ' || c = '\n' || c = '\t' || c = '\r'

/-- The text without the characters before its next token. -/
def skipSpace (text : List Char) : List Char :=
  text.dropWhile isSpace

/-- Reads the given letters. -/
def readWord : List Char → List Char → Except Fault (List Char)
  | [], text => .ok text
  | _ :: _, [] => .error .truncated
  | letter :: letters, c :: text =>
    if c = letter then readWord letters text else .error .malformed

/-! ## Strings -/

/-- The value of a hexadecimal digit. -/
def hexValue? (c : Char) : Option Nat :=
  if c.isDigit then some (c.toNat - '0'.toNat)
  else if 'a' ≤ c ∧ c ≤ 'f' then some (c.toNat - 'a'.toNat + 10)
  else if 'A' ≤ c ∧ c ≤ 'F' then some (c.toNat - 'A'.toNat + 10)
  else none

/-- The characters that an escape of one letter stands for. -/
def escaped? : Char → Option Char
  | '"' => some '"'
  | '\\' => some '\\'
  | '/' => some '/'
  | 'b' => some '\x08'
  | 'f' => some '\x0c'
  | 'n' => some '\n'
  | 'r' => some '\r'
  | 't' => some '\t'
  | _ => none

/-- Whether a text has fewer than four octets. -/
def isShort (text : List Char) : Bool :=
  (String.ofList (text.take 4)).utf8ByteSize < 4

/-- Reads four hexadecimal digits. A text with fewer than four octets ends too early, whatever
they are. -/
def readHex (text : List Char) : Except Fault (Nat × List Char) :=
  if isShort text then .error .truncated
  else
    match text with
    | a :: b :: c :: d :: rest =>
      match hexValue? a, hexValue? b, hexValue? c, hexValue? d with
      | some a, some b, some c, some d => .ok (((a * 16 + b) * 16 + c) * 16 + d, rest)
      | _, _, _, _ => .error .malformed
    | _ => .error .malformed

/-- Whether a number is the first half of a surrogate pair. -/
def isLeading (unit : Nat) : Bool :=
  0xD800 ≤ unit && unit ≤ 0xDBFF

/-- Whether a number is the second half of a surrogate pair. -/
def isTrailing (unit : Nat) : Bool :=
  0xDC00 ≤ unit && unit ≤ 0xDFFF

/-- The character of a surrogate pair. -/
def ofPair (leading trailing : Nat) : Char :=
  Char.ofNat (0x10000 + (leading - 0xD800) * 0x400 + (trailing - 0xDC00))

/-- Reads what follows the letter of an escape by number. The first half of a surrogate pair must
be followed by the second. -/
def readUnit (text : List Char) : Except Fault (Char × List Char) := do
  let (unit, rest) ← readHex text
  if isTrailing unit then .error .malformed
  else if isLeading unit then
    match rest with
    | [] => .error .truncated
    | ['\\'] => .error .truncated
    | '\\' :: 'u' :: rest =>
      let (second, rest) ← readHex rest
      if isTrailing second then .ok (ofPair unit second, rest) else .error .malformed
    | _ => .error .malformed
  else .ok (Char.ofNat unit, rest)

/-- Reads what follows a backslash. -/
def readEscape : List Char → Except Fault (Char × List Char)
  | [] => .error .truncated
  | 'u' :: rest => readUnit rest
  | c :: rest =>
    match escaped? c with
    | some c => .ok (c, rest)
    | none => .error .malformed

/-- Reads what follows a backslash where the text of the string does not matter. Surrogates need
not come in pairs then. -/
def skipEscape : List Char → Except Fault (Char × List Char)
  | 'u' :: rest => (readHex rest).map fun (unit, rest) => (Char.ofNat unit, rest)
  | text => readEscape text

/-- Reads a string up to its closing quote, with the given reader of escapes. -/
def readQuoted (escape : List Char → Except Fault (Char × List Char)) :
    List Char → Except Fault (List Char × List Char)
  | [] => .error .truncated
  | '"' :: rest => .ok ([], rest)
  | '\\' :: rest =>
    match escape rest with
    | .error fault => .error fault
    | .ok (c, after) =>
      if _shorter : after.length ≤ rest.length then
        (readQuoted escape after).map fun (chars, rest) => (c :: chars, rest)
      else
        .error .malformed
  | c :: rest =>
    if c.toNat < 0x20 then .error .malformed
    else (readQuoted escape rest).map fun (chars, rest) => (c :: chars, rest)
termination_by text => text.length

/-- Reads a string after its opening quote. -/
def readString (text : List Char) : Except Fault (String × List Char) :=
  (readQuoted readEscape text).map fun (chars, rest) => (String.ofList chars, rest)

/-- Passes over a string after its opening quote. -/
def skipString (text : List Char) : Except Fault (List Char) :=
  (readQuoted skipEscape text).map Prod.snd

/-! ## Numbers -/

/-- A number: an integer if it is written as one and fits in 64 bits, otherwise a double. Minus
zero is a double. -/
inductive Number where
  | integer (i : Int)
  | real (x : Float)
deriving DecidableEq

/-- Ten to the power of an exponent up to 308, as a double. -/
def tenTo (exponent : Nat) : Float :=
  Float.ofScientific 1 false exponent

/-- A significand times a power of ten, in floating-point arithmetic. A power below the range of
doubles is applied in steps of 308. A product beyond the greatest double is refused. -/
def scale (significand : Float) (exponent : Int) : Except Fault Float :=
  if exponent.natAbs ≤ 308 then
    if 0 ≤ exponent then
      let product := significand * tenTo exponent.natAbs
      if product.isInf then .error .malformed else .ok product
    else .ok (significand / tenTo exponent.natAbs)
  else if significand == 0.0 then .ok significand
  else if 0 ≤ exponent then .error .malformed
  else scale (significand / tenTo 308) (exponent + 308)
termination_by (-exponent).toNat

/-- The double with a sign, a significand and a power of ten. -/
def assemble (negative : Bool) (significand : Nat) (exponent : Int) : Except Fault Number :=
  (scale significand.toUInt64.toFloat exponent).map fun x => .real (if negative then -x else x)

/-- Appends digits to a significand as long as it stays below a limit. Gives the significand and
the digits that are left over. -/
def appendDigits (limit significand : Nat) : List Char → Nat × List Char
  | [] => (significand, [])
  | digit :: digits =>
    let longer := significand * 10 + (digit.toNat - '0'.toNat)
    if longer < limit then appendDigits limit longer digits else (significand, digit :: digits)

/-- Significands stay below this limit; digits beyond it only count for the power of ten. -/
def significandLimit : Nat := Nat.pow 2 64

/-- Written exponents stay below this limit. -/
def exponentLimit : Nat := Nat.pow 2 31

/-- Reads an exponent after its letter, and applies it. An exponent beyond all limits gives zero
unless the number would be infinite. -/
def readExponent (negative : Bool) (significand : Nat) (exponent : Int) (text : List Char) :
    Except Fault (Number × List Char) :=
  let (lowers, text) := Decimal.takeSign text
  match text with
  | [] => .error .truncated
  | c :: _ =>
    if !c.isDigit then .error .malformed
    else
      let rest := text.dropWhile Char.isDigit
      let (written, excess) := appendDigits exponentLimit 0 (text.takeWhile Char.isDigit)
      if !excess.isEmpty then
        if significand ≠ 0 ∧ !lowers then .error .malformed
        else .ok (.real (if negative then -0.0 else 0.0), rest)
      else
        (assemble negative significand (exponent + Decimal.signed lowers written)).map (·, rest)

/-- Reads an exponent if there is one, and applies it. -/
def readScale (negative : Bool) (significand : Nat) (exponent : Int) (text : List Char) :
    Except Fault (Number × List Char) :=
  match text with
  | 'e' :: rest | 'E' :: rest => readExponent negative significand exponent rest
  | _ => (assemble negative significand exponent).map (·, text)

/-- Reads the digits after a point. There must be one at least. -/
def readFraction (negative : Bool) (significand : Nat) (exponent : Int) (text : List Char) :
    Except Fault (Number × List Char) :=
  match text with
  | [] => .error .truncated
  | c :: _ =>
    if !c.isDigit then .error .malformed
    else
      let digits := text.takeWhile Char.isDigit
      let (significand, excess) := appendDigits significandLimit significand digits
      readScale negative significand (exponent - (digits.length - excess.length))
        (text.dropWhile Char.isDigit)

/-- The number of an integer without point and exponent. -/
def ofInteger (negative : Bool) (magnitude : Nat) : Number :=
  if negative then
    if magnitude = 0 ∨ Nat.pow 2 63 < magnitude then .real (-magnitude.toUInt64.toFloat)
    else .integer (-magnitude)
  else .integer magnitude

/-- Reads a number after its sign. A leading zero stands alone. -/
def readNumber (negative : Bool) (text : List Char) : Except Fault (Number × List Char) :=
  match text with
  | [] => .error .truncated
  | c :: rest =>
    if !c.isDigit then .error .malformed
    else if c = '0' ∧ rest.head?.any Char.isDigit then .error .malformed
    else
      let (significand, excess) :=
        appendDigits significandLimit 0 (text.takeWhile Char.isDigit)
      match text.dropWhile Char.isDigit with
      | '.' :: rest => readFraction negative significand excess.length rest
      | 'e' :: rest | 'E' :: rest => readExponent negative significand excess.length rest
      | rest =>
        if excess.isEmpty then .ok (ofInteger negative significand, rest)
        else (assemble negative significand excess.length).map (·, rest)

/-- Passes over the digits at the start of a text. There must be one at least. -/
def skipDigits : List Char → Except Fault (List Char)
  | [] => .error .malformed
  | c :: rest => if c.isDigit then .ok (rest.dropWhile Char.isDigit) else .error .malformed

/-- Passes over an exponent, if there is one. -/
def skipExponent : List Char → Except Fault (List Char)
  | 'e' :: rest | 'E' :: rest => skipDigits (Decimal.takeSign rest).2
  | text => .ok text

/-- Passes over a number after its sign, whatever its size. -/
def skipNumber (text : List Char) : Except Fault (List Char) := do
  let rest ← skipDigits text
  if text.head? = some '0' ∧ (text.drop 1).head?.any Char.isDigit then .error .malformed
  else
    match rest with
    | '.' :: rest => skipDigits rest >>= skipExponent
    | rest => skipExponent rest

end StatusDigest.Json
