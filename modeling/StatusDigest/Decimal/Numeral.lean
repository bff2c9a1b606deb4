/-!
# Numerals at the start of a text

A text may begin with a number and go on with anything, such as a unit. Two grammars say how far
the number reaches, and each takes as much as it can:

* an integer is an optional sign and one or more digits;
* a numeral is an optional sign, digits with at most one point among or beside them, and an
  optional exponent. A point needs a digit on one of its sides, and an exponent letter needs a
  digit behind it or behind its sign; what lacks its digit is not part of the numeral.

Digits are the ten ASCII digits. `Numeral.toFloat` is the double nearest to a numeral.
-/

namespace StatusDigest.Decimal

/-- Whether a text starts with a minus sign, and the text after its sign, if it has one. -/
def takeSign : List Char → Bool × List Char
  | '-' :: rest => (true, rest)
  | '+' :: rest => (false, rest)
  | text => (false, text)

/-- The number that decimal digits denote; no digits denote zero. -/
def ofDigits (digits : List Char) : Nat :=
  Nat.ofDigitChars 10 digits 0

/-- The number with its sign. -/
def signed (negative : Bool) (magnitude : Nat) : Int :=
  if negative then -(magnitude : Int) else magnitude

/-- The integer at the start of a text, and zero if the text does not start with one. -/
def leadingInteger (text : List Char) : Int :=
  let (negative, rest) := takeSign text
  signed negative (ofDigits (rest.takeWhile Char.isDigit))

/-- A number in decimal notation: plus or minus `coefficient * 10 ^ exponent`. The sign is kept
apart because zero has one too. -/
structure Numeral where
  negative : Bool
  coefficient : Nat
  exponent : Int
deriving DecidableEq, Repr

/-- The digits before and after the point of the numeral at the start of a text without sign, and
the text after them, if there is a digit. -/
def takeDigits (text : List Char) : Option (List Char × List Char × List Char) :=
  let whole := text.takeWhile Char.isDigit
  match text.dropWhile Char.isDigit with
  | '.' :: rest =>
    let fraction := rest.takeWhile Char.isDigit
    if whole.isEmpty && fraction.isEmpty then none
    else some (whole, fraction, rest.dropWhile Char.isDigit)
  | rest => if whole.isEmpty then none else some (whole, [], rest)

/-- The exponent at the start of a text and the text after it; a text that starts with no
exponent counts as the exponent zero. -/
def takeExponent : List Char → Int × List Char
  | [] => (0, [])
  | c :: rest =>
    if c = 'e' ∨ c = 'E' then
      let (negative, rest') := takeSign rest
      match rest'.takeWhile Char.isDigit with
      | [] => (0, c :: rest)
      | digits => (signed negative (ofDigits digits), rest'.dropWhile Char.isDigit)
    else
      (0, c :: rest)

/-- The numeral at the start of a text and the text after it, if the text starts with one. -/
def leadingNumeral (text : List Char) : Option (Numeral × List Char) :=
  let (negative, rest) := takeSign text
  match takeDigits rest with
  | none => none
  | some (whole, fraction, rest) =>
    let (exponent, rest) := takeExponent rest
    some ({ negative
            coefficient := ofDigits (whole ++ fraction)
            exponent := exponent - fraction.length }, rest)

/-- The double nearest to a numeral, of two equally near ones that with the even significand. A
numeral beyond the greatest double is infinite, and zero keeps its sign. -/
def Numeral.toFloat (numeral : Numeral) : Float :=
  let magnitude :=
    Float.ofScientific numeral.coefficient (numeral.exponent < 0) numeral.exponent.natAbs
  if numeral.negative then -magnitude else magnitude

end StatusDigest.Decimal
