import StatusDigest.Toml.Value

/-!
# Scalars without quotes

What is written without quotes is a truth value, an integer, a float, or a date, a time or both.
Underscores may stand between digits, and one may stand between the sign of a number and its first
digit. A decimal number has no leading zeros, and a number in another base has no sign.

An integer is taken for one by its look: that it has digits at all behind the mark of its base, and
that nothing but digits follows its first underscore, counts only where its value is wanted.
`Scalar.unreadable` is an integer that fails there.

Seconds and their fraction may be left out of a time, and an offset goes only with a date.
-/

namespace StatusDigest.Toml

/-! ## Numbers -/

/-- The value of a digit in bases up to 16. -/
def digitValue (c : Char) : Nat :=
  if c.isDigit then c.toNat - '0'.toNat
  else if 'a' ≤ c ∧ c ≤ 'f' then c.toNat - 'a'.toNat + 10
  else if 'A' ≤ c ∧ c ≤ 'F' then c.toNat - 'A'.toNat + 10
  else 16

/-- The number that digits of a base denote. -/
def ofDigits (base : Nat) (digits : List Char) : Nat :=
  digits.foldl (fun n c => n * base + digitValue c) 0

/-- The digits in a text. -/
def digitsOf (text : List Char) : List Char :=
  text.filter (· ≠ '_')

/-- Whether every underscore has a digit before and after it. `before` says whether a digit stands
before the text. -/
def underscoresFit (isDigit : Char → Bool) : Bool → List Char → Bool
  | _, [] => true
  | before, c :: rest =>
    if c = '_' then before && rest.head?.any isDigit && underscoresFit isDigit false rest
    else underscoresFit isDigit (isDigit c) rest

/-- An integer in a base other than ten, after the mark of the base. -/
def inBase? (base : Nat) (text : List Char) : Option Scalar :=
  let isDigit (c : Char) : Bool := digitValue c < base
  let digits := digitsOf text
  if !digits.all isDigit || !underscoresFit isDigit false text then none
  else if digits.isEmpty then some .unreadable
  else some (.integer (ofDigits base digits))

/-- A decimal integer. What stands behind its first underscore is not looked at closely, apart from
the neighbours of the underscores, so that it may turn out not to denote a number. -/
def decimalInteger? (negative signed : Bool) (text : List Char) : Option Scalar :=
  let rest := text.dropWhile Char.isDigit
  let digits := digitsOf text
  if text.isEmpty || (!rest.isEmpty && rest.head? ≠ some '_') then none
  else if text.head? = some '0' && text.length ≠ 1 then none
  else if !underscoresFit (digitValue · < 16) signed text then none
  else if digits.all Char.isDigit then
    some (.integer (Decimal.signed negative (ofDigits 10 digits)))
  else some .unreadable

/-- Whether a character can stand in a group of digits. -/
def inDigits (c : Char) : Bool :=
  c.isDigit || c = '_'

/-- The digits at the start of a text, and the text after them, if there is a digit. -/
def takeGroup (text : List Char) : Option (List Char × List Char) :=
  let digits := digitsOf (text.takeWhile inDigits)
  if digits.isEmpty then none else some (digits, text.dropWhile inDigits)

/-- The exponent of a float after its letter. -/
def exponent? (text : List Char) : Option Int :=
  let (negative, rest) := Decimal.takeSign text
  match takeGroup rest with
  | some (digits, []) => some (Decimal.signed negative (ofDigits 10 digits))
  | _ => none

/-- A float that is written in digits, without its sign: it has a fraction, an exponent, or
both. -/
def float? (negative signed : Bool) (text : List Char) : Option Scalar := do
  let (whole, rest) ← takeGroup text
  let (fraction, rest) ←
    match rest with
    | '.' :: rest => takeGroup rest
    | rest => pure ([], rest)
  let exponent ←
    match rest with
    | [] => pure 0
    | c :: rest => if c = 'e' ∨ c = 'E' then exponent? rest else none
  if text.head? = some '0' ∧ whole.length ≠ 1 then none
  else if !underscoresFit Char.isDigit signed text then none
  else
    return .float
      { negative
        coefficient := ofDigits 10 (whole ++ fraction)
        exponent := exponent - fraction.length }

/-- A number that is written in digits. -/
def number? (text : List Char) : Option Scalar :=
  match text with
  | '0' :: 'x' :: rest => inBase? 16 rest
  | '0' :: 'o' :: rest => inBase? 8 rest
  | '0' :: 'b' :: rest => inBase? 2 rest
  | _ =>
    let (negative, rest) := Decimal.takeSign text
    let signed := rest.length < text.length
    if (rest.dropWhile Char.isDigit).any fun c => c = '.' || c = 'e' || c = 'E' then
      float? negative signed rest
    else decimalInteger? negative signed rest

/-- Whether a text is infinity or what is not a number, with or without a sign. -/
def isSpecial (text : List Char) : Bool :=
  let word := (Decimal.takeSign text).2
  word = ['i', 'n', 'f'] || word = ['n', 'a', 'n']

/-! ## Dates and times -/

/-- The number of two decimal digits. -/
def pair? (a b : Char) : Option Nat :=
  if a.isDigit && b.isDigit then some (digitValue a * 10 + digitValue b) else none

/-- The number of days of a month. -/
def daysIn (year month : Nat) : Nat :=
  if month = 2 then
    if year % 4 = 0 ∧ (year % 100 ≠ 0 ∨ year % 400 = 0) then 29 else 28
  else if month ∈ [4, 6, 9, 11] then 30
  else 31

/-- Passes over a date. -/
def skipDate : List Char → Option (List Char)
  | a :: b :: c :: d :: '-' :: e :: f :: '-' :: g :: h :: rest => do
    let year := (← pair? a b) * 100 + (← pair? c d)
    let month ← pair? e f
    let day ← pair? g h
    if 1 ≤ month ∧ month ≤ 12 ∧ 1 ≤ day ∧ day ≤ daysIn year month then some rest else none
  | _ => none

/-- Passes over the seconds of a time and their fraction, if there are any. A second may be a leap
second. -/
def skipSeconds : List Char → Option (List Char)
  | ':' :: a :: b :: rest => do
    if 60 < (← pair? a b) then none
    else
      match rest with
      | '.' :: fraction =>
        if fraction.head?.any Char.isDigit then some (fraction.dropWhile Char.isDigit) else none
      | rest => some rest
  | text => some text

/-- Passes over a time. -/
def skipTime : List Char → Option (List Char)
  | a :: b :: ':' :: c :: d :: rest => do
    if 23 < (← pair? a b) ∨ 59 < (← pair? c d) then none else skipSeconds rest
  | _ => none

/-- Whether a text is an offset from universal time, or empty. -/
def isOffset : List Char → Bool
  | [] | ['Z'] | ['z'] => true
  | [sign, a, b, ':', c, d] =>
    (sign = '+' || sign = '-') &&
      (pair? a b).any (· ≤ 23) && (pair? c d).any (· ≤ 59)
  | _ => false

/-- Whether a text is a date, a time, or both. -/
def isDateTime (text : List Char) : Bool :=
  match skipDate text with
  | some [] => true
  | some (separator :: rest) =>
    (separator = 'T' || separator = 't' || separator = ' ') && (skipTime rest).any isOffset
  | none => skipTime text = some []

/-- A scalar that is written without quotes. -/
def Scalar.ofBare? (text : List Char) : Option Scalar :=
  if text = ['t', 'r', 'u', 'e'] then some (.boolean true)
  else if text = ['f', 'a', 'l', 's', 'e'] then some (.boolean false)
  else if isSpecial text then some .special
  else if isDateTime text then some .dateTime
  else number? text

end StatusDigest.Toml
