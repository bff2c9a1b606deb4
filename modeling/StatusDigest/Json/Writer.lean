import StatusDigest.Decimal.Shortest
import StatusDigest.Decimal.Text
import StatusDigest.Json.Value

/-!
# Writing values

Values are written over several lines, each member of a record on a line of its own and two
spaces further in than the record.

* Strings are escaped as little as JSON allows: quotes, backslashes and control characters.
* A floating-point number is written with the fewest digits that read back. It has a point or an
  exponent; the point stands within the digits or next to them from `1e-5` up to `1e+16`, and an
  exponent with its sign is written beyond. What is not a finite number is written as `null`.
-/

namespace StatusDigest.Json

/-! ## Strings -/

/-- A hexadecimal digit in lower case. -/
def hexDigit (n : Nat) : Char :=
  Nat.digitChar n

/-- A character as it stands in a string. -/
def escape (c : Char) : List Char :=
  match c with
  | '"' => ['\\', '"']
  | '\\' => ['\\', '\\']
  | '\x08' => ['\\', 'b']
  | '\x0c' => ['\\', 'f']
  | '\n' => ['\\', 'n']
  | '\r' => ['\\', 'r']
  | '\t' => ['\\', 't']
  | c =>
    if c.toNat < 0x20 then
      ['\\', 'u', '0', '0', hexDigit (c.toNat / 16), hexDigit (c.toNat % 16)]
    else [c]

/-- A text in quotes. -/
def quote (text : String) : List Char :=
  '"' :: text.toList.flatMap escape ++ ['"']

/-! ## Numbers -/

/-- An exponent with its sign. -/
def exponentText (exponent : Int) : List Char :=
  (if 0 ≤ exponent then ['+'] else []) ++ (Decimal.integerText exponent).toList

/-- A coefficient with its power of ten. The first digit stands at ten to the power of
`position - 1`. -/
def decimalText (coefficient : Nat) (power : Int) : List Char :=
  let digits := Nat.toDigits 10 coefficient
  let position := digits.length + power
  if 0 ≤ power ∧ position ≤ 16 then
    digits ++ List.replicate power.toNat '0' ++ ['.', '0']
  else if 0 < position ∧ position ≤ 16 then
    digits.take position.toNat ++ '.' :: digits.drop position.toNat
  else if -5 < position ∧ position ≤ 0 then
    '0' :: '.' :: List.replicate (-position).toNat '0' ++ digits
  else
    let exponent := 'e' :: exponentText (position - 1)
    match digits with
    | [digit] => digit :: exponent
    | digit :: more => digit :: '.' :: more ++ exponent
    | [] => exponent

/-- A minus sign for negative numbers. -/
def signText : Float.Model.UnpackedFloat.Sign → List Char
  | .positive => []
  | .negative => ['-']

/-- The word for what has no value. -/
def nullText : List Char :=
  ['n', 'u', 'l', 'l']

/-- A floating-point number. -/
def realText (x : Float) : List Char :=
  match x.toModel.unpack with
  | .notANumber | .infinity _ => nullText
  | .zero sign => signText sign ++ ['0', '.', '0']
  | .finite sign significand exponent _ =>
    let (coefficient, power) := Decimal.Binary.shortest { significand, exponent }
    signText sign ++ decimalText coefficient power

/-! ## Values -/

/-- A line feed and the spaces of a depth. -/
def newLine (depth : Nat) : List Char :=
  '\n' :: List.replicate (2 * depth) ' '

mutual

/-- A value as it stands in a record of the given depth. -/
def Value.write (depth : Nat) : Value → List Char
  | .integer i => (Decimal.integerText i).toList
  | .real x => realText x
  | .text s => quote s
  | .absent => nullText
  | .record [] => ['{', '}']
  | .record (field :: fields) =>
    '{' :: Value.writeField (depth + 1) field ++ Value.writeFields (depth + 1) fields ++
      newLine depth ++ ['}']

/-- A field on a line of its own. -/
def Value.writeField (depth : Nat) : String × Value → List Char
  | (name, value) => newLine depth ++ quote name ++ [':', ' '] ++ value.write depth

/-- Further fields, each behind a comma. -/
def Value.writeFields (depth : Nat) : List (String × Value) → List Char
  | [] => []
  | field :: fields => ',' :: Value.writeField depth field ++ Value.writeFields depth fields

end

/-- The text of a value. -/
def Value.render (value : Value) : String :=
  String.ofList (value.write 0)

end StatusDigest.Json
