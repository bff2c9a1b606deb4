import StatusDigest.Decimal.Numeral
import StatusDigest.Text.Blank
import StatusDigest.Text.Pieces

/-!
# Values of fields

Every value can be read as whatever its field asks for. The number at the start of the value
counts, after blank characters; what follows it is ignored, and a value that does not start with
a number reads as zero.
-/

namespace StatusDigest.Dump.Field

/-- The integer at the start of a text, clamped to 64 bits. -/
def integerOf (text : List Char) : Int64 :=
  .ofIntClamp (Decimal.leadingInteger (Text.dropBlank text))

/-- The value as an integer, clamped to 64 bits. -/
def integer (raw : String) : Int64 :=
  integerOf raw.toList

/-- The value as a floating-point number. -/
def real (raw : String) : Float :=
  match Decimal.leadingNumeral (Text.dropBlank raw.toList) with
  | some (numeral, _) => numeral.toFloat
  | none => 0.0

/-- The value as a flag: anything above zero is set. -/
def flag (raw : String) : Bool :=
  0 < integer raw

/-- The value as up to three integers with commas between them. Blank pieces are skipped, missing
integers are zero, and what follows the third is ignored. -/
def triple (raw : String) : Int64 × Int64 × Int64 :=
  let filled := (Text.pieces ',' raw.toList).filter fun piece => !Text.allBlank piece
  match filled.map integerOf with
  | [] => (0, 0, 0)
  | [x] => (x, 0, 0)
  | [x, y] => (x, y, 0)
  | x :: y :: z :: _ => (x, y, z)

end StatusDigest.Dump.Field
