/-!
# Integers and rounded numbers in decimal text

* `naturalText` and `integerText` write an integer with its decimal digits, without leading
  zeros, and with a minus sign if it is negative.
* `fixedText` writes a fraction with a fixed number of places. It rounds the exact value to the
  nearest, and a value halfway between two goes to the one with the even last digit.
-/

namespace StatusDigest.Decimal

/-- The decimal digits of a natural number. -/
def naturalText (n : Nat) : String :=
  String.ofList (Nat.toDigits 10 n)

/-- The decimal digits of an integer, behind a minus sign if it is negative. -/
def integerText (i : Int) : String :=
  if i < 0 then "-" ++ naturalText i.natAbs else naturalText i.natAbs

/-- The text of a signed word. -/
def int64Text (i : Int64) : String :=
  integerText i.toInt

/-- The text of an unsigned word. -/
def uint64Text (n : UInt64) : String :=
  naturalText n.toNat

/-- A quotient rounded to the nearest integer; of two equally near ones the even one is taken. -/
def roundDiv (numerator denominator : Nat) : Nat :=
  let quotient := numerator / denominator
  let twice := 2 * (numerator % denominator)
  if twice < denominator ∨ twice = denominator ∧ quotient % 2 = 0 then quotient else quotient + 1

/-- The digits of a natural number, with zeros in front up to a width. -/
def paddedDigits (width n : Nat) : List Char :=
  let digits := Nat.toDigits 10 n
  List.replicate (width - digits.length) '0' ++ digits

/-- A fraction with so many digits after the point. -/
def fixedText (places numerator denominator : Nat) : String :=
  let unit := Nat.pow 10 places
  let scaled := roundDiv (numerator * unit) denominator
  naturalText (scaled / unit) ++ "." ++ String.ofList (paddedDigits places (scaled % unit))

/-- Halves go to the even neighbour. -/
example : [fixedText 3 1 16, fixedText 3 3 16, fixedText 3 1 3] = ["0.062", "0.188", "0.333"] := by
  decide

end StatusDigest.Decimal
