import StatusDigest.Toml.Value

/-!
# Numbers in range

A document may write any number, but a reader that goes through a value has to hold its numbers:
an integer in 128 bits, with or without a sign, and a float that is written in digits in a finite
double.
-/

namespace StatusDigest.Toml

/-- What 127 bits cannot hold. -/
def signedLimit : Nat := Nat.pow 2 127

/-- What 128 bits cannot hold. -/
def unsignedLimit : Nat := Nat.pow 2 128

/-- Whether a scalar is no number, or a number in range. -/
def Scalar.inRange : Scalar → Bool
  | .unreadable => false
  | .integer i => -(signedLimit : Int) ≤ i && i < unsignedLimit
  | .float numeral => numeral.toFloat.isFinite
  | .text _ | .special | .boolean _ | .dateTime => true

mutual

/-- Whether all numbers of a node are in range. -/
def Node.inRange : Node → Bool
  | .scalar s => s.inRange
  | .array items => itemsInRange items
  | .table _ entries => entriesInRange entries
  | .tables elements => elementsInRange elements

/-- Whether all numbers of the items are in range. -/
def itemsInRange : List Node → Bool
  | [] => true
  | item :: items => item.inRange && itemsInRange items

/-- Whether all numbers of the entries are in range. -/
def entriesInRange : List (String × Node) → Bool
  | [] => true
  | (_, node) :: entries => node.inRange && entriesInRange entries

/-- Whether all numbers of the tables are in range. -/
def elementsInRange : List (List (String × Node)) → Bool
  | [] => true
  | entries :: elements => entriesInRange entries && elementsInRange elements

end

end StatusDigest.Toml
