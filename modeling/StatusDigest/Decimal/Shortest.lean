/-!
# The shortest decimal that reads back as a double

A finite double is `significand * 2 ^ exponent`. The real numbers that round to it form an
interval around it: it reaches half the gap to the next double on each side, and holds its ends
when the significand is even, because ties are rounded to even. Below a power of two the gap is
half as wide.

Among the decimals of the interval the shortest is looked for: on the grids of numbers with 1, 2,
up to 17 significant digits only the two neighbours of the double can lie in the interval if any
number of the grid does. The first grid with a hit decides, and of two hits the nearer one is
taken. Everything is compared exactly, in quarters of the gap.
-/

namespace StatusDigest.Decimal

/-- A positive double: its significand, below `2 ^ 53`, and its binary exponent. -/
structure Binary where
  significand : Nat
  exponent : Int
deriving DecidableEq, Repr

namespace Binary

/-- The double in quarters of its gap. -/
def quarters (x : Binary) : Nat :=
  4 * x.significand

/-- The lower end of the interval in quarters of the gap. -/
def lower (x : Binary) : Nat :=
  if x.significand = Nat.pow 2 52 ∧ -1074 < x.exponent then x.quarters - 1 else x.quarters - 2

/-- The upper end of the interval in quarters of the gap. -/
def upper (x : Binary) : Nat :=
  x.quarters + 2

/-- The numerator and the denominator of `10 ^ power` in quarters of the gap. -/
def gridStep (x : Binary) (power : Int) : Nat × Nat :=
  (Nat.pow 10 power.toNat * Nat.pow 2 (2 - x.exponent).toNat,
   Nat.pow 10 (-power).toNat * Nat.pow 2 (x.exponent - 2).toNat)

/-- Whether the multiple of a grid step lies in the interval. -/
def covers (x : Binary) (step : Nat × Nat) (multiple : Nat) : Bool :=
  let point := multiple * step.1
  let low := x.lower * step.2
  let high := x.upper * step.2
  if x.significand % 2 = 0 then low ≤ point && point ≤ high else low < point && point < high

/-- The nearest multiple of `10 ^ power` in the interval, if there is one. Of two equally near
ones the even one is taken. -/
def onGrid (x : Binary) (power : Int) : Option Nat :=
  let step := x.gridStep power
  let value := x.quarters * step.2
  let below := value / step.1
  let above := below + 1
  match x.covers step below, x.covers step above with
  | true, true =>
    let toBelow := value - below * step.1
    let toAbove := above * step.1 - value
    if toBelow < toAbove ∨ toBelow = toAbove ∧ below % 2 = 0 then some below else some above
  | true, false => some below
  | false, true => some above
  | false, false => none

/-- The power of ten of the first significant digit. The smallest double is above `10 ^ -400`. -/
def leadingPower (x : Binary) : Int :=
  let scaled :=
    x.significand * Nat.pow 10 400 * Nat.pow 2 x.exponent.toNat / Nat.pow 2 (-x.exponent).toNat
  (Nat.toDigits 10 scaled).length - 401

/-- The shortest decimal in the interval, as a coefficient and a power of ten. The coefficient
does not end in a zero. -/
def shortest (x : Binary) : Nat × Int :=
  let found := (List.range 17).findSome? fun (more : Nat) =>
    let power := x.leadingPower - more
    (x.onGrid power).map fun coefficient => (coefficient, power)
  match found with
  | some (coefficient, power) =>
    if coefficient % 10 = 0 then (coefficient / 10, power + 1) else (coefficient, power)
  | none => (0, 0)

end Binary

/-- One tenth, the least double, and two to the power of 89. -/
example : ([⟨7205759403792794, -56⟩, ⟨1, -1074⟩, ⟨2 ^ 52, 37⟩] : List Binary).map Binary.shortest =
    [(1, -1), (5, -324), (6189700196426902, 11)] := by
  decide +kernel

end StatusDigest.Decimal
