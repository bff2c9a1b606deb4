/-!
# Running statistics of one series

A series keeps the number of its samples, their least and greatest, and their average, and
forgets the samples. Without samples it has neither a least nor a greatest one, so that "no data"
is not mistaken for zero.

The average moves towards each new sample by the difference divided by the size of the population
that the sample stands in. Usually that is the number of samples; a larger population damps the
average, and a smaller one is not accepted.
-/

namespace StatusDigest.Stats

/-- The running statistics of a series of numbers. -/
structure Series where
  count : UInt64 := 0
  minimum : Option Float := none
  maximum : Option Float := none
  average : Float := 0.0
deriving DecidableEq

namespace Series

/-- The lesser of a new sample and the least one so far. Of equal ones the earlier stays. -/
def lesser (sample : Float) : Option Float → Float
  | none => sample
  | some least => if sample < least then sample else least

/-- The greater of a new sample and the greatest one so far. Of equal ones the earlier stays. -/
def greater (sample : Float) : Option Float → Float
  | none => sample
  | some greatest => if greatest < sample then sample else greatest

/-- An average after one more sample: it moves towards the sample by the difference divided by the
size of the population. The same step makes sense in every kind of number. -/
def moved {α : Type} [Add α] [Sub α] [Div α] (average sample size : α) : α :=
  average + (sample - average) / size

/-- Adds a sample that stands in a population of the given size, or of the number of samples if
that is larger. -/
def pushOver (series : Series) (sample : Float) (population : UInt64) : Series :=
  let count := series.count + 1
  let size := max population count
  { count
    minimum := some (lesser sample series.minimum)
    maximum := some (greater sample series.maximum)
    average := moved series.average sample size.toFloat }

/-- Adds a sample that stands in the population of all samples so far. -/
def push (series : Series) (sample : Float) : Series :=
  series.pushOver sample (series.count + 1)

/-- A series without samples. -/
def isEmpty (series : Series) : Bool :=
  series.count = 0

/-- The average, if there is a sample. -/
def mean (series : Series) : Option Float :=
  if series.isEmpty then none else some series.average

/-- The least sample, the greatest and the average, if there are all three. -/
def triple (series : Series) : Option (Float × Float × Float) := do
  let least ← series.minimum
  let greatest ← series.maximum
  let mean ← series.mean
  return (least, greatest, mean)

end Series

end StatusDigest.Stats
