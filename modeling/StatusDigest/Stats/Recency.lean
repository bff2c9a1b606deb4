/-!
# How recently checks ran

Two kinds of counter go by minutes:

* `Windows` count the checks of the last 1, 5, 15 and 60 minutes. The windows are nested, so
  that one check may count in several of them.
* `Rates` are the three counts for 1, 5 and 15 minutes that the daemon reports about itself.
-/

namespace StatusDigest.Stats

/-! ## Windows -/

/-- The windows in which checks are counted. -/
inductive WindowSpan where
  | one
  | five
  | fifteen
  | sixty
deriving DecidableEq, Repr

namespace WindowSpan

/-- All windows, the shortest first. -/
def all : List WindowSpan :=
  [.one, .five, .fifteen, .sixty]

/-- The length of a window in minutes. -/
def minutes : WindowSpan → Nat
  | .one => 1
  | .five => 5
  | .fifteen => 15
  | .sixty => 60

/-- The length of a window in seconds. -/
def seconds (span : WindowSpan) : Int64 :=
  .ofNat (60 * span.minutes)

end WindowSpan

/-- Counts of checks within the last 1, 5, 15 and 60 minutes. -/
structure Windows where
  last1 : UInt64 := 0
  last5 : UInt64 := 0
  last15 : UInt64 := 0
  last60 : UInt64 := 0
deriving DecidableEq, Repr

namespace Windows

/-- The count of a window. -/
def within (windows : Windows) : WindowSpan → UInt64
  | .one => windows.last1
  | .five => windows.last5
  | .fifteen => windows.last15
  | .sixty => windows.last60

/-- The count of the window of so many minutes, if there is such a window. -/
def byMinutes (windows : Windows) (minutes : Nat) : Option UInt64 :=
  (WindowSpan.all.find? fun span => span.minutes = minutes).map windows.within

/-- The count of a window after a check of the given age. -/
def bump (windows : Windows) (age : Int64) (span : WindowSpan) : UInt64 :=
  if 0 ≤ age ∧ age ≤ span.seconds then windows.within span + 1 else windows.within span

/-- Counts a check of the given age in seconds. A check from the future counts nowhere. -/
def record (windows : Windows) (age : Int64) : Windows where
  last1 := windows.bump age .one
  last5 := windows.bump age .five
  last15 := windows.bump age .fifteen
  last60 := windows.bump age .sixty

end Windows

/-! ## Ages -/

/-- The difference of two times, if it fits in 64 bits. -/
def age? (now time : Int64) : Option Int64 :=
  let difference := now.toInt - time.toInt
  if Int64.minValue.toInt ≤ difference ∧ difference ≤ Int64.maxValue.toInt then
    some (.ofInt difference)
  else
    none

/-- The difference of two times, clamped to 64 bits. -/
def clampedAge (now time : Int64) : Int64 :=
  .ofIntClamp (now.toInt - time.toInt)

/-! ## Rates -/

/-- The spans over which the daemon reports its rates. -/
inductive RateSpan where
  | one
  | five
  | fifteen
deriving DecidableEq, Repr

namespace RateSpan

/-- All spans, the shortest first. -/
def all : List RateSpan :=
  [.one, .five, .fifteen]

/-- The length of a span in minutes. -/
def minutes : RateSpan → Nat
  | .one => 1
  | .five => 5
  | .fifteen => 15

end RateSpan

/-- Counts that the daemon reports for the last 1, 5 and 15 minutes. -/
structure Rates where
  last1 : Int64 := 0
  last5 : Int64 := 0
  last15 : Int64 := 0
deriving DecidableEq, Repr

namespace Rates

/-- The rates with the three given counts. -/
def ofTriple (counts : Int64 × Int64 × Int64) : Rates where
  last1 := counts.1
  last5 := counts.2.1
  last15 := counts.2.2

/-- The count over a span. -/
def within (rates : Rates) : RateSpan → Int64
  | .one => rates.last1
  | .five => rates.last5
  | .fifteen => rates.last15

/-- The count over so many minutes, if there is such a span. -/
def byMinutes (rates : Rates) (minutes : Nat) : Option Int64 :=
  (RateSpan.all.find? fun span => span.minutes = minutes).map rates.within

/-- The sum of two counts, clamped to 64 bits. -/
def clampedSum (x y : Int64) : Int64 :=
  .ofIntClamp (x.toInt + y.toInt)

/-- The sums of the counts, span by span. -/
def add (x y : Rates) : Rates where
  last1 := clampedSum x.last1 y.last1
  last5 := clampedSum x.last5 y.last5
  last15 := clampedSum x.last15 y.last15

instance : Add Rates := ⟨add⟩

end Rates

end StatusDigest.Stats
