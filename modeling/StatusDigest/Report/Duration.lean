import StatusDigest.Decimal.Text

/-!
# Durations

A number of seconds is written as days, hours, minutes and seconds.
-/

namespace StatusDigest

/-- The days, hours, minutes and seconds of a duration. All but the days stay below the next
greater unit. -/
structure Duration where
  days : Nat
  hours : Nat
  minutes : Nat
  seconds : Nat
deriving DecidableEq, Repr

namespace Duration

/-- Splits a number of seconds. -/
def ofSeconds (total : Nat) : Duration where
  days := total / 86400
  hours := total % 86400 / 3600
  minutes := total % 3600 / 60
  seconds := total % 60

/-- The four numbers, each followed by the letter of its unit. -/
def text (duration : Duration) : String :=
  Decimal.naturalText duration.days ++ "d " ++ Decimal.naturalText duration.hours ++ "h " ++
    Decimal.naturalText duration.minutes ++ "m " ++ Decimal.naturalText duration.seconds ++ "s"

end Duration

/-- The text of a number of seconds as a duration. -/
def durationText (seconds : UInt64) : String :=
  (Duration.ofSeconds seconds.toNat).text

end StatusDigest
