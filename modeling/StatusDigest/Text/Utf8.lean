/-!
# Octets to characters

UTF-8 is read octet by octet with a small state: either nothing is pending, or a number of
continuation octets is expected, the next of them within a given range. The narrow first range
after the lead octets `E0`, `ED`, `F0` and `F4` is what excludes over-long forms, surrogates and
values beyond `U+10FFFF`.

* `scan` lists what the octets hold: a character, or `none` for each maximal ill-formed part.
* `repair` puts `U+FFFD` in place of each ill-formed part.
* `decode?` accepts well-formed octets only.
-/

namespace StatusDigest.Text.Utf8

/-- What an unfinished character still needs. -/
inductive Pending where
  /-- The next octet starts a character. -/
  | nothing
  /-- So many continuation octets follow, the first between `low` and `high`; `value` holds the
  bits read so far. -/
  | continuation (count : Nat) (low high : UInt8) (value : Nat)
deriving DecidableEq, Repr

/-- Reads an octet that starts a character. -/
def start (octet : UInt8) : List (Option Char) × Pending :=
  if octet ≤ 0x7F then ([some (Char.ofNat octet.toNat)], .nothing)
  else if octet < 0xC2 then ([none], .nothing)
  else if octet ≤ 0xDF then ([], .continuation 1 0x80 0xBF (octet.toNat - 0xC0))
  else if octet = 0xE0 then ([], .continuation 2 0xA0 0xBF 0)
  else if octet = 0xED then ([], .continuation 2 0x80 0x9F 0xD)
  else if octet ≤ 0xEF then ([], .continuation 2 0x80 0xBF (octet.toNat - 0xE0))
  else if octet = 0xF0 then ([], .continuation 3 0x90 0xBF 0)
  else if octet ≤ 0xF3 then ([], .continuation 3 0x80 0xBF (octet.toNat - 0xF0))
  else if octet = 0xF4 then ([], .continuation 3 0x80 0x8F 4)
  else ([none], .nothing)

/-- Reads one octet. An octet that does not continue an unfinished character ends that character
as ill-formed and starts the next. -/
def step : Pending → UInt8 → List (Option Char) × Pending
  | .nothing, octet => start octet
  | .continuation count low high value, octet =>
    if low ≤ octet ∧ octet ≤ high then
      let value := value * 64 + (octet.toNat - 0x80)
      if count ≤ 1 then ([some (Char.ofNat value)], .nothing)
      else ([], .continuation (count - 1) 0x80 0xBF value)
    else
      let (read, pending) := start octet
      (none :: read, pending)

/-- Reads octets from a given state; a character that is unfinished at the end is ill-formed. -/
def scanFrom : Pending → List UInt8 → List (Option Char)
  | .nothing, [] => []
  | .continuation .., [] => [none]
  | pending, octet :: rest =>
    let (read, pending) := step pending octet
    read ++ scanFrom pending rest

/-- The characters that the octets hold, with `none` for each maximal ill-formed part. -/
def scan (octets : List UInt8) : List (Option Char) :=
  scanFrom .nothing octets

/-- The character that stands for octets that are not well-formed. -/
def replacement : Char := '\uFFFD'

/-- The text of any octets: each maximal ill-formed part reads as `U+FFFD`. -/
def repair (octets : List UInt8) : List Char :=
  (scan octets).map fun read => read.getD replacement

/-- The text of well-formed octets, and nothing if any part is ill-formed. -/
def decode? (octets : List UInt8) : Option (List Char) :=
  (scan octets).mapM id

/-- The octets of a text. -/
def encode (text : String) : List UInt8 :=
  text.toUTF8.toList

example : repair [0xE2, 0x82, 0x41, 0xF0, 0x9F, 0x98, 0x80, 0xED, 0xA0] =
    ['\uFFFD', 'A', '😀', '\uFFFD', '\uFFFD'] := by decide

end StatusDigest.Text.Utf8
