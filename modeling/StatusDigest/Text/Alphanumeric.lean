import StatusDigest.Text.Alphabetic
import StatusDigest.Text.Numeric

/-!
# Letters and numbers

Names are made of letters and numbers: the target of a log directive starts with one of them, and
the name of a group in a pattern goes on with them.
-/

namespace StatusDigest.Text

/-- A character is alphanumeric when it is a letter or a number. -/
def isAlphanumeric (c : Char) : Bool :=
  isAlphabetic c || isNumeric c

example : ['é', '½', '〇', '\u1C89', '\u00AD'].map isAlphanumeric =
    [true, true, true, true, false] := by
  decide +kernel

end StatusDigest.Text
