/-!
# Blank characters

The characters with the Unicode property `White_Space`, as a table of ranges. They are what a
number may be preceded by in a dump, and what a list of variable names may not consist of alone.
-/

namespace StatusDigest.Text

/-- The first and last code points of each run of blank characters, in ascending order. -/
def blankRanges : List (Nat × Nat) :=
  [(0x09, 0x0D), (0x20, 0x20), (0x85, 0x85), (0xA0, 0xA0), (0x1680, 0x1680), (0x2000, 0x200A),
   (0x2028, 0x2029), (0x202F, 0x202F), (0x205F, 0x205F), (0x3000, 0x3000)]

/-- A character is blank when its code point lies in one of the ranges of the table. -/
def isBlank (c : Char) : Bool :=
  blankRanges.any fun range => range.1 ≤ c.toNat && c.toNat ≤ range.2

/-- A text is blank when it holds nothing but blank characters; the empty text is blank. -/
def allBlank (text : List Char) : Bool :=
  text.all isBlank

/-- The text without the blank characters at its start. -/
def dropBlank (text : List Char) : List Char :=
  text.dropWhile isBlank

/-- Twenty-five characters are blank. -/
example : (blankRanges.map fun range => range.2 + 1 - range.1).sum = 25 := by decide

end StatusDigest.Text
