import StatusDigest.Pattern.Span

/-!
# What is wrong with a pattern

A fault has a cause and the span of the pattern that it is about. Some causes are about two spans,
such as a name that is given twice.
-/

namespace StatusDigest.Pattern

/-- How deep the parts of a pattern may be nested. -/
def depthLimit : Nat := 250

/-- What can be wrong with a pattern. -/
inductive Cause where
  -- Groups and their flags
  | groupUnclosed
  | groupUnopened
  | lookAround
  | nameUnclosed
  | nameEmpty
  | nameInvalid
  | nameTwice
  | flagMissing
  | flagUnknown
  | flagTwice
  | negationTwice
  | negationDangling
  -- Repetitions
  | nothingRepeated
  | countUnclosed
  | countEmpty
  | countTooLarge
  -- Escapes
  | escapeCut
  | escapeUnknown
  | backReference
  | hexDigitInvalid
  | hexNoCharacter
  | propertyInvalid
  | boundaryUnclosed
  | boundaryCut
  -- Sets of characters
  | setUnclosed
  | setEscape
  | rangeBound
  | rangeEmpty
  -- The pattern as a whole
  | tooDeep
  -- What a pattern asks for in vain
  | unicodeNotAllowed
  | notText
  | noProperty
  | noUnicodeShorthand
  | noUnicodeCase
deriving DecidableEq, Repr

/-- The text of a cause. -/
def Cause.message : Cause → String
  | .groupUnclosed => "unclosed group"
  | .groupUnopened => "unopened group"
  | .lookAround => "look-around, including look-ahead and look-behind, is not supported"
  | .nameUnclosed => "unclosed capture group name"
  | .nameEmpty => "empty capture group name"
  | .nameInvalid => "invalid capture group character"
  | .nameTwice => "duplicate capture group name"
  | .flagMissing => "expected flag but got end of regex"
  | .flagUnknown => "unrecognized flag"
  | .flagTwice => "duplicate flag"
  | .negationTwice => "flag negation operator repeated"
  | .negationDangling => "dangling flag negation operator"
  | .nothingRepeated => "repetition operator missing expression"
  | .countUnclosed => "unclosed counted repetition"
  | .countEmpty => "repetition quantifier expects a valid decimal"
  | .countTooLarge => "decimal literal invalid"
  | .escapeCut => "incomplete escape sequence, reached end of pattern prematurely"
  | .escapeUnknown => "unrecognized escape sequence"
  | .backReference => "backreferences are not supported"
  | .hexDigitInvalid => "invalid hexadecimal digit"
  | .hexNoCharacter => "hexadecimal literal is not a Unicode scalar value"
  | .propertyInvalid => "invalid Unicode character class"
  | .boundaryUnclosed =>
    "special word boundary assertion is either unclosed or contains an invalid character"
  | .boundaryCut =>
    "found either the beginning of a special word boundary or a bounded repetition on a \\b " ++
      "with an opening brace, but no closing brace"
  | .setUnclosed => "unclosed character class"
  | .setEscape => "invalid escape sequence found in character class"
  | .rangeBound => "invalid range boundary, must be a literal"
  | .rangeEmpty => "invalid character class range, the start must be <= the end"
  | .tooDeep =>
    "exceed the maximum number of nested parentheses/brackets (" ++ toString depthLimit ++ ")"
  | .unicodeNotAllowed => "Unicode not allowed here"
  | .notText => "pattern can match invalid UTF-8"
  | .noProperty => "Unicode property not found"
  | .noUnicodeShorthand =>
    "Unicode-aware Perl class not found (make sure the unicode-perl feature is enabled)"
  | .noUnicodeCase =>
    "Unicode-aware case insensitivity matching is not available (make sure the unicode-case " ++
      "feature is enabled)"

/-- What is wrong with a pattern, and where. -/
structure Fault where
  cause : Cause
  span : Span
  /-- Where the part stands that the faulty one repeats. -/
  earlier : Option Span := none
deriving DecidableEq, Repr

/-- Fails for a cause at a span. -/
def fail {α : Type} (cause : Cause) (span : Span) : Except Fault α :=
  .error { cause, span }

end StatusDigest.Pattern
