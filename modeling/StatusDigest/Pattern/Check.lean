import StatusDigest.Pattern.Depth
import StatusDigest.Pattern.Notes
import StatusDigest.Pattern.Reader
import StatusDigest.Pattern.Support

/-!
# Checking patterns

A pattern can be used if it is well-formed, is not nested too deep, asks for nothing that matching
cannot do, and has no condition on words that are not only made of ASCII.
-/

namespace StatusDigest.Pattern

/-- Why a pattern cannot be used. -/
inductive Refusal where
  | faulty (pattern : List Char) (fault : Fault)
  /-- The pattern has a condition on words that are not only made of ASCII. -/
  | unicodeWords
deriving DecidableEq, Repr

/-- The texts of a refusal and of the reasons behind it. -/
def Refusal.causes : Refusal → List String
  | .faulty pattern fault =>
    ["error building NFA", "error parsing regex", fault.text pattern]
  | .unicodeWords =>
    ["unsupported regex feature for DFAs: cannot build DFAs for regexes with Unicode word " ++
      "boundaries; switch to ASCII word boundaries, or heuristically enable Unicode word " ++
      "boundaries or use a different regex engine"]

/-- The modes behind a pattern, if nothing is wrong with it. -/
def modesBehind (pattern : List Char) : Except Fault Modes := do
  let tree ← Tree.ofPattern pattern
  match tree.tooDeep? 0 with
  | some span => fail .tooDeep span
  | none => tree.check {}

/-- Checks whether a pattern can be used. -/
def check (pattern : List Char) : Except Refusal Unit :=
  match modesBehind pattern with
  | .error fault => .error (.faulty pattern fault)
  | .ok modes => if modes.unicodeWords then .error .unicodeWords else .ok ()

/-- Whether a pattern can be used. -/
def isUsable (pattern : String) : Bool :=
  (check pattern.toList).isOk

example : ["", "a|b+", "[^a-z]", "(?x) a # b", "(?-u)\\d\\b"].all isUsable := by
  decide +kernel

example : ["*", "(a", "a)", "[z-a]", "\\q", "\\d", "\\b", "(?i)a"].all fun p => !isUsable p := by
  decide +kernel

end StatusDigest.Pattern
