import StatusDigest.Pattern.Fault
import StatusDigest.Pattern.Tree

/-!
# How deep a pattern is nested

Every part of a pattern that holds other parts is one level deeper than the part that it stands
in. `Tree.tooDeep?` is the first part beyond the limit, in the order in which the parts begin.
-/

namespace StatusDigest.Pattern

mutual

/-- The first part of a set that is too deep, with so many levels around the set. -/
def CharSet.tooDeep? (depth : Nat) : CharSet → Option Span
  | .bracketed span _ inner =>
    if depthLimit ≤ depth then some span else inner.tooDeep? (depth + 1)
  | .union span items =>
    if depthLimit ≤ depth then some span else firstSetTooDeep? (depth + 1) items
  | .operation span left right =>
    if depthLimit ≤ depth then some span
    else left.tooDeep? (depth + 1) <|> right.tooDeep? (depth + 1)
  | .empty _ | .literal _ | .range .. | .named .. | .shorthand .. | .property _ => none

/-- The first part of some sets that is too deep. -/
def firstSetTooDeep? (depth : Nat) : List CharSet → Option Span
  | [] => none
  | item :: items => item.tooDeep? depth <|> firstSetTooDeep? depth items

end

mutual

/-- The first part of a tree that is too deep, with so many levels around the tree. -/
def Tree.tooDeep? (depth : Nat) : Tree → Option Span
  | .set s => s.tooDeep? depth
  | .repetition span inner | .group span _ inner =>
    if depthLimit ≤ depth then some span else inner.tooDeep? (depth + 1)
  | .alternation span parts | .concat span parts =>
    if depthLimit ≤ depth then some span else firstTooDeep? (depth + 1) parts
  | .empty _ | .flags .. | .literal _ | .anyChar _ | .assertion .. | .shorthand ..
  | .property _ => none

/-- The first part of some trees that is too deep. -/
def firstTooDeep? (depth : Nat) : List Tree → Option Span
  | [] => none
  | tree :: trees => tree.tooDeep? depth <|> firstTooDeep? depth trees

end

end StatusDigest.Pattern
