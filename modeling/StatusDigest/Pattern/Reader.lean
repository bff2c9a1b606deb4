import StatusDigest.Pattern.BracketSet
import StatusDigest.Pattern.Group

/-!
# Reading patterns

A pattern is read part by part. `Branches` holds the alternatives of the group that is being read,
and the groups around it wait in a list, the innermost one first. A repetition takes the part
before it, so it needs one, and flags are none. A repetition with a count stands in braces, so it
is never complete.
-/

namespace StatusDigest.Pattern

/-! ## Alternatives -/

/-- The alternatives of a group, as far as they have been read. -/
structure Branches where
  start : Place
  /-- The alternatives that are complete, the latest one first. -/
  complete : List Tree := []
  /-- Where the alternative starts that is being read. -/
  current : Place
  /-- The parts of that alternative, the latest one first. -/
  parts : List Tree := []

namespace Branches

/-- Alternatives that start at a place. -/
def startAt (place : Place) : Branches :=
  { start := place, current := place }

/-- Adds a part. -/
def add (branches : Branches) (part : Tree) : Branches :=
  { branches with parts := part :: branches.parts }

/-- The alternative that is being read, if it ends at a place. -/
def last (branches : Branches) (stop : Place) : Tree :=
  match branches.parts with
  | [] => .empty { start := branches.current, stop }
  | [part] => part
  | parts => .concat { start := branches.current, stop } parts.reverse

/-- Goes on with another alternative, behind the bar at a cursor. -/
def divide (branches : Branches) (bar : Cursor) : Branches :=
  { branches with
    complete := branches.last bar.place :: branches.complete
    current := bar.next.place
    parts := [] }

/-- All alternatives, if they end at a place. -/
def close (branches : Branches) (stop : Place) : Tree :=
  match branches.complete with
  | [] => branches.last stop
  | complete =>
    .alternation { start := branches.start, stop } (branches.last stop :: complete).reverse

/-- The last part and what stands before it, for a repetition at a cursor. -/
def takeLast (branches : Branches) (cursor : Cursor) : Except Fault (Tree × Branches) :=
  match branches.parts with
  | [] | .flags .. :: _ => fail .nothingRepeated cursor.here
  | part :: parts => .ok (part, { branches with parts })

end Branches

/-! ## Groups -/

/-- A group whose closing parenthesis has not been read. -/
structure OpenGroup where
  /-- The span of its opening parenthesis. -/
  opening : Span
  flags : Flags
  /-- Whether the pattern was loose before the group. -/
  loose : Bool
  /-- The alternatives around the group. -/
  branches : Branches

/-- A pattern as far as it has been read. -/
structure Draft where
  cursor : Cursor
  branches : Branches
  enclosing : List OpenGroup := []
  /-- The names of groups and where they are given. -/
  names : List (List Char × Span) := []

namespace Draft

/-- A pattern of which nothing has been read. -/
def start (pattern : List Char) : Draft :=
  let cursor : Cursor := { rest := pattern }
  { cursor, branches := .startAt cursor.place }

/-- Adds a part that ends at a cursor. -/
def add (draft : Draft) (part : Tree) (cursor : Cursor) : Draft :=
  { draft with cursor, branches := draft.branches.add part }

/-- Enters a group whose content starts at a cursor. -/
def enter (draft : Draft) (flags : Flags) (cursor : Cursor) : Draft :=
  let group : OpenGroup :=
    { opening := draft.cursor.charSpan
      flags
      loose := cursor.loose
      branches := draft.branches }
  { draft with
    cursor := { cursor with loose := flags.update .loose cursor.loose }
    branches := .startAt cursor.place
    enclosing := group :: draft.enclosing }

/-- Reads an opening parenthesis. -/
def openGroup (draft : Draft) : Except Fault Draft := do
  match ← readGroup draft.cursor with
  | (.flags span flags, cursor) =>
    return draft.add (.flags span flags)
      { cursor with loose := flags.update .loose cursor.loose }
  | (.group flags, cursor) => return draft.enter flags cursor
  | (.named name span, cursor) =>
    match draft.names.lookup name with
    | some earlier => .error { cause := .nameTwice, span, earlier := some earlier }
    | none => return { draft.enter [] cursor with names := (name, span) :: draft.names }

/-- Reads a closing parenthesis. -/
def closeGroup (draft : Draft) : Except Fault Draft :=
  match draft.enclosing with
  | [] => fail .groupUnopened draft.cursor.charSpan
  | group :: enclosing =>
    let stop := draft.cursor.next
    let tree : Tree :=
      .group { group.opening with stop := stop.place } group.flags
        (draft.branches.close draft.cursor.place)
    .ok
      { draft with
        cursor := { stop with loose := group.loose }
        branches := group.branches.add tree
        enclosing }

/-- Reads a sign of repetition, which may be followed by a question mark. -/
def repeatLast (draft : Draft) : Except Fault Draft := do
  let (part, branches) ← draft.branches.takeLast draft.cursor
  let stop := draft.cursor.next
  let stop := if stop.rest.head? = some '?' then stop.next else stop
  let tree : Tree := .repetition { part.span with stop := stop.place } part
  return { draft with cursor := stop, branches := branches.add tree }

/-- Reads the count of a repetition, which is never complete. -/
def repeatCounted (draft : Draft) : Except Fault Draft := do
  let _ ← draft.branches.takeLast draft.cursor
  let inside := draft.cursor.nextSpaced
  let blanks := inside.rest.takeWhile Text.isBlank
  let first := inside.skip blanks.length
  let (digits, stop) := first.takeSpaced Char.isDigit
  let (_, last) := stop.takeSpaced Text.isBlank
  if last.rest.isEmpty then fail .countUnclosed (draft.cursor.spanTo last)
  else if digits.isEmpty then fail .countEmpty first.here
  else if Nat.pow 2 32 ≤ Nat.ofDigitChars 10 digits 0 then fail .countTooLarge (first.spanTo stop)
  else fail .countUnclosed (draft.cursor.spanTo last)

/-- Reads one part. -/
def step (draft : Draft) (c : Char) : Except Fault Draft :=
  let cursor := draft.cursor
  match c with
  | '(' => draft.openGroup
  | ')' => draft.closeGroup
  | '|' => .ok { draft with cursor := cursor.next, branches := draft.branches.divide cursor }
  | '[' => do
    let (set, cursor) ← readSet cursor
    return draft.add (.set set) cursor
  | '?' | '*' | '+' => draft.repeatLast
  | '\x7b' => draft.repeatCounted
  | '\\' => do
    let (part, cursor) ← readEscape cursor
    return draft.add part cursor
  | '.' => .ok (draft.add (.anyChar cursor.charSpan) cursor.next)
  | '^' | '$' => .ok (draft.add (.assertion cursor.charSpan false) cursor.next)
  | c => .ok (draft.add (.literal { span := cursor.charSpan, char := c }) cursor.next)

/-- Reads the rest of a pattern, in so many steps at most. -/
def run : Nat → Draft → Except Fault Draft
  | 0, draft => .ok draft
  | steps + 1, draft =>
    let cursor := draft.cursor.skipSpace
    match cursor.rest with
    | [] => .ok { draft with cursor }
    | c :: _ => do run steps (← step { draft with cursor } c)

/-- The pattern that has been read, if all groups are closed. -/
def finish (draft : Draft) : Except Fault Tree :=
  match draft.enclosing with
  | [] => .ok (draft.branches.close draft.cursor.place)
  | group :: _ => fail .groupUnclosed group.opening

end Draft

/-- Reads a pattern. Each step reads at least one character, and one more step finds the end. -/
def Tree.ofPattern (pattern : List Char) : Except Fault Tree := do
  (← (Draft.start pattern).run (pattern.length + 1)).finish

end StatusDigest.Pattern
