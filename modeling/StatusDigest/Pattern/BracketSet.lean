import StatusDigest.Pattern.Escape

/-!
# Sets in brackets

A set in brackets lists characters, ranges and other sets, and joins such lists by operators. A
hyphen at the start of a set stands for itself, and so does a closing bracket there.

While a set is read, `OpenSet` holds what has been read of it; the sets around it wait in a list,
the innermost one first.
-/

namespace StatusDigest.Pattern

/-! ## Lists of items -/

/-- The items of a set since its last operator, the latest one first. -/
structure Items where
  span : Span
  items : List CharSet := []

namespace Items

/-- Adds an item. -/
def add (list : Items) (item : CharSet) : Items :=
  { span :=
      { start := if list.items.isEmpty then item.span.start else list.span.start
        stop := item.span.stop }
    items := item :: list.items }

/-- The set of all items. -/
def toCharSet (list : Items) : CharSet :=
  match list.items with
  | [] => .empty list.span
  | [item] => item
  | items => .union list.span items.reverse

end Items

/-! ## Open sets -/

/-- A set whose closing bracket has not been read. -/
structure OpenSet where
  /-- The span from the bracket to the first item. -/
  opening : Span
  negated : Bool
  /-- What stands before the last operator. -/
  left : Option CharSet := none
  /-- What stands after the last operator. -/
  items : Items

namespace OpenSet

/-- What has been read of a set. -/
def content (set : OpenSet) : CharSet :=
  let right := set.items.toCharSet
  match set.left with
  | none => right
  | some left => .operation { start := left.span.start, stop := right.span.stop } left right

/-- Adds an item. -/
def add (set : OpenSet) (item : CharSet) : OpenSet :=
  { set with items := set.items.add item }

/-- Goes on behind an operator. -/
def operate (set : OpenSet) (cursor : Cursor) : OpenSet :=
  { set with left := some set.content, items := { span := cursor.here } }

/-- The set with its closing bracket before a cursor. -/
def close (set : OpenSet) (cursor : Cursor) : CharSet :=
  .bracketed { set.opening with stop := cursor.place } set.negated set.content

end OpenSet

/-- Fails because a set has no closing bracket. -/
def failOpen {α : Type} (start cursor : Cursor) : Except Fault α :=
  fail .setUnclosed (start.spanTo cursor)

/-- Reads the hyphens at the start of a set, at most so many. -/
def readHyphens (start : Cursor) : Nat → Items → Cursor → Except Fault (Items × Cursor)
  | 0, items, cursor => .ok (items, cursor)
  | more + 1, items, cursor =>
    if cursor.rest.head? = some '-' then
      let items := items.add (.literal { span := cursor.charSpan, char := '-' })
      let cursor := cursor.nextSpaced
      if cursor.rest.isEmpty then failOpen start start else readHyphens start more items cursor
    else .ok (items, cursor)

/-- Reads the start of a set, at its bracket. -/
def readOpening (start : Cursor) : Except Fault (OpenSet × Cursor) :=
  let first := start.nextSpaced
  let negated := first.rest.head? = some '^'
  let first := if negated then first.nextSpaced else first
  if first.rest.isEmpty then failOpen start first
  else
    match readHyphens start first.rest.length { span := first.here } first with
    | .error fault => .error fault
    | .ok (items, cursor) =>
      if items.items.isEmpty && cursor.rest.head? = some ']' then
        let items := items.add (.literal { span := cursor.charSpan, char := ']' })
        let cursor := cursor.nextSpaced
        if cursor.rest.isEmpty then failOpen start cursor
        else .ok ({ opening := start.spanTo cursor, negated, items }, cursor)
      else .ok ({ opening := start.spanTo cursor, negated, items }, cursor)

/-! ## Items -/

/-- The names of sets that stand between colons. -/
def setNames : List String :=
  ["alnum", "alpha", "ascii", "blank", "cntrl", "digit", "graph", "lower", "print", "punct",
   "space", "upper", "word", "xdigit"]

/-- The set that is named at a bracket, if one is. -/
def namedSet? (start : Cursor) : Option (CharSet × Cursor) :=
  match start.rest with
  | '[' :: ':' :: text =>
    let negated := text.head? = some '^'
    let text := if negated then text.drop 1 else text
    let name := text.takeWhile (· ≠ ':')
    match text.dropWhile (· ≠ ':') with
    | ':' :: ']' :: _ =>
      if String.ofList name ∈ setNames then
        let stop := start.skip (name.length + if negated then 5 else 4)
        some (.named (start.spanTo stop) negated, stop)
      else none
    | _ => none
  | _ => none

/-- Reads a character or an escape in a set. -/
def readMember (cursor : Cursor) : Except Fault (Tree × Cursor) :=
  match cursor.rest with
  | [] => fail .setUnclosed cursor.here
  | '\\' :: _ => readEscape cursor
  | c :: _ => .ok (.literal { span := cursor.charSpan, char := c }, cursor.next)

/-- What a set can hold: no conditions. -/
def Tree.toCharSet : Tree → Except Fault CharSet
  | .literal l => .ok (.literal l)
  | .shorthand span negated => .ok (.shorthand span negated)
  | .property span => .ok (.property span)
  | tree => fail .setEscape tree.span

/-- What a range can begin or end with: characters. -/
def Tree.toBound : Tree → Except Fault Literal
  | .literal l => .ok l
  | tree => fail .rangeBound tree.span

/-- The range between two members. -/
def rangeOf (first last : Tree) : Except Fault CharSet := do
  let span : Span := { start := first.span.start, stop := last.span.stop }
  let first ← first.toBound
  let last ← last.toBound
  if first.char ≤ last.char then return .range span first last else fail .rangeEmpty span

/-- Reads an item of the set with the given opening: a member, or a range between two members. A
hyphen before a closing bracket or before another hyphen makes no range. -/
def readItem (opening : Span) (cursor : Cursor) : Except Fault (CharSet × Cursor) := do
  let (first, cursor) ← readMember cursor
  let cursor := cursor.skipSpace
  if cursor.rest.isEmpty then fail .setUnclosed opening
  else if cursor.rest.head? ≠ some '-' ∨ cursor.peek = some ']' ∨ cursor.peek = some '-' then
    return (← first.toCharSet, cursor)
  else
    let cursor := cursor.nextSpaced
    if cursor.rest.isEmpty then fail .setUnclosed opening
    else
      let (last, cursor) ← readMember cursor
      return (← rangeOf first last, cursor)

/-! ## Sets -/

/-- Reads on in a set with other sets around it, in so many steps at most. -/
def readOn : Nat → OpenSet → List OpenSet → Cursor → Except Fault (CharSet × Cursor)
  | 0, set, _, _ => fail .setUnclosed set.opening
  | steps + 1, set, outer, cursor =>
    let cursor := cursor.skipSpace
    match cursor.rest with
    | [] => fail .setUnclosed set.opening
    | '[' :: _ =>
      match namedSet? cursor with
      | some (item, cursor) => readOn steps (set.add item) outer cursor
      | none => do
        let (inner, cursor) ← readOpening cursor
        readOn steps inner (set :: outer) cursor
    | ']' :: _ =>
      let closed := set.close cursor.next
      match outer with
      | [] => .ok (closed, cursor.next)
      | set :: outer => readOn steps (set.add closed) outer cursor.next
    | '&' :: '&' :: _ | '-' :: '-' :: _ | '~' :: '~' :: _ =>
      readOn steps (set.operate (cursor.skip 2)) outer (cursor.skip 2)
    | _ => do
      let (item, cursor) ← readItem set.opening cursor
      readOn steps (set.add item) outer cursor

/-- Reads a set in brackets, at its opening bracket. Each step reads at least one character. -/
def readSet (start : Cursor) : Except Fault (CharSet × Cursor) := do
  let (set, cursor) ← readOpening start
  readOn (start.rest.length + 1) set [] cursor

end StatusDigest.Pattern
