import StatusDigest.Pattern.Cursor
import StatusDigest.Pattern.Escape
import StatusDigest.Text.Alphanumeric

/-!
# The start of a group

A question mark behind the opening parenthesis of a group says what kind of group it is: one with
a name, one with flags, or flags alone. Groups that look ahead or behind are not supported.
-/

namespace StatusDigest.Pattern

/-- What an opening parenthesis begins. -/
inductive Opening where
  /-- Flags alone; the closing parenthesis has been read as well. -/
  | flags (span : Span) (flags : Flags)
  /-- A group with flags, which may be none. -/
  | group (flags : Flags)
  /-- A group with a name. -/
  | named (name : List Char) (span : Span)

/-! ## Names -/

/-- Whether a name can start with a character. -/
def startsName (c : Char) : Bool :=
  c = '_' || Text.isAlphabetic c

/-- Whether a name can go on with a character. -/
def inName (c : Char) : Bool :=
  c = '_' || c = '.' || c = '[' || c = ']' || Text.isAlphanumeric c

/-- Reads the name of a group and the angle bracket behind it. -/
def readName (start : Cursor) : Except Fault (Opening × Cursor) :=
  let letters := start.rest.takeWhile inName
  let startsWell := letters.head?.all startsName
  let stop := if startsWell then start.skip letters.length else start
  match stop.rest with
  | [] => fail .nameUnclosed stop.here
  | '>' :: _ =>
    if letters.isEmpty then fail .nameEmpty start.here
    else .ok (.named letters (start.spanTo stop), stop.next)
  | _ => fail .nameInvalid stop.charSpan

/-! ## Flags -/

/-- Adds an item to the items before it, the latest of which comes first. -/
def addFlag (items : List FlagItem) (item : FlagItem) : Except Fault (List FlagItem) :=
  match items.find? fun other => other.flag = item.flag with
  | none => .ok (item :: items)
  | some other =>
    .error
      { cause := if item.flag.isNone then .negationTwice else .flagTwice
        span := item.span
        earlier := some other.span }

/-- Reads the item at a cursor, which a given character stands at. -/
def readFlag (c : Char) (cursor : Cursor) : Except Fault FlagItem :=
  if c = '-' then .ok { span := cursor.charSpan, flag := none }
  else
    match Flag.ofChar? c with
    | some flag => .ok { span := cursor.charSpan, flag := some flag }
    | none => fail .flagUnknown cursor.charSpan

/-- Reads flags up to a colon or a closing parenthesis, at most so many, after the items before
them, the latest of which comes first. -/
def readFlags : Nat → List FlagItem → Cursor → Except Fault (Flags × Cursor)
  | 0, _, cursor => fail .flagMissing cursor.here
  | more + 1, items, cursor =>
    match cursor.rest with
    | [] => fail .flagMissing cursor.here
    | c :: _ =>
      if c = ':' ∨ c = ')' then
        match items with
        | { span, flag := none } :: _ => fail .negationDangling span
        | _ => .ok (items.reverse, cursor)
      else do
        let item ← readFlag c cursor
        readFlags more (← addFlag items item) cursor.next

/-! ## Groups -/

/-- Reads flags after the question mark at `mark` in the parenthesis at `start`. -/
def readFlagged (start mark : Cursor) : Except Fault (Opening × Cursor) := do
  let cursor := mark.next
  if cursor.rest.isEmpty then fail .groupUnclosed start.charSpan
  else
    let (flags, stop) ← readFlags (cursor.rest.length + 1) [] cursor
    if stop.rest.head? = some ':' then return (.group flags, stop.next)
    else if flags.isEmpty then fail .nothingRepeated mark.here
    else return (.flags (start.spanTo stop.next) flags, stop.next)

/-- Reads the start of a group, at its parenthesis. -/
def readGroup (start : Cursor) : Except Fault (Opening × Cursor) :=
  let mark := start.next.skipSpace
  match mark.rest with
  | '?' :: '!' :: _ => fail .lookAround (start.spanTo (mark.skip 2))
  | '?' :: '<' :: '!' :: _ => fail .lookAround (start.spanTo (mark.skip 3))
  | '?' :: 'P' :: '<' :: _ => readName (mark.skip 3)
  | '?' :: '<' :: _ => readName (mark.skip 2)
  | '?' :: _ => readFlagged start mark
  | _ => .ok (.group [], mark)

end StatusDigest.Pattern
