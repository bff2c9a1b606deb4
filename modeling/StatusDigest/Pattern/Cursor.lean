import StatusDigest.Pattern.Span
import StatusDigest.Text.Blank

/-!
# Reading along a pattern

A cursor is the part of a pattern that is still to be read, with its place. In a loose pattern
blank characters and comments may stand between the parts; a comment reaches from a hash sign to
the end of its line.
-/

namespace StatusDigest.Pattern

/-- A point that reading has come to. -/
structure Cursor where
  rest : List Char
  place : Place := {}
  /-- Whether the pattern is loose from here on. -/
  loose : Bool := false
deriving DecidableEq, Repr

namespace Cursor

/-- The empty span at a cursor. -/
def here (cursor : Cursor) : Span :=
  { start := cursor.place, stop := cursor.place }

/-- The span of the character at a cursor. -/
def charSpan (cursor : Cursor) : Span :=
  { start := cursor.place, stop := cursor.rest.head?.elim cursor.place cursor.place.after }

/-- The span from a cursor to a later one. -/
def spanTo (cursor later : Cursor) : Span :=
  { start := cursor.place, stop := later.place }

/-- Passes over one character. -/
def next (cursor : Cursor) : Cursor :=
  match cursor.rest with
  | [] => cursor
  | c :: rest => { cursor with rest, place := cursor.place.after c }

/-- Passes over so many characters. -/
def skip : Nat → Cursor → Cursor
  | 0, cursor => cursor
  | n + 1, cursor => skip n cursor.next

/-- Passes over blank characters and comments. -/
def passSpace (inComment : Bool) (place : Place) : List Char → Place × List Char
  | [] => (place, [])
  | c :: rest =>
    if inComment then passSpace (c ≠ '\n') (place.after c) rest
    else if Text.isBlank c then passSpace false (place.after c) rest
    else if c = '#' then passSpace true (place.after c) rest
    else (place, c :: rest)

/-- Passes over blank characters and comments in a loose pattern. -/
def skipSpace (cursor : Cursor) : Cursor :=
  if cursor.loose then
    let (place, rest) := passSpace false cursor.place cursor.rest
    { cursor with place, rest }
  else cursor

/-- Passes over one character, and over blank characters and comments behind it in a loose
pattern. -/
def nextSpaced (cursor : Cursor) : Cursor :=
  cursor.next.skipSpace

/-- The character behind the one at a cursor. In a loose pattern blank characters are looked
past, and so is the sign of a comment, but not the comment itself. -/
def peek (cursor : Cursor) : Option Char :=
  let behind := cursor.rest.drop 1
  if cursor.loose then
    match Text.dropBlank behind with
    | '#' :: comment => (Text.dropBlank comment).head? <|> behind.head?
    | c :: _ => some c
    | [] => behind.head?
  else behind.head?

/-- Takes characters while they are wanted, at most so many, each with the blank characters and
comments behind it in a loose pattern. -/
def takeUpTo (wanted : Char → Bool) : Nat → Cursor → List Char × Cursor
  | 0, cursor => ([], cursor)
  | n + 1, cursor =>
    match cursor.rest with
    | [] => ([], cursor)
    | c :: _ =>
      if wanted c then
        let (taken, stop) := takeUpTo wanted n cursor.nextSpaced
        (c :: taken, stop)
      else ([], cursor)

/-- Takes characters while they are wanted, each with the blank characters and comments behind it
in a loose pattern. -/
def takeSpaced (wanted : Char → Bool) (cursor : Cursor) : List Char × Cursor :=
  takeUpTo wanted cursor.rest.length cursor

end Cursor

end StatusDigest.Pattern
