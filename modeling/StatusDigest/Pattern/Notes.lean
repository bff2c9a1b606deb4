import StatusDigest.Pattern.Fault
import StatusDigest.Text.Pieces

/-!
# Faults with marks under the pattern

The text of a fault shows the pattern with carets under the span that the fault is about, and
under the earlier span if there is one. The lines of a pattern of several lines are numbered, and
the pattern stands between two rules; a span that goes on to another line is told by its places
instead of by carets.
-/

namespace StatusDigest.Pattern

/-- The lines of a text. A carriage return before a line feed belongs to the line's end, and the
end of the last line may be missing. -/
def linesOf (text : List Char) : List (List Char) :=
  let lines := Text.pieces '\n' text
  let ended := (lines.take (lines.length - 1)).map fun line =>
    if line.getLast? = some '\r' then line.dropLast else line
  match lines.getLast? with
  | none | some [] => ended
  | some last => ended ++ [last]

/-- A character, so many times. -/
def copies (n : Nat) (c : Char) : String :=
  String.ofList (List.replicate n c)

/-- How wide the numbers of the lines are; a single line has no number. A text that ends with a
line feed has one more line, because a span can stand there. -/
def numberWidth (pattern : List Char) : Nat :=
  let count := (linesOf pattern).length + if pattern.getLast? = some '\n' then 1 else 0
  if count ≤ 1 then 0 else (Nat.toDigits 10 count).length

/-- What stands before a line. -/
def lineMark (width number : Nat) : String :=
  if width = 0 then copies 4 ' '
  else
    let digits := Nat.toDigits 10 number
    copies (width - digits.length) ' ' ++ String.ofList digits ++ ": "

/-- Carets under the spans of a line, from a column on. An empty span has one caret as well. -/
def carets : Nat → List Span → String
  | _, [] => ""
  | column, span :: spans =>
    let width := max 1 (span.stop.column - span.start.column)
    copies (span.start.column - column) ' ' ++ copies width '^' ++
      carets (max column span.start.column + width) spans

/-- A line of a pattern, and the line of carets under it if a span stands on it. -/
def noteLine (width : Nat) (spans : List Span) (number : Nat) (line : List Char) : String :=
  let spans := spans.filter fun span => span.isOneLine && span.start.line = number
  let mark := lineMark width number
  mark ++ String.ofList line ++ "\n" ++
    if spans.isEmpty then "" else copies mark.length ' ' ++ carets 1 spans ++ "\n"

/-- The places of a span that goes on to another line. -/
def Span.describe (span : Span) : String :=
  "on line " ++ toString span.start.line ++ " (column " ++ toString span.start.column ++
    ") through line " ++ toString span.stop.line ++ " (column " ++
    toString (span.stop.column - 1) ++ ")"

namespace Fault

/-- The spans of a fault, in the order of the pattern. -/
def spans (fault : Fault) : List Span :=
  match fault.earlier with
  | none => [fault.span]
  | some earlier =>
    if earlier.isBefore fault.span then [earlier, fault.span] else [fault.span, earlier]

/-- The text of a fault in a pattern. -/
def text (pattern : List Char) (fault : Fault) : String :=
  let width := numberWidth pattern
  let lines := (linesOf pattern).mapIdx fun index line =>
    noteLine width fault.spans (index + 1) line
  let far := fault.spans.filter fun span => !span.isOneLine
  let rule := copies 79 '~' ++ "\n"
  let shown :=
    if pattern.contains '\n' then
      rule ++ String.join lines ++ rule ++
        if far.isEmpty then "" else String.intercalate "\n" (far.map Span.describe) ++ "\n"
    else String.join lines
  "regex parse error:\n" ++ shown ++ "error: " ++ fault.cause.message

end Fault

end StatusDigest.Pattern
