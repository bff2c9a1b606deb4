import StatusDigest.Toml.Scalar

/-!
# Quoted texts

A text in double quotes has escapes, and one in single quotes stands for itself. With three
quotes on each side a text may have several lines; a line feed right after the opening quotes is
not part of it, and up to two quotes right before the closing ones are. In double quotes a
backslash at the end of a line joins the line with what follows on the next lines.

Control characters other than the tab are written as escapes. Every reader takes the text after
the opening quotes, and gives what it read and the text after the closing quotes.
-/

namespace StatusDigest.Toml

/-- Whether a character may stand in a line of text as it is: no control character but the tab. -/
def isPlain (c : Char) : Bool :=
  c = '\t' || (0x20 ≤ c.toNat && c.toNat ≠ 0x7F)

/-- Reads so many hexadecimal digits after a number read before. -/
def readHex : Nat → Nat → List Char → Option (Nat × List Char)
  | 0, n, text => some (n, text)
  | _ + 1, _, [] => none
  | count + 1, n, c :: text =>
    if digitValue c < 16 then readHex count (n * 16 + digitValue c) text else none

/-- Reads a character by the digits of its code point, which must not be a surrogate. -/
def readCodePoint (count : Nat) (text : List Char) : Option (Char × List Char) := do
  let (n, rest) ← readHex count 0 text
  if n.isValidChar then return (Char.ofNat n, rest) else none

/-- Reads an escape after its backslash. -/
def readEscape : List Char → Option (Char × List Char)
  | '"' :: rest => some ('"', rest)
  | '\\' :: rest => some ('\\', rest)
  | 'b' :: rest => some ('\x08', rest)
  | 'e' :: rest => some ('\x1b', rest)
  | 'f' :: rest => some ('\x0c', rest)
  | 'n' :: rest => some ('\n', rest)
  | 'r' :: rest => some ('\r', rest)
  | 't' :: rest => some ('\t', rest)
  | 'x' :: rest => readCodePoint 2 rest
  | 'u' :: rest => readCodePoint 4 rest
  | 'U' :: rest => readCodePoint 8 rest
  | _ => none

/-- Puts characters in front of a text that was read. -/
def prepend (chars : List Char) (read : Option (List Char × List Char)) :
    Option (List Char × List Char) :=
  read.map fun (more, rest) => (chars ++ more, rest)

/-- Reads a text in double quotes. -/
def readBasic : List Char → Option (List Char × List Char)
  | [] => none
  | '"' :: rest => some ([], rest)
  | '\\' :: rest =>
    match readEscape rest with
    | none => none
    | some (c, after) =>
      if _shorter : after.length ≤ rest.length then prepend [c] (readBasic after) else none
  | c :: rest => if isPlain c then prepend [c] (readBasic rest) else none
termination_by text => text.length

/-- Reads a text in single quotes. -/
def readLiteral : List Char → Option (List Char × List Char)
  | [] => none
  | '\'' :: rest => some ([], rest)
  | c :: rest => if isPlain c then prepend [c] (readLiteral rest) else none

/-! ## Several lines -/

/-- The text without a line feed at its start. -/
def dropNewline : List Char → List Char
  | '\n' :: rest => rest
  | '\r' :: '\n' :: rest => rest
  | text => text

/-- The quotes before the closing ones that belong to the text, and the text after the closing
ones, once three quotes in a row have been read. -/
def closeQuotes (quote : Char) : List Char → List Char × List Char
  | [] => ([], [])
  | [a] => if a = quote then ([quote], []) else ([], [a])
  | a :: b :: rest =>
    if a = quote ∧ b = quote then ([quote, quote], rest)
    else if a = quote then ([quote], b :: rest)
    else ([], a :: b :: rest)

/-- The text without the blanks and line feeds at its start. -/
def skipLines : List Char → List Char
  | '\r' :: '\n' :: rest => skipLines rest
  | c :: rest => if c = ' ' ∨ c = '\t' ∨ c = '\n' then skipLines rest else c :: rest
  | [] => []

/-- What follows a backslash at the end of a line: the text from the next character that is
neither blank nor a line feed. -/
def continueLine? (text : List Char) : Option (List Char) :=
  match text.dropWhile fun c => c = ' ' || c = '\t' with
  | '\n' :: rest => some (skipLines rest)
  | '\r' :: '\n' :: rest => some (skipLines rest)
  | _ => none

/-- Reads the lines of a text in double quotes. -/
def readBasicLines : List Char → Option (List Char × List Char)
  | [] => none
  | '"' :: '"' :: '"' :: rest => some (closeQuotes '"' rest)
  | '"' :: rest => prepend ['"'] (readBasicLines rest)
  | '\\' :: rest =>
    match continueLine? rest with
    | some after =>
      if _shorter : after.length ≤ rest.length then readBasicLines after else none
    | none =>
      match readEscape rest with
      | none => none
      | some (c, after) =>
        if _shorter : after.length ≤ rest.length then prepend [c] (readBasicLines after)
        else none
  | '\r' :: '\n' :: rest => prepend ['\r', '\n'] (readBasicLines rest)
  | c :: rest => if isPlain c ∨ c = '\n' then prepend [c] (readBasicLines rest) else none
termination_by text => text.length

/-- Reads the lines of a text in single quotes. -/
def readLiteralLines : List Char → Option (List Char × List Char)
  | [] => none
  | '\'' :: '\'' :: '\'' :: rest => some (closeQuotes '\'' rest)
  | '\'' :: rest => prepend ['\''] (readLiteralLines rest)
  | '\r' :: '\n' :: rest => prepend ['\r', '\n'] (readLiteralLines rest)
  | c :: rest => if isPlain c ∨ c = '\n' then prepend [c] (readLiteralLines rest) else none

/-- Reads a quoted text, with one or three quotes on each side, from its opening quotes on. -/
def readQuoted : List Char → Option (List Char × List Char)
  | '"' :: '"' :: '"' :: rest => readBasicLines (dropNewline rest)
  | '"' :: rest => readBasic rest
  | '\'' :: '\'' :: '\'' :: rest => readLiteralLines (dropNewline rest)
  | '\'' :: rest => readLiteral rest
  | _ => none

end StatusDigest.Toml
