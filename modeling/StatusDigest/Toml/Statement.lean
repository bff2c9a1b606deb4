import StatusDigest.Toml.Quoted

/-!
# Statements

A document is a sequence of statements, each on lines of its own: a header opens a table or one
more table of an array of tables, and an assignment gives a value to a key. Blanks may stand
between all parts of a statement; line feeds and comments may stand between statements, and
between the parts of arrays and inline tables, but not inside a dotted key. A comma may follow
the last part of an array or inline table.

Arrays and inline tables may be nested up to a limit.
-/

namespace StatusDigest.Toml

/-! ## Between the parts -/

/-- Whether a character is a blank. -/
def isBlank (c : Char) : Bool :=
  c = ' ' || c = '\t'

/-- The text without the blanks at its start. -/
def skipBlanks (text : List Char) : List Char :=
  text.dropWhile isBlank

/-- The text without the blanks, line feeds and comments at its start. A comment has no control
characters. -/
def skipFiller (inComment : Bool) : List Char → Option (List Char)
  | [] => some []
  | '\n' :: rest => skipFiller false rest
  | '\r' :: '\n' :: rest => skipFiller false rest
  | c :: rest =>
    if inComment then
      if isPlain c then skipFiller true rest else none
    else if isBlank c then skipFiller false rest
    else if c = '#' then skipFiller true rest
    else some (c :: rest)

/-- Reads the end of a line, which may have a comment, or the end of the text. -/
def endLine (inComment : Bool) : List Char → Option (List Char)
  | [] => some []
  | '\n' :: rest => some rest
  | '\r' :: '\n' :: rest => some rest
  | c :: rest =>
    if inComment then
      if isPlain c then endLine true rest else none
    else if isBlank c then endLine false rest
    else if c = '#' then endLine true rest
    else none

/-! ## Keys -/

/-- The characters of a name without quotes. -/
def isNameChar (c : Char) : Bool :=
  c.isAlphanum || c = '_' || c = '-'

/-- Reads a name: without quotes, or in one quote on each side. -/
def readName (text : List Char) : Option (String × List Char) :=
  match text with
  | '"' :: '"' :: '"' :: _ => none
  | '\'' :: '\'' :: '\'' :: _ => none
  | '"' :: _ | '\'' :: _ => (readQuoted text).map fun (chars, rest) => (String.ofList chars, rest)
  | _ =>
    let chars := text.takeWhile isNameChar
    if chars.isEmpty then none else some (String.ofList chars, text.dropWhile isNameChar)

/-- A key: the names that lead to a table, and the name in that table. -/
structure Key where
  path : List String
  name : String
deriving DecidableEq, Repr

/-- The greatest depth of arrays and inline tables, and the greatest number of names in a key. -/
def depthLimit : Nat := 80

/-- Reads names with dots between them, so many at most. -/
def readKey : Nat → List Char → Option (Key × List Char)
  | 0, _ => none
  | more + 1, text => do
    let (name, rest) ← readName text
    match skipBlanks rest with
    | '.' :: rest =>
      let (key, rest) ← readKey more (skipBlanks rest)
      return ({ key with path := name :: key.path }, rest)
    | rest => return ({ path := [], name }, rest)

/-- Reads an equals sign between blanks. -/
def readEquals (text : List Char) : Option (List Char) :=
  match skipBlanks text with
  | '=' :: rest => some (skipBlanks rest)
  | _ => none

/-- Reads an equals sign in an inline table, where line feeds and comments may stand around it. -/
def readInlineEquals (text : List Char) : Option (List Char) := do
  match ← skipFiller false text with
  | '=' :: rest => skipFiller false rest
  | _ => none

/-! ## Values -/

/-- Whether a character ends a scalar without quotes. -/
def endsBare (c : Char) : Bool :=
  isBlank c || c = '\n' || c = '\r' || c = ',' || c = '#' || c = '=' || c = '"' || c = '\'' ||
    c = '[' || c = ']' || c = '{' || c = '}'

/-- Reads a scalar without quotes. A date may be followed by one space and a time. -/
def readBare (text : List Char) : Option (Scalar × List Char) :=
  let first := text.takeWhile (!endsBare ·)
  let rest := text.dropWhile (!endsBare ·)
  let second :=
    match rest with
    | ' ' :: more =>
      if skipDate first = some [] ∧ more.head?.any Char.isDigit then
        ' ' :: more.takeWhile (!endsBare ·)
      else []
    | _ => []
  (Scalar.ofBare? (first ++ second)).map (·, rest.drop second.length)

/-- Reads the items of an array up to its end, with the given reader of values. After each item
the text must have become shorter, which always holds because no value is empty. -/
def readItems (readValue : List Char → Option (Node × List Char)) (text : List Char) :
    Option (List Node × List Char) :=
  match skipFiller false text with
  | none => none
  | some (']' :: rest) => some ([], rest)
  | some start =>
    match readValue start with
    | none => none
    | some (item, rest) =>
      match skipFiller false rest with
      | some (']' :: rest) => some ([item], rest)
      | some (',' :: rest) =>
        if _shorter : rest.length < text.length then
          (readItems readValue rest).map fun (items, rest) => (item :: items, rest)
        else none
      | _ => none
termination_by text.length

/-- Reads the entries of an inline table up to its end, with the given reader of values. -/
def readEntries (readValue : List Char → Option (Node × List Char)) (entries : Entries)
    (text : List Char) : Option (Entries × List Char) :=
  match skipFiller false text with
  | none => none
  | some ('}' :: rest) => some (entries, rest)
  | some start =>
    match readEntry start with
    | none => none
    | some (entries, rest) =>
      match skipFiller false rest with
      | some ('}' :: rest) => some (entries, rest)
      | some (',' :: rest) =>
        if _shorter : rest.length < text.length then readEntries readValue entries rest
        else none
      | _ => none
termination_by text.length
where
  /-- Reads one entry and adds it to those before it. -/
  readEntry (start : List Char) : Option (Entries × List Char) := do
    let (key, rest) ← readKey depthLimit start
    let rest ← readInlineEquals rest
    let (node, rest) ← readValue rest
    let entries ← entries.insert key.path key.name node .inline
    return (entries, rest)

/-- Reads a value with so many levels of arrays and inline tables at most. -/
def readValue : Nat → List Char → Option (Node × List Char)
  | levels, text =>
    match text with
    | '[' :: rest =>
      match levels with
      | 0 => none
      | levels + 1 => (readItems (readValue levels) rest).map fun (items, rest) =>
          (.array items, rest)
    | '{' :: rest =>
      match levels with
      | 0 => none
      | levels + 1 => (readEntries (readValue levels) [] rest).map fun (entries, rest) =>
          (.table .inline entries, rest)
    | '"' :: _ | '\'' :: _ =>
      (readQuoted text).map fun (chars, rest) => (.scalar (.text (String.ofList chars)), rest)
    | _ => (readBare text).map fun (scalar, rest) => (.scalar scalar, rest)

/-! ## Statements -/

/-- One statement of a document. -/
inductive Statement where
  /-- Opens a table. -/
  | header (key : Key)
  /-- Opens one more table of an array of tables. -/
  | element (key : Key)
  | assignment (key : Key) (value : Node)

/-- Reads the key of a header and the bracket after it. -/
def readHeader (text : List Char) : Option (Key × List Char) := do
  let (key, rest) ← readKey depthLimit (skipBlanks text)
  match skipBlanks rest with
  | ']' :: rest => return (key, rest)
  | _ => none

/-- Reads a statement, without the end of its line. -/
def readStatement : List Char → Option (Statement × List Char)
  | '[' :: '[' :: rest => do
    match ← readHeader rest with
    | (key, ']' :: rest) => return (.element key, rest)
    | _ => none
  | '[' :: rest => do
    let (key, rest) ← readHeader rest
    return (.header key, rest)
  | text => do
    let (key, rest) ← readKey depthLimit text
    let (value, rest) ← readValue depthLimit (← readEquals rest)
    return (.assignment key value, rest)

/-- Reads all statements of a text. After each one the text must have become shorter, which always
holds because no statement is empty. -/
def readStatements (text : List Char) : Option (List Statement) :=
  match skipFiller false text with
  | none => none
  | some [] => some []
  | some start =>
    match readStatement start with
    | none => none
    | some (statement, rest) =>
      match endLine false rest with
      | none => none
      | some rest =>
        if _shorter : rest.length < text.length then
          (readStatements rest).map (statement :: ·)
        else none
termination_by text.length

end StatusDigest.Toml
