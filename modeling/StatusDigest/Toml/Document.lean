import StatusDigest.Toml.Statement

/-!
# Documents

The statements of a document are carried out one after the other: a header opens a table, and
the assignments after it go to that table. A document is valid if every statement can be carried
out, that is, if nothing is given twice and nothing is added to what is complete.
-/

namespace StatusDigest.Toml

/-- A document in the making: the root table, and the names that lead to the open table. -/
structure Draft where
  root : Entries := []
  opened : List String := []

namespace Draft

/-- Adds a value to the open table. -/
def assign (draft : Draft) (key : Key) (value : Node) : Option Draft :=
  let add (standing : Standing) (entries : Entries) : Option Entries :=
    entries.insert key.path key.name value standing
  (Entries.descend false add draft.opened .stated draft.root).map fun root => { draft with root }

/-- Carries out one statement. -/
def run (draft : Draft) : Statement → Option Draft
  | .header key =>
    (draft.root.openTable key.path key.name).map fun root =>
      { root, opened := key.path ++ [key.name] }
  | .element key =>
    (draft.root.openElement key.path key.name).map fun root =>
      { root, opened := key.path ++ [key.name] }
  | .assignment key value => draft.assign key value

end Draft

/-- The character that may stand before a text to show its encoding. -/
def byteOrderMark : Char := '\uFEFF'

/-- The root table of a document, if the document is valid. -/
def parse? (text : String) : Option Entries := do
  let chars := text.toList
  let chars := if chars.head? = some byteOrderMark then chars.drop 1 else chars
  let statements ← readStatements chars
  let draft ← statements.foldlM Draft.run {}
  return draft.root

end StatusDigest.Toml
