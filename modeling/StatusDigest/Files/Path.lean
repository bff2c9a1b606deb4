import StatusDigest.Text.Pieces

/-!
# Paths

A path is a text with slashes between its names. Repeated slashes and names that are a single dot
do not count, except that a dot at the start of a relative path is a name of its own.

* `parent?` is the path without its last name.
* `join` continues one path with another; an absolute path stands for itself.
-/

namespace StatusDigest.Files

/-- The slash at the start of an absolute path, or the dot at the start of a relative one, and
the text after it. -/
def splitAnchor : List Char → List Char × List Char
  | '/' :: rest => (['/'], rest)
  | ['.'] => (['.'], [])
  | '.' :: '/' :: rest => (['.'], '/' :: rest)
  | path => ([], path)

/-- Whether a piece between slashes is no name. -/
def isNoName (piece : List Char) : Bool :=
  piece = [] || piece = ['.']

/-- Pieces with slashes between them. -/
def joinPieces (parts : List (List Char)) : List Char :=
  List.intercalate ['/'] parts

/-- The path without its last name. A path without names has none, except that a lone dot is in
the directory of the empty path. -/
def parent? (path : String) : Option String :=
  let (anchor, body) := splitAnchor path.toList
  let backwards := (Text.pieces '/' body).reverse.dropWhile isNoName
  match backwards with
  | [] => if anchor = ['.'] then some "" else none
  | _ :: before =>
    some (String.ofList (anchor ++ joinPieces (before.dropWhile isNoName).reverse))

/-- The second path as seen from the directory that the first one names. -/
def join (base path : String) : String :=
  if path.toList.head? = some '/' ∨ base = "" then path
  else if base.toList.getLast? = some '/' then base ++ path
  else base ++ "/" ++ path

example : ["etc/n.cfg", "n.cfg", "/n.cfg", "./n.cfg", "a//b/", "a/./b/.", "/", "."].map parent? =
    [some "etc", some "", some "/", some ".", some "a", some "a", none, some ""] := by
  decide +kernel

end StatusDigest.Files
