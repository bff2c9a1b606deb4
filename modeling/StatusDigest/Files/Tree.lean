import StatusDigest.Files.Access
import StatusDigest.Text.Pieces

/-!
# Trees of files

A tree is a working directory with files and directories below it; above it there are directories
with nothing else in them. A path is followed name by name from the working directory, or from
above it if it is absolute. The checks are made in the order in which the names are followed, so
that the first name that cannot be followed gives the reason.
-/

namespace StatusDigest.Files

open Dump

/-- The reasons why a path cannot be opened or read. -/
inductive Fault where
  | notFound
  | notDirectory
  | isDirectory
  | nameTooLong
  | nulInName
deriving DecidableEq, Repr

/-- The system's text for a reason. -/
def Fault.message : Fault → String
  | .notFound => "No such file or directory (os error 2)"
  | .notDirectory => "Not a directory (os error 20)"
  | .isDirectory => "Is a directory (os error 21)"
  | .nameTooLong => "File name too long (os error 36)"
  | .nulInName => "file name contained an unexpected NUL byte"

/-- A directory with files and directories below it. Each is given by the names that lead to it;
the directories that a path leads through need not be given. -/
structure Tree where
  files : List (List String × Source) := []
  directories : List (List String) := []

/-- Where following a path has led so far. -/
inductive Place where
  /-- Below the working directory, by the names that lead there. -/
  | below (names : List String)
  /-- In a directory above the working directory. -/
  | above
deriving DecidableEq, Repr

/-- The names of a path: the pieces between slashes that say more than "here". -/
def namesOf (path : String) : List String :=
  ((Text.pieces '/' path.toList).map String.ofList).filter fun piece =>
    piece ≠ "" && piece ≠ "."

namespace Tree

/-- The tree with the given entries. A name that ends in a slash is a directory, and of several
files of one name the last one stands. -/
def ofEntries (entries : List (String × Source)) : Tree :=
  let isDirectory (name : String) : Bool := name.toList.getLast? = some '/'
  { files := (entries.filter fun entry => !isDirectory entry.1).reverse.map fun entry =>
      (namesOf entry.1, entry.2)
    directories := (entries.filter fun entry => isDirectory entry.1).map fun entry =>
      namesOf entry.1 }

/-- The file that some names lead to. -/
def file? (tree : Tree) (names : List String) : Option Source :=
  tree.files.lookup names

/-- Whether some names lead to a directory: the working directory, a given one, or one that leads
to something. -/
def isDirectory (tree : Tree) (names : List String) : Bool :=
  names.isEmpty ||
    tree.directories.any (fun directory => names.isPrefixOf directory) ||
    tree.files.any (fun file => file.1 ≠ names && names.isPrefixOf file.1)

/-- The greatest number of octets of a name. -/
def nameLimit : Nat := 255

/-- The number of octets from which on a path is too long. -/
def pathLimit : Nat := 4096

/-- Follows one piece of a path. Only a directory can be left through a piece. -/
def follow (tree : Tree) (place : Place) (piece : String) : Except Fault Place :=
  match place with
  | .above =>
    if piece = "" ∨ piece = "." ∨ piece = ".." then .ok .above
    else if nameLimit < piece.utf8ByteSize then .error .nameTooLong
    else .error .notFound
  | .below names =>
    if !tree.isDirectory names then .error .notDirectory
    else if piece = "" ∨ piece = "." then .ok (.below names)
    else if piece = ".." then
      .ok (if names.isEmpty then .above else .below names.dropLast)
    else if nameLimit < piece.utf8ByteSize then .error .nameTooLong
    else
      let names := names ++ [piece]
      if (tree.file? names).isSome || tree.isDirectory names then .ok (.below names)
      else .error .notFound

/-- Where a path leads. -/
def resolve (tree : Tree) (path : String) : Except Fault Place :=
  let chars := path.toList
  if chars.contains '\x00' then .error .nulInName
  else if chars.isEmpty then .error .notFound
  else if pathLimit ≤ path.utf8ByteSize then .error .nameTooLong
  else
    let start : Place := if chars.head? = some '/' then .above else .below []
    ((Text.pieces '/' chars).map String.ofList).foldlM (follow tree) start

/-- Opens a path. A directory can be opened, but not read. -/
def openFile (tree : Tree) (path : String) : Except String Source :=
  match tree.resolve path with
  | .error fault => .error fault.message
  | .ok place =>
    let directory : Source := { chunks := [], failure := some Fault.isDirectory.message }
    match place with
    | .above => .ok directory
    | .below names => .ok ((tree.file? names).getD directory)

/-- The tree as the one who answers for files. -/
def opener (tree : Tree) : Opener Id :=
  fun path => tree.openFile path

end Tree

end StatusDigest.Files
