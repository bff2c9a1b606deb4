import StatusDigest.Decimal.Numeral

/-!
# TOML values

A document is a tree of tables, arrays and scalars. Each table remembers how it came to be,
because that decides who may still add to it:

* a table that only headers lead through may be added to in any way;
* a table that a dotted key leads through may be added to by dotted keys, and headers may lead
  through it, but it gets no header of its own;
* a table that has a header of its own is complete in its keys, but other headers may lead
  through it;
* an inline table is complete.
-/

namespace StatusDigest.Toml

/-- A scalar. Numbers keep their value, and dates and times only that they are valid. -/
inductive Scalar where
  | text (s : String)
  | integer (i : Int)
  /-- A float that is written in digits. -/
  | float (numeral : Decimal.Numeral)
  /-- Infinity, or what is not a number. -/
  | special
  /-- An integer that is well-formed at first sight, but whose digits denote no number. -/
  | unreadable
  | boolean (b : Bool)
  | dateTime
deriving DecidableEq, Repr

/-- How a table came to be. -/
inductive Standing where
  /-- Only headers lead through it. -/
  | implied
  /-- A dotted key leads through it. -/
  | dotted
  /-- It has a header of its own, or is the root. -/
  | stated
  /-- It is written in braces. -/
  | inline
deriving DecidableEq, Repr

/-- A part of a document. -/
inductive Node where
  | scalar (s : Scalar)
  | array (items : List Node)
  | table (standing : Standing) (entries : List (String × Node))
  /-- An array of tables that have headers of their own. -/
  | tables (elements : List (List (String × Node)))

/-- The entries of a table, in the order in which they were made. -/
abbrev Entries := List (String × Node)

namespace Entries

/-- The entries with another node under a name that they already have. -/
def replace (entries : Entries) (name : String) (node : Node) : Entries :=
  entries.map fun entry => if entry.1 = name then (name, node) else entry

/-- Applies an action to the entries that a path of names leads to, and makes the tables that are
missing on the way. The action is told the standing of the table that it works on. `dotted` says
whether the path is part of a dotted key, which leaves its mark on the tables that it leads
through. -/
def descend (dotted : Bool) (action : Standing → Entries → Option Entries) :
    List String → Standing → Entries → Option Entries
  | [], standing, entries => action standing entries
  | name :: path, _, entries =>
    match entries.lookup name with
    | none => do
      let made : Standing := if dotted then .dotted else .implied
      let inner ← descend dotted action path made []
      return entries ++ [(name, .table made inner)]
    | some (.table standing inner) =>
      if standing = .inline ∨ dotted ∧ standing = .stated then none
      else do
        let passed : Standing := if dotted then .dotted else standing
        let inner ← descend dotted action path passed inner
        return entries.replace name (.table passed inner)
    | some (.tables elements) =>
      match elements.reverse with
      | [] => none
      | last :: before => do
        let last ← descend dotted action path .stated last
        return entries.replace name (.tables (last :: before).reverse)
    | some _ => none

/-- Adds a value under a dotted key. The last name must be new, and a key that is dotted adds only
to tables that bear the mark of dotted keys. -/
def insert (path : List String) (name : String) (node : Node) (standing : Standing)
    (entries : Entries) : Option Entries :=
  let put (standing : Standing) (entries : Entries) : Option Entries :=
    if (standing = .dotted) ≠ (path ≠ []) then none
    else if (entries.lookup name).isSome then none
    else some (entries ++ [(name, node)])
  descend true put path standing entries

/-- Opens the table of a header. A table is opened once. -/
def openTable (path : List String) (name : String) (entries : Entries) : Option Entries :=
  let claim (_ : Standing) (entries : Entries) : Option Entries :=
    match entries.lookup name with
    | none => some (entries ++ [(name, .table .stated [])])
    | some (.table .implied inner) => some (entries.replace name (.table .stated inner))
    | some _ => none
  descend false claim path .stated entries

/-- Opens one more table of an array of tables. -/
def openElement (path : List String) (name : String) (entries : Entries) : Option Entries :=
  let append (_ : Standing) (entries : Entries) : Option Entries :=
    match entries.lookup name with
    | none => some (entries ++ [(name, .tables [[]])])
    | some (.tables elements) => some (entries.replace name (.tables (elements ++ [[]])))
    | some _ => none
  descend false append path .stated entries

end Entries

end StatusDigest.Toml
