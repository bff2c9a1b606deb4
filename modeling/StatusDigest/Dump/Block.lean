import Std.Data.ExtTreeMap
import StatusDigest.Dump.Kind

/-!
# Blocks

A block is a kind with fields. Fields form a finite map from keys to values that is kept in the
order of its keys, so that two blocks are equal exactly when they hold the same values; when a
key is written twice the last value stands.
-/

namespace StatusDigest.Dump

/-- The fields of a block: at most one value for each key. -/
abbrev Fields := Std.ExtTreeMap String String

namespace Fields

/-- The fields that hold the pairs, the last of those with equal keys. -/
def ofPairs (pairs : List (String × String)) : Fields :=
  pairs.foldl (fun fields (key, value) => fields.insert key value) ∅

end Fields

/-- A block of a dump. -/
structure Block where
  kind : Kind
  fields : Fields := ∅

namespace Block

/-- The value of a field, if the block has it. -/
def get? (block : Block) (key : String) : Option String :=
  block.fields[key]?

/-- The block with one more field. -/
def put (block : Block) (key value : String) : Block :=
  { block with fields := block.fields.insert key value }

end Block

end StatusDigest.Dump
