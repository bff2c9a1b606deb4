/-!
# Block kinds and their markers

A dump is a sequence of blocks. Four kinds of block matter to the statistics; each is opened by
a line that holds one of its markers and nothing else.
-/

namespace StatusDigest.Dump

/-- The kinds of block that are read. -/
inductive Kind where
  /-- About the dump itself. -/
  | info
  /-- About the daemon. -/
  | program
  /-- The status of one host. -/
  | host
  /-- The status of one service. -/
  | service
deriving DecidableEq, Repr

namespace Kind

/-- All kinds. -/
def all : List Kind :=
  [.info, .program, .host, .service]

/-- The lines that open a block of the kind. All kinds but `info` have a short spelling and the
one with `status`. -/
def markers : Kind → List String
  | .info => ["info \x7b"]
  | .program => ["program \x7b", "programstatus \x7b"]
  | .host => ["host \x7b", "hoststatus \x7b"]
  | .service => ["service \x7b", "servicestatus \x7b"]

/-- The kind of block that a stripped line opens, if it is a marker. -/
def ofMarker? (line : List Char) : Option Kind :=
  all.find? fun kind => kind.markers.any fun marker => marker.toList = line

/-- Hosts and services are entries: they are counted when their block is opened. -/
def isEntry : Kind → Bool
  | .host | .service => true
  | .info | .program => false

end Kind

end StatusDigest.Dump
