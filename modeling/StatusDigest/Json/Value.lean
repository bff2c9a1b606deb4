/-!
# Values and their shapes

A value is what a JSON text says about something whose shape is known: a record has its fields in
the order of the shape, and an optional part may be absent.
-/

namespace StatusDigest.Json

/-- What a value must look like. -/
inductive Shape where
  /-- An integer of 64 bits with sign. -/
  | signed
  /-- An integer of 64 bits without sign. -/
  | unsigned
  /-- A floating-point number. -/
  | real
  | text
  /-- A value that may be absent. -/
  | optional (shape : Shape)
  /-- Named fields in a fixed order. -/
  | record (fields : List (String × Shape))

/-- Whether a value of the shape may be absent. -/
def Shape.isOptional : Shape → Bool
  | .optional _ => true
  | _ => false

/-- A value of some shape. -/
inductive Value where
  | integer (i : Int)
  | real (x : Float)
  | text (s : String)
  /-- The absence of an optional value. -/
  | absent
  | record (fields : List (String × Value))
deriving BEq

end StatusDigest.Json
