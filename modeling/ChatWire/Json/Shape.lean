namespace ChatWire.Json

/-- What happens when a record field is missing. -/
inductive Presence where
  | required
  | optional
  | defaulted
deriving DecidableEq

/-- What a reader expects at a point of JSON text. -/
inductive Shape where
  /-- Any value, kept. -/
  | any
  /-- Any value, checked and dropped. -/
  | skip
  | text
  | flag
  /-- An integer in `[0, limit)`, named after its type in error messages. -/
  | natural (name : String) (limit : Nat)
  /-- `null`, or the inner shape. -/
  | optional (inner : Shape)
  | sequence (inner : Shape)
  /-- A record: an object with the named fields (unknown members are checked and
      dropped), or an array of the field values in order. -/
  | record (name : String) (fields : List (String × Presence × Shape))

namespace Shape

/-- How error messages name what a shape expects. -/
def expecting : Shape → String
  | .any => "any valid JSON value"
  | .skip => "anything at all"
  | .text => "a string"
  | .flag => "a boolean"
  | .natural name _ => name
  | .optional _ => "option"
  | .sequence _ => "a sequence"
  | .record name _ => "struct " ++ name

/-- A natural below `2^32`. -/
def word32 : Shape := .natural "u32" (Nat.pow 2 32)

/-- A natural below `2^64`, as used for sizes and indices. -/
def size : Shape := .natural "usize" (Nat.pow 2 64)

end Shape

end ChatWire.Json
