import ChatWire.Json.Binary64

namespace ChatWire.Json

/-- A JSON number: an exact integer or a finite binary64 value. -/
inductive Number where
  | int (i : Int)
  | float (x : Binary64)
deriving DecidableEq, Inhabited

/-- A JSON value. -/
inductive Value where
  | null
  | bool (b : Bool)
  | number (n : Number)
  | string (s : String)
  | array (items : List Value)
  | object (members : List (String × Value))
deriving Inhabited

namespace Value

/-- An exact integer value. -/
def int (i : Int) : Value := .number (.int i)

/-- A natural number value. -/
def nat (n : Nat) : Value := .number (.int n)

/-- Puts a member into a key-sorted member list, replacing a member with the same key. -/
def insertMember (key : String) (v : Value) : List (String × Value) → List (String × Value)
  | [] => [(key, v)]
  | (k, w) :: rest =>
    if key < k then (key, v) :: (k, w) :: rest
    else if key = k then (key, v) :: rest
    else (k, w) :: insertMember key v rest

/-- The map of the given members, inserted in order: keys sorted, the last member
    with a key wins. -/
def mapOf (members : List (String × Value)) : Value :=
  .object (members.foldl (fun acc (k, v) => insertMember k v acc) [])

/-- The member of an object with the given key. -/
def get? (v : Value) (key : String) : Option Value :=
  match v with
  | .object members => members.lookup key
  | _ => none

/-- The text of a string value. -/
def asString? : Value → Option String
  | .string s => some s
  | _ => none

/-- The truth value of a boolean value. -/
def asBool? : Value → Option Bool
  | .bool b => some b
  | _ => none

/-- The integer of an exact integer value. -/
def asInt? : Value → Option Int
  | .number (.int i) => some i
  | _ => none

/-- The items of an array value. -/
def asArray? : Value → Option (List Value)
  | .array items => some items
  | _ => none

/-- The members of an object value. -/
def asObject? : Value → Option (List (String × Value))
  | .object members => some members
  | _ => none

/-- Whether the value is `null`. -/
def isNull : Value → Bool
  | .null => true
  | _ => false

end Value

end ChatWire.Json
