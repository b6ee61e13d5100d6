import ChatWire.Json.ReadError
import ChatWire.Text.Utf8

namespace ChatWire.History

open ChatWire.Json

/-- The sender of a message. -/
inductive Role where
  | system
  | user
  | assistant
  | tool
deriving DecidableEq, Inhabited

namespace Role

/-- The wire name of a role. -/
def name : Role → String
  | .system => "system"
  | .user => "user"
  | .assistant => "assistant"
  | .tool => "tool"

/-- Every role, in declaration order. -/
def all : List Role := [.system, .user, .assistant, .tool]

/-- The role with a given wire name. -/
def ofName? (s : String) : Option Role :=
  all.find? (·.name == s)

/-- The role with a given name, or the error naming the known roles. -/
def ofNameOrError (s : String) : Except ReadIssue Role :=
  match ofName? s with
  | some r => .ok r
  | none => .error (.unknownVariant s (all.map name))

/-- Reads a role from a JSON value: its name, or a one-member object whose key is the
    name and whose value is `null`. -/
def ofValue : Value → Except ReadIssue Role
  | .string s => ofNameOrError s
  | .object [(k, v)] => do
    let r ← ofNameOrError k
    match v with
    | .null => .ok r
    | other => .error (.invalidType (Unexpected.ofValue other) "unit")
  | .object _ => .error (.invalidValue .map "map with a single key")
  | other => .error (.invalidType (Unexpected.ofValue other) "string or map")

/-- A role as a JSON value. -/
def toValue (r : Role) : Value :=
  .string r.name

end Role

/-- One message of a conversation. -/
structure Message where
  role : Role
  content : String
deriving DecidableEq, Inhabited

/-- The largest 32-bit count. -/
def maxCount : Nat := Nat.pow 2 32 - 1

/-- A rough token count: one token for every four bytes of UTF-8. -/
def estimateTokens (text : String) : Nat :=
  min (Text.utf8Length text / 4) maxCount

end ChatWire.History
