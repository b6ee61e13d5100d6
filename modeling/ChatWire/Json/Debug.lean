import ChatWire.Json.Render
import ChatWire.Text.Literal

namespace ChatWire.Json

mutual

/-- The debugging text of a value. -/
def Value.debugText : Value → String
  | .null => "Null"
  | .bool b => "Bool(" ++ toString b ++ ")"
  | .number n => "Number(" ++ n.jsonText ++ ")"
  | .string s => "String(" ++ Text.literal s ++ ")"
  | .array items => "Array [" ++ debugItems items ++ "]"
  | .object members => "Object \x7b" ++ debugMembers members ++ "\x7d"

/-- Items separated by a comma and a space. -/
def debugItems : List Value → String
  | [] => ""
  | [v] => v.debugText
  | v :: rest => v.debugText ++ ", " ++ debugItems rest

/-- Members `"key": value` separated by a comma and a space. -/
def debugMembers : List (String × Value) → String
  | [] => ""
  | [(k, v)] => Text.literal k ++ ": " ++ v.debugText
  | (k, v) :: rest => Text.literal k ++ ": " ++ v.debugText ++ ", " ++ debugMembers rest

end

end ChatWire.Json
