import ChatWire.Json.Value

namespace ChatWire.Wire

/-- Why the model stopped generating. -/
inductive FinishReason where
  | stop
  | length
  | contentFilter
  | toolCalls
  | error
  | other
  | unknown
  /-- A provider reason the protocol has no name for, kept as given. -/
  | unrecognized (reason : String)
deriving DecidableEq, Inhabited

namespace FinishReason

/-- The reason a provider reports, read in either spelling. -/
def ofProvider (reason : String) : FinishReason :=
  match reason with
  | "" | "stop" => .stop
  | "length" => .length
  | "tool_calls" | "tool-calls" => .toolCalls
  | "content_filter" | "content-filter" => .contentFilter
  | "error" => .error
  | "other" => .other
  | "unknown" => .unknown
  | r => .unrecognized r

/-- The wire spelling of a reason. -/
def name : FinishReason → String
  | .stop => "stop"
  | .length => "length"
  | .contentFilter => "content-filter"
  | .toolCalls => "tool-calls"
  | .error => "error"
  | .other => "other"
  | .unknown => "unknown"
  | .unrecognized r => r

/-- Whether the model stopped to ask for tool calls. -/
def isToolCalls : FinishReason → Bool
  | .toolCalls => true
  | _ => false

/-- A reason as a JSON value: its wire spelling. -/
def toValue (r : FinishReason) : Json.Value :=
  .string r.name

end FinishReason

/-- Token counts of one model call, each a 32-bit count. -/
structure Usage where
  promptTokens : Nat := 0
  completionTokens : Nat := 0
  totalTokens : Nat := 0
deriving DecidableEq, Inhabited

namespace Usage

/-- Usage as the protocol writes it. -/
def toValue (u : Usage) : Json.Value :=
  .object [("promptTokens", .nat u.promptTokens), ("completionTokens", .nat u.completionTokens),
    ("totalTokens", .nat u.totalTokens)]

end Usage

end ChatWire.Wire
