import ChatWire.Json.Render
import ChatWire.Wire.FinishReason

namespace ChatWire.Wire

open ChatWire.Json

/-- The kinds of part, each with its one-character tag. -/
inductive PartKind where
  | text
  | data
  | error
  | annotations
  | toolCall
  | toolResult
  | toolCallStart
  | toolCallArgDelta
  | finishMessage
  | finishStep
  | start
deriving DecidableEq, Inhabited

namespace PartKind

/-- The tag written before the colon. -/
def tag : PartKind → String
  | .text => "0"
  | .data => "2"
  | .error => "3"
  | .annotations => "8"
  | .toolCall => "9"
  | .toolResult => "a"
  | .toolCallStart => "b"
  | .toolCallArgDelta => "c"
  | .finishMessage => "d"
  | .finishStep => "e"
  | .start => "f"

end PartKind

/-- One part framed as a line: tag, colon, compact JSON, newline. -/
def frame (kind : PartKind) (payload : Value) : String :=
  kind.tag ++ ":" ++ payload.render ++ "\n"

/-- A part of the stream with its content. -/
inductive Part where
  | start (messageId : String)
  | text (delta : String)
  | data (items : List Value)
  | error (message : String)
  | annotations (value : Value)
  | toolCall (id name : String) (args : Value)
  | toolResult (id : String) (result : Value)
  | toolCallStart (id name : String)
  | toolCallArgDelta (id delta : String)
  | finishStep (reason : FinishReason) (usage : Option Usage) (continued : Bool)
  | finishMessage (reason : FinishReason) (usage : Option Usage)
deriving Inhabited

namespace Part

/-- The kind of a part. -/
def kind : Part → PartKind
  | .start .. => .start
  | .text .. => .text
  | .data .. => .data
  | .error .. => .error
  | .annotations .. => .annotations
  | .toolCall .. => .toolCall
  | .toolResult .. => .toolResult
  | .toolCallStart .. => .toolCallStart
  | .toolCallArgDelta .. => .toolCallArgDelta
  | .finishStep .. => .finishStep
  | .finishMessage .. => .finishMessage

/-- The `usage` member when usage is known. -/
def usageMember : Option Usage → List (String × Value)
  | some u => [("usage", u.toValue)]
  | none => []

/-- The JSON payload of a part. -/
def payload : Part → Value
  | .start id => .object [("messageId", .string id)]
  | .text t => .string t
  | .data items => .array items
  | .error m => .string m
  | .annotations v => .array [v]
  | .toolCall id name args =>
    .object [("toolCallId", .string id), ("toolName", .string name), ("args", args)]
  | .toolResult id result => .object [("toolCallId", .string id), ("result", result)]
  | .toolCallStart id name => .object [("toolCallId", .string id), ("toolName", .string name)]
  | .toolCallArgDelta id delta =>
    .object [("toolCallId", .string id), ("argsTextDelta", .string delta)]
  | .finishStep reason usage continued =>
    .object ([("finishReason", reason.toValue)] ++ usageMember usage ++
      (if continued then [("isContinued", .bool true)] else []))
  | .finishMessage reason usage =>
    .object ([("finishReason", reason.toValue)] ++ usageMember usage)

/-- The line of a part. -/
def line (p : Part) : String :=
  frame p.kind p.payload

end Part

end ChatWire.Wire
