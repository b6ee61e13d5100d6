import ChatWire.Turn.Basic
import ChatWire.Stream.Chunk
import ChatWire.Tool.Registry
import ChatWire.History.Message

namespace ChatWire.Turn

open ChatWire.Wire ChatWire.Stream ChatWire.Tool ChatWire.Json

namespace Reply

/-- The client's view of the tool call at a position. -/
def toolStream (r : Reply) (index : Nat) : ToolStream :=
  (r.toolStreams.lookup index).getD {}

/-- Replaces the client's view of the tool call at a position. -/
def setToolStream (r : Reply) (index : Nat) (s : ToolStream) : Reply :=
  { r with toolStreams := (index, s) :: r.toolStreams.filter (·.1 != index) }

end Reply

/-- Records the view of a tool call. -/
def putToolStream (index : Nat) (s : ToolStream) : ReplyM Unit :=
  modify fun r => r.setToolStream index s

/-- Passes one tool call fragment on to the client. -/
def forwardToolDelta (d : ToolCallDelta) : ReplyM Unit := do
  let s := (← get).toolStream d.index
  let s := { s with id := keepFirst s.id d.id, name := keepFirst s.name d.name }
  if !s.started then
    if s.id.isEmpty || s.name.isEmpty then
      putToolStream d.index { s with heldArguments := s.heldArguments ++ d.arguments }
      return
    putToolStream d.index { s with started := true, heldArguments := "" }
    guarded (.toolCallStart s.id s.name)
    if !s.heldArguments.isEmpty then
      guarded (.toolCallArgDelta s.id s.heldArguments)
  else putToolStream d.index s
  if !d.arguments.isEmpty then
    guarded (.toolCallArgDelta s.id d.arguments)

/-- The result a tool run is reported with. -/
def reportedResult : Except ToolError ToolResult → ToolResult
  | .ok result => result
  | .error e => ToolResult.failure ("Failed to execute tool: " ++ e.message)

/-- Writes a complete tool call, runs it and writes its result. -/
def dispatch (tools : Registry) (now : Instant) (call : ToolCall) : ReplyM Unit := do
  if call.id.isEmpty || call.name.isEmpty then return
  guarded (.toolCall call.id call.name call.parsedArguments)
  checkCancelled
  let result := reportedResult (tools.execute now call.name call.arguments)
  modify fun r => { r with toolCalls := r.toolCalls + 1 }
  guarded (.toolResult call.id result.toValue)

/-- Writes the finish parts of a step and records how it ended. -/
def finish (reason : FinishReason) (usage : Option Usage) : ReplyM Unit := do
  let continued := reason.isToolCalls
  guarded (.finishStep reason usage continued)
  if !continued then guarded (.finishMessage reason usage)
  modify fun r => { r with finishReason := some reason, usage }

/-- Writes the remaining chunks. -/
def streamChunks (tools : Registry) (now : Instant) : List Chunk → ChannelEnd → ReplyM Unit
  | [], ending => do
    checkCancelled
    match ending with
    | .blocked => block
    | .closed => finish .error none
  | c :: rest, ending => do
    checkCancelled
    if !c.text.isEmpty then
      modify fun r => { r with text := r.text ++ c.text }
      guarded (.text c.text)
    c.toolCallDeltas.forM forwardToolDelta
    if c.done then
      c.completedToolCalls.forM (dispatch tools now)
      finish (c.finishReason.getD .unknown) c.usage
    else streamChunks tools now rest ending

/-- Writes a whole reply: the start part, then the chunks. -/
def streamReply (tools : Registry) (now : Instant) (messageId : String) (chunks : Chunks) :
    ReplyM Unit := do
  guarded (.start messageId)
  streamChunks tools now chunks.chunks chunks.ending

/-- The annotation tying the stored user message to the reply. -/
def annotationPart (userMessageId messageId : String) : Part :=
  .annotations (.object [("userMessageId", .string userMessageId), ("messageId", .string messageId)])

/-- The token count a reply is stored with: the reported completion tokens, else an
    estimate from its text. -/
def Reply.tokenCount (r : Reply) : Nat :=
  match r.usage with
  | some u => u.completionTokens
  | none => History.estimateTokens r.text

end ChatWire.Turn
