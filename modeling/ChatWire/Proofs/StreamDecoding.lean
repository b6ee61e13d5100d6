import ChatWire.Provider.Compat
import ChatWire.Stream.Chunk

namespace ChatWire.Provider

end ChatWire.Provider

namespace ChatWire.Stream

open ChatWire.Provider ChatWire.Wire

end ChatWire.Stream

namespace ChatWire.Provider

open ChatWire.Json ChatWire.Stream ChatWire.Wire

/-- A tool call fragment of a chunk: its position, its id and type, and the name and
    arguments of its function object when it has one. -/
structure ChunkToolCall where
  index : Nat
  id : Option String
  callType : Option String
  function : Option (Option String × Option String)

/-- A choice of a chunk: the content and the tool call fragments of its delta, and its finish
    reason. -/
structure ChunkChoice where
  content : Option String
  toolCalls : Option (List ChunkToolCall)
  finishReason : Option String

/-- A streamed chunk: its choices, and its usage report when it has one. -/
structure StreamChunk where
  choices : List ChunkChoice
  usage : Option Usage

namespace ChunkToolCall

/-- Reads a fragment from a value of its shape. -/
def ofValue (v : Value) : ChunkToolCall :=
  { index := countOf v "index", id := optionalText v "id", callType := optionalText v "type",
    function := (v.get? "function").bind fun f =>
      f.asObject?.map fun _ => (optionalText f "name", optionalText f "arguments") }

/-- The fragment as an event carries it: with no function object there is neither a name nor
    arguments. -/
def fragment (c : ChunkToolCall) : RawToolCallDelta :=
  { index := c.index, id := c.id, callType := c.callType,
    name := c.function.bind (·.1), arguments := c.function.bind (·.2) }

end ChunkToolCall

namespace ChunkChoice

/-- Reads a choice from a value of its shape; a missing delta is an empty one. -/
def ofValue (v : Value) : ChunkChoice :=
  let delta := (v.get? "delta").getD .null
  { content := optionalText delta "content",
    toolCalls := ((delta.get? "tool_calls").bind Value.asArray?).map (·.map ChunkToolCall.ofValue),
    finishReason := optionalText v "finish_reason" }

end ChunkChoice

/-- Reads a usage report from a value of its shape; a count that is absent is zero. -/
def usageOfValue (u : Value) : Option Usage :=
  u.asObject?.map fun _ =>
    { promptTokens := countOf u "prompt_tokens", completionTokens := countOf u "completion_tokens",
      totalTokens := countOf u "total_tokens" }

namespace StreamChunk

/-- Reads a chunk from a value of its shape; missing choices are none. -/
def ofValue (v : Value) : StreamChunk :=
  { choices := (((v.get? "choices").bind Value.asArray?).getD []).map ChunkChoice.ofValue,
    usage := (v.get? "usage").bind usageOfValue }

/-- The event a chunk stands for: the content, fragments and finish reason of its first choice,
    if it has one, and its usage. Later choices are not read. -/
def event (c : StreamChunk) : ProviderEvent :=
  { text := (c.choices.head?.bind (·.content)).getD "",
    toolCalls := ((c.choices.head?.bind (·.toolCalls)).getD []).map ChunkToolCall.fragment,
    finishReason := c.choices.head?.bind (·.finishReason),
    usage := c.usage }

end StreamChunk

end ChatWire.Provider
