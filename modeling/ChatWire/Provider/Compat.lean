import ChatWire.Json.Reader
import ChatWire.Json.Render
import ChatWire.Provider.Basic
import ChatWire.Provider.Http
import ChatWire.Provider.Sse
import ChatWire.Text.Utf8

namespace ChatWire.Provider

open ChatWire.Json ChatWire.Stream ChatWire.Tool ChatWire.Wire ChatWire.History

/-- A chat completions provider. -/
structure Compat where
  name : String
  /-- The full URL requests are posted to. -/
  endpoint : String
  apiKey : String
  model : String
  maxTokens : Nat
deriving Inhabited

/-- The marker event that ends a stream. -/
def doneMarker : String := "[DONE]"

namespace Compat

/-- The messages of a request, the system prompt first when it is not empty. -/
def messagesValue (req : TurnRequest) : Value :=
  let system := match req.systemPrompt with
    | some p => if p.isEmpty then [] else [(Role.system.name, p)]
    | none => []
  .array ((system ++ req.messages.map fun m => (m.role.name, m.content)).map fun (r, c) =>
    .object [("role", .string r), ("content", .string c)])

/-- A tool definition in the request format. -/
def toolValue (d : ToolDefinition) : Value :=
  .object [("type", .string "function"), ("function", .object ([("name", .string d.name)] ++
    (if d.description.isEmpty then [] else [("description", .string d.description)]) ++
    [("parameters", d.parameters)]))]

/-- The request body of a turn. -/
def requestBody (p : Compat) (req : TurnRequest) : Value :=
  .object ([("model", .string p.model), ("messages", messagesValue req), ("max_tokens", .nat p.maxTokens),
    ("stream", .bool true), ("stream_options", .object [("include_usage", .bool true)])] ++
    (if req.tools.isEmpty then []
     else [("tools", .array (req.tools.map toolValue)), ("tool_choice", .string "auto")]))

/-- The HTTP request of a turn. -/
def httpRequest (p : Compat) (req : TurnRequest) : HttpRequest :=
  { url := p.endpoint,
    headers := [("Authorization", "Bearer " ++ p.apiKey), ("Content-Type", "application/json")],
    body := (requestBody p req).render }

end Compat

/-- The shape of an error body. -/
def apiErrorShape : Shape :=
  .record "ApiError" [("error", .required, .record "ErrorDetail" [("message", .required, .text)])]

/-- The shape of a usage report. -/
def apiUsageShape : Shape :=
  .record "ApiUsage" [("prompt_tokens", .defaulted, Shape.word32),
    ("completion_tokens", .defaulted, Shape.word32), ("total_tokens", .defaulted, Shape.word32)]

/-- The shape of a tool call fragment. -/
def toolCallDeltaShape : Shape :=
  .record "OaiToolCallDelta" [("index", .required, Shape.size), ("id", .defaulted, .optional .text),
    ("type", .defaulted, .optional .text),
    ("function", .defaulted, .optional (.record "OaiFunctionDelta"
      [("name", .defaulted, .optional .text), ("arguments", .defaulted, .optional .text)]))]

/-- The shape of a streamed chunk. -/
def streamChunkShape : Shape :=
  .record "StreamChunk"
    [("choices", .defaulted, .sequence (.record "StreamChoice"
      [("delta", .defaulted, .record "StreamDelta"
        [("content", .defaulted, .optional .text),
         ("tool_calls", .defaulted, .optional (.sequence toolCallDeltaShape))]),
       ("finish_reason", .defaulted, .optional .text)])),
     ("usage", .defaulted, .optional apiUsageShape)]

/-- An optional string member of a value read with a shape. -/
def optionalText (v : Value) (key : String) : Option String :=
  (v.get? key).bind Value.asString?

/-- A count member, zero when absent. -/
def countOf (v : Value) (key : String) : Nat :=
  (((v.get? key).bind Value.asInt?).map Int.toNat).getD 0

/-- A tool call fragment from its chunk form. -/
def rawDeltaOf (v : Value) : RawToolCallDelta :=
  let function := (v.get? "function").getD .null
  { index := countOf v "index", id := optionalText v "id", callType := optionalText v "type",
    name := optionalText function "name", arguments := optionalText function "arguments" }

/-- The event of a chunk, if it carries anything. -/
def eventOfChunk (chunk : Value) : Option ProviderEvent :=
  let usage : Option Usage := match chunk.get? "usage" with
    | some u@(.object _) =>
      some { promptTokens := countOf u "prompt_tokens"
             completionTokens := countOf u "completion_tokens"
             totalTokens := countOf u "total_tokens" }
    | _ => none
  let choice := (((chunk.get? "choices").bind Value.asArray?).getD []).head?
  let event : ProviderEvent := match choice with
    | some c =>
      let delta := (c.get? "delta").getD .null
      { text := (optionalText delta "content").getD "",
        toolCalls := (((delta.get? "tool_calls").bind Value.asArray?).getD []).map rawDeltaOf,
        finishReason := optionalText c "finish_reason", usage }
    | none => { usage }
  if event.text.isEmpty && event.toolCalls.isEmpty && event.finishReason.isNone && event.usage.isNone then none
  else some event

/-- The items of a stream from the data of its events. -/
def itemsOfEvents : List String → List (Except ProviderError ProviderEvent)
  | [] => []
  | data :: rest =>
    if data == doneMarker then []
    else match readText streamChunkShape data with
      | .ok chunk =>
        match eventOfChunk chunk with
        | some e => .ok e :: itemsOfEvents rest
        | none => itemsOfEvents rest
      | .error e => [.error (.provider ("Failed to parse SSE: " ++ e.message))]

/-- The event stream of a successful response body. -/
def eventsOfBody (body : List UInt8) : EventStream :=
  if body.take 3 == [0xEF, 0xBB, 0xBF] then
    { ending := .breaks "start byte index 1 is not a char boundary" }
  else { items := itemsOfEvents (sseEvents (Text.decodeLossy body)) }

/-- Whether a status is a success. -/
def isSuccess (status : Nat) : Bool :=
  200 ≤ status && status < 300

namespace Compat

/-- Starts a turn: posts the request and reads the response. -/
def streamTurn (p : Compat) (transport : Transport) (req : TurnRequest) : Except ProviderError EventStream :=
  match send transport (p.httpRequest req) with
  | .error e => .error (.requestFailed e)
  | .ok response =>
    if response.status == 401 then
      let message := match readText apiErrorShape (Text.decodeLossy response.body) with
        | .ok v => (((v.get? "error").bind fun e => e.get? "message").bind Value.asString?).getD "Invalid API key"
        | .error _ => "Invalid API key"
      .error (.authentication message)
    else if !isSuccess response.status then
      .error (.requestFailed ("HTTP " ++ statusText response.status ++ ": " ++ Text.decodeLossy response.body))
    else .ok (eventsOfBody response.body)

end Compat

end ChatWire.Provider
