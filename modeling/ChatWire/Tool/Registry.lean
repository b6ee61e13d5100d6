import ChatWire.Json.Debug
import ChatWire.Tool.Clock
import ChatWire.Tool.Result

namespace ChatWire.Tool

/-- What runs when a tool is called: from the wall clock and the argument text. -/
abbrev Handler := Instant → String → Except ToolError ToolResult

end ChatWire.Tool

namespace ChatWire

/-- A callable tool. -/
structure Tool where
  definition : Tool.ToolDefinition
  handler : Tool.Handler

end ChatWire

namespace ChatWire.Tool

open ChatWire.Json

/-- The debugging text of a tool. -/
def debugText (t : Tool) : String :=
  "Tool \x7b definition: ToolDefinition \x7b name: " ++ Text.literal t.definition.name ++
    ", description: " ++ Text.literal t.definition.description ++ ", parameters: " ++
    t.definition.parameters.debugText ++ " \x7d, .. \x7d"

/-- A tool that answers with its arguments parsed as JSON. -/
def echo (definition : ToolDefinition) : Tool :=
  { definition, handler := fun _ args => do
      let v ← parseArguments .any args
      return (ToolResult.ok "echoed").withData v }

/-- A tool that always fails to run. -/
def failing (definition : ToolDefinition) (message : String) : Tool :=
  { definition, handler := fun _ _ => .error (.executionFailed message) }

/-- A tool that always answers the same result. -/
def constant (definition : ToolDefinition) (result : ToolResult) : Tool :=
  { definition, handler := fun _ _ => .ok result }

/-- The arguments of `word_count`. -/
def wordCountShape : Shape :=
  .record "WordCountArgs" [("text", .required, .text)]

/-- Counts the words, characters and lines of the `text` argument. -/
def wordCount : Handler := fun _ args =>
  match parseArguments wordCountShape args with
  | .error e => .ok (ToolResult.failure e.message)
  | .ok v =>
    let text := ((v.get? "text").bind Value.asString?).getD ""
    let words := (Text.words text).length
    .ok ((ToolResult.ok (toString words ++ " words")).withData
      (Value.mapOf [("words", .nat words), ("characters", .nat text.length),
        ("lines", .nat (Text.lines text).length)]))

/-- The arguments of `current_time`. -/
def currentTimeShape : Shape :=
  .record "CurrentTimeArgs" [("format", .defaulted, .optional .text)]

/-- Reports the current time, and the time in the `format` argument when given. -/
def currentTime : Handler := fun now args =>
  match parseArguments currentTimeShape args with
  | .error e => .ok (ToolResult.failure e.message)
  | .ok v =>
    let utc := now.rfc3339
    let base := [("utc", Value.string utc), ("unix", .int now.seconds)]
    let done (members : List (String × Value)) : Except ToolError ToolResult :=
      .ok ((ToolResult.ok ("Current time is " ++ utc)).withData (Value.mapOf members))
    match (v.get? "format").bind Value.asString? with
    | none => done base
    | some format =>
      match formatTime now format with
      | some text => done (base ++ [("formatted", .string text)])
      | none => .ok (ToolResult.failure ("invalid time format: " ++ format))

/-- The `word_count` tool. -/
def wordCountTool : Tool :=
  { definition :=
      { name := "word_count", description := "Count the words, characters and lines of a text.",
        parameters := Value.mapOf [("type", .string "object"),
          ("properties", Value.mapOf [("text", Value.mapOf [("type", .string "string"),
            ("description", .string "Text to analyse")])]),
          ("required", .array [.string "text"])] }
    handler := wordCount }

/-- The `current_time` tool. -/
def currentTimeTool : Tool :=
  { definition :=
      { name := "current_time", description := "Get the current date and time in UTC.",
        parameters := Value.mapOf [("type", .string "object"),
          ("properties", Value.mapOf [("format", Value.mapOf [("type", .string "string"),
            ("description", .string "Optional strftime format, e.g. %Y-%m-%d")])])] }
    handler := currentTime }

/-- Tools by name. -/
structure Registry where
  tools : List (String × Tool) := []

namespace Registry

/-- Adds a tool, replacing a tool of the same name. -/
def register (r : Registry) (t : Tool) : Registry :=
  let name := t.definition.name
  if r.tools.any (·.1 == name) then
    { tools := r.tools.map fun (n, old) => if n == name then (n, t) else (n, old) }
  else { tools := r.tools ++ [(name, t)] }

/-- The registry of the built-in tools. -/
def builtin : Registry :=
  ({} : Registry).register currentTimeTool |>.register wordCountTool

/-- The number of tools. -/
def size (r : Registry) : Nat :=
  r.tools.length

/-- Inserts a definition into a list sorted by name. -/
def insertByName (d : ToolDefinition) : List ToolDefinition → List ToolDefinition
  | [] => [d]
  | e :: rest => if d.name < e.name then d :: e :: rest else e :: insertByName d rest

/-- The definitions of all tools, sorted by name. -/
def definitions (r : Registry) : List ToolDefinition :=
  r.tools.foldr (fun (_, t) acc => insertByName t.definition acc) []

/-- Runs the tool with a name; an unknown name gives a failed result. -/
def execute (r : Registry) (now : Instant) (name arguments : String) : Except ToolError ToolResult :=
  match r.tools.lookup name with
  | some t => t.handler now arguments
  | none => .ok (ToolResult.failure ("unknown tool: " ++ name))

end Registry

end ChatWire.Tool
