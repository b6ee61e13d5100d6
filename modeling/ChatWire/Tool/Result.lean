import ChatWire.Json.Reader
import ChatWire.Json.Render
import ChatWire.Text.Blank

namespace ChatWire.Tool

open ChatWire.Json

/-- Why a tool could not run. -/
inductive ToolError where
  /-- The argument text is not JSON of the expected shape. -/
  | invalidArguments (cause : ReadError)
  /-- The tool ran but could not complete. -/
  | executionFailed (message : String)
deriving Inhabited

namespace ToolError

/-- The message of a tool error. -/
def message : ToolError → String
  | .invalidArguments e => "invalid arguments: " ++ e.message
  | .executionFailed m => m

/-- The name of the error's kind. -/
def kindName : ToolError → String
  | .invalidArguments _ => "InvalidArguments"
  | .executionFailed _ => "ExecutionFailed"

end ToolError

/-- What the model is told about a tool. -/
structure ToolDefinition where
  name : String
  description : String
  parameters : Value
deriving Inhabited

namespace ToolDefinition

/-- A definition as a JSON value. -/
def toValue (d : ToolDefinition) : Value :=
  .object [("name", .string d.name), ("description", .string d.description),
    ("parameters", d.parameters)]

end ToolDefinition

/-- The outcome of a tool call. -/
structure ToolResult where
  success : Bool
  message : Option String := none
  data : Option Value := none
  error : Option String := none
deriving Inhabited

namespace ToolResult

/-- A successful result with a summary. -/
def ok (message : String) : ToolResult :=
  { success := true, message := some message }

/-- A failed result with an error text. -/
def failure (error : String) : ToolResult :=
  { success := false, error := some error }

/-- Attaches structured data. -/
def withData (r : ToolResult) (data : Value) : ToolResult :=
  { r with data := some data }

/-- A result as a JSON value, absent parts left out. -/
def toValue (r : ToolResult) : Value :=
  .object ([("success", .bool r.success)] ++
    (r.message.map fun m => [("message", Value.string m)]).getD [] ++
    (r.data.map fun d => [("data", d)]).getD [] ++
    (r.error.map fun e => [("error", Value.string e)]).getD [])

/-- The shape of a result read from JSON: `success` is required, the rest default to
    absent. -/
def shape : Shape :=
  .record "ToolResult" [("success", .required, .flag), ("message", .defaulted, .optional .text),
    ("data", .defaulted, .optional .any), ("error", .defaulted, .optional .text)]

/-- A result from a JSON value read with `shape`. -/
def ofValue (v : Value) : ToolResult :=
  { success := ((v.get? "success").bind Value.asBool?).getD false
    message := (v.get? "message").bind Value.asString?
    data := (v.get? "data").bind fun d => if d.isNull then none else some d
    error := (v.get? "error").bind Value.asString? }

end ToolResult

/-- Parses a complete argument text as JSON of the given shape; a blank text is read
    as the empty object. -/
def parseArguments (shape : Shape) (arguments : String) : Except ToolError Value :=
  let text := if Text.isBlankText arguments then "\x7b\x7d" else arguments
  match readText shape text with
  | .ok v => .ok v
  | .error e => .error (.invalidArguments e)

end ChatWire.Tool
