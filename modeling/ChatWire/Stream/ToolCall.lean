import ChatWire.Json.Reader

namespace ChatWire.Stream

open ChatWire.Json

/-- A tool call fragment as a provider sends it. -/
structure RawToolCallDelta where
  index : Nat := 0
  id : Option String := none
  callType : Option String := none
  name : Option String := none
  arguments : Option String := none
deriving Inhabited

/-- A tool call fragment as passed on to the writer. -/
structure ToolCallDelta where
  index : Nat
  id : Option String
  name : Option String
  arguments : String
deriving Inhabited

/-- A complete tool call. -/
structure ToolCall where
  id : String
  callType : String
  name : String
  arguments : String
deriving Inhabited

namespace ToolCall

/-- The arguments as JSON, or the raw text as a JSON string when they do not parse. -/
def parsedArguments (c : ToolCall) : Value :=
  match parse c.arguments with
  | .ok v => v
  | .error _ => .string c.arguments

end ToolCall

/-- What is known so far of the call at one position. -/
structure Pending where
  id : String := ""
  callType : String := ""
  name : String := ""
  arguments : String := ""
deriving Inhabited

/-- Calls being reassembled, by ascending position. -/
structure Accumulator where
  entries : List (Nat × Pending) := []
deriving Inhabited

/-- `some s` unless `s` is absent or empty. -/
def nonEmpty : Option String → Option String
  | some s => if s.isEmpty then none else some s
  | none => none

/-- Keeps `current` unless it is empty. -/
def keepFirst (current : String) (offered : Option String) : String :=
  if current.isEmpty then (offered.getD current) else current

namespace Accumulator

/-- Whether no fragment has been seen. -/
def isEmpty (a : Accumulator) : Bool :=
  a.entries.isEmpty

/-- Updates the entry at a position (a fresh entry if there is none), keeping the
    positions in ascending order. -/
def update (entries : List (Nat × Pending)) (index : Nat) (f : Pending → Pending) :
    List (Nat × Pending) :=
  match entries with
  | [] => [(index, f {})]
  | (k, p) :: rest =>
    if index < k then (index, f {}) :: (k, p) :: rest
    else if index == k then (k, f p) :: rest
    else (k, p) :: update rest index f

/-- Merges one fragment and returns it in normal form. -/
def apply (a : Accumulator) (d : RawToolCallDelta) : ToolCallDelta × Accumulator :=
  let id := nonEmpty d.id
  let name := nonEmpty d.name
  let callType := nonEmpty d.callType
  let arguments := d.arguments.getD ""
  let merge (p : Pending) : Pending :=
    { id := keepFirst p.id id, name := keepFirst p.name name,
      callType := keepFirst p.callType callType, arguments := p.arguments ++ arguments }
  ({ index := d.index, id, name, arguments }, { entries := update a.entries d.index merge })

/-- Every call, in ascending order of position. -/
def finish (a : Accumulator) : List ToolCall :=
  a.entries.map fun (_, p) =>
    { id := p.id, callType := if p.callType.isEmpty then "function" else p.callType,
      name := p.name, arguments := p.arguments }

end Accumulator

end ChatWire.Stream
