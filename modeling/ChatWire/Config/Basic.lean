import ChatWire.Json.ReadError
import ChatWire.Toml.Parser

namespace ChatWire.Config

open ChatWire.Json ChatWire.Toml

/-- How often a new log file is started. -/
inductive Rotation where
  | hourly
  | daily
  | never
deriving DecidableEq, Inhabited

namespace Rotation

/-- The name of a rotation. -/
def name : Rotation → String
  | .hourly => "hourly"
  | .daily => "daily"
  | .never => "never"

/-- Every rotation, in declaration order. -/
def all : List Rotation := [.hourly, .daily, .never]

end Rotation

/-- Settings of the streaming pipeline. -/
structure StreamConfig where
  /-- Capacity of the chunk channel between the accumulator and the writer. -/
  channelCapacity : Nat := 10
  /-- How many stored messages are sent to the model as history. -/
  historyLimit : Nat := 100
deriving DecidableEq, Inhabited

/-- Settings of rolling log files. -/
structure LoggingConfig where
  directory : String := "logs"
  rotation : Rotation := .daily
  maxFiles : Nat := 7
deriving DecidableEq, Inhabited

end ChatWire.Config

namespace ChatWire

/-- The configuration. -/
structure Config where
  provider : String := "openai"
  apiKey : Option String := none
  model : String := "gpt-4o-mini"
  baseUrl : Option String := none
  maxTokens : Nat := 4096
  systemPrompt : Option String := none
  stream : Config.StreamConfig := {}
  logging : Option Config.LoggingConfig := none
deriving DecidableEq, Inhabited

end ChatWire

namespace ChatWire.Config

open ChatWire.Json ChatWire.Toml

/-- A value of the wrong kind or out of range, at the value's span. -/
def errorAt (n : Node) (issue : ReadIssue) : TomlError :=
  { message := issue.message, span := some n.span }

/-- The widest integers a setting can be given: 128 bits. -/
def fitsWide (i : Int) : Bool :=
  -((Nat.pow 2 127 : Nat) : Int) ≤ i ∧ i < ((Nat.pow 2 128 : Nat) : Int)

/-- Whether an integer is read as a 64-bit value, signed or unsigned. -/
def fitsNarrow (i : Int) : Bool :=
  -((Nat.pow 2 63 : Nat) : Int) ≤ i ∧ i < ((Nat.pow 2 64 : Nat) : Int)

/-- How errors describe an integer. An integer beyond 64 bits is read as `i128` when
    it fits, else as `u128`. -/
def unexpectedInteger (i : Int) : Unexpected :=
  if fitsNarrow i then (if 0 ≤ i then .unsigned i.toNat else .signed i)
  else if i < ((Nat.pow 2 127 : Nat) : Int) then .wideInteger i "i128"
  else .wideInteger i "u128"

/-- The error of a value of the wrong kind. An integer with no digits, or too wide for
    any setting, is reported as an overflow: no integer type reads it. -/
def wrongType (n : Node) (expected : String) : TomlError :=
  let describe (u : Unexpected) : TomlError := errorAt n (.invalidType u expected)
  let overflow : TomlError := { message := "integer number overflowed", span := some n.span }
  match n with
  | .string s _ => describe (.string s)
  | .integer (some i) _ => if fitsWide i then describe (unexpectedInteger i) else overflow
  | .integer none _ => overflow
  | .float x _ => describe (.fullFloat x)
  | .boolean b _ => describe (.bool b)
  | .datetime .. | .table .. => describe .map
  | .array .. => describe .sequence

/-- A string setting. -/
def text (expected : String) (n : Node) : Except TomlError String :=
  match n with
  | .string s _ => .ok s
  | other => .error (wrongType other expected)

/-- A count setting below a limit. -/
def count (name : String) (limit : Nat) (n : Node) : Except TomlError Nat :=
  match n with
  | .integer (some i) _ =>
    if 0 ≤ i ∧ i.toNat < limit then .ok i.toNat
    else if fitsNarrow i then .error (errorAt n (.invalidValue (unexpectedInteger i) name))
    else .error (wrongType n name)
  | other => .error (wrongType other name)

/-- A 32-bit count. -/
def count32 : Node → Except TomlError Nat := count "u32" (Nat.pow 2 32)

/-- A 64-bit count. -/
def count64 : Node → Except TomlError Nat := count "usize" (Nat.pow 2 64)

/-- A rotation: its name, or a table with its name as the only key and an empty table
    or array as the value. -/
def rotation (n : Node) : Except TomlError Rotation :=
  let byName (s : String) (at_ : Node) : Except TomlError Rotation :=
    match Rotation.all.find? (·.name == s) with
    | some r => .ok r
    | none => .error (errorAt at_ (.unknownVariant s (Rotation.all.map Rotation.name)))
  match n with
  | .string s _ => byName s n
  | .table [(k, v)] _ => do
    let r ← byName k n
    match v with
    | .table [] _ | .array [] _ => .ok r
    | .table .. => .error { message := "expected empty table", span := some v.span }
    | .array .. => .error { message := "expected empty array", span := some v.span }
    | other => .error { message := "expected table, found " ++ other.typeName, span := some other.span }
  | .table [] _ => .error { message := "wanted exactly 1 element, found 0 elements", span := some n.span }
  | .table .. => .error { message := "wanted exactly 1 element, more than 1 element", span := some n.span }
  | _ => .error { message := "wanted string or table", span := some n.span }

/-- Reads the settings of a section, in ascending order of key (a table) or in
    declaration order (an array). `fields` pairs each setting's key with its reader. A
    date or time is read as a table whose one member names no setting, so a section
    given one keeps all its defaults. -/
def sectionEntries (name : String) (n : Node) (fields : List String) :
    Except TomlError (List (String × Node)) :=
  match n with
  | .table entries _ => .ok (entries.filter fun (k, _) => fields.contains k)
  | .array items _ => .ok (fields.zip items)
  | .datetime .. => .ok []
  | other => .error (wrongType other ("struct " ++ name))

/-- Folds the settings of a section into a value, each with its reader. -/
def settle (start : α) (entries : List (String × Node)) (apply : α → String → Node → Except TomlError α) :
    Except TomlError α :=
  entries.foldlM (fun acc (k, v) => apply acc k v) start

/-- The streaming settings of a node. -/
def streamConfig (n : Node) : Except TomlError StreamConfig := do
  let entries ← sectionEntries "StreamConfig" n ["channel_capacity", "history_limit"]
  settle {} entries fun c k v => match k with
    | "channel_capacity" => return { c with channelCapacity := ← count64 v }
    | "history_limit" => return { c with historyLimit := ← count64 v }
    | _ => return c

/-- The logging settings of a node. -/
def loggingConfig (n : Node) : Except TomlError LoggingConfig := do
  let entries ← sectionEntries "LoggingConfig" n ["directory", "rotation", "max_files"]
  settle {} entries fun c k v => match k with
    | "directory" => return { c with directory := ← text "path string" v }
    | "rotation" => return { c with rotation := ← rotation v }
    | "max_files" => return { c with maxFiles := ← count64 v }
    | _ => return c

/-- The configuration of a document's root table. -/
def ofDocument (root : Node) : Except TomlError Config := do
  let entries := match root with
    | .table entries _ => entries
    | _ => []
  settle {} entries fun c k v => match k with
    | "provider" => return { c with provider := ← text "a string" v }
    | "api_key" => return { c with apiKey := some (← text "a string" v) }
    | "model" => return { c with model := ← text "a string" v }
    | "base_url" => return { c with baseUrl := some (← text "a string" v) }
    | "max_tokens" => return { c with maxTokens := ← count32 v }
    | "system_prompt" => return { c with systemPrompt := some (← text "a string" v) }
    | "stream" => return { c with stream := ← streamConfig v }
    | "logging" => return { c with logging := some (← loggingConfig v) }
    | _ => return c

/-- Reads a configuration from TOML text. -/
def parse (text : String) : Except TomlError Config := do
  ofDocument (← parseDocument text)

end ChatWire.Config
