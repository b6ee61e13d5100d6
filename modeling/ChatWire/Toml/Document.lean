import ChatWire.Json.Binary64
import ChatWire.Toml.Token

namespace ChatWire.Toml

/-- A stretch of source text, as byte offsets. -/
structure Span where
  start : Nat
  stop : Nat
deriving DecidableEq, Inhabited

/-- A value of a TOML document. -/
inductive Node where
  | string (s : String) (span : Span)
  /-- An integer; `none` when its digits do not form a number (none after a radix
      prefix, or a stray character among them), which no integer type reads. -/
  | integer (i : Option Int) (span : Span)
  | float (x : Json.Binary64) (span : Span)
  | boolean (b : Bool) (span : Span)
  /-- A date, a time or both, kept as written. -/
  | datetime (text : String) (span : Span)
  | array (items : List Node) (span : Span)
  /-- A table, its keys in ascending order. -/
  | table (entries : List (String × Node)) (span : Span)
deriving Inhabited

namespace Node

/-- The source span of a node. -/
def span : Node → Span
  | .string _ s | .integer _ s | .float _ s | .boolean _ s | .datetime _ s | .array _ s
  | .table _ s => s

/-- How errors name the type of a node. -/
def typeName : Node → String
  | .string .. => "string"
  | .integer .. => "integer"
  | .float .. => "float"
  | .boolean .. => "boolean"
  | .datetime .. => "datetime"
  | .array .. => "array"
  | .table .. => "table"

/-- The member of a table with a key. -/
def get? (n : Node) (key : String) : Option Node :=
  match n with
  | .table entries _ => entries.lookup key
  | _ => none

end Node

/-- A TOML error: a message and the span it points at, if any. -/
structure TomlError where
  message : String
  span : Option Span := none
deriving Inhabited

namespace TomlError

/-- The lines of a text: its pieces between `\n`. -/
def lines (source : String) : List (List Char) :=
  source.toList.splitOn '\n'

/-- The line (from 0) holding a byte offset, and the offset where that line starts.
    A `\n` belongs to the line it ends. -/
def lineOf (index : Nat) : List (List Char) → Nat → Nat × Nat
  | [], _ => (0, 0)
  | [_], start => (0, start)
  | l :: rest, start =>
    let next := start + Token.byteLength l + 1
    if index < next then (0, start)
    else
      let (line, lineStart) := lineOf index rest next
      (line + 1, lineStart)

/-- The column of a byte offset in its line: the characters before it when the line up
    to and including that byte is whole characters, else the bytes before it. -/
def columnIn (line : List Char) (offset : Nat) : Nat :=
  let rec go : List Char → Nat → Nat → Nat
    | [], bytes, chars => if bytes == offset then chars else offset
    | c :: rest, bytes, chars =>
      if offset < bytes + c.utf8Size then
        if offset + 1 == bytes + c.utf8Size then chars else offset
      else go rest (bytes + c.utf8Size) (chars + 1)
  go line 0 0

/-- The line (from 0) and column (from 0) of a byte offset. An offset at or past the
    end is placed after the last byte. -/
def position (source : String) (index : Nat) : Nat × Nat :=
  let size := source.utf8ByteSize
  if size == 0 then (0, index) else
  let safe := min index (size - 1)
  let ls := lines source
  let (line, lineStart) := lineOf safe ls 0
  (line, columnIn (ls.getD line []) (safe - lineStart) + (index - safe))

/-- `n` spaces. -/
def spaces (n : Nat) : String :=
  String.ofList (List.replicate n ' ')

/-- The report of an error in a source text. -/
def render (e : TomlError) (source : String) : String :=
  match e.span with
  | none => e.message ++ "\n"
  | some span =>
    let (line, column) := position source span.start
    let lineNumber := toString (line + 1)
    let gutter := lineNumber.length
    let content := String.ofList ((lines source).getD line [])
    let width := min (span.stop - span.start) (content.utf8ByteSize - column)
    "TOML parse error at line " ++ lineNumber ++ ", column " ++ toString (column + 1) ++ "\n" ++
      spaces (gutter + 1) ++ "|\n" ++
      lineNumber ++ " | " ++ content ++ "\n" ++
      spaces (gutter + 1) ++ "|" ++ spaces (column + 1) ++ "^" ++
        String.ofList (List.replicate (width - 1) '^') ++ "\n" ++
      e.message ++ "\n"

end TomlError

end ChatWire.Toml
