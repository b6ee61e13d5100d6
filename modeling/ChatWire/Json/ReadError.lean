import ChatWire.Json.Render
import ChatWire.Text.Literal

namespace ChatWire.Json

/-- A value found where another kind was expected, as error messages describe it. -/
inductive Unexpected where
  | null
  | bool (b : Bool)
  | unsigned (n : Nat)
  | signed (i : Int)
  /-- An integer outside 64 bits, read as a wider type such as `i128`. -/
  | wideInteger (i : Int) (type : String)
  | float (x : Binary64)
  /-- A float that the message writes out in full, never with an exponent. -/
  | fullFloat (x : Binary64)
  | string (s : String)
  | sequence
  | map

namespace Unexpected

/-- How an error message describes the value found. -/
def describe : Unexpected → String
  | .null => "null"
  | .bool b => "boolean `" ++ toString b ++ "`"
  | .unsigned n => "integer `" ++ toString n ++ "`"
  | .signed i => "integer `" ++ toString i ++ "`"
  | .wideInteger i type => "integer `" ++ toString i ++ "` as " ++ type
  | .float x => "floating point `" ++ x.diagnosticText ++ "`"
  | .fullFloat x => "floating point `" ++ x.positionalText ++ "`"
  | .string s => "string " ++ Text.literal s
  | .sequence => "sequence"
  | .map => "map"

/-- How an error message describes a value of a number. -/
def ofNumber : Number → Unexpected
  | .int i => if 0 ≤ i then .unsigned i.toNat else .signed i
  | .float x => .float x

/-- How an error message describes a value. -/
def ofValue : Value → Unexpected
  | .null => .null
  | .bool b => .bool b
  | .number n => ofNumber n
  | .string s => .string s
  | .array _ => .sequence
  | .object _ => .map

end Unexpected

/-- The cause of a reading failure. -/
inductive ReadIssue where
  | eofWhileParsingList
  | eofWhileParsingObject
  | eofWhileParsingString
  | eofWhileParsingValue
  | expectedColon
  | expectedListCommaOrEnd
  | expectedObjectCommaOrEnd
  | expectedSomeIdent
  | expectedSomeValue
  | invalidEscape
  | invalidNumber
  | numberOutOfRange
  | controlCharacterInString
  | keyMustBeAString
  | loneLeadingSurrogate
  | trailingComma
  | trailingCharacters
  | unexpectedEndOfHexEscape
  | recursionLimitExceeded
  /-- A value of the wrong kind. -/
  | invalidType (found : Unexpected) (expected : String)
  /-- A value of the right kind but out of range. -/
  | invalidValue (found : Unexpected) (expected : String)
  /-- A sequence with too few items for a record. -/
  | invalidLength (length : Nat) (expected : String)
  | unknownVariant (variant : String) (expected : List String)
  | missingField (field : String)
  | duplicateField (field : String)

namespace ReadIssue

/-- The message of a cause. -/
def message : ReadIssue → String
  | .eofWhileParsingList => "EOF while parsing a list"
  | .eofWhileParsingObject => "EOF while parsing an object"
  | .eofWhileParsingString => "EOF while parsing a string"
  | .eofWhileParsingValue => "EOF while parsing a value"
  | .expectedColon => "expected `:`"
  | .expectedListCommaOrEnd => "expected `,` or `]`"
  | .expectedObjectCommaOrEnd => "expected `,` or `\x7d`"
  | .expectedSomeIdent => "expected ident"
  | .expectedSomeValue => "expected value"
  | .invalidEscape => "invalid escape"
  | .invalidNumber => "invalid number"
  | .numberOutOfRange => "number out of range"
  | .controlCharacterInString => "control character (\\u0000-\\u001F) found while parsing a string"
  | .keyMustBeAString => "key must be a string"
  | .loneLeadingSurrogate => "lone leading surrogate in hex escape"
  | .trailingComma => "trailing comma"
  | .trailingCharacters => "trailing characters"
  | .unexpectedEndOfHexEscape => "unexpected end of hex escape"
  | .recursionLimitExceeded => "recursion limit exceeded"
  | .invalidType found expected => "invalid type: " ++ found.describe ++ ", expected " ++ expected
  | .invalidValue found expected => "invalid value: " ++ found.describe ++ ", expected " ++ expected
  | .invalidLength n expected => "invalid length " ++ toString n ++ ", expected " ++ expected
  | .unknownVariant v expected =>
    "unknown variant `" ++ v ++ "`, expected " ++ variantList expected
  | .missingField f => "missing field `" ++ f ++ "`"
  | .duplicateField f => "duplicate field `" ++ f ++ "`"
where
  /-- `one of `a`, `b`` for several variants. -/
  variantList : List String → String
    | [] => "nothing"
    | [v] => "`" ++ v ++ "`"
    | [v, w] => "`" ++ v ++ "` or `" ++ w ++ "`"
    | vs => "one of " ++ ", ".intercalate (vs.map fun v => "`" ++ v ++ "`")

end ReadIssue

/-- A reading failure: its cause, and the line and column where it was found (line 0
    when it has no position). -/
structure ReadError where
  issue : ReadIssue
  line : Nat := 0
  column : Nat := 0

namespace ReadError

/-- The message of a failure, with its position when it has one. -/
def message (e : ReadError) : String :=
  if e.line = 0 then e.issue.message
  else e.issue.message ++ " at line " ++ toString e.line ++ " column " ++ toString e.column

/-- The line and column of byte offset `i` of a text: the column counts the bytes
    after the last newline before `i`. -/
def positionOf (bytes : List UInt8) (i : Nat) : Nat × Nat :=
  let before := bytes.take i
  let newlines := before.count 10
  let lineStart := before.length - (before.reverse.takeWhile (· != 10)).length
  (newlines + 1, i - lineStart)

end ReadError

end ChatWire.Json
