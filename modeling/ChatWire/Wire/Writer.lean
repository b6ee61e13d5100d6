import ChatWire.Wire.Part
import ChatWire.Wire.Sink

namespace ChatWire.Wire

/-- Why the writer refused a part. -/
inductive StreamError where
  | streamingUnsupported
  | emptyMessageId
  | emptyToolCallId
  | emptyToolName
  /-- The sink refused a write or a flush. -/
  | writeFailed (cause : String)
  /-- The sink accepted fewer bytes than the part has. -/
  | partialWrite (written expected : Nat)
  /-- An earlier transport failure poisoned the writer. -/
  | closed
deriving DecidableEq, Inhabited

namespace StreamError

/-- The message of an error. -/
def message : StreamError → String
  | .streamingUnsupported => "streaming not supported"
  | .emptyMessageId => "messageId cannot be empty"
  | .emptyToolCallId => "toolCallId cannot be empty"
  | .emptyToolName => "toolName cannot be empty"
  | .writeFailed cause => "write failed: " ++ cause
  | .partialWrite written expected =>
    "partial write: wrote " ++ toString written ++ " of " ++ toString expected ++ " bytes"
  | .closed => "stream closed after a transport failure"

/-- Whether the error ends the turn: only the refusal of a malformed part does not. -/
def isFatal : StreamError → Bool
  | .emptyMessageId | .emptyToolCallId | .emptyToolName => false
  | _ => true

/-- The name of the error's kind. -/
def kindName : StreamError → String
  | .streamingUnsupported => "StreamingUnsupported"
  | .emptyMessageId => "EmptyMessageId"
  | .emptyToolCallId => "EmptyToolCallId"
  | .emptyToolName => "EmptyToolName"
  | .writeFailed _ => "WriteFailed"
  | .partialWrite .. => "PartialWrite"
  | .closed => "Closed"

end StreamError

/-- The headers set when a stream starts, in order. -/
def streamHeaders : List (String × String) :=
  [("Content-Type", "text/plain; charset=utf-8"), ("Cache-Control", "no-cache"),
    ("Connection", "keep-alive"), ("X-Vercel-AI-Data-Stream", "v1")]

/-- Where the writer stands. -/
inductive WriterState where
  | open
  | failed
  | closed
deriving DecidableEq, Inhabited

/-- A writer and the sink it writes to. -/
structure Writer where
  sink : Sink
  state : WriterState := .open
deriving Inhabited

/-- What became of a part given to the writer. -/
inductive Sent where
  /-- The part was handled, with this result. -/
  | done (result : Except StreamError Unit) (writer : Writer)
  /-- The sink never completes the write. -/
  | stalled (writer : Writer)

namespace Sent

/-- The writer after the part. -/
def writer : Sent → Writer
  | .done _ w => w
  | .stalled w => w

end Sent

namespace Writer

/-- Starts a stream on a sink: refused when the sink cannot stream, and then no header
    is set. -/
def start (sink : Sink) : Except StreamError Writer :=
  if sink.faults.streaming then
    .ok { sink := streamHeaders.foldl (fun s (n, v) => s.setHeader n v) sink }
  else .error .streamingUnsupported

/-- Whether a transport failure has poisoned the writer. -/
def isFailed (w : Writer) : Bool :=
  w.state == .failed

/-- The debugging text of a writer. -/
def debugText (w : Writer) : String :=
  let state := match w.state with
    | .open => "Open"
    | .failed => "Failed"
    | .closed => "Closed"
  "StreamWriter \x7b state: " ++ state ++ ", .. \x7d"

/-- The refusal of a malformed part, if it is one. -/
def check : Part → Option StreamError
  | .start id => if id.isEmpty then some .emptyMessageId else none
  | .toolCall id name _ | .toolCallStart id name =>
    if id.isEmpty then some .emptyToolCallId
    else if name.isEmpty then some .emptyToolName
    else none
  | .toolResult id _ | .toolCallArgDelta id _ => if id.isEmpty then some .emptyToolCallId else none
  | _ => none

/-- Writes the framed bytes of a part and flushes them. -/
def emit (w : Writer) (bytes : List UInt8) : Sent :=
  if w.state != .open then .done (.error .closed) w
  else
    match w.sink.write bytes with
    | (.stalled, s) => .stalled { w with sink := s }
    | (.failed e, s) => .done (.error (.writeFailed e)) { sink := s, state := .failed }
    | (.accepted n, s) =>
      if n != bytes.length then
        .done (.error (.partialWrite n bytes.length)) { sink := s, state := .failed }
      else
        match s.flush with
        | (some e, s) => .done (.error (.writeFailed e)) { sink := s, state := .failed }
        | (none, s) => .done (.ok ()) { w with sink := s }

/-- Sends one part: checked, framed as one line, written and flushed. -/
def send (w : Writer) (part : Part) : Sent :=
  match check part with
  | some e => .done (.error e) w
  | none => w.emit (Text.utf8 part.line)

/-- Closes the stream: flushes once if the writer is open. -/
def close (w : Writer) : Except StreamError Unit × Writer :=
  if w.state != .open then (.ok (), w)
  else
    match w.sink.flush with
    | (some e, s) => (.error (.writeFailed e), { sink := s, state := .closed })
    | (none, s) => (.ok (), { sink := s, state := .closed })

end Writer

end ChatWire.Wire
