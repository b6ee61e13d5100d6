import ChatWire.Wire.Writer
import ChatWire.History.Store
import ChatWire.Provider.Basic

namespace ChatWire.Turn

open ChatWire.Wire ChatWire.History ChatWire.Provider

/-- Why a turn failed. -/
inductive TurnError where
  /-- Writing the reply failed. -/
  | stream (cause : StreamError)
  /-- The model could not start the reply. -/
  | provider (cause : ProviderError)
  /-- The user message could not be stored, or the history not read. -/
  | storage (cause : StorageError)
  /-- The turn was cancelled. -/
  | cancelled
deriving Inhabited

namespace TurnError

/-- The message of a turn error: the cause's message under a prefix. -/
def message : TurnError → String
  | .stream e => "stream error: " ++ e.message
  | .provider e => "provider error: " ++ e.message
  | .storage e => "storage error: " ++ e.message
  | .cancelled => "turn cancelled"

/-- The name of the error's kind. -/
def kindName : TurnError → String
  | .stream _ => "Stream"
  | .provider _ => "Provider"
  | .storage _ => "Storage"
  | .cancelled => "Cancelled"

/-- The name of the cause's kind, when there is a cause. -/
def causeKindName : TurnError → Option String
  | .stream e => some e.kindName
  | .provider e => some e.kindName
  | .storage e => some e.kindName
  | .cancelled => none

end TurnError

/-- One user message to answer. -/
structure TurnInput where
  session : Uuid
  user : Uuid
  content : String
deriving Inhabited

/-- What a completed turn produced. -/
structure TurnOutcome where
  /-- The id announced at the start of the reply. -/
  messageId : String
  userMessage : StoredMessage
  /-- The stored reply; `none` when storing it failed. -/
  assistantMessage : Option StoredMessage
  text : String
  finishReason : Option FinishReason
  usage : Option Usage
  /-- How many tool calls were run. -/
  toolCalls : Nat
deriving Inhabited

/-- How a turn is cancelled. -/
structure Cancellation where
  /-- The token is cancelled before the turn starts. -/
  before : Bool := false
  /-- A timer cancels the token while the turn waits. -/
  timer : Bool := false
deriving Inhabited

/-- The client's view of one tool call being streamed. -/
structure ToolStream where
  id : String := ""
  name : String := ""
  /-- Whether the call's start part was written. -/
  started : Bool := false
  /-- Argument text that came before the start part could be written. -/
  heldArguments : String := ""
deriving Inhabited

/-- The state a reply is streamed in. -/
structure Reply where
  writer : Writer
  /-- Whether the token was cancelled other than by the client. -/
  cancelled : Bool := false
  /-- Whether a timer cancels the token while the reply waits. -/
  timer : Bool := false
  text : String := ""
  toolStreams : List (Nat × ToolStream) := []
  finishReason : Option FinishReason := none
  usage : Option Usage := none
  toolCalls : Nat := 0
deriving Inhabited

namespace Reply

/-- Whether the token is cancelled: by the caller, the timer or the client. -/
def isCancelled (r : Reply) : Bool :=
  r.cancelled || r.writer.sink.cancelRequested

end Reply

/-- Why streaming a reply stopped before its end. -/
inductive Halt where
  /-- The reply failed. -/
  | failed (error : TurnError)
  /-- The reply waits forever. -/
  | hung
deriving Inhabited

/-- A step of a reply: it changes the reply's state and may halt. -/
abbrev ReplyM := ExceptT Halt (StateM Reply)

/-- Waits for something that never comes: the timer cancels the turn, if there is
    one; otherwise the reply hangs. -/
def block : ReplyM Unit := do
  let r ← get
  if r.timer then
    set { r with cancelled := true }
    throw (.failed .cancelled)
  else throw .hung

/-- Fails when the token is cancelled. -/
def checkCancelled : ReplyM Unit := do
  if (← get).isCancelled then throw (.failed .cancelled)

/-- Writes a part unless the turn is cancelled first. A malformed part is skipped;
    any other refusal ends the reply. -/
def guarded (part : Part) : ReplyM Unit := do
  checkCancelled
  let r ← get
  match r.writer.send part with
  | .done result w =>
    set { r with writer := w }
    match result with
    | .ok () => pure ()
    | .error e => if e.isFatal then throw (.failed (.stream e)) else pure ()
  | .stalled w =>
    set { r with writer := w }
    block

end ChatWire.Turn
