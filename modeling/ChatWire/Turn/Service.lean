import ChatWire.Turn.Reply
import ChatWire.Provider.Factory
import ChatWire.Config.Basic

namespace ChatWire.Turn

open ChatWire.Wire ChatWire.History ChatWire.Provider ChatWire.Stream ChatWire.Tool ChatWire.Config
open ChatWire.Host

/-- A chat service and everything it keeps between turns. -/
structure Service where
  backend : Backend
  store : Store := {}
  tools : Registry := {}
  systemPrompt : Option String := none
  streamConfig : StreamConfig := {}
  /-- Where the message ids of replies come from. -/
  ids : IdSource := {}
  /-- The time tools see when they run. -/
  now : Instant := ⟨0, 0⟩

/-- How a turn ended. -/
inductive TurnEnd where
  /-- The turn completed or failed. -/
  | finished (result : Except TurnError TurnOutcome)
  /-- The turn waits forever. -/
  | hung
deriving Inhabited

/-- The result of a step that did not hang; `none` when it hangs. -/
def Halt.settle : Except Halt Unit → Option (Except TurnError Unit)
  | .ok () => some (.ok ())
  | .error (.failed e) => some (.error e)
  | .error .hung => none

/-- One call of a turn: the connection the reply goes to, the user message, and how the
    turn is cancelled. -/
structure TurnCall where
  sink : Sink
  input : TurnInput
  cancel : Cancellation := {}

namespace Service

/-- A service for a configuration: its provider, reached through `transport`, its
    system prompt and its stream settings. -/
def ofConfig (config : Config) (env : Environment) (transport : Transport) (store : Store)
    (tools : Registry) (now : Instant) : Except ProviderError Service := do
  let provider ← create config env
  return { backend := .compat provider transport, store, tools, systemPrompt := config.systemPrompt,
           streamConfig := config.stream, now }

/-- Runs one turn whose reply reads the chunks `read` makes of the model's events, writing
    the reply to `sink`. Returns how the turn ended and the sink as the client saw it. -/
def replyReading (s : Service) (read : EventStream → Chunks) (sink : Sink) (input : TurnInput)
    (cancel : Cancellation) : (TurnEnd × Sink) × Service :=
  match s.store.save input.session .user input.content (estimateTokens input.content) with
  | (.error e, store) => ((.finished (.error (.storage e)), sink), { s with store })
  | (.ok userMessage, store) =>
  match store.recent input.session s.streamConfig.historyLimit with
  | (.error e, store) => ((.finished (.error (.storage e)), sink), { s with store })
  | (.ok history, store) =>
  let request : TurnRequest :=
    { messages := history.map StoredMessage.toMessage, systemPrompt := s.systemPrompt,
      tools := s.tools.definitions }
  match s.backend.streamTurn request with
  | (.error e, backend) => ((.finished (.error (.provider e)), sink), { s with store, backend })
  | (.ok events, backend) =>
  let s := { s with store, backend }
  match Writer.start sink with
  | .error e => ((.finished (.error (.stream e)), sink), s)
  | .ok writer =>
  let chunks := read events
  let (id, ids) := s.ids.random
  let s := { s with ids }
  let messageId := id.toText
  let start : Reply := { writer, cancelled := cancel.before, timer := cancel.timer }
  let run := (streamReply s.tools s.now messageId chunks).run.run start
  match Halt.settle run.1 with
  | none => ((.hung, run.2.writer.sink), s)
  | some streamed =>
  let r := run.2
  let (saved, store) := s.store.save input.session .assistant r.text r.tokenCount
  let s := { s with store }
  let annotated :=
    if streamed matches .ok () && !r.writer.isFailed then
      (guarded (annotationPart userMessage.id.toText messageId)).run.run r
    else (.ok (), r)
  match annotated.1 with
  | .error .hung => ((.hung, annotated.2.writer.sink), s)
  | _ =>
  let r := annotated.2
  let (closed, writer) : Except TurnError Unit × Writer :=
    if r.isCancelled then (.error .cancelled, r.writer)
    else match r.writer.close with
      | (.error e, w) => (.error (.stream e), w)
      | (.ok (), w) => (.ok (), w)
  let result : Except TurnError TurnOutcome :=
    match streamed, closed with
    | .error e, _ => .error e
    | .ok (), .error e => .error e
    | .ok (), .ok () =>
      .ok { messageId, userMessage, text := r.text, finishReason := r.finishReason, usage := r.usage,
            toolCalls := r.toolCalls,
            assistantMessage := match saved with
              | .ok m => some m
              | .error _ => none }
  ((.finished result, writer.sink), s)

/-- Runs one turn, writing the reply to `sink`: the reply reads the chunks the accumulator
    makes of the model's events, none when the turn is cancelled before it starts. -/
def reply (s : Service) (sink : Sink) (input : TurnInput) (cancel : Cancellation) :
    (TurnEnd × Sink) × Service :=
  s.replyReading (fun events => accumulate events cancel.before) sink input cancel

/-- The turn requests the model was asked with, when the backend keeps them. -/
def requests (s : Service) : List TurnRequest :=
  s.backend.requests

/-- Runs turns one after another on one service. A turn that waits forever never returns,
    so no later turn runs. -/
def replies (s : Service) : List TurnCall → List (TurnEnd × Sink) × Service
  | [] => ([], s)
  | c :: rest =>
    let (turn, s) := s.reply c.sink c.input c.cancel
    match turn.1 with
    | .hung => ([turn], s)
    | .finished _ =>
      let (turns, s) := s.replies rest
      (turn :: turns, s)

end Service

end ChatWire.Turn
