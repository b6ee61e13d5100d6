import ChatWire.Stream.Chunk

namespace ChatWire.Stream

open ChatWire.Provider

/-- Where the accumulator task stands. -/
inductive Producer where
  /-- About to read the provider's next item, with the progress so far and the items
      still to come. -/
  | reading (p : Progress) (items : List (Except ProviderError ProviderEvent))
  /-- About to send a chunk, and then to go on as `next`. -/
  | sending (c : Chunk) (next : Producer)
  /-- Returned; its sender is dropped. -/
  | stopped
deriving Inhabited

/-- Where the orchestrator stands. -/
inductive Consumer where
  /-- Waiting for the next chunk. -/
  | receiving
  /-- Handling a received chunk, with `left` writes or tool calls still to make. -/
  | handling (c : Chunk) (left : Nat)
  /-- Returned; its receiver is dropped. -/
  | stopped
deriving Inhabited

namespace Producer

/-- What reading the next provider item leads to: a chunk to send, more reading, or,
    after the last item, the terminal chunk. A stream that stalls is read forever. -/
def afterRead (ending : StreamEnd) (p : Progress) :
    List (Except ProviderError ProviderEvent) → Producer
  | [] =>
    match ending with
    | .finished =>
      .sending (Chunk.terminal (p.finishReason.getD .stop) p.usage p.calls.finish) .stopped
    | .stalls => .reading p []
    | .breaks _ => .stopped
  | .error _ :: _ => .sending (Chunk.terminal .error p.usage []) .stopped
  | .ok e :: rest =>
    match step p e with
    | (some c, p) => .sending c (.reading p rest)
    | (none, p) => .reading p rest

/-- Whether the task has returned. -/
def isStopped : Producer → Bool
  | .stopped => true
  | _ => false

end Producer

namespace Consumer

/-- Whether the orchestrator has returned. -/
def isStopped : Consumer → Bool
  | .stopped => true
  | _ => false

end Consumer

/-- The two tasks of a turn and the channel between them. -/
structure Pipe where
  /-- How the provider stream behaves after its items. -/
  ending : StreamEnd
  /-- The configured channel capacity. -/
  capacity : Nat
  /-- How many writes and tool calls the orchestrator makes for a chunk. -/
  work : Chunk → Nat
  producer : Producer
  /-- The chunks in the channel, oldest first. -/
  queue : List Chunk
  consumer : Consumer
  cancelled : Bool
  /-- The chunks the orchestrator has received, in order. -/
  received : List Chunk

namespace Pipe

/-- One entry of a schedule. -/
inductive Action where
  /-- The accumulator task takes its next step. -/
  | produce
  /-- The orchestrator takes its next step; `ok` is false when the write or tool call it
      makes fails. -/
  | consume (ok : Bool)
  /-- The token fires. -/
  | cancel

/-- The turn's tasks before either has run: nothing read, sent or received. -/
def start (stream : EventStream) (capacity : Nat) (work : Chunk → Nat) (cancelled : Bool) :
    Pipe :=
  { ending := stream.ending, capacity, work, producer := .reading {} stream.items, queue := [],
    consumer := .receiving, cancelled, received := [] }

/-- How many chunks the channel holds: a capacity of zero still holds one. -/
def bound (s : Pipe) : Nat :=
  max s.capacity 1

/-- The accumulator task's next step. -/
def produce (s : Pipe) : Pipe :=
  match s.producer with
  | .stopped => s
  | .reading p items =>
    if s.cancelled then { s with producer := .stopped }
    else { s with producer := Producer.afterRead s.ending p items }
  | .sending c next =>
    if s.cancelled || s.consumer.isStopped then { s with producer := .stopped }
    else if s.queue.length < s.bound then { s with producer := next, queue := s.queue ++ [c] }
    else s

/-- The orchestrator's next step; `ok` is false when its write or tool call fails. -/
def consume (ok : Bool) (s : Pipe) : Pipe :=
  match s.consumer with
  | .stopped => s
  | .receiving =>
    if s.cancelled then { s with consumer := .stopped }
    else
      match s.queue with
      | c :: rest =>
        { s with queue := rest, received := s.received ++ [c], consumer := .handling c (s.work c) }
      | [] => if s.producer.isStopped then { s with consumer := .stopped } else s
  | .handling c 0 => { s with consumer := if c.done then .stopped else .receiving }
  | .handling c (left + 1) =>
    if s.cancelled || !ok then { s with consumer := .stopped }
    else { s with consumer := .handling c left }

/-- One entry of a schedule. -/
def step (s : Pipe) : Action → Pipe
  | .produce => s.produce
  | .consume ok => s.consume ok
  | .cancel => { s with cancelled := true }

/-- Runs a schedule. -/
def run (s : Pipe) : List Action → Pipe
  | [] => s
  | a :: rest => (s.step a).run rest

/-- What the orchestrator saw: the chunks it received, and then a closed channel if it
    returned or a channel that never yields again if it still waits. -/
def observed (s : Pipe) : Chunks :=
  ⟨s.received, if s.consumer.isStopped then .closed else .blocked⟩

end Pipe

end ChatWire.Stream
