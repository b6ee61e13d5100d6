import ChatWire.Provider.Basic

namespace ChatWire.Stream

open ChatWire.Provider ChatWire.Wire

/-- A normalized unit of a model turn. -/
structure Chunk where
  text : String := ""
  toolCallDeltas : List ToolCallDelta := []
  /-- Reassembled calls, only on a terminal chunk whose reason is `tool-calls`. -/
  completedToolCalls : List ToolCall := []
  done : Bool := false
  finishReason : Option FinishReason := none
  usage : Option Usage := none
deriving Inhabited

namespace Chunk

/-- The terminal chunk of a turn; the calls are kept only for `tool-calls`. -/
def terminal (reason : FinishReason) (usage : Option Usage) (calls : List ToolCall) : Chunk :=
  { completedToolCalls := if reason.isToolCalls then calls else [], done := true,
    finishReason := some reason, usage }

end Chunk

/-- How the chunk channel behaves after its chunks. -/
inductive ChannelEnd where
  /-- The channel closes. -/
  | closed
  /-- The channel stays open and never yields again. -/
  | blocked
deriving DecidableEq, Inhabited

/-- The chunks of a turn, then the channel's end. -/
structure Chunks where
  chunks : List Chunk
  ending : ChannelEnd
deriving Inhabited

/-- What the accumulator carries from event to event. -/
structure Progress where
  calls : Accumulator := {}
  finishReason : Option FinishReason := none
  usage : Option Usage := none
deriving Inhabited

/-- Applies fragments in order, collecting them in normal form. -/
def applyAll (a : Accumulator) : List RawToolCallDelta → List ToolCallDelta × Accumulator
  | [] => ([], a)
  | d :: rest =>
    let (n, a) := a.apply d
    let (ns, a) := applyAll a rest
    (n :: ns, a)

/-- Folds one event into the progress; returns the chunk it yields, if any. -/
def step (p : Progress) (e : ProviderEvent) : Option Chunk × Progress :=
  let finishReason := match e.finishReason with
    | some r => some (FinishReason.ofProvider r)
    | none => p.finishReason
  let usage := if e.usage.isSome then e.usage else p.usage
  let (deltas, calls) := applyAll p.calls e.toolCalls
  let p := { calls, finishReason, usage }
  if e.text.isEmpty && deltas.isEmpty then (none, p)
  else (some { text := e.text, toolCallDeltas := deltas }, p)

/-- The chunks of the remaining items. -/
def accumulateFrom (p : Progress) (ending : StreamEnd) :
    List (Except Provider.ProviderError ProviderEvent) → Chunks
  | [] =>
    match ending with
    | .finished =>
      ⟨[Chunk.terminal (p.finishReason.getD .stop) p.usage p.calls.finish], .closed⟩
    | .stalls => ⟨[], .blocked⟩
    | .breaks _ => ⟨[], .closed⟩
  | .error _ :: _ => ⟨[Chunk.terminal .error p.usage []], .closed⟩
  | .ok e :: rest =>
    let (chunk, p) := step p e
    let tail := accumulateFrom p ending rest
    match chunk with
    | some c => ⟨c :: tail.chunks, tail.ending⟩
    | none => tail

/-- The chunks of a provider stream; a cancelled turn reads nothing. -/
def accumulate (stream : EventStream) (cancelled : Bool := false) : Chunks :=
  if cancelled then ⟨[], .closed⟩ else accumulateFrom {} stream.ending stream.items

end ChatWire.Stream
