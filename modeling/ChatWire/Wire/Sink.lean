import ChatWire.Text.Blank
import ChatWire.Text.Utf8

namespace ChatWire.Wire

/-- What a connection does with one write. -/
inductive WriteOutcome where
  /-- It stores and reports at most `limit` bytes of the buffer, all of them when `none`. -/
  | accept (limit : Option Nat)
  /-- It refuses the write with an error message and stores nothing. -/
  | fail (error : String)
  /-- The write never completes. -/
  | stall
deriving Inhabited

/-- How a client connection behaves, call by call; the default connection is healthy. -/
structure Faults where
  streaming : Bool := true
  onWrite : Nat → WriteOutcome := fun _ => .accept none
  onFlush : Nat → Option String := fun _ => none
  cancelAfterWrites : Option Nat := none
deriving Inhabited

/-- A client connection: what it received, and the counters its faults look at. -/
structure Sink where
  faults : Faults := {}
  headers : List (String × String) := []
  /-- The bytes accepted, in order. -/
  received : List UInt8 := []
  /-- Writes attempted, stalled writes not counted. -/
  writes : Nat := 0
  /-- Flushes attempted. -/
  flushAttempts : Nat := 0
  /-- Flushes that succeeded. -/
  flushes : Nat := 0
  /-- Whether the client asked to cancel the turn. -/
  cancelRequested : Bool := false
deriving Inhabited

/-- What became of a write. -/
inductive WriteResult where
  /-- The sink took the first `count` bytes. -/
  | accepted (count : Nat)
  /-- The sink refused the write with an error message. -/
  | failed (error : String)
  /-- The write never completes. -/
  | stalled

namespace Sink

/-- A healthy sink. -/
def healthy : Sink := {}

/-- A sink with the given faults. -/
def withFaults (faults : Faults) : Sink := { faults }

/-- Records a header. -/
def setHeader (s : Sink) (name value : String) : Sink :=
  { s with headers := s.headers ++ [(name, value)] }

/-- The number of bytes of a buffer of `length` bytes that a write limited to `limit`
    takes. -/
def accepted (limit : Option Nat) (length : Nat) : Nat :=
  match limit with
  | some l => min length l
  | none => length

/-- Offers bytes to the sink. -/
def write (s : Sink) (bytes : List UInt8) : WriteResult × Sink :=
  let number := s.writes
  match s.faults.onWrite number with
  | .stall => (.stalled, s)
  | .fail e => (.failed e, { s with writes := number + 1 })
  | .accept limit =>
    let count := accepted limit bytes.length
    let s := { s with writes := number + 1, received := s.received ++ bytes.take count }
    let s := if s.faults.cancelAfterWrites == some s.writes then { s with cancelRequested := true } else s
    (.accepted count, s)

/-- Pushes the accepted bytes on; `some` error when the flush fails. -/
def flush (s : Sink) : Option String × Sink :=
  let number := s.flushAttempts
  let s := { s with flushAttempts := number + 1 }
  match s.faults.onFlush number with
  | some e => (some e, s)
  | none => (none, { s with flushes := s.flushes + 1 })

/-- Everything received, decoded as UTF-8 with each bad sequence replaced. -/
def contents (s : Sink) : String :=
  Text.decodeLossy s.received

/-- The received lines, without their line endings. -/
def lines (s : Sink) : List String :=
  Text.lines s.contents

/-- ASCII lowercase of a header name. -/
def lowerAscii (s : String) : String :=
  s.map fun c => if 'A' ≤ c ∧ c ≤ 'Z' then Char.ofNat (c.toNat + 32) else c

/-- The value of the first header whose name matches, ignoring ASCII case. -/
def header (s : Sink) (name : String) : Option String :=
  (s.headers.find? fun (n, _) => lowerAscii n == lowerAscii name).map (·.2)

end Sink

end ChatWire.Wire
