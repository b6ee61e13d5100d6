import ChatWire.Wire.Writer
import Mathlib.Tactic.SplitIfs

open ChatWire.Text

namespace ChatWire.Wire

namespace Sink

theorem accepted_le (limit : Option Nat) (length : Nat) : accepted limit length ≤ length := by
  cases limit with
  | none => simp [accepted]
  | some l => exact Nat.min_le_left length l

/-- A completed write stores the prefix of its buffer that it reports, and only counts
    itself; the client may ask to cancel right after. -/
theorem write_accepted {s s' : Sink} {bytes : List UInt8} {count : Nat}
    (h : s.write bytes = (.accepted count, s')) :
    count ≤ bytes.length ∧ ∃ cancel, s' = { s with
      writes := s.writes + 1, received := s.received ++ bytes.take count,
      cancelRequested := cancel } := by
  cases hw : s.faults.onWrite s.writes with
  | stall => simp [write, hw] at h
  | fail e => simp [write, hw] at h
  | accept limit =>
    simp only [write, hw, Prod.mk.injEq, WriteResult.accepted.injEq] at h
    obtain ⟨rfl, rfl⟩ := h
    refine ⟨accepted_le limit bytes.length, ?_⟩
    split
    · exact ⟨true, rfl⟩
    · exact ⟨s.cancelRequested, rfl⟩

theorem write_failed {s s' : Sink} {bytes : List UInt8} {e : String}
    (h : s.write bytes = (.failed e, s')) : s' = { s with writes := s.writes + 1 } := by
  cases hw : s.faults.onWrite s.writes with
  | stall => simp [write, hw] at h
  | fail e =>
    simp only [write, hw, Prod.mk.injEq] at h
    exact h.2.symm
  | accept limit => simp [write, hw] at h

theorem write_stalled {s s' : Sink} {bytes : List UInt8} (h : s.write bytes = (.stalled, s')) :
    s' = s := by
  cases hw : s.faults.onWrite s.writes with
  | stall =>
    simp only [write, hw, Prod.mk.injEq] at h
    exact h.2.symm
  | fail e => simp [write, hw] at h
  | accept limit => simp [write, hw] at h

theorem flush_ok {s s' : Sink} (h : s.flush = (none, s')) :
    s' = { s with flushAttempts := s.flushAttempts + 1, flushes := s.flushes + 1 } := by
  cases hf : s.faults.onFlush s.flushAttempts with
  | none =>
    simp only [flush, hf, Prod.mk.injEq] at h
    exact h.2.symm
  | some e => simp [flush, hf] at h

theorem flush_failed {s s' : Sink} {e : String} (h : s.flush = (some e, s')) :
    s' = { s with flushAttempts := s.flushAttempts + 1 } := by
  cases hf : s.faults.onFlush s.flushAttempts with
  | none => simp [flush, hf] at h
  | some e =>
    simp only [flush, hf, Prod.mk.injEq] at h
    exact h.2.symm

theorem setHeaders_eq (headers : List (String × String)) (s : Sink) :
    headers.foldl (fun s (n, v) => s.setHeader n v) s = { s with headers := s.headers ++ headers } := by
  induction headers generalizing s with
  | nil => simp
  | cons header rest ih =>
    rw [List.foldl_cons, ih]
    simp [setHeader]

end Sink

/-- A connection that streams, takes every write in full, lets every flush through and
    never asks to cancel the turn. -/
structure Faults.Healthy (f : Faults) : Prop where
  streaming : f.streaming = true
  writes : ∀ n, f.onWrite n = .accept none
  flushes : ∀ n, f.onFlush n = none
  noCancel : f.cancelAfterWrites = none

theorem Faults.healthy_default : ({} : Faults).Healthy :=
  ⟨rfl, fun _ => rfl, fun _ => rfl, rfl⟩

namespace StreamError

/-- Whether an error is a failure of the transport: a refused or short write, or a
    failed flush. Only these poison the writer. -/
def isTransport : StreamError → Bool
  | .writeFailed _ | .partialWrite .. => true
  | _ => false

end StreamError

namespace Writer

/-- Starting a stream on a sink that can stream sets the four stream headers, in
    order, and touches nothing else. -/
theorem start_eq {s : Sink} {w : Writer} (h : start s = .ok w) :
    w = { sink := { s with headers := s.headers ++ streamHeaders }, state := .open } := by
  unfold start at h
  split at h
  · simp only [Except.ok.injEq] at h
    rw [← h, Sink.setHeaders_eq]
  · cases h

theorem start_streaming {s : Sink} (h : s.faults.streaming = true) :
    start s = .ok { sink := { s with headers := s.headers ++ streamHeaders }, state := .open } := by
  simp [start, h, Sink.setHeaders_eq]

theorem close_healthy {w : Writer} (hw : w.state = .open) (hf : w.sink.faults.Healthy) :
    w.close = (.ok (), ⟨{ w.sink with
      flushAttempts := w.sink.flushAttempts + 1, flushes := w.sink.flushes + 1 }, .closed⟩) := by
  simp [close, hw, Sink.flush, hf.flushes]

theorem check_not_transport {p : Part} {e : StreamError} (h : check p = some e) :
    e.isTransport = false := by
  cases p <;> simp only [check, reduceCtorEq] at h <;> split_ifs at h <;> cases h <;> rfl

theorem send_refused {w : Writer} {p : Part} {e : StreamError} (h : check p = some e) :
    w.send p = .done (.error e) w := by
  simp [send, h]

/-- A poisoned or closed writer refuses every well-formed part without touching its
    sink. -/
theorem send_inactive {w : Writer} {p : Part} (hc : check p = none) (hw : w.state ≠ .open) :
    w.send p = .done (.error .closed) w := by
  simp [send, hc, emit, hw]

/-- What one write of an open writer can come to: the line is stored and flushed; the
    sink refuses the write and keeps nothing; it keeps a proper prefix; it keeps the
    line but the flush fails; or the write never completes. Every failure poisons the
    writer, and the sink sees at most one write and one flush. -/
theorem emit_open {w : Writer} (hw : w.state = .open) (bytes : List UInt8) :
    (∃ s cancel, w.emit bytes = .done (.ok ()) ⟨s, .open⟩ ∧ s = { w.sink with
        writes := w.sink.writes + 1, received := w.sink.received ++ bytes,
        flushAttempts := w.sink.flushAttempts + 1, flushes := w.sink.flushes + 1,
        cancelRequested := cancel }) ∨
    (∃ s e, w.emit bytes = .done (.error (.writeFailed e)) ⟨s, .failed⟩ ∧
        s = { w.sink with writes := w.sink.writes + 1 }) ∨
    (∃ s k cancel, k < bytes.length ∧
        w.emit bytes = .done (.error (.partialWrite k bytes.length)) ⟨s, .failed⟩ ∧
        s = { w.sink with
          writes := w.sink.writes + 1, received := w.sink.received ++ bytes.take k,
          cancelRequested := cancel }) ∨
    (∃ s e cancel, w.emit bytes = .done (.error (.writeFailed e)) ⟨s, .failed⟩ ∧ s = { w.sink with
        writes := w.sink.writes + 1, received := w.sink.received ++ bytes,
        flushAttempts := w.sink.flushAttempts + 1, cancelRequested := cancel }) ∨
    w.emit bytes = .stalled w := by
  rcases hwrite : w.sink.write bytes with ⟨result, s⟩
  cases result with
  | stalled =>
    have hs := Sink.write_stalled hwrite
    subst hs
    have hopen : (w.state != .open) = false := by simp [hw]
    refine .inr (.inr (.inr (.inr ?_)))
    simp [emit, hwrite, hopen]
  | failed e =>
    have hs := Sink.write_failed hwrite
    subst hs
    refine .inr (.inl ⟨_, e, ?_, rfl⟩)
    simp [emit, hwrite, hw]
  | accepted count =>
    obtain ⟨hcount, cancel, hs⟩ := Sink.write_accepted hwrite
    by_cases hfull : count = bytes.length
    · subst hfull
      rcases hflush : s.flush with ⟨failure, s'⟩
      cases failure with
      | none =>
        have hs' := Sink.flush_ok hflush
        subst hs'
        refine .inl ⟨_, cancel, ?_, rfl⟩
        simp only [emit, hw, hwrite, hflush]
        subst hs
        simp
      | some e =>
        have hs' := Sink.flush_failed hflush
        subst hs'
        refine .inr (.inr (.inr (.inl ⟨_, e, cancel, ?_, rfl⟩)))
        simp only [emit, hw, hwrite, hflush]
        subst hs
        simp
    · have hshort : count < bytes.length := by omega
      refine .inr (.inr (.inl ⟨_, count, cancel, hshort, ?_, rfl⟩))
      simp [emit, hwrite, hfull, hw, hs]

/-- A healthy connection takes every part in full: the line is stored and flushed and
    the writer stays open. -/
theorem emit_healthy {w : Writer} (hw : w.state = .open) (hf : w.sink.faults.Healthy)
    (bytes : List UInt8) :
    w.emit bytes = .done (.ok ()) ⟨{ w.sink with
      writes := w.sink.writes + 1, received := w.sink.received ++ bytes,
      flushAttempts := w.sink.flushAttempts + 1, flushes := w.sink.flushes + 1 }, .open⟩ := by
  simp [emit, hw, Sink.write, hf.writes, Sink.accepted, Sink.flush, hf.flushes, hf.noCancel]

/-- Closing an open writer flushes once and closes it, whether or not the flush goes
    through. -/
theorem close_open {w : Writer} (hw : w.state = .open) :
    w.close.2.state = .closed ∧ w.close.2.sink.received = w.sink.received ∧
      w.close.2.sink.headers = w.sink.headers ∧
      ((w.close.1 = .ok () ∧ w.close.2.sink.flushes = w.sink.flushes + 1) ∨
        (∃ e, w.close.1 = .error (.writeFailed e) ∧ w.close.2.sink.flushes = w.sink.flushes)) := by
  rcases hflush : w.sink.flush with ⟨failure, s⟩
  cases failure with
  | none =>
    have hs := Sink.flush_ok hflush
    subst hs
    simp [close, hflush, hw]
  | some e =>
    have hs := Sink.flush_failed hflush
    subst hs
    simp [close, hflush, hw]

theorem close_inactive {w : Writer} (hw : w.state ≠ .open) : w.close = (.ok (), w) := by
  simp [close, hw]

theorem send_sink_calls (w : Writer) (p : Part) :
    (w.send p).writer.sink.writes ≤ w.sink.writes + 1 ∧
      (w.send p).writer.sink.flushAttempts ≤ w.sink.flushAttempts + 1 := by
  cases hc : check p with
  | some e => simp [send_refused hc, Sent.writer]
  | none =>
    by_cases hw : w.state = .open
    · have hsend : w.send p = w.emit (utf8 p.line) := by simp [send, hc]
      rw [hsend]
      rcases emit_open hw (utf8 p.line) with
        ⟨_, _, h, rfl⟩ | ⟨_, _, h, rfl⟩ | ⟨_, _, _, _, h, rfl⟩ | ⟨_, _, _, h, rfl⟩ | h <;>
        simp [h, Sent.writer]
    · simp [send_inactive hc hw, Sent.writer]

end Writer

/-- A call made on a started stream writer: one of its part writes, or closing it. -/
inductive WriterCall where
  | send (part : Part)
  | close

/-- The bytes of parts, each framed as its line. -/
def partBytes (parts : List Part) : List UInt8 :=
  parts.flatMap fun p => utf8 p.line

namespace Writer

/-- Makes the calls in order and collects their results; a write that never completes
    ends the run, with no result for it. -/
def runCalls (w : Writer) : List WriterCall → List (Except StreamError Unit) × Writer
  | [] => ([], w)
  | .send p :: calls =>
    match w.send p with
    | .done result w' =>
      let rest := w'.runCalls calls
      (result :: rest.1, rest.2)
    | .stalled w' => ([], w')
  | .close :: calls =>
    let rest := w.close.2.runCalls calls
    (w.close.1 :: rest.1, rest.2)

end Writer

/-- The parts whose write returned `ok`, in call order. -/
def writtenParts : List WriterCall → List (Except StreamError Unit) → List Part
  | .send p :: calls, .ok () :: results => p :: writtenParts calls results
  | _ :: calls, _ :: results => writtenParts calls results
  | _, _ => []

/-- The first part write that a transport failure ended, with its error. -/
def firstTransportFailure :
    List WriterCall → List (Except StreamError Unit) → Option (Part × StreamError)
  | .send p :: calls, .error e :: results =>
    if e.isTransport then some (p, e) else firstTransportFailure calls results
  | _ :: calls, _ :: results => firstTransportFailure calls results
  | _, _ => none

/-- Whether the writer was closed while it was open and its closing flush went
    through: the first close comes before every transport failure and returned `ok`. -/
def closedCleanly : List WriterCall → List (Except StreamError Unit) → Bool
  | .close :: _, result :: _ => (result matches .ok ())
  | .send _ :: calls, .error e :: results => !e.isTransport && closedCleanly calls results
  | _ :: calls, _ :: results => closedCleanly calls results
  | _, _ => false

/-- What the sink may have kept of the write that failed first: nothing when no write
    failed; the reported proper prefix of its line when the write was short; nothing when
    the sink refused the write, or the whole line when only its flush failed. -/
def Leftover (held : List UInt8) : Option (Part × StreamError) → Prop
  | none => held = []
  | some (p, .partialWrite written expected) =>
    held = (utf8 p.line).take written ∧ written < expected ∧ expected = (utf8 p.line).length
  | some (p, .writeFailed _) => held = [] ∨ held = utf8 p.line
  | some _ => False

namespace Writer

/-- What a well-formed part write on an open writer can come to, in the terms of a run: the
    line is stored and flushed and the writer stays open; the write fails in transport and
    poisons the writer, the sink having kept of the line what `Leftover` allows and counted
    no flush; or the write never completes. -/
theorem send_open {w : Writer} {p : Part} (hw : w.state = .open) (hc : check p = none) :
    (∃ s cancel, w.send p = .done (.ok ()) ⟨s, .open⟩ ∧ s = { w.sink with
        writes := w.sink.writes + 1, received := w.sink.received ++ utf8 p.line,
        flushAttempts := w.sink.flushAttempts + 1, flushes := w.sink.flushes + 1,
        cancelRequested := cancel }) ∨
    (∃ s e held, w.send p = .done (.error e) ⟨s, .failed⟩ ∧ e.isTransport = true ∧
        Leftover held (some (p, e)) ∧ s.received = w.sink.received ++ held ∧
        s.flushes = w.sink.flushes ∧ s.headers = w.sink.headers) ∨
    w.send p = .stalled w := by
  have hsend : w.send p = w.emit (utf8 p.line) := by simp [send, hc]
  rw [hsend]
  rcases emit_open hw (utf8 p.line) with
    ⟨s, cancel, h, hs⟩ | ⟨s, e, h, rfl⟩ | ⟨s, k, cancel, hk, h, rfl⟩ | ⟨s, e, cancel, h, rfl⟩ | h
  · exact .inl ⟨s, cancel, h, hs⟩
  · exact .inr (.inl ⟨_, _, [], h, rfl, by simp [Leftover], by simp, rfl, rfl⟩)
  · exact .inr (.inl ⟨_, _, (utf8 p.line).take k, h, rfl, by simp [Leftover, hk], rfl, rfl, rfl⟩)
  · exact .inr (.inl ⟨_, _, utf8 p.line, h, rfl, by simp [Leftover], rfl, rfl, rfl⟩)
  · exact .inr (.inr h)

/-- Once a writer is poisoned or closed, no call touches its sink again and no part
    write succeeds or fails in transport. -/
theorem runCalls_inactive {w : Writer} (hw : w.state ≠ .open) (calls : List WriterCall) :
    (w.runCalls calls).2 = w ∧ writtenParts calls (w.runCalls calls).1 = [] ∧
      firstTransportFailure calls (w.runCalls calls).1 = none := by
  induction calls with
  | nil => simp [runCalls, writtenParts, firstTransportFailure]
  | cons call calls ih =>
    obtain ⟨hend, hparts, hfailure⟩ := ih
    cases call with
    | send p =>
      cases hc : check p with
      | some e =>
        have htransport := check_not_transport hc
        simp [runCalls, send_refused hc, hend, hparts, hfailure, writtenParts,
          firstTransportFailure, htransport]
      | none =>
        simp [runCalls, send_inactive hc hw, hend, hparts, hfailure, writtenParts,
          firstTransportFailure, StreamError.isTransport]
    | close =>
      simp [runCalls, close_inactive hw, hend, hparts, hfailure, writtenParts,
        firstTransportFailure]

theorem runCalls_poisoned {w : Writer} {p : Part} {e : StreamError} {s : Sink}
    (h : w.send p = .done (.error e) ⟨s, .failed⟩) (he : e.isTransport = true)
    (calls : List WriterCall) :
    (w.runCalls (.send p :: calls)).2 = ⟨s, .failed⟩ ∧
      writtenParts (.send p :: calls) (w.runCalls (.send p :: calls)).1 = [] ∧
      firstTransportFailure (.send p :: calls) (w.runCalls (.send p :: calls)).1 = some (p, e) ∧
      closedCleanly (.send p :: calls) (w.runCalls (.send p :: calls)).1 = false := by
  obtain ⟨hend, hparts, _⟩ := runCalls_inactive (w := ⟨s, .failed⟩) (by simp) calls
  simp [runCalls, h, hend, hparts, writtenParts, firstTransportFailure, closedCleanly, he]

/-- Runs of calls on an open writer: the sink receives the lines of the part writes that
    returned `ok`, in call order, then what it kept of the first write that failed in
    transport. It counts one successful flush for each of those lines and one for a clean
    close, and its headers stay as they were. -/
theorem runCalls_open {w : Writer} (hw : w.state = .open) (calls : List WriterCall) :
    ∃ held, (w.runCalls calls).2.sink.received =
        w.sink.received ++ partBytes (writtenParts calls (w.runCalls calls).1) ++ held ∧
      Leftover held (firstTransportFailure calls (w.runCalls calls).1) ∧
      (w.runCalls calls).2.sink.flushes = w.sink.flushes +
        (writtenParts calls (w.runCalls calls).1).length +
        (if closedCleanly calls (w.runCalls calls).1 then 1 else 0) ∧
      (w.runCalls calls).2.sink.headers = w.sink.headers := by
  induction calls generalizing w with
  | nil =>
    exact ⟨[], by simp [runCalls, writtenParts, partBytes, firstTransportFailure, Leftover,
      closedCleanly]⟩
  | cons call calls ih =>
    cases call with
    | send p =>
      cases hc : check p with
      | some e =>
        obtain ⟨held, hreceived, hleft, hflushes, hheaders⟩ := ih hw
        have htransport := check_not_transport hc
        refine ⟨held, ?_, ?_, ?_, ?_⟩
        · simpa [runCalls, send_refused hc, writtenParts] using hreceived
        · simpa [runCalls, send_refused hc, firstTransportFailure, htransport] using hleft
        · simpa [runCalls, send_refused hc, writtenParts, closedCleanly, htransport] using hflushes
        · simpa [runCalls, send_refused hc] using hheaders
      | none =>
        rcases send_open hw hc with ⟨s, cancel, h, hs⟩ |
          ⟨s, e, held, h, he, hleft, hreceived, hflushes, hheaders⟩ | h
        · obtain ⟨held, hreceived, hleft, hflushes, hheaders⟩ := ih (w := ⟨s, .open⟩) rfl
          have hrun : w.runCalls (.send p :: calls) =
              (.ok () :: (Writer.runCalls ⟨s, .open⟩ calls).1, (Writer.runCalls ⟨s, .open⟩ calls).2) := by
            simp [runCalls, h]
          refine ⟨held, ?_, ?_, ?_, ?_⟩
          · rw [hrun, hreceived]
            simp [hs, writtenParts, partBytes]
          · simpa [hrun, writtenParts, firstTransportFailure] using hleft
          · rw [hrun, hflushes]
            simp [hs, writtenParts, closedCleanly]
            omega
          · rw [hrun, hheaders, hs]
        · obtain ⟨hend, hparts, hfailure, hclean⟩ := runCalls_poisoned h he calls
          refine ⟨held, ?_, ?_, ?_, ?_⟩
          · rw [hend, hparts, hreceived]
            simp [partBytes]
          · rwa [hfailure]
          · rw [hend, hparts, hclean, hflushes]
            simp
          · rw [hend, hheaders]
        · refine ⟨[], ?_, ?_, ?_, ?_⟩ <;>
            simp [runCalls, h, writtenParts, partBytes, firstTransportFailure, closedCleanly,
              Leftover]
    | close =>
      obtain ⟨hstate, hreceived, hheaders, hresult⟩ := close_open hw
      obtain ⟨hend, hparts, hfailure⟩ :=
        runCalls_inactive (w := w.close.2) (by simp [hstate]) calls
      refine ⟨[], ?_, ?_, ?_, ?_⟩
      · simp [runCalls, hend, hparts, hreceived, writtenParts, partBytes]
      · simp [runCalls, hfailure, firstTransportFailure, Leftover]
      · rcases hresult with ⟨hok, hflushes⟩ | ⟨e, herr, hflushes⟩
        · simp [runCalls, hend, hparts, writtenParts, closedCleanly, hok, hflushes]
        · simp [runCalls, hend, hparts, writtenParts, closedCleanly, herr, hflushes]
      · simp [runCalls, hend, hheaders]

/-- What a stream writer puts on its sink, whatever the sink does with each write and
    flush. Starting it sets the four stream headers, in order, and writes nothing; each
    part write makes at most one write and one flush; after any calls, the sink holds the
    lines of the part writes that returned `ok`, in call order, followed only by what it
    kept of the first write that failed in transport, and it counted one successful flush
    for each of those lines and one for a clean close. -/
theorem sink_holds_written_lines {s : Sink} {w : Writer} (hstart : start s = .ok w)
    (calls : List WriterCall) :
    w.sink.headers = s.headers ++ streamHeaders ∧ w.sink.received = s.received ∧
      w.sink.writes = s.writes ∧ w.sink.flushes = s.flushes ∧
      (∀ (v : Writer) (p : Part), (v.send p).writer.sink.writes ≤ v.sink.writes + 1 ∧
        (v.send p).writer.sink.flushAttempts ≤ v.sink.flushAttempts + 1) ∧
      (w.runCalls calls).2.sink.headers = s.headers ++ streamHeaders ∧
      (∃ held, (w.runCalls calls).2.sink.received =
          s.received ++ partBytes (writtenParts calls (w.runCalls calls).1) ++ held ∧
        Leftover held (firstTransportFailure calls (w.runCalls calls).1)) ∧
      (w.runCalls calls).2.sink.flushes = s.flushes +
        (writtenParts calls (w.runCalls calls).1).length +
        (if closedCleanly calls (w.runCalls calls).1 then 1 else 0) := by
  have hw := start_eq hstart
  subst hw
  obtain ⟨held, hreceived, hleft, hflushes, hheaders⟩ := runCalls_open (w := ⟨_, .open⟩) rfl calls
  exact ⟨rfl, rfl, rfl, rfl, send_sink_calls, hheaders, ⟨held, hreceived, hleft⟩, hflushes⟩

/-- A writer on a sink whose second write keeps only three bytes: the start part is
    written, the text part is cut short, and everything after is refused. -/
theorem sink_holds_written_lines_short_write :
    ∃ w, start { faults := { onWrite := fun n => if n = 1 then .accept (some 3) else .accept none } } =
        .ok w ∧
      let calls := [.send (.start "m"), .send (.text "hello"), .send (.text "again"), .close]
      w.sink.headers = [] ++ streamHeaders ∧ w.sink.received = [] ∧ w.sink.writes = 0 ∧
        w.sink.flushes = 0 ∧
        (∀ (v : Writer) (p : Part), (v.send p).writer.sink.writes ≤ v.sink.writes + 1 ∧
          (v.send p).writer.sink.flushAttempts ≤ v.sink.flushAttempts + 1) ∧
        (w.runCalls calls).2.sink.headers = [] ++ streamHeaders ∧
        (∃ held, (w.runCalls calls).2.sink.received =
            [] ++ partBytes (writtenParts calls (w.runCalls calls).1) ++ held ∧
          Leftover held (firstTransportFailure calls (w.runCalls calls).1)) ∧
        (w.runCalls calls).2.sink.flushes = 0 +
          (writtenParts calls (w.runCalls calls).1).length +
          (if closedCleanly calls (w.runCalls calls).1 then 1 else 0) :=
  ⟨_, rfl, sink_holds_written_lines
    (s := { faults := { onWrite := fun n => if n = 1 then .accept (some 3) else .accept none } })
    rfl _⟩

end Writer

end ChatWire.Wire
