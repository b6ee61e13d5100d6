import ChatWire.Proofs.Transcript

open ChatWire.Wire ChatWire.Stream ChatWire.Tool ChatWire.Provider ChatWire.Text ChatWire.History

namespace ChatWire.Provider

/-- Whether a reply sees its provider stream come to an end: the stream ends, breaks off
    or fails; only a stream that stalls before any failure leaves the reply waiting. -/
def EventStream.settles (stream : EventStream) : Bool :=
  match stream.ending with
  | .stalls => Stream.hasFailure stream.items
  | _ => true

end ChatWire.Provider

namespace ChatWire.Stream

theorem accumulateFrom_of_hasFailure (p : Progress) (ending : StreamEnd)
    {items : List (Except ProviderError ProviderEvent)} (h : hasFailure items = true) :
    accumulateFrom p ending items = accumulateFrom p .finished items := by
  induction items generalizing p with
  | nil => simp [hasFailure] at h
  | cons item items ih =>
    cases item with
    | error e => rfl
    | ok e =>
      simp only [hasFailure] at h
      simp only [accumulateFrom, ih _ h]

/-- A provider stream that stalls or breaks off before any failure yields a chunk for each
    event that carries text or fragments, and no terminal chunk. -/
theorem accumulateFrom_unfinished {p : Progress} {events : List ProviderEvent}
    (h : p.Holds events) {ending : StreamEnd} (hend : ending ≠ .finished)
    (items : List (Except ProviderError ProviderEvent)) (hf : hasFailure items = false) :
    accumulateFrom p ending items =
      ⟨(okPrefix items).filterMap eventChunk, (accumulateFrom p ending []).ending⟩ := by
  induction items generalizing p events with
  | nil =>
    cases ending with
    | finished => exact absurd rfl hend
    | stalls => rfl
    | breaks m => rfl
  | cons item items ih =>
    cases item with
    | error e => simp [hasFailure] at hf
    | ok e =>
      simp only [hasFailure] at hf
      obtain ⟨hchunk, hstep⟩ := step_holds h e
      rcases hs : step p e with ⟨chunk, p'⟩
      rw [hs] at hchunk hstep
      simp only at hchunk hstep
      subst hchunk
      have hrest := ih hstep hf
      cases ending with
      | finished => exact absurd rfl hend
      | stalls | breaks m =>
        cases hc : eventChunk e <;> simp [accumulateFrom, hs, hrest, hc, okPrefix]

end ChatWire.Stream

namespace ChatWire.Wire

/-- The same connection, taking every write and flush, whose client never asks to
    cancel. -/
def Sink.reliable (s : Sink) : Sink :=
  { s with faults := {}, cancelRequested := false }

end ChatWire.Wire

namespace ChatWire.Turn

/-- What a reply streams for a provider stream, on a connection that takes every write
    and flush and never cancels: the stream transcript when the stream ends or fails;
    for a stream that breaks off, the start part, the parts of its events and the finish
    parts of `error`; for a stream that stalls, the start part and the parts of its
    events, after which the reply waits. -/
def replyParts (tools : Registry) (now : Instant) (messageId : String) (stream : EventStream) :
    List Part :=
  match stream.ending, hasFailure stream.items with
  | .breaks _, false =>
    .start messageId :: (eventsTranscript [] (okPrefix stream.items)).map Tagged.part ++
      finishParts .error none
  | .stalls, false =>
    .start messageId :: (eventsTranscript [] (okPrefix stream.items)).map Tagged.part
  | _, _ => (streamTranscript tools now messageId stream.items).map Tagged.part

theorem check_replyParts (tools : Registry) (now : Instant) {messageId : String}
    (hid : messageId.isEmpty = false) (stream : EventStream) :
    ∀ p ∈ replyParts tools now messageId stream, Writer.check p = none := by
  intro p hp
  unfold replyParts at hp
  split at hp
  · simp only [List.cons_append, List.mem_cons, List.mem_append] at hp
    rcases hp with rfl | hp | hp
    · simp [Writer.check, hid]
    · exact check_eventsTranscript [] _ p hp
    · exact check_finishParts _ _ p hp
  · simp only [List.mem_cons] at hp
    rcases hp with rfl | hp
    · simp [Writer.check, hid]
    · exact check_eventsTranscript [] _ p hp
  · exact check_streamTranscript tools now hid _ p hp

theorem replyParts_of_settles (tools : Registry) (now : Instant) (messageId : String)
    {stream : EventStream} (h : stream.settles = true) :
    ∃ pre reason usage,
      replyParts tools now messageId stream = pre ++ finishParts reason usage := by
  unfold replyParts
  split
  · exact ⟨.start messageId :: (eventsTranscript [] (okPrefix stream.items)).map Tagged.part,
      .error, none, rfl⟩
  · rename_i hend hf
    simp [EventStream.settles, hend, hf] at h
  · refine ⟨.start messageId :: ((eventsTranscript [] (okPrefix stream.items)).map Tagged.part ++
      (if (closingReason stream.items).isToolCalls then
        callsTranscript tools now (allFragments (okPrefix stream.items)) else []).map Tagged.part),
      closingReason stream.items, lastUsage (okPrefix stream.items), ?_⟩
    simp [streamTranscript]

/-- The annotation a turn sends after its reply: only once the provider stream has
    settled, since a reply that waits never gets to it. -/
def annotationParts (stream : EventStream) (userMessageId messageId : String) : List Part :=
  if stream.settles then [annotationPart userMessageId messageId] else []

theorem streamChunks_closed_delivers (tools : Registry) (now : Instant) (r : Reply) :
    Delivers (streamChunks tools now [] .closed) r (finishParts .error none) fun _ => True :=
  Delivers.checkCancelled_bind (finish_delivers .error none r)

theorem streamChunks_blocked_delivers (tools : Registry) (now : Instant) (r : Reply) :
    Delivers (streamChunks tools now [] .blocked) r [] (fun _ => True) true :=
  Delivers.checkCancelled_bind (block_delivers r _)

/-- A reply for any provider stream sends its reply parts, and waits after them exactly
    when the stream does not settle. -/
theorem streamReply_sends (tools : Registry) (now : Instant) {messageId : String}
    (hid : messageId.isEmpty = false) (stream : EventStream) {r : Reply}
    (hts : r.toolStreams = []) :
    Delivers (streamReply tools now messageId (accumulate stream)) r
      (replyParts tools now messageId stream) (fun _ => True) !stream.settles := by
  obtain ⟨items, ending⟩ := stream
  cases hf : hasFailure items with
  | true =>
    have hacc : accumulate ⟨items, ending⟩ = accumulate ⟨items, .finished⟩ := by
      simp [accumulate, accumulateFrom_of_hasFailure _ _ hf]
    have hparts : replyParts tools now messageId ⟨items, ending⟩ =
        (streamTranscript tools now messageId items).map Tagged.part := by
      cases ending <;> simp [replyParts, hf]
    have hsettles : EventStream.settles ⟨items, ending⟩ = true := by
      cases ending <;> simp [EventStream.settles, hf]
    rw [hacc, hparts, hsettles]
    exact streamReply_delivers tools now hid items hts
  | false =>
    cases ending with
    | finished => exact streamReply_delivers tools now hid items hts
    | breaks message =>
      have hacc : accumulate ⟨items, .breaks message⟩ =
          ⟨(okPrefix items).filterMap eventChunk, .closed⟩ :=
        accumulateFrom_unfinished progress_holds_empty (by simp) items hf
      simp only [replyParts, hf, EventStream.settles, Bool.not_true]
      rw [hacc]
      simpa using streamReply_events_delivers tools now hid (okPrefix items)
        (streamChunks_closed_delivers tools now) hts
    | stalls =>
      have hacc : accumulate ⟨items, .stalls⟩ =
          ⟨(okPrefix items).filterMap eventChunk, .blocked⟩ :=
        accumulateFrom_unfinished progress_holds_empty (by simp) items hf
      simp only [replyParts, hf, EventStream.settles, Bool.not_false]
      rw [hacc]
      simpa using streamReply_events_delivers tools now hid (okPrefix items)
        (streamChunks_blocked_delivers tools now) hts

/-- The same holds when the token may have fired before the reply started: then the
    channel is empty and nothing is sent. -/
theorem streamReply_accumulate_sends (tools : Registry) (now : Instant) {messageId : String}
    (hid : messageId.isEmpty = false) (stream : EventStream) {r : Reply}
    (hts : r.toolStreams = []) :
    Delivers (streamReply tools now messageId (accumulate stream r.cancelled)) r
      (replyParts tools now messageId stream) (fun _ => True) !stream.settles := by
  cases hc : r.cancelled with
  | false => exact streamReply_sends tools now hid stream hts
  | true =>
    have hf : r.isCancelled = true := by simp [Reply.isCancelled, hc]
    exact Delivers.of_fired hf (by simp [streamReply, guarded_exec_of_fired hf])

/-- What a turn that ended as `turn` did on a connection whose writer started as `w₀`,
    held against delivering the lines of its healthy run, `streamed` while streaming the
    reply and `rest` after it: the connection holds exactly what delivering them leaves;
    the turn completes only if every streamed line was delivered, finish parts last; a
    line that failed ends the turn with that error, the token firing first ends it
    cancelled, and a write that never completes leaves it waiting unless the timer
    cancels it. -/
structure Truncates (turn : TurnEnd × Sink) (w₀ : Writer) (cancel : Cancellation)
    (streamed rest : List Part) : Prop where
  received : turn.2.received = (w₀.deliver cancel.before (streamed ++ rest)).2.sink.received
  completes : ∀ o, turn.1 = .finished (.ok o) →
    (w₀.deliver cancel.before streamed).1 = .delivered ∧
      ∃ pre reason usage, streamed = pre ++ finishParts reason usage
  fails : ∀ e, (w₀.deliver cancel.before streamed).1 = .failed e →
    turn.1 = .finished (.error (.stream e))
  cancels : (w₀.deliver cancel.before streamed).1 = .cancelled →
    turn.1 = .finished (.error .cancelled)
  stalls : (w₀.deliver cancel.before streamed).1 = .stalled →
    turn.1 = if cancel.timer then .finished (.error .cancelled) else .hung

/-- How a turn ends when its reply halts. -/
def Halt.turnEnd : Halt → TurnEnd
  | .failed e => .finished (.error e)
  | .hung => .hung

theorem truncates_of_halts {sink' : Sink} {w₀ : Writer} {cancel : Cancellation}
    {streamed rest : List Part} {waits : Bool} {h : Halt}
    (hh : Halts cancel.before cancel.timer waits (w₀.deliver cancel.before streamed).2
      (w₀.deliver cancel.before streamed).1 h)
    (hrest : waits = true → rest = [])
    (hreceived : sink'.received = (w₀.deliver cancel.before streamed).2.sink.received) :
    Truncates (h.turnEnd, sink') w₀ cancel streamed rest := by
  refine ⟨by rw [hreceived, Halts.deliver_append hh hrest], fun o ho => ?_, fun e he => ?_,
    fun he => ?_, fun he => ?_⟩
  · cases h <;> simp [Halt.turnEnd] at ho
  · rw [he] at hh
    simp [Halts] at hh
    simp [hh, Halt.turnEnd]
  · rw [he] at hh
    simp [Halts] at hh
    simp [hh, Halt.turnEnd]
  · rw [he] at hh
    simp only [Halts] at hh
    cases ht : cancel.timer <;> simp [hh, ht, Halt.turnEnd]

/-- A turn whose user message was stored and whose provider starts a stream, on any
    connection that can stream and however it is cancelled, truncates its healthy run. -/
theorem reply_truncates (sink : Sink) (cancel : Cancellation) {s : Service} {input : TurnInput}
    {stream : EventStream} {userMessage : StoredMessage} {store₁ : Store}
    (hsaved : s.store.save input.session .user input.content (estimateTokens input.content) =
      (.ok userMessage, store₁))
    (hread : store₁.faults.failReads.contains store₁.reads = false)
    (hturn : ∀ request, (s.backend.streamTurn request).1 = .ok stream)
    (hstream : sink.faults.streaming = true) :
    Truncates (s.reply sink input cancel).1
      ⟨{ sink with headers := sink.headers ++ streamHeaders }, .open⟩ cancel
      (replyParts s.tools s.now s.ids.random.1.toText stream)
      (annotationParts stream userMessage.id.toText s.ids.random.1.toText) := by
  obtain ⟨history, store₂, hrecent⟩ :=
    Store.recent_ok hread input.session s.streamConfig.historyLimit
  have hasked : s.backend.streamTurn ⟨history.map StoredMessage.toMessage, s.systemPrompt,
      s.tools.definitions⟩ = (.ok stream, (s.backend.streamTurn
        ⟨history.map StoredMessage.toMessage, s.systemPrompt, s.tools.definitions⟩).2) := by
    rw [← hturn]
  have hD : Delivers
      (streamReply s.tools s.now s.ids.random.1.toText (accumulate stream cancel.before))
      { writer := ⟨{ sink with headers := sink.headers ++ streamHeaders }, .open⟩,
        cancelled := cancel.before, timer := cancel.timer }
      (replyParts s.tools s.now s.ids.random.1.toText stream) (fun _ => True) !stream.settles :=
    streamReply_accumulate_sends s.tools s.now (Uuid.toText_isEmpty s.ids.random.1) stream
      (r := replyStart sink cancel) rfl
  rcases hrun : s.replyRun sink cancel stream with ⟨res, r₁⟩
  have hexec : (streamReply s.tools s.now s.ids.random.1.toText
      (accumulate stream cancel.before)).exec
      { writer := ⟨{ sink with headers := sink.headers ++ streamHeaders }, .open⟩,
        cancelled := cancel.before, timer := cancel.timer } = (res, r₁) := hrun
  have hw₁ := hD.writer
  rw [hexec] at hw₁
  dsimp only at hw₁
  cases res with
  | ok u =>
    obtain ⟨hdel, hcan, -, -⟩ := hD.ok (by rw [hexec])
    rw [hexec] at hcan
    dsimp only at hcan
    have hsettles : stream.settles = true := by simpa using hD.finishes (by rw [hexec])
    have hopen : r₁.writer.state = .open := by
      rw [hw₁]
      exact (Writer.deliver_delivered rfl hdel).2
    have hannotate := annotate_exec_of_not_failed (r := r₁) (by simp [Writer.isFailed, hopen])
      userMessage.id.toText s.ids.random.1.toText
    have hG := guarded_delivers r₁
      (p := annotationPart userMessage.id.toText s.ids.random.1.toText)
      (by simp [annotationPart, Writer.check])
    obtain ⟨-, hhung, hclosed⟩ := reply_of_stream_ok hsaved hrecent hasked hstream hrun
    rcases hann : (guarded (annotationPart userMessage.id.toText
      s.ids.random.1.toText)).exec r₁ with ⟨res₂, r₂⟩
    rw [hann] at hannotate
    have hw₂ := hG.writer
    rw [hann, hw₁, hcan, ← Writer.deliver_append_of_delivered hdel] at hw₂
    have hreceived : (s.reply sink input cancel).1.2.received = r₂.writer.sink.received := by
      by_cases hres₂ : res₂ = .error .hung
      · subst hres₂
        rw [hhung r₂ hannotate]
      · rw [hclosed res₂ r₂ hannotate hres₂]
        exact Reply.closingWriter_received r₂
    refine ⟨?_, fun o _ => ⟨hdel, replyParts_of_settles _ _ _ hsettles⟩,
      fun e he => by simp [hdel] at he, fun he => by simp [hdel] at he,
      fun he => by simp [hdel] at he⟩
    rw [hreceived, hw₂]
    simp [annotationParts, hsettles]
  | error h =>
    have hh := hD.halt h (by rw [hexec])
    have hrest : (!stream.settles) = true →
        annotationParts stream userMessage.id.toText s.ids.random.1.toText = [] :=
      fun hw => by simp at hw; simp [annotationParts, hw]
    cases h with
    | hung =>
      rw [reply_of_stream_hung hsaved hrecent hasked hstream hrun]
      exact truncates_of_halts hh hrest (by rw [hw₁])
    | failed e =>
      rw [reply_of_stream_failed hsaved hrecent hasked hstream hrun]
      exact truncates_of_halts (h := .failed e) hh hrest
        (by rw [Reply.closingWriter_received, hw₁])

theorem check_annotationParts (stream : EventStream) (userMessageId messageId : String) :
    ∀ p ∈ annotationParts stream userMessageId messageId, Writer.check p = none := by
  intro p hp
  unfold annotationParts at hp
  split at hp
  · simp only [List.mem_singleton] at hp
    simp [hp, annotationPart, Writer.check]
  · cases hp

/-- On a connection that takes every write and flush and never cancels, a turn that was
    not cancelled sends every line of its healthy run. -/
theorem reply_reliable (sink : Sink) {s : Service} {input : TurnInput} {stream : EventStream}
    {userMessage : StoredMessage} {store₁ : Store}
    (hsaved : s.store.save input.session .user input.content (estimateTokens input.content) =
      (.ok userMessage, store₁))
    (hread : store₁.faults.failReads.contains store₁.reads = false)
    (hturn : ∀ request, (s.backend.streamTurn request).1 = .ok stream) :
    (s.reply sink.reliable input {}).1.2.received = sink.received ++
      partBytes (replyParts s.tools s.now s.ids.random.1.toText stream ++
        annotationParts stream userMessage.id.toText s.ids.random.1.toText) := by
  have hchecks : ∀ p ∈ replyParts s.tools s.now s.ids.random.1.toText stream ++
      annotationParts stream userMessage.id.toText s.ids.random.1.toText,
      Writer.check p = none := by
    intro p hp
    rcases List.mem_append.1 hp with hp | hp
    · exact check_replyParts s.tools s.now (Uuid.toText_isEmpty _) stream p hp
    · exact check_annotationParts stream _ _ p hp
  rw [(reply_truncates sink.reliable {} hsaved hread hturn rfl).received]
  exact (Writer.deliver_healthy
    (w := ⟨{ sink.reliable with headers := sink.reliable.headers ++ streamHeaders }, .open⟩)
    rfl Faults.healthy_default rfl hchecks).2.2.2.2

/-- A turn whose store works and whose provider starts a stream, on a connection that can
    stream, whatever the connection does with each write and flush and whenever the token
    fires. Its healthy run, on the same connection taking everything and never cancelled,
    sends the reply's lines and then the annotation with the stored user message's id.
    The turn leaves a prefix of those bytes on the connection, and it truncates the
    healthy run as `Truncates` says. -/
theorem reply_truncates_healthy_reply {s : Service} {sink : Sink} {input : TurnInput}
    {cancel : Cancellation} {stream : EventStream}
    (hsave : s.store.faults.failSaves.contains s.store.saves = false)
    (hread : s.store.faults.failReads.contains s.store.reads = false)
    (hturn : ∀ request, (s.backend.streamTurn request).1 = .ok stream)
    (hstream : sink.faults.streaming = true) :
    ∃ userMessage : StoredMessage,
      (s.store.save input.session .user input.content (estimateTokens input.content)).1 =
        .ok userMessage ∧
      (s.reply sink.reliable input {}).1.2.received = sink.received ++
        partBytes (replyParts s.tools s.now s.ids.random.1.toText stream ++
          annotationParts stream userMessage.id.toText s.ids.random.1.toText) ∧
      (s.reply sink input cancel).1.2.received <+: (s.reply sink.reliable input {}).1.2.received ∧
      Truncates (s.reply sink input cancel).1
        ⟨{ sink with headers := sink.headers ++ streamHeaders }, .open⟩ cancel
        (replyParts s.tools s.now s.ids.random.1.toText stream)
        (annotationParts stream userMessage.id.toText s.ids.random.1.toText) := by
  obtain ⟨userMessage, store₁, hsaved, hreads, hfaults⟩ :=
    Store.save_ok hsave input.session .user input.content (estimateTokens input.content)
  have hread₁ : store₁.faults.failReads.contains store₁.reads = false := by
    rw [hreads, hfaults]
    exact hread
  have hfaulty := reply_truncates sink cancel hsaved hread₁ hturn hstream
  have hreliable := reply_reliable sink hsaved hread₁ hturn
  obtain ⟨b, hb, hpre⟩ := Writer.deliver_received
    ⟨{ sink with headers := sink.headers ++ streamHeaders }, .open⟩ cancel.before
    (replyParts s.tools s.now s.ids.random.1.toText stream ++
      annotationParts stream userMessage.id.toText s.ids.random.1.toText)
  refine ⟨userMessage, by rw [hsaved], hreliable, ?_, hfaulty⟩
  rw [hfaulty.received, hreliable, hb]
  exact (List.prefix_append_right_inj _).2 hpre

/-- A service whose provider answers every request with its fallback stream. -/
def fallbackService : Service := { backend := .scripted {} }

/-- A connection that takes only the first four bytes of its third write. -/
def shortThirdWrite : Sink :=
  { faults := { onWrite := fun n => if n = 2 then .accept (some 4) else .accept none } }

theorem reply_truncates_healthy_reply_short_write :
    ∃ userMessage : StoredMessage,
      (fallbackService.store.save (default : TurnInput).session .user
          (default : TurnInput).content (estimateTokens (default : TurnInput).content)).1 =
        .ok userMessage ∧
      (fallbackService.reply shortThirdWrite.reliable default {}).1.2.received =
        shortThirdWrite.received ++ partBytes (replyParts fallbackService.tools
          fallbackService.now fallbackService.ids.random.1.toText Mock.fallback ++
          annotationParts Mock.fallback userMessage.id.toText
            fallbackService.ids.random.1.toText) ∧
      (fallbackService.reply shortThirdWrite default {}).1.2.received <+:
        (fallbackService.reply shortThirdWrite.reliable default {}).1.2.received ∧
      Truncates (fallbackService.reply shortThirdWrite default {}).1
        ⟨{ shortThirdWrite with headers := shortThirdWrite.headers ++ streamHeaders }, .open⟩ {}
        (replyParts fallbackService.tools fallbackService.now fallbackService.ids.random.1.toText
          Mock.fallback)
        (annotationParts Mock.fallback userMessage.id.toText fallbackService.ids.random.1.toText) :=
  @reply_truncates_healthy_reply fallbackService shortThirdWrite default {} Mock.fallback rfl rfl
    (fun _ => rfl) rfl

end ChatWire.Turn
