import ChatWire.Proofs.Reply
import ChatWire.Turn.Service

open ChatWire.Wire ChatWire.Stream ChatWire.Tool ChatWire.Provider ChatWire.History

namespace ChatWire.Wire

theorem Sink.flush_received (s : Sink) : s.flush.2.received = s.received := by
  simp only [Sink.flush]
  split <;> rfl

theorem Sink.flush_headers (s : Sink) : s.flush.2.headers = s.headers := by
  unfold Sink.flush
  dsimp only
  split <;> rfl

theorem Writer.close_received (w : Writer) : w.close.2.sink.received = w.sink.received := by
  unfold Writer.close
  split
  · rfl
  · have hflush := Sink.flush_received w.sink
    rcases hf : w.sink.flush with ⟨_ | e, s'⟩ <;> simp_all

theorem Writer.close_headers (w : Writer) : w.close.2.sink.headers = w.sink.headers := by
  unfold Writer.close
  split
  · rfl
  · have hflush := Sink.flush_headers w.sink
    rcases hf : w.sink.flush with ⟨_ | e, s⟩ <;> rw [hf] at hflush <;> exact hflush

end ChatWire.Wire

namespace ChatWire.Turn

/-- The reply a turn streams from: an open writer on the connection with the stream headers
    set, and the turn's cancellation. -/
def replyStart (sink : Sink) (cancel : Cancellation) : Reply :=
  { writer := ⟨{ sink with headers := sink.headers ++ streamHeaders }, .open⟩,
    cancelled := cancel.before, timer := cancel.timer }

/-- The reply a turn on `s` streams for the provider stream `stream`. -/
def Service.replyRun (s : Service) (sink : Sink) (cancel : Cancellation) (stream : EventStream) :
    Except Halt Unit × Reply :=
  (streamReply s.tools s.now s.ids.random.1.toText (accumulate stream cancel.before)).exec
    (replyStart sink cancel)

/-- The annotation after a reply that went through: the stored user message's id is written
    unless the writer failed. -/
def annotate (userMessageId messageId : String) : ReplyM Unit := do
  if (← get).writer.isFailed then pure () else guarded (annotationPart userMessageId messageId)

/-- The writer a turn ends with: the connection is closed unless the token fired. -/
def Reply.closingWriter (r : Reply) : Writer :=
  if r.isCancelled then r.writer else r.writer.close.2

/-- How a turn whose reply went through ends once its annotation is over: cancelled when the
    token fired, failed when the closing flush failed, and otherwise with `outcome`. -/
def Reply.closingResult (r : Reply) (outcome : TurnOutcome) : Except TurnError TurnOutcome :=
  if r.isCancelled then .error .cancelled
  else (r.writer.close.1.mapError .stream).map fun _ => outcome

/-- What a completed turn reports: the reply's id, the stored user message, the stored reply
    when storing it went through, and what the reply recorded. -/
def Reply.outcome (r : Reply) (messageId : String) (userMessage : StoredMessage)
    (assistantMessage : Option StoredMessage) : TurnOutcome :=
  { messageId, userMessage, assistantMessage, text := r.text, finishReason := r.finishReason,
    usage := r.usage, toolCalls := r.toolCalls }

@[simp] theorem Reply.closingWriter_received (r : Reply) :
    r.closingWriter.sink.received = r.writer.sink.received := by
  unfold closingWriter
  split
  · rfl
  · exact Writer.close_received r.writer

@[simp] theorem Reply.closingWriter_headers (r : Reply) :
    r.closingWriter.sink.headers = r.writer.sink.headers := by
  unfold closingWriter
  split
  · rfl
  · exact Writer.close_headers r.writer

theorem annotate_exec_of_not_failed {r : Reply} (h : r.writer.isFailed = false)
    (userMessageId messageId : String) :
    (annotate userMessageId messageId).exec r =
      (guarded (annotationPart userMessageId messageId)).exec r := by
  simp [annotate, h]

theorem Reply.closingResult_of_flushed {r : Reply} (hc : r.isCancelled = false)
    (hclose : r.writer.close.1 = .ok ()) (outcome : TurnOutcome) :
    r.closingResult outcome = .ok outcome := by
  simp [closingResult, hc, hclose, Except.mapError, Except.map]

theorem Reply.eq_of_closingResult_eq_ok {r : Reply} {outcome o : TurnOutcome}
    (h : r.closingResult outcome = .ok o) : o = outcome := by
  unfold closingResult at h
  split at h
  · cases h
  · generalize r.writer.close.1 = closed at h
    rcases closed with _ | _
    · cases h
    · exact (Except.ok.inj h).symm

section

variable {s : Service} {sink : Sink} {input : TurnInput} {cancel : Cancellation}
  {user : StoredMessage} {store₁ store₂ : Store} {history : List StoredMessage}
  {stream : EventStream} {backend : Backend}

theorem reply_eq_of_save_error {e : StorageError}
    (hsaved : s.store.save input.session .user input.content (estimateTokens input.content) =
      (.error e, store₁)) :
    s.reply sink input cancel =
      ((.finished (.error (.storage e)), sink), { s with store := store₁ }) := by
  unfold Service.reply Service.replyReading
  rw [hsaved]

theorem reply_eq_of_read_error {e : StorageError}
    (hsaved : s.store.save input.session .user input.content (estimateTokens input.content) =
      (.ok user, store₁))
    (hread : store₁.recent input.session s.streamConfig.historyLimit = (.error e, store₂)) :
    s.reply sink input cancel =
      ((.finished (.error (.storage e)), sink), { s with store := store₂ }) := by
  unfold Service.reply Service.replyReading
  rw [hsaved]
  simp only [hread]

theorem reply_eq_of_turn_error {e : ProviderError}
    (hsaved : s.store.save input.session .user input.content (estimateTokens input.content) =
      (.ok user, store₁))
    (hread : store₁.recent input.session s.streamConfig.historyLimit = (.ok history, store₂))
    (hturn : s.backend.streamTurn ⟨history.map StoredMessage.toMessage, s.systemPrompt,
      s.tools.definitions⟩ = (.error e, backend)) :
    s.reply sink input cancel =
      ((.finished (.error (.provider e)), sink), { s with store := store₂, backend }) := by
  unfold Service.reply Service.replyReading
  rw [hsaved]
  simp only [hread, hturn]

theorem reply_eq_of_streaming_unsupported
    (hsaved : s.store.save input.session .user input.content (estimateTokens input.content) =
      (.ok user, store₁))
    (hread : store₁.recent input.session s.streamConfig.historyLimit = (.ok history, store₂))
    (hturn : s.backend.streamTurn ⟨history.map StoredMessage.toMessage, s.systemPrompt,
      s.tools.definitions⟩ = (.ok stream, backend))
    (hstream : sink.faults.streaming = false) :
    s.reply sink input cancel = ((.finished (.error (.stream .streamingUnsupported)), sink),
      { s with store := store₂, backend }) := by
  unfold Service.reply Service.replyReading
  rw [hsaved]
  simp only [hread, hturn, Writer.start, hstream, Bool.false_eq_true, ↓reduceIte]

end

section

variable {s : Service} {sink : Sink} {input : TurnInput} {cancel : Cancellation}
  {user : StoredMessage} {store₁ store₂ : Store} {history : List StoredMessage}
  {stream : EventStream} {backend : Backend}
  (hsaved : s.store.save input.session .user input.content (estimateTokens input.content) =
    (.ok user, store₁))
  (hread : store₁.recent input.session s.streamConfig.historyLimit = (.ok history, store₂))
  (hturn : s.backend.streamTurn ⟨history.map StoredMessage.toMessage, s.systemPrompt,
    s.tools.definitions⟩ = (.ok stream, backend))
  (hstream : sink.faults.streaming = true)
include hsaved hread hturn hstream

/-- A turn whose reply waits forever while streaming waits forever too, with the connection
    as the reply left it and nothing stored after the user message. -/
theorem reply_of_stream_hung {r : Reply}
    (hrun : s.replyRun sink cancel stream = (.error .hung, r)) :
    s.reply sink input cancel =
      ((.hung, r.writer.sink), { s with store := store₂, backend, ids := s.ids.random.2 }) := by
  unfold Service.reply Service.replyReading
  rw [hsaved]
  simp only [hread, hturn]
  rw [Writer.start_streaming hstream]
  simp only
  generalize hrun' : StateT.run (ExceptT.run (streamReply s.tools s.now s.ids.random.1.toText
      (accumulate stream cancel.before)))
      { writer := ⟨{ sink with headers := sink.headers ++ streamHeaders }, .open⟩,
        cancelled := cancel.before, timer := cancel.timer } = run
  replace hrun' : s.replyRun sink cancel stream = run := hrun'
  rw [hrun] at hrun'
  subst hrun'
  rfl

/-- A turn whose reply halts with an error stores the reply's text and closes the connection
    unless the token fired, and ends with that error. -/
theorem reply_of_stream_failed {e : TurnError} {r : Reply}
    (hrun : s.replyRun sink cancel stream = (.error (.failed e), r)) :
    s.reply sink input cancel =
      ((.finished (.error e), r.closingWriter.sink), { s with
        store := (store₂.save input.session .assistant r.text r.tokenCount).2, backend,
        ids := s.ids.random.2 }) := by
  unfold Service.reply Service.replyReading
  rw [hsaved]
  simp only [hread, hturn]
  rw [Writer.start_streaming hstream]
  simp only
  generalize hrun' : StateT.run (ExceptT.run (streamReply s.tools s.now s.ids.random.1.toText
      (accumulate stream cancel.before)))
      { writer := ⟨{ sink with headers := sink.headers ++ streamHeaders }, .open⟩,
        cancelled := cancel.before, timer := cancel.timer } = run
  replace hrun' : s.replyRun sink cancel stream = run := hrun'
  rw [hrun] at hrun'
  subst hrun'
  simp only [Halt.settle, Bool.false_and, Bool.false_eq_true, ↓reduceIte, Reply.closingWriter]
  split
  · rfl
  · generalize r.writer.close = closed
    rcases closed with ⟨_ | _, w⟩ <;> rfl

/-- A turn whose reply went through stores the reply's text; it then writes the annotation
    unless the writer failed, and waits forever if that write does; otherwise it closes the
    connection unless the token fired, and ends as `Reply.closingResult` says, with the
    reply's id, the stored messages and what the reply recorded. -/
theorem reply_of_stream_ok {r : Reply} (hrun : s.replyRun sink cancel stream = (.ok (), r)) :
    (s.reply sink input cancel).2 = { s with
        store := (store₂.save input.session .assistant r.text r.tokenCount).2, backend,
        ids := s.ids.random.2 } ∧
    (∀ r', (annotate user.id.toText s.ids.random.1.toText).exec r = (.error .hung, r') →
      (s.reply sink input cancel).1 = (.hung, r'.writer.sink)) ∧
    (∀ res r', (annotate user.id.toText s.ids.random.1.toText).exec r = (res, r') →
      res ≠ .error .hung →
      (s.reply sink input cancel).1 = (.finished (r'.closingResult (r'.outcome
        s.ids.random.1.toText user (store₂.save input.session .assistant r.text
          r.tokenCount).1.toOption)), r'.closingWriter.sink)) := by
  unfold Service.reply Service.replyReading
  rw [hsaved]
  simp only [hread, hturn]
  rw [Writer.start_streaming hstream]
  simp only
  generalize hrun' : StateT.run (ExceptT.run (streamReply s.tools s.now s.ids.random.1.toText
      (accumulate stream cancel.before)))
      { writer := ⟨{ sink with headers := sink.headers ++ streamHeaders }, .open⟩,
        cancelled := cancel.before, timer := cancel.timer } = run
  replace hrun' : s.replyRun sink cancel stream = run := hrun'
  rw [hrun] at hrun'
  subst hrun'
  simp only [Halt.settle, Bool.true_and]
  have hann : (if (!r.writer.isFailed) = true then
      StateT.run (ExceptT.run (guarded (annotationPart user.id.toText s.ids.random.1.toText))) r
      else (.ok (), r)) = (annotate user.id.toText s.ids.random.1.toText).exec r := by
    cases h : r.writer.isFailed
    · rw [annotate_exec_of_not_failed h]
      rfl
    · simp [annotate, h]
  rw [hann]
  generalize (annotate user.id.toText s.ids.random.1.toText).exec r = ann
  generalize store₂.save input.session .assistant r.text r.tokenCount = stored
  obtain ⟨res, r'⟩ := ann
  obtain ⟨saved, store₃⟩ := stored
  refine ⟨?_, fun r'' h => ?_, fun res' r'' h hres => ?_⟩
  · split <;> rfl
  · obtain ⟨rfl, rfl⟩ := Prod.mk.inj h
    rfl
  · obtain ⟨rfl, rfl⟩ := Prod.mk.inj h
    have hcases : (∃ e, res = .error (.failed e)) ∨ res = .ok () := by
      rcases res with (e | _) | _
      exacts [.inl ⟨e, rfl⟩, absurd rfl hres, .inr rfl]
    rcases hcases with ⟨e, rfl⟩ | rfl <;>
    · simp only [Reply.closingResult, Reply.closingWriter, Reply.outcome]
      by_cases hc : r'.isCancelled = true
      · simp only [hc, ↓reduceIte]
      · simp only [hc]
        generalize r'.writer.close = closed
        rcases closed with ⟨_ | _, w⟩ <;> cases saved <;> rfl

end

theorem Service.replyRun_of_before {s : Service} {sink : Sink} {cancel : Cancellation}
    (hbefore : cancel.before = true) (stream : EventStream) :
    s.replyRun sink cancel stream = (.error (.failed .cancelled), replyStart sink cancel) := by
  have hfired : (replyStart sink cancel).isCancelled = true := by
    simp [replyStart, Reply.isCancelled, hbefore]
  simp [Service.replyRun, streamReply, guarded_exec_of_fired hfired]

/-- A turn whose token fired before it started never waits: it ends with a failure, the
    cancellation itself once the reply is reached, or whatever failed before it. -/
theorem reply_finishes_of_before (s : Service) (sink : Sink) (input : TurnInput)
    {cancel : Cancellation} (hbefore : cancel.before = true) :
    ∃ e, (s.reply sink input cancel).1.1 = .finished (.error e) := by
  rcases hsaved : s.store.save input.session .user input.content (estimateTokens input.content)
    with ⟨e | user, store₁⟩
  · exact ⟨_, by rw [reply_eq_of_save_error hsaved]⟩
  rcases hread : store₁.recent input.session s.streamConfig.historyLimit with
    ⟨e | history, store₂⟩
  · exact ⟨_, by rw [reply_eq_of_read_error hsaved hread]⟩
  rcases hturn : s.backend.streamTurn ⟨history.map StoredMessage.toMessage, s.systemPrompt,
    s.tools.definitions⟩ with ⟨e | stream, backend⟩
  · exact ⟨_, by rw [reply_eq_of_turn_error hsaved hread hturn]⟩
  cases hstream : sink.faults.streaming
  case false => exact ⟨_, by rw [reply_eq_of_streaming_unsupported hsaved hread hturn hstream]⟩
  case true =>
    exact ⟨_, by rw [reply_of_stream_failed hsaved hread hturn hstream
      (Service.replyRun_of_before hbefore stream)]⟩

end ChatWire.Turn
