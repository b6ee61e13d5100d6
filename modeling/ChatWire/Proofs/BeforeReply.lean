import ChatWire.Proofs.Persistence
import ChatWire.Proofs.History

open ChatWire.Wire ChatWire.Stream ChatWire.Tool ChatWire.Provider ChatWire.History

namespace ChatWire.History.Store

theorem save_ok_messages {s s' : Store} {session : Uuid} {role : Role} {content : String}
    {tokenCount : Nat} {m : StoredMessage}
    (h : s.save session role content tokenCount = (.ok m, s')) (other : Uuid) :
    s'.messages other = s.messages other ++ if other = session then [m] else [] := by
  by_cases hf : s.saves ∈ s.faults.failSaves
  · simp [save, hf] at h
  · simp only [save, List.contains_iff_mem, hf, ↓reduceIte, Prod.mk.injEq, Except.ok.injEq] at h
    obtain ⟨rfl, rfl⟩ := h
    simp only [messages, lookup_putSession]
    by_cases ho : other = session
    · subst ho
      simp
    · simp [ho]

theorem save_error_messages {s s' : Store} {session : Uuid} {role : Role} {content : String}
    {tokenCount : Nat} {e : StorageError}
    (h : s.save session role content tokenCount = (.error e, s')) (other : Uuid) :
    s'.messages other = s.messages other := by
  by_cases hf : s.saves ∈ s.faults.failSaves
  · simp only [save, List.contains_iff_mem, hf, ↓reduceIte, Prod.mk.injEq] at h
    obtain ⟨-, rfl⟩ := h
    rfl
  · simp [save, hf] at h

theorem recent_messages (s : Store) (session : Uuid) (limit : Nat) (other : Uuid) :
    (s.recent session limit).2.messages other = s.messages other := by
  unfold recent
  dsimp only
  split <;> rfl

end ChatWire.History.Store

namespace ChatWire.Wire

theorem Sink.write_headers (s : Sink) (bytes : List UInt8) :
    (s.write bytes).2.headers = s.headers := by
  unfold Sink.write
  dsimp only
  split
  · rfl
  · rfl
  · split <;> rfl

namespace Writer

theorem emit_headers (w : Writer) (bytes : List UInt8) :
    (w.emit bytes).writer.sink.headers = w.sink.headers := by
  unfold emit
  split
  · rfl
  · have hwrite := Sink.write_headers w.sink bytes
    rcases hw : w.sink.write bytes with ⟨result, s⟩
    rw [hw] at hwrite
    cases result with
    | stalled => exact hwrite
    | failed e => exact hwrite
    | accepted n =>
      have hflush := Sink.flush_headers s
      dsimp only at hwrite ⊢
      split
      · exact hwrite
      · rcases hf : s.flush with ⟨_ | e, s'⟩ <;> rw [hf] at hflush <;>
          simpa [Sent.writer, hf, hwrite] using hflush

theorem send_headers (w : Writer) (p : Part) :
    (w.send p).writer.sink.headers = w.sink.headers := by
  unfold send
  split
  · rfl
  · exact emit_headers w _

theorem deliver_headers (w : Writer) (fired : Bool) (ps : List Part) :
    (w.deliver fired ps).2.sink.headers = w.sink.headers := by
  induction ps generalizing w with
  | nil => rfl
  | cons p ps ih =>
    have hsend := send_headers w p
    unfold deliver
    split
    · rfl
    · split <;> rename_i h <;> rw [h] at hsend
      · rw [ih]; exact hsend
      · exact hsend
      · exact hsend

end Writer

end ChatWire.Wire

namespace ChatWire.Turn

theorem guarded_headers (p : Part) (r : Reply) :
    ((guarded p).exec r).2.writer.sink.headers = r.writer.sink.headers := by
  cases hcan : r.isCancelled
  · rw [guarded_exec_writer hcan]
    exact Writer.send_headers r.writer p
  · rw [guarded_exec_of_fired hcan]

/-- What a turn that failed before its reply started leaves behind: it ended with `error`,
    handed the connection back as it was, without a header or a byte, left the model as
    `backend`, and stored `added` in the session after the messages the store held. -/
structure FailedBeforeReply (s : Service) (sink : Sink) (input : TurnInput)
    (turn : (TurnEnd × Sink) × Service) (error : TurnError) (backend : Backend)
    (added : List StoredMessage) : Prop where
  result : turn.1.1 = .finished (.error error)
  untouched : turn.1.2 = sink
  model : turn.2.backend = backend
  stored : ∀ session, turn.2.store.messages session =
    s.store.messages session ++ if session = input.session then added else []

section

variable {s : Service} {sink : Sink} {input : TurnInput} {cancel : Cancellation}
  {user : StoredMessage} {store₁ store₂ : Store} {history : List StoredMessage}

theorem reply_of_save_error {e : StorageError}
    (hsaved : s.store.save input.session .user input.content (estimateTokens input.content) =
      (.error e, store₁)) :
    FailedBeforeReply s sink input (s.reply sink input cancel) (.storage e) s.backend [] := by
  rw [reply_eq_of_save_error hsaved]
  exact ⟨rfl, rfl, rfl, fun x => by simp [Store.save_error_messages hsaved x]⟩

/-- A history that cannot be read ends the turn with the user message stored, before the
    model is asked. -/
theorem reply_of_read_error {e : StorageError}
    (hsaved : s.store.save input.session .user input.content (estimateTokens input.content) =
      (.ok user, store₁))
    (hread : store₁.recent input.session s.streamConfig.historyLimit = (.error e, store₂)) :
    FailedBeforeReply s sink input (s.reply sink input cancel) (.storage e) s.backend [user] := by
  have hstored : ∀ x, store₂.messages x = store₁.messages x := by
    intro x
    simpa [hread] using Store.recent_messages store₁ input.session s.streamConfig.historyLimit x
  rw [reply_eq_of_read_error hsaved hread]
  exact ⟨rfl, rfl, rfl, fun x => by rw [hstored, Store.save_ok_messages hsaved]⟩

/-- The messages of the store after the user message was saved and the history read: the
    user message after those the store held. -/
theorem stored_after_read
    (hsaved : s.store.save input.session .user input.content (estimateTokens input.content) =
      (.ok user, store₁))
    (hread : store₁.recent input.session s.streamConfig.historyLimit = (.ok history, store₂))
    (x : Uuid) :
    store₂.messages x = s.store.messages x ++ if x = input.session then [user] else [] := by
  have hrecent := Store.recent_messages store₁ input.session s.streamConfig.historyLimit x
  rw [hread] at hrecent
  rw [hrecent, Store.save_ok_messages hsaved]

/-- A model that does not start the turn ends it with the user message stored and nothing
    written. -/
theorem reply_of_turn_error {e : ProviderError} {backend : Backend}
    (hsaved : s.store.save input.session .user input.content (estimateTokens input.content) =
      (.ok user, store₁))
    (hread : store₁.recent input.session s.streamConfig.historyLimit = (.ok history, store₂))
    (hturn : s.backend.streamTurn ⟨history.map StoredMessage.toMessage, s.systemPrompt,
      s.tools.definitions⟩ = (.error e, backend)) :
    FailedBeforeReply s sink input (s.reply sink input cancel) (.provider e) backend [user] := by
  rw [reply_eq_of_turn_error hsaved hread hturn]
  exact ⟨rfl, rfl, rfl, stored_after_read hsaved hread⟩

/-- A connection that cannot stream ends the turn with the user message stored and nothing
    written, once the model started it. -/
theorem reply_of_streaming_unsupported {stream : EventStream} {backend : Backend}
    (hsaved : s.store.save input.session .user input.content (estimateTokens input.content) =
      (.ok user, store₁))
    (hread : store₁.recent input.session s.streamConfig.historyLimit = (.ok history, store₂))
    (hturn : s.backend.streamTurn ⟨history.map StoredMessage.toMessage, s.systemPrompt,
      s.tools.definitions⟩ = (.ok stream, backend))
    (hstream : sink.faults.streaming = false) :
    FailedBeforeReply s sink input (s.reply sink input cancel) (.stream .streamingUnsupported)
      backend [user] := by
  rw [reply_eq_of_streaming_unsupported hsaved hread hturn hstream]
  exact ⟨rfl, rfl, rfl, stored_after_read hsaved hread⟩

theorem annotate_headers (userMessageId messageId : String) (r : Reply) :
    ((annotate userMessageId messageId).exec r).2.writer.sink.headers = r.writer.sink.headers := by
  simp only [annotate, ReplyM.exec_bind, ReplyM.exec_get]
  split
  · rfl
  · exact guarded_headers _ r

/-- On a connection that can stream, once the model started the turn, the connection keeps
    the stream headers set when the writer started, before its first byte; the reply is
    stored by one save as the assistant on the store the history read left, unless the turn
    waits forever while streaming, and then nothing more is stored. -/
theorem reply_of_streaming {stream : EventStream} {backend : Backend}
    (hsaved : s.store.save input.session .user input.content (estimateTokens input.content) =
      (.ok user, store₁))
    (hread : store₁.recent input.session s.streamConfig.historyLimit = (.ok history, store₂))
    (hturn : s.backend.streamTurn ⟨history.map StoredMessage.toMessage, s.systemPrompt,
      s.tools.definitions⟩ = (.ok stream, backend))
    (hstream : sink.faults.streaming = true) :
    (s.reply sink input cancel).1.2.headers = sink.headers ++ streamHeaders ∧
    ((∃ text tokens, (s.reply sink input cancel).2.store =
        (store₂.save input.session .assistant text tokens).2) ∨
      (s.reply sink input cancel).1.1 = .hung ∧ (s.reply sink input cancel).2.store = store₂) := by
  have hD := streamReply_accumulate_sends s.tools s.now (Uuid.toText_isEmpty s.ids.random.1)
    stream (r := replyStart sink cancel) rfl
  have hheaders : (s.replyRun sink cancel stream).2.writer.sink.headers =
      sink.headers ++ streamHeaders := by
    exact (congrArg (fun w => w.sink.headers) hD.writer).trans (Writer.deliver_headers _ _ _)
  rcases hrun : s.replyRun sink cancel stream with ⟨res, r⟩
  rw [hrun] at hheaders
  rcases res with (e | _) | _
  · rw [reply_of_stream_failed hsaved hread hturn hstream hrun]
    exact ⟨by simpa using hheaders, .inl ⟨r.text, r.tokenCount, rfl⟩⟩
  · rw [reply_of_stream_hung hsaved hread hturn hstream hrun]
    exact ⟨hheaders, .inr ⟨rfl, rfl⟩⟩
  · obtain ⟨hservice, hhung, hclosed⟩ := reply_of_stream_ok hsaved hread hturn hstream hrun
    rw [hservice]
    have hann := annotate_headers user.id.toText s.ids.random.1.toText r
    rcases hannotated : (annotate user.id.toText s.ids.random.1.toText).exec r with ⟨res', r'⟩
    rw [hannotated] at hann
    by_cases hres : res' = .error .hung
    · subst hres
      rw [hhung r' hannotated]
      exact ⟨hann.trans hheaders, .inl ⟨r.text, r.tokenCount, rfl⟩⟩
    · rw [hclosed res' r' hannotated hres]
      exact ⟨by simpa using hann.trans hheaders, .inl ⟨r.text, r.tokenCount, rfl⟩⟩

end

/-- Before the reply starts, a turn runs four steps that can fail: storing the user message,
    reading the history, asking the model, and starting the stream on the connection. A
    failure at any of them ends the turn with that failure before a header or a byte reaches
    the connection; the model is asked only once the history was read; and the store then
    holds exactly the user message, unless storing it was what failed. Past them the stream
    headers are set before the first byte, and the reply is stored by exactly one save as
    the assistant, unless the turn waits forever while streaming, and then never. -/
theorem reply_fails_before_writing (s : Service) (sink : Sink) (input : TurnInput)
    (cancel : Cancellation) :
    (∀ e store₁, s.store.save input.session .user input.content (estimateTokens input.content) =
        (.error e, store₁) →
      FailedBeforeReply s sink input (s.reply sink input cancel) (.storage e) s.backend []) ∧
    (∀ user store₁ e store₂,
      s.store.save input.session .user input.content (estimateTokens input.content) =
        (.ok user, store₁) →
      store₁.recent input.session s.streamConfig.historyLimit = (.error e, store₂) →
      FailedBeforeReply s sink input (s.reply sink input cancel) (.storage e) s.backend [user]) ∧
    (∀ user store₁ history store₂ e backend,
      s.store.save input.session .user input.content (estimateTokens input.content) =
        (.ok user, store₁) →
      store₁.recent input.session s.streamConfig.historyLimit = (.ok history, store₂) →
      s.backend.streamTurn ⟨history.map StoredMessage.toMessage, s.systemPrompt,
        s.tools.definitions⟩ = (.error e, backend) →
      FailedBeforeReply s sink input (s.reply sink input cancel) (.provider e) backend [user]) ∧
    (∀ user store₁ history store₂ stream backend,
      s.store.save input.session .user input.content (estimateTokens input.content) =
        (.ok user, store₁) →
      store₁.recent input.session s.streamConfig.historyLimit = (.ok history, store₂) →
      s.backend.streamTurn ⟨history.map StoredMessage.toMessage, s.systemPrompt,
        s.tools.definitions⟩ = (.ok stream, backend) →
      sink.faults.streaming = false →
      FailedBeforeReply s sink input (s.reply sink input cancel) (.stream .streamingUnsupported)
        backend [user]) ∧
    (∀ user store₁ history store₂ stream backend,
      s.store.save input.session .user input.content (estimateTokens input.content) =
        (.ok user, store₁) →
      store₁.recent input.session s.streamConfig.historyLimit = (.ok history, store₂) →
      s.backend.streamTurn ⟨history.map StoredMessage.toMessage, s.systemPrompt,
        s.tools.definitions⟩ = (.ok stream, backend) →
      sink.faults.streaming = true →
      (∃ w, Writer.start sink = .ok w ∧ w.sink.received = sink.received ∧
        w.sink.headers = sink.headers ++ streamHeaders) ∧
      (s.reply sink input cancel).1.2.headers = sink.headers ++ streamHeaders ∧
      ((∃ text tokens, (s.reply sink input cancel).2.store =
          (store₂.save input.session .assistant text tokens).2) ∨
        (s.reply sink input cancel).1.1 = .hung ∧ (s.reply sink input cancel).2.store = store₂)) :=
  ⟨fun _ _ hsaved => reply_of_save_error hsaved,
   fun _ _ _ _ hsaved hread => reply_of_read_error hsaved hread,
   fun _ _ _ _ _ _ hsaved hread hturn => reply_of_turn_error hsaved hread hturn,
   fun _ _ _ _ _ _ hsaved hread hturn hstream =>
     reply_of_streaming_unsupported hsaved hread hturn hstream,
   fun _ _ _ _ _ _ hsaved hread hturn hstream =>
     ⟨⟨_, Writer.start_streaming hstream, rfl, rfl⟩, reply_of_streaming hsaved hread hturn hstream⟩⟩

/-- A model that streams `Hel` and then never again. -/
def stallingStream : EventStream :=
  { items := [.ok { text := "Hel" }], ending := .stalls }

/-- A service whose model streams `stallingStream`. -/
def stallingService : Service := { backend := .scripted { turns := [.events stallingStream] } }

/-- A turn past the four steps that never stores its reply: the user message is stored, the
    history read and the stream started on a connection that can stream, but the model goes
    silent after `Hel`, nothing cancels the turn, and the turn waits forever with only the
    user message stored. -/
theorem reply_waiting_forever_stores_no_reply :
    (∃ (user : StoredMessage) (store₁ store₂ : Store) (history : List StoredMessage)
        (backend : Backend),
      stallingService.store.save questionInput.session .user questionInput.content
          (estimateTokens questionInput.content) = (.ok user, store₁) ∧
      store₁.recent questionInput.session stallingService.streamConfig.historyLimit =
        (.ok history, store₂) ∧
      stallingService.backend.streamTurn ⟨history.map StoredMessage.toMessage,
        stallingService.systemPrompt, stallingService.tools.definitions⟩ =
        (.ok stallingStream, backend)) ∧
    ({} : Sink).faults.streaming = true ∧
    ((stallingService.reply {} questionInput {}).2.store.messages questionInput.session).map
      (·.role) = [.user] :=
  ⟨⟨_, _, _, _, _, rfl, rfl, rfl⟩, rfl, by decide +kernel⟩

end ChatWire.Turn
