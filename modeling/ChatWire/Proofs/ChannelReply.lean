import ChatWire.Proofs.Persistence

namespace ChatWire.Turn

open ChatWire.Stream ChatWire.Wire ChatWire.Tool ChatWire.History ChatWire.Provider

theorem streamChunks_exec_of_fired (tools : Registry) (now : Instant) {r : Reply}
    (hc : r.isCancelled = true) (cs : List Chunk) (ending : ChannelEnd) :
    (streamChunks tools now cs ending).exec r = (.error (.failed .cancelled), r) := by
  cases cs with
  | nil => simp [streamChunks, checkCancelled_exec_of_fired hc]
  | cons c rest => exact streamChunks_cons_cancelled tools now hc c rest ending

/-- The chunk loop reads no further than the chunks it takes: when it stops before the last
    chunk, it runs the same over any prefix that holds the chunks it takes, whatever end
    follows that prefix. -/
theorem streamChunks_take (tools : Registry) (now : Instant) (ending ending' : ChannelEnd) :
    ∀ (cs : List Chunk) (r : Reply) (k : Nat), dequeued tools now cs r < cs.length →
      dequeued tools now cs r ≤ k →
      (streamChunks tools now (cs.take k) ending').exec r =
        (streamChunks tools now cs ending).exec r
  | [], _, _, hlt, _ => absurd hlt (Nat.not_lt_zero _)
  | c :: rest, r, k, hlt, hle => by
    cases hc : r.isCancelled
    case true =>
      rw [streamChunks_exec_of_fired tools now hc, streamChunks_exec_of_fired tools now hc]
    case false =>
    have hpos : 1 ≤ dequeued tools now (c :: rest) r := by
      simp only [dequeued, hc, Bool.false_eq_true, ↓reduceIte]
      split
      · split <;> omega
      · exact Nat.le_refl 1
    obtain ⟨k, rfl⟩ : ∃ k', k = k' + 1 := ⟨k - 1, by omega⟩
    rw [List.take_succ_cons, streamChunks_cons_exec tools now hc,
      streamChunks_cons_exec tools now hc]
    rcases hrun : (handleChunk tools now c).exec r with ⟨_ | _, r'⟩
    case error => rfl
    case ok =>
    cases hd : c.done
    case true => rfl
    case false =>
    have hdeq : dequeued tools now (c :: rest) r = dequeued tools now rest r' + 1 := by
      simp [dequeued, hc, hrun, hd]
    simp only [Bool.false_eq_true, ↓reduceIte]
    rw [List.length_cons] at hlt
    exact streamChunks_take tools now ending ending' rest r' k (by omega) (by omega)

/-- A reply that stops before the last chunk runs the same over any prefix of its chunks that
    holds the chunks it takes. -/
theorem streamReply_take (tools : Registry) (now : Instant) (messageId : String) (chunks : Chunks)
    (r : Reply) {k : Nat} (ending : ChannelEnd)
    (hlt : replyDequeued tools now messageId chunks r < chunks.chunks.length)
    (hle : replyDequeued tools now messageId chunks r ≤ k) :
    (streamReply tools now messageId ⟨chunks.chunks.take k, ending⟩).exec r =
      (streamReply tools now messageId chunks).exec r := by
  rcases hstart : (guarded (.start messageId)).exec r with ⟨_ | _, r'⟩
  case error => simp [streamReply, hstart]
  case ok =>
  simp only [replyDequeued, hstart] at hlt hle
  simp only [streamReply, ReplyM.exec_bind, hstart]
  exact streamChunks_take tools now chunks.ending ending chunks.chunks r' k hlt hle

theorem Service.replyReading_congr {s : Service} {read read' : EventStream → Chunks}
    {sink : Sink} {cancel : Cancellation}
    (h : ∀ events, (streamReply s.tools s.now s.ids.random.1.toText (read events)).exec
        (replyStart sink cancel) =
      (streamReply s.tools s.now s.ids.random.1.toText (read' events)).exec
        (replyStart sink cancel))
    (input : TurnInput) :
    s.replyReading read sink input cancel = s.replyReading read' sink input cancel := by
  unfold Service.replyReading
  rcases s.store.save input.session .user input.content (estimateTokens input.content) with
    ⟨_ | user, store₁⟩
  case error => rfl
  case ok =>
  dsimp only
  rcases store₁.recent input.session s.streamConfig.historyLimit with ⟨_ | history, store₂⟩
  case error => rfl
  case ok =>
  dsimp only
  rcases s.backend.streamTurn ⟨history.map StoredMessage.toMessage, s.systemPrompt,
    s.tools.definitions⟩ with ⟨_ | events, backend⟩
  case error => rfl
  case ok =>
  dsimp only
  rcases hstart : Writer.start sink with e | w
  case error => rfl
  case ok =>
  dsimp only
  obtain rfl := Writer.start_eq hstart
  have hrun : ReplyM.exec (streamReply s.tools s.now s.ids.random.1.toText (read events))
      (replyStart sink cancel) = _ := h events
  simp only [ReplyM.exec, replyStart] at hrun
  simp only [hrun]

/-- The turn's two tasks over the model's `events`, over a channel of the service's
    configured capacity: the accumulator task and the orchestrator, run by the schedule
    `acts`. -/
def Service.channel (s : Service) (work : Chunk → Nat) (cancel : Cancellation)
    (events : EventStream) (acts : List Pipe.Action) : Pipe :=
  (Pipe.start events s.streamConfig.channelCapacity work cancel.before).run acts

/-- A schedule of the turn's two tasks hands the reply what it reads: nothing interrupts the
    tasks and both come to rest; or the reply stops before the last chunk and the orchestrator
    received every chunk the reply takes, however the schedule fires the token or fails
    writes. -/
def Service.HandsOver (s : Service) (sink : Sink) (cancel : Cancellation) (work : Chunk → Nat)
    (events : EventStream) (acts : List Pipe.Action) : Prop :=
  (cancel.before = false ∧ (∀ a ∈ acts, a.quiet) ∧ (s.channel work cancel events acts).Settled) ∨
    ((s.replyTaken sink cancel events).length < (accumulate events cancel.before).chunks.length ∧
      (s.replyTaken sink cancel events).length ≤ (s.channel work cancel events acts).received.length)

theorem Service.replyRun_channel {s : Service} {sink : Sink} {cancel : Cancellation}
    {work : Chunk → Nat} {events : EventStream} {acts : List Pipe.Action}
    (h : s.HandsOver sink cancel work events acts) :
    (streamReply s.tools s.now s.ids.random.1.toText (accumulate events cancel.before)).exec
        (replyStart sink cancel) =
      (streamReply s.tools s.now s.ids.random.1.toText
        (s.channel work cancel events acts).observed).exec (replyStart sink cancel) := by
  rcases h with ⟨hbefore, hquiet, hsettled⟩ | ⟨hlt, hle⟩
  · rw [Service.channel, hbefore] at hsettled ⊢
    rw [Pipe.observed_of_quiet events _ work hquiet hsettled]
  · cases hbefore : cancel.before
    case true => simp [Service.replyTaken, hbefore, accumulate] at hlt
    case false =>
    simp only [Service.replyTaken, List.length_take, hbefore] at hlt hle ⊢
    rw [Service.channel, hbefore] at hle ⊢
    rw [Pipe.observed, List.prefix_iff_eq_take.mp
      (Pipe.received_starts_reference events s.streamConfig.channelCapacity work false acts)]
    exact (streamReply_take _ _ _ _ _ _ (by omega) (by omega)).symm

/-- A turn reads what the orchestrator receives from the accumulator task over a channel of
    the configured capacity: for every cost of handling a chunk and every schedule of the two
    tasks that hands the reply what it reads (nothing interrupts them and both come to rest,
    or the turn stops before its last chunk, by a cancellation or a failed write, and the
    orchestrator had received every chunk the turn takes), the turn is the turn whose reply
    reads the chunks the orchestrator observed. -/
theorem reply_reads_channel (s : Service) (sink : Sink) (input : TurnInput)
    (cancel : Cancellation) (work : Chunk → Nat) (schedule : EventStream → List Pipe.Action)
    (h : ∀ events, s.HandsOver sink cancel work events (schedule events)) :
    s.reply sink input cancel =
      s.replyReading (fun events => (s.channel work cancel events (schedule events)).observed)
        sink input cancel :=
  Service.replyReading_congr (fun events => Service.replyRun_channel (h events)) input

/-- The rounds that bring the two tasks of a turn of `s` over `events` to rest. -/
def Service.restSchedule (s : Service) (work : Chunk → Nat) (events : EventStream) :
    List Pipe.Action :=
  Pipe.rounds (Pipe.start events s.streamConfig.channelCapacity work false).steps

theorem Service.handsOver_restSchedule (s : Service) (sink : Sink) (work : Chunk → Nat)
    (events : EventStream) : s.HandsOver sink {} work events (s.restSchedule work events) :=
  .inl ⟨rfl, Pipe.quiet_rounds _, Pipe.run_rounds_settled _ _ (Nat.le_refl _)⟩

theorem reply_reads_channel_at_rest :
    (∀ events, usageService.HandsOver Sink.healthy {} (fun _ => 1) events
      (usageService.restSchedule (fun _ => 1) events)) ∧
    usageService.reply Sink.healthy questionInput {} =
      usageService.replyReading (fun events => (usageService.channel (fun _ => 1) {} events
        (usageService.restSchedule (fun _ => 1) events)).observed) Sink.healthy questionInput {} := by
  have h : ∀ events, usageService.HandsOver Sink.healthy {} (fun _ => 1) events
      (usageService.restSchedule (fun _ => 1) events) :=
    usageService.handsOver_restSchedule Sink.healthy (fun _ => 1)
  exact ⟨h, reply_reads_channel usageService Sink.healthy questionInput {} (fun _ => 1) _ h⟩

/-- A connection whose client asks to cancel the turn right after the first line. -/
def cancelsAfterStart : Sink :=
  Sink.withFaults { cancelAfterWrites := some 1 }

theorem replyTaken_cancelsAfterStart (events : EventStream) :
    usageService.replyTaken cancelsAfterStart {} events = [] := by
  have hc : ((guarded (.start usageService.ids.random.1.toText)).exec
      (replyStart cancelsAfterStart {})).2.isCancelled = true := by decide
  simp only [Service.replyTaken, replyDequeued]
  rcases hstart : (guarded (.start usageService.ids.random.1.toText)).exec
    (replyStart cancelsAfterStart {}) with ⟨_ | _, r'⟩
  case error => simp
  case ok =>
  rw [hstart] at hc
  dsimp only at hc ⊢
  generalize (accumulate events false).chunks = cs
  cases cs with
  | nil => rfl
  | cons c rest => simp [dequeued, hc]

/-- The scripted turn on a connection that asks to cancel right after the first line takes no
    chunk, so it reads the same when the channel's token fires at once. -/
theorem reply_reads_channel_cancelled_at_once :
    let schedule := fun events => if (accumulate events).chunks.isEmpty then
      usageService.restSchedule (fun _ => 1) events else [Pipe.Action.cancel]
    (∀ events, usageService.HandsOver cancelsAfterStart {} (fun _ => 1) events (schedule events)) ∧
    usageService.reply cancelsAfterStart questionInput {} =
      usageService.replyReading (fun events => (usageService.channel (fun _ => 1) {} events
        (schedule events)).observed) cancelsAfterStart questionInput {} := by
  intro schedule
  have h : ∀ events, usageService.HandsOver cancelsAfterStart {} (fun _ => 1) events
      (schedule events) := by
    intro events
    cases hempty : (accumulate events).chunks.isEmpty
    case true =>
      simp only [schedule, hempty, ↓reduceIte]
      exact usageService.handsOver_restSchedule cancelsAfterStart (fun _ => 1) events
    case false =>
      refine .inr ⟨?_, ?_⟩
      · rw [replyTaken_cancelsAfterStart, List.length_nil]
        simpa [List.isEmpty_iff, List.length_pos_iff] using hempty
      · simp [replyTaken_cancelsAfterStart]
  exact ⟨h, reply_reads_channel usageService cancelsAfterStart questionInput {} (fun _ => 1) _ h⟩

end ChatWire.Turn
