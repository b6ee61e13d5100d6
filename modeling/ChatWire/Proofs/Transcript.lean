import ChatWire.Proofs.Delivery
import ChatWire.Proofs.TurnStages

open ChatWire.Wire ChatWire.Stream ChatWire.Tool ChatWire.Provider ChatWire.Text ChatWire.History

namespace ChatWire.History

theorem Uuid.toText_isEmpty (u : Uuid) : u.toText.isEmpty = false := by
  simp [Uuid.toText, String.isEmpty, String.utf8ByteSize_append]

/-- A save the store does not refuse stores the message under the next id; reads and
    faults are untouched. -/
theorem Store.save_ok {s : Store} (h : s.faults.failSaves.contains s.saves = false)
    (session : Uuid) (role : Role) (content : String) (tokenCount : Nat) :
    ∃ m s', s.save session role content tokenCount = (.ok m, s') ∧ s'.reads = s.reads ∧
      s'.faults = s.faults := by
  unfold Store.save
  simp only [h, Bool.false_eq_true, ↓reduceIte]
  exact ⟨_, _, rfl, rfl, rfl⟩

theorem Store.recent_ok {s : Store} (h : s.faults.failReads.contains s.reads = false)
    (session : Uuid) (limit : Nat) : ∃ ms s', s.recent session limit = (.ok ms, s') := by
  unfold Store.recent
  simp only [h, Bool.false_eq_true, ↓reduceIte]
  exact ⟨_, _, rfl⟩

end ChatWire.History

namespace ChatWire.Turn

/-- On a store that takes the next save and the next read, and with a model that starts every
    turn with `stream`, a turn stores the user message, reads the history and is given
    `stream`. -/
theorem Service.reaches_stream {s : Service} {stream : EventStream}
    (hsave : s.store.faults.failSaves.contains s.store.saves = false)
    (hread : s.store.faults.failReads.contains s.store.reads = false)
    (hturn : ∀ request, (s.backend.streamTurn request).1 = .ok stream) (input : TurnInput) :
    ∃ user store₁ history store₂ backend,
      s.store.save input.session .user input.content (estimateTokens input.content) =
        (.ok user, store₁) ∧
      store₁.recent input.session s.streamConfig.historyLimit = (.ok history, store₂) ∧
      s.backend.streamTurn ⟨history.map StoredMessage.toMessage, s.systemPrompt,
        s.tools.definitions⟩ = (.ok stream, backend) := by
  obtain ⟨user, store₁, hsaved, hreads, hfaults⟩ :=
    Store.save_ok hsave input.session .user input.content (estimateTokens input.content)
  obtain ⟨history, store₂, hrecent⟩ := Store.recent_ok (s := store₁)
    (by rw [hreads, hfaults]; exact hread) input.session s.streamConfig.historyLimit
  exact ⟨user, store₁, history, store₂, _, hsaved, hrecent, Prod.ext (hturn _) rfl⟩

/-- A part of a reply, tagged with the position of the tool call it belongs to, if any. -/
structure Tagged where
  call : Option Nat
  part : Part

@[simp] theorem Tagged.part_comp_mk (call : Option Nat) : Tagged.part ∘ Tagged.mk call = id := rfl

/-- The parts for fragments `ds` after the fragments `seen`, tagged with the position of
    their fragment. -/
def fragmentsTranscript (seen : List RawToolCallDelta) : List RawToolCallDelta → List Tagged
  | [] => []
  | d :: rest => (fragmentParts (fragmentsAt d.index seen) d).map (Tagged.mk (some d.index)) ++
      fragmentsTranscript (seen ++ [d]) rest

/-- A text part for non-empty text, nothing for empty text. -/
def textPart (text : String) : List Part :=
  if text.isEmpty then [] else [.text text]

/-- The parts for events after the fragments `seen` of earlier events: each event's text,
    then the parts of its fragments. -/
def eventsTranscript (seen : List RawToolCallDelta) : List ProviderEvent → List Tagged
  | [] => []
  | e :: rest => (textPart e.text).map (Tagged.mk none) ++ fragmentsTranscript seen e.toolCalls ++
      eventsTranscript (seen ++ e.toolCalls) rest

/-- The parts a complete call is written with: the call with its parsed arguments, then
    the result of running it; nothing for a call without an id or a name. -/
def callParts (tools : Registry) (now : Instant) (call : ToolCall) : List Part :=
  if call.id.isEmpty || call.name.isEmpty then []
  else [.toolCall call.id call.name call.parsedArguments,
    .toolResult call.id (reportedResult (tools.execute now call.name call.arguments)).toValue]

/-- The complete call of every position of the fragments, in ascending order, with its
    parts. -/
def callsTranscript (tools : Registry) (now : Instant) (fragments : List RawToolCallDelta) :
    List Tagged :=
  (positions fragments).flatMap fun i =>
    (callParts tools now (assemble (fragmentsAt i fragments))).map (Tagged.mk (some i))

/-- The finish parts of a step: the step's own, then the message's unless the step ends in
    tool calls. -/
def finishParts (reason : FinishReason) (usage : Option Usage) : List Part :=
  .finishStep reason usage reason.isToolCalls ::
    if reason.isToolCalls then [] else [.finishMessage reason usage]

/-- How a turn whose provider stream ended finishes: with `error` after a failed item,
    otherwise with the last reason reported, `stop` when none was. -/
def closingReason (items : List (Except ProviderError ProviderEvent)) : FinishReason :=
  if hasFailure items then .error else (lastReason (okPrefix items)).getD .stop

/-- What a reply streams for a provider stream that ends. -/
def streamTranscript (tools : Registry) (now : Instant) (messageId : String)
    (items : List (Except ProviderError ProviderEvent)) : List Tagged :=
  let events := okPrefix items
  let reason := closingReason items
  ⟨none, .start messageId⟩ :: (eventsTranscript [] events ++
    (if reason.isToolCalls then callsTranscript tools now (allFragments events) else []) ++
    (finishParts reason (lastUsage events)).map (Tagged.mk none))

/-- What a turn sends: the reply's stream, then the annotation that ties the stored user
    message to the reply. -/
def transcript (tools : Registry) (now : Instant) (messageId userMessageId : String)
    (items : List (Except ProviderError ProviderEvent)) : List Tagged :=
  streamTranscript tools now messageId items ++ [⟨none, annotationPart userMessageId messageId⟩]

theorem Delivers.text_bind {k : ReplyM Unit} {r : Reply} {qs : List Part} {Q : Reply → Prop}
    {w : Bool} {text : String}
    (hk : ∀ r', r'.toolStreams = r.toolStreams → Delivers k r' qs Q w) :
    Delivers (if (!text.isEmpty) = true then
        (modify (fun r => { r with text := r.text ++ text }) >>= fun _ =>
          guarded (.text text) >>= fun _ => k)
      else k) r (textPart text ++ qs) Q w := by
  cases ht : text.isEmpty
  · simp only [textPart, ht, Bool.not_false, ↓reduceIte, Bool.false_eq_true]
    refine Delivers.modify_bind rfl rfl rfl (Delivers.guarded_bind (by rfl) fun r' hs => hk r' ?_)
    exact hs.toolStreams
  · simpa [textPart, ht] using hk r rfl

/-- Passing fragments on sends the parts of each in turn and keeps the reply tracking
    them. -/
theorem forwardAll_delivers (ds : List RawToolCallDelta) :
    ∀ {r : Reply} {seen : List RawToolCallDelta}, r.Tracks seen →
      Delivers ((ds.map normalize).forM forwardToolDelta) r
        ((fragmentsTranscript seen ds).map Tagged.part) (·.Tracks (seen ++ ds)) := by
  induction ds with
  | nil =>
    intro r seen ht
    simpa [fragmentsTranscript] using Delivers.pure (r := r) ht
  | cons d rest ih =>
    intro r seen ht
    simp only [List.map_cons, List.forM_eq_forM, List.forM_cons, fragmentsTranscript,
      List.map_append, List.map_map, Tagged.part_comp_mk, List.map_id]
    refine Delivers.bind (forwardToolDelta_delivers ht d) fun r' ht' => ?_
    simpa using ih ht'

theorem dispatch_delivers (tools : Registry) (now : Instant) (call : ToolCall) (r : Reply) :
    Delivers (dispatch tools now call) r (callParts tools now call) fun _ => True := by
  unfold dispatch callParts
  cases hskip : (call.id.isEmpty || call.name.isEmpty)
  · simp only [Bool.or_eq_false_iff] at hskip
    simp only [Bool.false_eq_true, ↓reduceIte]
    refine Delivers.guarded_bind (by simp [Writer.check, hskip.1, hskip.2]) fun r₁ _ => ?_
    refine Delivers.checkCancelled_bind (Delivers.modify_bind rfl rfl rfl ?_)
    exact (guarded_delivers _ (by simp [Writer.check, hskip.1])).mono fun _ _ => trivial
  · simpa [hskip] using Delivers.pure (r := r) (P := fun _ => True) trivial

theorem dispatchAll_delivers (tools : Registry) (now : Instant) (calls : List ToolCall) :
    ∀ r : Reply, Delivers (calls.forM (dispatch tools now)) r
      (calls.flatMap (callParts tools now)) fun _ => True := by
  induction calls with
  | nil =>
    intro r
    simpa using Delivers.pure (r := r) (P := fun _ => True) trivial
  | cons call rest ih =>
    intro r
    simp only [List.forM_eq_forM, List.forM_cons, List.flatMap_cons]
    exact Delivers.bind (dispatch_delivers tools now call r) fun r' _ => ih r'

theorem finish_delivers (reason : FinishReason) (usage : Option Usage) (r : Reply) :
    Delivers (finish reason usage) r (finishParts reason usage) fun _ => True := by
  unfold finish finishParts
  refine Delivers.guarded_bind (by rfl) fun r₁ _ => ?_
  cases hc : reason.isToolCalls
  · simp only [Bool.not_false, ↓reduceIte, Bool.false_eq_true]
    exact Delivers.guarded_bind (by rfl) fun r₂ _ => Delivers.modify_alone rfl rfl rfl trivial
  · simpa using Delivers.modify_alone (r := r₁) (P := fun _ => True) rfl rfl rfl trivial

/-- The chunks of the events, then chunks `cs` whose run sends `tail`, send the events'
    parts, then `tail`. -/
theorem streamChunks_delivers (tools : Registry) (now : Instant) {cs : List Chunk}
    {ending : ChannelEnd} {tail : List Part} {Q : Reply → Prop} {w : Bool}
    (htail : ∀ r, Delivers (streamChunks tools now cs ending) r tail Q w)
    (events : List ProviderEvent) :
    ∀ {r : Reply} {seen : List RawToolCallDelta}, r.Tracks seen →
      Delivers (streamChunks tools now (events.filterMap eventChunk ++ cs) ending) r
        ((eventsTranscript seen events).map Tagged.part ++ tail) Q w := by
  induction events with
  | nil =>
    intro r seen _
    simpa [eventsTranscript] using htail r
  | cons e rest ih =>
    intro r seen ht
    cases he : eventChunk e with
    | none =>
      have hempty : e.text.isEmpty = true ∧ e.toolCalls = [] := by
        unfold eventChunk at he
        split at he
        · simp_all
        · cases he
      simpa [List.filterMap_cons, he, eventsTranscript, textPart, hempty.1, hempty.2,
        fragmentsTranscript] using ih ht
    | some c' =>
      have hc' : c' = { text := e.text, toolCallDeltas := e.toolCalls.map normalize } := by
        unfold eventChunk at he
        split at he
        · cases he
        · exact (Option.some.inj he).symm
      subst hc'
      simp only [List.filterMap_cons, he, List.cons_append, streamChunks, Bool.false_eq_true,
        ↓reduceIte, eventsTranscript, List.map_append, List.map_map, List.append_assoc,
        Tagged.part_comp_mk, List.map_id]
      refine Delivers.checkCancelled_bind (Delivers.text_bind fun r₁ hs₁ => ?_)
      refine Delivers.bind (forwardAll_delivers e.toolCalls (ht.of_toolStreams_eq hs₁))
        fun r₂ ht₂ => ?_
      exact ih ht₂

/-- A terminal chunk without text or fragments sends the parts of its calls, then its
    finish parts. -/
theorem streamChunks_terminal_delivers (tools : Registry) (now : Instant) {c : Chunk}
    (hc : c.text = "") (hd : c.toolCallDeltas = []) (hdone : c.done = true)
    (ending : ChannelEnd) (r : Reply) :
    Delivers (streamChunks tools now [c] ending) r
      (c.completedToolCalls.flatMap (callParts tools now) ++
        finishParts (c.finishReason.getD .unknown) c.usage) fun _ => True := by
  have hce : c.text.isEmpty = true := by rw [hc]; rfl
  simp only [streamChunks, hce, Bool.not_true, Bool.false_eq_true, ↓reduceIte, hd,
    List.forM_eq_forM, List.forM_nil, hdone, pure_bind]
  refine Delivers.checkCancelled_bind ?_
  exact Delivers.bind (dispatchAll_delivers tools now _ r) fun r' _ => finish_delivers _ _ r'

theorem callsTranscript_parts (tools : Registry) (now : Instant)
    (fragments : List RawToolCallDelta) :
    (callsTranscript tools now fragments).map Tagged.part =
      ((positions fragments).map fun i => assemble (fragmentsAt i fragments)).flatMap
        (callParts tools now) := by
  simp [callsTranscript, List.map_flatMap, List.flatMap_map, Function.comp_def]

/-- The terminal chunk of a stream that ended closes the turn with its reason and the last
    usage, and carries the complete calls when the reason is tool calls. -/
theorem closingChunk_eq (items : List (Except ProviderError ProviderEvent)) :
    closingChunk (okPrefix items) (hasFailure items) =
      Chunk.terminal (closingReason items) (lastUsage (okPrefix items))
        ((positions (allFragments (okPrefix items))).map fun i =>
          assemble (fragmentsAt i (allFragments (okPrefix items)))) := by
  unfold closingChunk closingReason
  cases hasFailure items
  · rfl
  · simp [Chunk.terminal, FinishReason.isToolCalls]

/-- A reply whose channel carries the chunks of `events`, then chunks `cs` whose run sends
    `tail`, sends the start part, the parts of the events, then `tail`. -/
theorem streamReply_events_delivers (tools : Registry) (now : Instant) {messageId : String}
    (hid : messageId.isEmpty = false) (events : List ProviderEvent) {cs : List Chunk}
    {ending : ChannelEnd} {tail : List Part} {w : Bool}
    (htail : ∀ r, Delivers (streamChunks tools now cs ending) r tail (fun _ => True) w)
    {r : Reply} (hts : r.toolStreams = []) :
    Delivers (streamReply tools now messageId ⟨events.filterMap eventChunk ++ cs, ending⟩) r
      (.start messageId :: ((eventsTranscript [] events).map Tagged.part ++ tail))
      (fun _ => True) w := by
  unfold streamReply
  refine Delivers.guarded_bind (by simp [Writer.check, hid]) fun r₁ hs₁ => ?_
  exact streamChunks_delivers tools now htail events (tracks_empty r₁ (hs₁.toolStreams.trans hts))

theorem streamReply_delivers (tools : Registry) (now : Instant) {messageId : String}
    (hid : messageId.isEmpty = false) (items : List (Except ProviderError ProviderEvent))
    {r : Reply} (hts : r.toolStreams = []) :
    Delivers (streamReply tools now messageId (accumulate ⟨items, .finished⟩)) r
      ((streamTranscript tools now messageId items).map Tagged.part) fun _ => True := by
  rw [accumulate_finished, closingChunk_eq]
  have hrun := streamReply_events_delivers tools now hid (okPrefix items)
    (streamChunks_terminal_delivers tools now (c := Chunk.terminal (closingReason items)
      (lastUsage (okPrefix items)) ((positions (allFragments (okPrefix items))).map fun i =>
        assemble (fragmentsAt i (allFragments (okPrefix items))))) rfl rfl rfl .closed) hts
  cases hcalls : (closingReason items).isToolCalls <;>
    simpa [streamTranscript, Chunk.terminal, hcalls, callsTranscript_parts] using hrun

theorem check_fragmentParts (before : List RawToolCallDelta) (d : RawToolCallDelta) :
    ∀ p ∈ fragmentParts before d, Writer.check p = none := by
  rw [← ToolStream.partsFor_ofFragments]
  exact ToolStream.check_partsFor (ToolStream.wellFormed_ofFragments before) _

theorem check_textPart (text : String) : ∀ p ∈ textPart text, Writer.check p = none := by
  intro p hp
  unfold textPart at hp
  split at hp
  · cases hp
  · simp only [List.mem_singleton] at hp
    simp [hp, Writer.check]

theorem check_eventsTranscript (seen : List RawToolCallDelta) (events : List ProviderEvent) :
    ∀ p ∈ (eventsTranscript seen events).map Tagged.part, Writer.check p = none := by
  have hfragments : ∀ (ds seen : List RawToolCallDelta),
      ∀ p ∈ (fragmentsTranscript seen ds).map Tagged.part, Writer.check p = none := by
    intro ds
    induction ds with
    | nil => simp [fragmentsTranscript]
    | cons d ds ih =>
      intro seen p hp
      simp only [fragmentsTranscript, List.map_append, List.map_map, Tagged.part_comp_mk,
        List.map_id, List.mem_append] at hp
      rcases hp with hp | hp
      · exact check_fragmentParts _ d p hp
      · exact ih _ p hp
  induction events generalizing seen with
  | nil => simp [eventsTranscript]
  | cons e rest ih =>
    intro p hp
    simp only [eventsTranscript, List.map_append, List.map_map, Tagged.part_comp_mk,
      List.map_id, List.mem_append] at hp
    rcases hp with (hp | hp) | hp
    · exact check_textPart _ p hp
    · exact hfragments _ _ p hp
    · exact ih _ p hp

theorem check_callParts (tools : Registry) (now : Instant) (call : ToolCall) :
    ∀ p ∈ callParts tools now call, Writer.check p = none := by
  intro p hp
  unfold callParts at hp
  split at hp
  · cases hp
  · rename_i hskip
    simp only [Bool.or_eq_true, not_or, Bool.not_eq_true] at hskip
    simp only [List.mem_cons, List.not_mem_nil, or_false] at hp
    rcases hp with rfl | rfl <;> simp [Writer.check, hskip.1, hskip.2]

theorem check_finishParts (reason : FinishReason) (usage : Option Usage) :
    ∀ p ∈ finishParts reason usage, Writer.check p = none := by
  intro p hp
  unfold finishParts at hp
  split at hp <;> simp only [List.mem_cons, List.not_mem_nil, or_false] at hp <;>
    rcases hp with rfl | rfl <;> rfl

/-- Every part of a stream transcript passes the writer's check: none is refused as
    malformed. -/
theorem check_streamTranscript (tools : Registry) (now : Instant) {messageId : String}
    (hid : messageId.isEmpty = false) (items : List (Except ProviderError ProviderEvent)) :
    ∀ p ∈ (streamTranscript tools now messageId items).map Tagged.part,
      Writer.check p = none := by
  intro p hp
  simp only [streamTranscript, List.map_cons, List.map_append, List.map_map,
    Tagged.part_comp_mk, List.map_id, List.mem_cons, List.mem_append] at hp
  rcases hp with rfl | (hp | hp) | hp
  · simp [Writer.check, hid]
  · exact check_eventsTranscript [] _ p hp
  · split at hp
    · rw [callsTranscript_parts] at hp
      obtain ⟨call, -, hcall⟩ := List.mem_flatMap.1 hp
      exact check_callParts tools now call p hcall
    · cases hp
  · exact check_finishParts _ _ p hp

theorem streamReply_emits (tools : Registry) (now : Instant) {messageId : String}
    (hid : messageId.isEmpty = false) (items : List (Except ProviderError ProviderEvent))
    {r : Reply} (hw : r.writer.state = .open) (hts : r.toolStreams = []) :
    Emits (streamReply tools now messageId (accumulate ⟨items, .finished⟩)) r
      ((streamTranscript tools now messageId items).map Tagged.part) fun _ => True :=
  (streamReply_delivers tools now hid items hts).emits hw
    (check_streamTranscript tools now hid items)

/-- A turn whose store works, whose provider starts a stream that ends, on a connection
    that takes every write and flush and never cancels, completes and sends its
    transcript. -/
theorem reply_healthy {s : Service} {sink : Sink} {input : TurnInput} {timer : Bool}
    {items : List (Except ProviderError ProviderEvent)}
    (hsave : s.store.faults.failSaves.contains s.store.saves = false)
    (hread : s.store.faults.failReads.contains s.store.reads = false)
    (hturn : ∀ request, (s.backend.streamTurn request).1 = .ok ⟨items, .finished⟩)
    (hsink : sink.faults.Healthy) (hidle : sink.cancelRequested = false) :
    ∃ outcome, (s.reply sink input ⟨false, timer⟩).1.1 = .finished (.ok outcome) ∧
      (s.reply sink input ⟨false, timer⟩).1.2.received = sink.received ++
        partBytes ((transcript s.tools s.now outcome.messageId outcome.userMessage.id.toText
          items).map Tagged.part) := by
  obtain ⟨userMessage, store₁, history, store₂, backend, hsaved, hrecent, hasked⟩ :=
    s.reaches_stream hsave hread hturn input
  obtain ⟨r₁, hrun₁, hh₁, hrec₁, -⟩ :=
    (streamReply_emits s.tools s.now (Uuid.toText_isEmpty s.ids.random.1) items
      (r := { writer := ⟨{ sink with headers := sink.headers ++ streamHeaders }, .open⟩,
              timer })
      rfl rfl).healthy_run ⟨rfl, hsink, hidle, rfl⟩
  obtain ⟨r₂, hrun₂, hh₂, hrec₂, -⟩ :=
    ((guarded_delivers r₁ (p := annotationPart userMessage.id.toText s.ids.random.1.toText)
      rfl).emits hh₁.writerOpen (by simp [annotationPart, Writer.check])).healthy_run hh₁
  have hfailed : r₁.writer.isFailed = false := by simp [Writer.isFailed, hh₁.writerOpen]
  have hannotate : (annotate userMessage.id.toText s.ids.random.1.toText).exec r₁ = (.ok (), r₂) :=
    (annotate_exec_of_not_failed hfailed _ _).trans hrun₂
  have hrun : s.replyRun sink ⟨false, timer⟩ ⟨items, .finished⟩ = (.ok (), r₁) := hrun₁
  obtain ⟨-, -, hclosed⟩ := reply_of_stream_ok hsaved hrecent hasked hsink.streaming hrun
  rw [hclosed _ _ hannotate (by simp)]
  have hcancel : r₂.isCancelled = false := by
    simp [Reply.isCancelled, hh₂.notCancelled, hh₂.notRequested]
  have hclose := Writer.close_healthy hh₂.writerOpen hh₂.sink
  refine ⟨_, by rw [Reply.closingResult_of_flushed hcancel (by rw [hclose])], ?_⟩
  simp [Reply.closingWriter, hcancel, hclose, hrec₂, hrec₁, transcript, Reply.outcome]

/-- A turn whose store works, whose provider starts a stream that ends, on a connection
    that takes every write and flush and never cancels, completes, and the client is sent
    exactly the transcript: the start part with the reply's id, the parts of every event
    before the first failed item, the complete calls and their results when the turn
    ends in tool calls, the finish parts, then the annotation with the stored user
    message's id. -/
theorem reply_sends_transcript {s : Service} {sink : Sink} {input : TurnInput} {timer : Bool}
    {items : List (Except ProviderError ProviderEvent)}
    (hsave : s.store.faults.failSaves.contains s.store.saves = false)
    (hread : s.store.faults.failReads.contains s.store.reads = false)
    (hturn : ∀ request, (s.backend.streamTurn request).1 = .ok ⟨items, .finished⟩)
    (hsink : sink.faults.Healthy) (hidle : sink.cancelRequested = false) :
    ∃ outcome, (s.reply sink input ⟨false, timer⟩).1.1 = .finished (.ok outcome) ∧
      (s.reply sink input ⟨false, timer⟩).1.2.received = sink.received ++
        partBytes ((transcript s.tools s.now outcome.messageId outcome.userMessage.id.toText
          items).map Tagged.part) :=
  reply_healthy hsave hread hturn hsink hidle

/-- A healthy turn with the scripted provider's fallback stream. -/
theorem reply_sends_transcript_fallback :
    ∃ outcome, (({ backend := .scripted {} } : Service).reply {} default ⟨false, false⟩).1.1 =
        .finished (.ok outcome) ∧
      (({ backend := .scripted {} } : Service).reply {} default ⟨false, false⟩).1.2.received =
        ([] : List UInt8) ++ partBytes ((transcript {} ⟨0, 0⟩ outcome.messageId
          outcome.userMessage.id.toText Mock.fallback.items).map Tagged.part) :=
  reply_sends_transcript (s := { backend := .scripted {} }) rfl rfl
    (fun _ => rfl) Faults.healthy_default rfl

end ChatWire.Turn
