import ChatWire.Proofs.Truncation

open ChatWire.Wire ChatWire.Stream ChatWire.Tool

namespace ChatWire.Turn

/-- The views after a fragment: the view of its position advances, the others stay. -/
def forwardView (v : Nat → ToolStream) (d : ToolCallDelta) : Nat → ToolStream :=
  fun i => if i = d.index then (v d.index).advance d else v i

/-- Views of which every one is well formed. -/
def SoundViews (v : Nat → ToolStream) : Prop := ∀ i, (v i).WellFormed

theorem soundViews_of_toolStreams_nil {r : Reply} (h : r.toolStreams = []) :
    SoundViews r.toolStream := by
  intro i hstarted
  simp [Reply.toolStream, h] at hstarted

theorem forwardView_sound {v : Nat → ToolStream} (h : SoundViews v) (d : ToolCallDelta) :
    SoundViews (forwardView v d) := by
  intro i
  unfold forwardView
  split
  · exact ToolStream.advance_wellFormed (h d.index) d
  · exact h i

theorem foldl_forwardView_sound (ds : List ToolCallDelta) :
    ∀ {v : Nat → ToolStream}, SoundViews v → SoundViews (ds.foldl forwardView v) := by
  induction ds with
  | nil => exact fun h => h
  | cons d ds ih => exact fun h => ih (forwardView_sound h d)

theorem toolStream_setToolStream_advance (r : Reply) (d : ToolCallDelta) :
    (r.setToolStream d.index ((r.toolStream d.index).advance d)).toolStream =
      forwardView r.toolStream d := by
  funext i
  rw [toolStream_setToolStream]
  rfl

/-- The parts fragments send, each from the views the fragments before it left. -/
def deltasParts : (Nat → ToolStream) → List ToolCallDelta → List Part
  | _, [] => []
  | v, d :: ds => (v d.index).partsFor d ++ deltasParts (forwardView v d) ds

/-- The parts a reply sends for chunks, from the views before them: each chunk's text and
    the parts of its fragments; at the terminal chunk its complete calls with their results
    and its finish parts; and when the channel closes without one, the finish parts of
    `error`. -/
def chunksParts (tools : Registry) (now : Instant) :
    (Nat → ToolStream) → List Chunk → ChannelEnd → List Part
  | _, [], .closed => finishParts .error none
  | _, [], .blocked => []
  | v, c :: rest, ending => textPart c.text ++ deltasParts v c.toolCallDeltas ++
      if c.done then
        c.completedToolCalls.flatMap (callParts tools now) ++
          finishParts (c.finishReason.getD .unknown) c.usage
      else chunksParts tools now (c.toolCallDeltas.foldl forwardView v) rest ending

/-- Whether a reply waits forever after the chunks: none is terminal and the channel never
    yields again. -/
def chunksWait (cs : List Chunk) (ending : ChannelEnd) : Bool :=
  !cs.any (·.done) && ending == .blocked

/-- Passing a fragment on from a well-formed view sends the parts `partsFor` gives and
    advances the view of its position. -/
theorem forwardToolDelta_delivers_view (r : Reply) (d : ToolCallDelta)
    (h : (r.toolStream d.index).WellFormed) :
    Delivers (forwardToolDelta d) r ((r.toolStream d.index).partsFor d)
      (fun r' => r'.toolStream = forwardView r.toolStream d) := by
  rw [forwardToolDelta_eq]
  refine Delivers.get_bind (Delivers.putToolStream_bind ?_)
  refine (forM_guarded_delivers (ToolStream.check_partsFor h d) _).mono fun r' h' => ?_
  rw [Reply.toolStream_congr h'.toolStreams, toolStream_setToolStream_advance]

theorem forwardAll_delivers_views (ds : List ToolCallDelta) :
    ∀ r : Reply, SoundViews r.toolStream →
      Delivers (ds.forM forwardToolDelta) r (deltasParts r.toolStream ds)
        (fun r' => r'.toolStream = ds.foldl forwardView r.toolStream) := by
  induction ds with
  | nil =>
    intro r _
    simpa [deltasParts] using
      Delivers.pure (r := r) (P := fun r' => r'.toolStream = r.toolStream) rfl
  | cons d ds ih =>
    intro r hv
    simp only [List.forM_eq_forM, List.forM_cons, deltasParts, List.foldl_cons]
    refine Delivers.bind (forwardToolDelta_delivers_view r d (hv d.index)) fun r₁ h₁ => ?_
    have hrest := ih r₁ (h₁ ▸ forwardView_sound hv d)
    rw [h₁] at hrest
    simpa using hrest

/-- From sound views, a reply's chunks send `chunksParts`, and the reply waits after them
    exactly when `chunksWait` says. -/
theorem streamChunks_delivers_views (tools : Registry) (now : Instant) (ending : ChannelEnd) :
    ∀ (cs : List Chunk) (r : Reply), SoundViews r.toolStream →
      Delivers (streamChunks tools now cs ending) r (chunksParts tools now r.toolStream cs ending)
        (fun _ => True) (chunksWait cs ending) := by
  intro cs
  induction cs with
  | nil =>
    intro r _
    cases ending with
    | closed => exact streamChunks_closed_delivers tools now r
    | blocked => exact streamChunks_blocked_delivers tools now r
  | cons c rest ih =>
    intro r hv
    simp only [streamChunks, chunksParts, List.append_assoc]
    refine Delivers.checkCancelled_bind (Delivers.text_bind fun r₁ h₁ => ?_)
    have hv₁ : r₁.toolStream = r.toolStream := Reply.toolStream_congr h₁
    rw [← hv₁]
    refine Delivers.bind (forwardAll_delivers_views c.toolCallDeltas r₁ (hv₁ ▸ hv))
      fun r₂ h₂ => ?_
    cases hdone : c.done with
    | true =>
      have hwait : chunksWait (c :: rest) ending = false := by simp [chunksWait, hdone]
      simp only [↓reduceIte, hwait]
      exact Delivers.bind (dispatchAll_delivers tools now _ r₂) fun r₃ _ => finish_delivers _ _ r₃
    | false =>
      have hwait : chunksWait (c :: rest) ending = chunksWait rest ending := by
        simp [chunksWait, hdone]
      simp only [Bool.false_eq_true, ↓reduceIte, hwait, ← h₂]
      exact ih r₂ (h₂ ▸ foldl_forwardView_sound _ (hv₁ ▸ hv))

/-- A reply sends the start part, then the parts of its chunks from the views it starts
    with. -/
theorem streamReply_delivers_views (tools : Registry) (now : Instant) {messageId : String}
    (hid : messageId.isEmpty = false) (chunks : Chunks) {r : Reply}
    (hv : SoundViews r.toolStream) :
    Delivers (streamReply tools now messageId chunks) r
      (.start messageId :: chunksParts tools now r.toolStream chunks.chunks chunks.ending)
      (fun _ => True) (chunksWait chunks.chunks chunks.ending) := by
  refine Delivers.guarded_bind (by simp [Writer.check, hid]) fun r₁ hs₁ => ?_
  have hv₁ : r₁.toolStream = r.toolStream := Reply.toolStream_congr hs₁.toolStreams
  rw [← hv₁]
  exact streamChunks_delivers_views tools now _ _ r₁ (hv₁ ▸ hv)

/-- A step that leaves the views of the tool calls alone, however it ends. -/
def KeepsToolStreams {α : Type} (m : ReplyM α) : Prop :=
  ∀ r, (m.exec r).2.toolStreams = r.toolStreams

namespace KeepsToolStreams

variable {α β : Type} {m : ReplyM α} {k : α → ReplyM β}

theorem pure (a : α) : KeepsToolStreams (Pure.pure a : ReplyM α) := fun _ => rfl

theorem bind (hm : KeepsToolStreams m) (hk : ∀ a, KeepsToolStreams (k a)) :
    KeepsToolStreams (m >>= k) := by
  intro r
  rw [ReplyM.exec_bind]
  rcases hrun : m.exec r with ⟨_ | a, r₁⟩
  · simpa [hrun] using hm r
  · dsimp only
    rw [hk a r₁]
    simpa [hrun] using hm r

theorem ite {c : Prop} [Decidable c] {m₁ m₂ : ReplyM α} (h₁ : KeepsToolStreams m₁)
    (h₂ : KeepsToolStreams m₂) : KeepsToolStreams (if c then m₁ else m₂) := by
  split
  · exact h₁
  · exact h₂

theorem modify {f : Reply → Reply} (hf : ∀ r, (f r).toolStreams = r.toolStreams) :
    KeepsToolStreams (modify f : ReplyM Unit) := hf

theorem forM {l : List β} {f : β → ReplyM Unit} (h : ∀ b, KeepsToolStreams (f b)) :
    KeepsToolStreams (l.forM f) := by
  induction l with
  | nil => exact pure ()
  | cons b rest ih =>
    simp only [List.forM_eq_forM, List.forM_cons]
    exact (h b).bind fun _ => ih

end KeepsToolStreams

theorem checkCancelled_keepsToolStreams : KeepsToolStreams checkCancelled := by
  intro r
  cases hcan : r.isCancelled
  · rw [checkCancelled_exec_of_live hcan]
  · rw [checkCancelled_exec_of_fired hcan]

theorem block_keepsToolStreams : KeepsToolStreams block := by
  intro r
  rw [block_exec]

theorem guarded_keepsToolStreams (p : Part) : KeepsToolStreams (guarded p) := by
  intro r
  cases hcan : r.isCancelled
  · rcases hs : r.writer.send p with ⟨_ | _, w⟩ | w
    · rename_i e
      cases hf : e.isFatal
      · rw [guarded_exec_of_skipped hcan hs hf]
      · rw [guarded_exec_of_failed hcan hs hf]
    · rw [guarded_exec_of_sent hcan hs]
    · rw [guarded_exec_of_stalled hcan hs, block_keepsToolStreams]
  · rw [guarded_exec_of_fired hcan]

theorem dispatch_keepsToolStreams (tools : Registry) (now : Instant) (call : ToolCall) :
    KeepsToolStreams (dispatch tools now call) := by
  unfold dispatch
  refine KeepsToolStreams.ite (KeepsToolStreams.pure ()) ?_
  refine (guarded_keepsToolStreams _).bind fun _ =>
    checkCancelled_keepsToolStreams.bind fun _ => ?_
  refine (KeepsToolStreams.modify ?_).bind fun _ => guarded_keepsToolStreams _
  exact fun _ => rfl

theorem finish_keepsToolStreams (reason : FinishReason) (usage : Option Usage) :
    KeepsToolStreams (finish reason usage) := by
  unfold finish
  refine (guarded_keepsToolStreams _).bind fun _ => ?_
  have hrecord : ∀ _ : Unit, KeepsToolStreams (modify fun r =>
      { r with finishReason := some reason, usage := usage } : ReplyM Unit) :=
    fun _ => KeepsToolStreams.modify fun _ => rfl
  dsimp only
  exact KeepsToolStreams.ite ((guarded_keepsToolStreams _).bind hrecord) (hrecord ())

theorem putToolStream_bind_toolStreams {i : Nat} {s : ToolStream} {k : Unit → ReplyM Unit}
    (hk : ∀ a, KeepsToolStreams (k a)) (r : Reply) :
    ((putToolStream i s >>= k).exec r).2.toolStreams = (r.setToolStream i s).toolStreams :=
  hk () (r.setToolStream i s)

/-- However passing a fragment on ends, the view of its position has advanced: the view is
    recorded before anything is written. -/
theorem forwardToolDelta_toolStreams (d : ToolCallDelta) (r : Reply) :
    ((forwardToolDelta d).exec r).2.toolStreams =
      (r.setToolStream d.index ((r.toolStream d.index).advance d)).toolStreams := by
  rw [forwardToolDelta_eq]
  simp only [ReplyM.exec_bind, ReplyM.exec_get]
  exact putToolStream_bind_toolStreams (fun _ => KeepsToolStreams.forM guarded_keepsToolStreams) r

/-- A step keeps every view of a tool call well formed and lets it only grow, however it
    ends. -/
def KeepsViews {α : Type} (m : ReplyM α) : Prop :=
  ∀ r, SoundViews r.toolStream →
    SoundViews (m.exec r).2.toolStream ∧ ∀ i, (r.toolStream i).Grows ((m.exec r).2.toolStream i)

namespace KeepsViews

variable {α β : Type} {m : ReplyM α} {k : α → ReplyM β}

theorem of_keepsToolStreams (h : KeepsToolStreams m) : KeepsViews m := by
  intro r hv
  rw [Reply.toolStream_congr (h r)]
  exact ⟨hv, fun i => ToolStream.Grows.refl _⟩

theorem bind (hm : KeepsViews m) (hk : ∀ a, KeepsViews (k a)) : KeepsViews (m >>= k) := by
  intro r hv
  obtain ⟨hv₁, hg₁⟩ := hm r hv
  rw [ReplyM.exec_bind]
  rcases hrun : m.exec r with ⟨_ | a, r₁⟩
  · rw [hrun] at hv₁ hg₁
    exact ⟨hv₁, hg₁⟩
  · rw [hrun] at hv₁ hg₁
    obtain ⟨hv₂, hg₂⟩ := hk a r₁ hv₁
    exact ⟨hv₂, fun i => (hg₁ i).trans (hg₂ i)⟩

theorem ite {c : Prop} [Decidable c] {m₁ m₂ : ReplyM α} (h₁ : KeepsViews m₁)
    (h₂ : KeepsViews m₂) : KeepsViews (if c then m₁ else m₂) := by
  split
  · exact h₁
  · exact h₂

theorem forM {l : List β} {f : β → ReplyM Unit} (h : ∀ b, KeepsViews (f b)) :
    KeepsViews (l.forM f) := by
  induction l with
  | nil => exact of_keepsToolStreams (KeepsToolStreams.pure ())
  | cons b rest ih =>
    simp only [List.forM_eq_forM, List.forM_cons]
    exact (h b).bind fun _ => ih

end KeepsViews

theorem forwardToolDelta_keepsViews (d : ToolCallDelta) : KeepsViews (forwardToolDelta d) := by
  intro r hv
  rw [Reply.toolStream_congr (forwardToolDelta_toolStreams d r), toolStream_setToolStream_advance]
  refine ⟨forwardView_sound hv d, fun i => ?_⟩
  unfold forwardView
  split
  · rename_i hi
    subst hi
    exact ToolStream.advance_grows _ d
  · exact ToolStream.Grows.refl _

theorem streamChunks_keepsViews (tools : Registry) (now : Instant) (cs : List Chunk)
    (ending : ChannelEnd) : KeepsViews (streamChunks tools now cs ending) := by
  induction cs with
  | nil =>
    cases ending with
    | closed => exact .of_keepsToolStreams (checkCancelled_keepsToolStreams.bind fun _ =>
        finish_keepsToolStreams _ _)
    | blocked => exact .of_keepsToolStreams (checkCancelled_keepsToolStreams.bind fun _ =>
        block_keepsToolStreams)
  | cons c rest ih =>
    simp only [streamChunks]
    refine (KeepsViews.of_keepsToolStreams checkCancelled_keepsToolStreams).bind fun _ => ?_
    have hrest : KeepsViews (c.toolCallDeltas.forM forwardToolDelta >>= fun _ =>
        if c.done = true then
          c.completedToolCalls.forM (dispatch tools now) >>= fun _ =>
            finish (c.finishReason.getD .unknown) c.usage
        else streamChunks tools now rest ending) := by
      refine (KeepsViews.forM forwardToolDelta_keepsViews).bind fun _ => KeepsViews.ite ?_ ih
      exact .of_keepsToolStreams ((KeepsToolStreams.forM (dispatch_keepsToolStreams tools now)).bind
        fun _ => finish_keepsToolStreams _ _)
    refine KeepsViews.ite (KeepsViews.bind (.of_keepsToolStreams (KeepsToolStreams.modify ?_))
      fun _ => (KeepsViews.of_keepsToolStreams (guarded_keepsToolStreams _)).bind fun _ => hrest)
      hrest
    exact fun _ => rfl

theorem streamReply_keepsViews (tools : Registry) (now : Instant) (messageId : String)
    (chunks : Chunks) : KeepsViews (streamReply tools now messageId chunks) :=
  (KeepsViews.of_keepsToolStreams (guarded_keepsToolStreams _)).bind fun _ =>
    streamChunks_keepsViews tools now _ _

theorem check_deltasParts (ds : List ToolCallDelta) :
    ∀ {v : Nat → ToolStream}, SoundViews v → ∀ p ∈ deltasParts v ds, Writer.check p = none := by
  induction ds with
  | nil => simp [deltasParts]
  | cons d ds ih =>
    intro v hv p hp
    simp only [deltasParts, List.mem_append] at hp
    rcases hp with hp | hp
    · exact ToolStream.check_partsFor (hv d.index) d p hp
    · exact ih (forwardView_sound hv d) p hp

theorem check_chunksParts (tools : Registry) (now : Instant) (ending : ChannelEnd)
    (cs : List Chunk) :
    ∀ {v : Nat → ToolStream}, SoundViews v →
      ∀ p ∈ chunksParts tools now v cs ending, Writer.check p = none := by
  induction cs with
  | nil =>
    intro v _
    cases ending with
    | closed => exact check_finishParts .error none
    | blocked => simp [chunksParts]
  | cons c rest ih =>
    intro v hv p hp
    simp only [chunksParts, List.mem_append] at hp
    rcases hp with (hp | hp) | hp
    · exact check_textPart _ p hp
    · exact check_deltasParts _ hv p hp
    · split at hp
      · simp only [List.mem_append, List.mem_flatMap] at hp
        rcases hp with ⟨call, -, hp⟩ | hp
        · exact check_callParts tools now call p hp
        · exact check_finishParts _ _ p hp
      · exact ih (foldl_forwardView_sound _ hv) p hp

end ChatWire.Turn

namespace ChatWire.Wire.Writer

theorem deliver_failed_isFatal {ps : List Part} (hps : ∀ p ∈ ps, check p = none) :
    ∀ {w : Writer} {fired : Bool} {e : StreamError}, (w.deliver fired ps).1 = .failed e →
      e.isFatal = true := by
  induction ps with
  | nil => simp
  | cons p ps ih =>
    intro w fired e h
    unfold deliver at h
    split at h
    · cases h
    · rcases hs : w.send p with ⟨_ | _, w'⟩ | w'
      · simp only [hs] at h
        cases h
        exact send_error_isFatal (hps p List.mem_cons_self) hs
      · simp only [hs] at h
        exact ih (fun q hq => hps q (List.mem_cons_of_mem _ hq)) h
      · simp [hs] at h

end ChatWire.Wire.Writer

namespace ChatWire.Turn

theorem Delivers.halts_of_failed {m : ReplyM Unit} {r : Reply} {ps : List Part}
    {P : Reply → Prop} {w : Bool} (hm : Delivers m r ps P w) {e : StreamError}
    (he : (r.writer.deliver r.cancelled ps).1 = .failed e) :
    (m.exec r).1 = .error (.failed (.stream e)) := by
  rcases hrun : (m.exec r).1 with h | _
  · have hh := hm.halt h hrun
    rw [he] at hh
    exact congrArg _ hh
  · have hdelivered := (hm.ok hrun).1
    rw [he] at hdelivered
    cases hdelivered

/-- A reply started with a non-empty message id from sound views, whatever its chunks, hands
    the writer only parts that pass its check, so the writer never refuses one as malformed,
    whatever state it is in; it sends them as `Writer.deliver` does, so each refusal it sees
    ends it with that error, which is one that ends a turn. Every run of the reply keeps the
    views of the tool calls well formed and lets them only grow. An argument delta goes out
    only for a started call, under its id, and a complete call without an id or a name is
    skipped. -/
theorem streamReply_sends_checked_parts (tools : Registry) (now : Instant) {messageId : String}
    (hid : messageId.isEmpty = false) (chunks : Chunks) {r : Reply}
    (hv : SoundViews r.toolStream) :
    let parts := .start messageId :: chunksParts tools now r.toolStream chunks.chunks chunks.ending
    (∀ p ∈ parts, Writer.check p = none) ∧
    (∀ p ∈ parts, ∀ (w w' : Writer) (e : StreamError), w.send p = .done (.error e) w' →
      e.isFatal = true) ∧
    Delivers (streamReply tools now messageId chunks) r parts (fun _ => True)
      (chunksWait chunks.chunks chunks.ending) ∧
    (∀ e, (r.writer.deliver r.cancelled parts).1 = .failed e →
      ((streamReply tools now messageId chunks).exec r).1 = .error (.failed (.stream e)) ∧
        e.isFatal = true) ∧
    KeepsViews (streamReply tools now messageId chunks) ∧
    (∀ (s : ToolStream) (d : ToolCallDelta) (id text : String), s.WellFormed →
      .toolCallArgDelta id text ∈ s.partsFor d →
        (s.advance d).started = true ∧ id = (s.advance d).id ∧ id.isEmpty = false) ∧
    (∀ call : ToolCall, (call.id.isEmpty || call.name.isEmpty) = true →
      ∀ r' : Reply, (dispatch tools now call).exec r' = (.ok (), r')) := by
  intro parts
  have hchecked : ∀ p ∈ parts, Writer.check p = none := by
    intro p hp
    rcases List.mem_cons.1 hp with rfl | hp
    · simp [Writer.check, hid]
    · exact check_chunksParts tools now _ _ hv p hp
  have hD := streamReply_delivers_views tools now hid chunks hv
  refine ⟨hchecked, fun p hp _ _ _ hs => Writer.send_error_isFatal (hchecked p hp) hs, hD,
    fun e he => ⟨hD.halts_of_failed he, Writer.deliver_failed_isFatal hchecked he⟩,
    streamReply_keepsViews tools now messageId chunks,
    fun s d id text hs hp => ToolStream.argDelta_of_mem_partsFor hs hp, fun call hskip r' => ?_⟩
  simp [dispatch, hskip]

/-- Chunks whose first fragment offers an empty id and whose second gives the id: the call
    starts at the second. -/
def emptyIdChunks : Chunks :=
  ⟨[{ toolCallDeltas := [⟨0, some "", some "clock", "\x7b"⟩, ⟨0, some "call-1", none, "\x7d"⟩] },
    { done := true }], .closed⟩

theorem streamReply_sends_checked_parts_empty_id :
    (("m" : String).isEmpty = false ∧
      SoundViews ({ writer := { sink := {} } } : Reply).toolStream) ∧
    (∀ p ∈ Part.start "m" :: chunksParts {} ⟨0, 0⟩
        ({ writer := { sink := {} } } : Reply).toolStream emptyIdChunks.chunks emptyIdChunks.ending,
      Writer.check p = none) ∧
    (∀ p ∈ Part.start "m" :: chunksParts {} ⟨0, 0⟩
        ({ writer := { sink := {} } } : Reply).toolStream emptyIdChunks.chunks emptyIdChunks.ending,
      ∀ (w w' : Writer) (e : StreamError), w.send p = .done (.error e) w' → e.isFatal = true) ∧
    Delivers (streamReply {} ⟨0, 0⟩ "m" emptyIdChunks) { writer := { sink := {} } }
      (.start "m" :: chunksParts {} ⟨0, 0⟩ ({ writer := { sink := {} } } : Reply).toolStream
        emptyIdChunks.chunks emptyIdChunks.ending) (fun _ => True)
      (chunksWait emptyIdChunks.chunks emptyIdChunks.ending) ∧
    (∀ e, (({ writer := { sink := {} } } : Reply).writer.deliver false
        (.start "m" :: chunksParts {} ⟨0, 0⟩ ({ writer := { sink := {} } } : Reply).toolStream
          emptyIdChunks.chunks emptyIdChunks.ending)).1 = .failed e →
      ((streamReply {} ⟨0, 0⟩ "m" emptyIdChunks).exec { writer := { sink := {} } }).1 =
        .error (.failed (.stream e)) ∧ e.isFatal = true) ∧
    KeepsViews (streamReply {} ⟨0, 0⟩ "m" emptyIdChunks) ∧
    (∀ (s : ToolStream) (d : ToolCallDelta) (id text : String), s.WellFormed →
      .toolCallArgDelta id text ∈ s.partsFor d →
        (s.advance d).started = true ∧ id = (s.advance d).id ∧ id.isEmpty = false) ∧
    (∀ call : ToolCall, (call.id.isEmpty || call.name.isEmpty) = true →
      ∀ r' : Reply, (dispatch {} ⟨0, 0⟩ call).exec r' = (.ok (), r')) :=
  ⟨⟨rfl, soundViews_of_toolStreams_nil rfl⟩,
    streamReply_sends_checked_parts {} ⟨0, 0⟩ (show ("m" : String).isEmpty = false from rfl)
      emptyIdChunks (soundViews_of_toolStreams_nil rfl)⟩

end ChatWire.Turn
