import ChatWire.Proofs.Truncation
import ChatWire.Proofs.Framing
import ChatWire.Proofs.Pipe

open ChatWire.Wire ChatWire.Stream ChatWire.Tool ChatWire.Provider ChatWire.Text ChatWire.History

namespace ChatWire.Turn

/-- The text of chunks, in order. -/
def chunkText (cs : List Chunk) : String :=
  String.join (cs.map (·.text))

/-- The text parts show a client: the texts of the text parts among them, in order. -/
def shownText : List Part → String
  | [] => ""
  | .text t :: ps => t ++ shownText ps
  | _ :: ps => shownText ps

/-- Bytes `after` are bytes `before`, then the whole lines of parts `ps`, then `b`, which is
    nothing or a proper prefix of one more line. -/
def Appended (before after : List UInt8) (ps : List Part) (b : List UInt8) : Prop :=
  after = before ++ partBytes ps ++ b ∧ (b = [] ∨ ∃ p : Part, b <+: utf8 p.line ∧ b ≠ utf8 p.line)

/-- What writing part `p` left on a connection: its whole line, or a proper prefix of it. -/
def Wrote (p : Part) (ps : List Part) (b : List UInt8) : Prop :=
  ps = [p] ∧ b = [] ∨ ps = [] ∧ b <+: utf8 p.line ∧ b ≠ utf8 p.line

/-- The usage a reply that went through records: that of its terminal chunk, the last chunk
    it took, and none when the channel closed without one. -/
def closingUsage (taken : List Chunk) : Option Usage :=
  match taken.getLast? with
  | some c => if c.done then c.usage else none
  | none => none

@[simp] theorem chunkText_nil : chunkText [] = "" := rfl

@[simp] theorem chunkText_cons (c : Chunk) (cs : List Chunk) :
    chunkText (c :: cs) = c.text ++ chunkText cs := by
  simp [chunkText, String.join_cons]

@[simp] theorem chunkText_append (cs ds : List Chunk) :
    chunkText (cs ++ ds) = chunkText cs ++ chunkText ds := by
  simp [chunkText, String.join_append]

@[simp] theorem shownText_nil : shownText [] = "" := rfl

theorem shownText_append (ps qs : List Part) :
    shownText (ps ++ qs) = shownText ps ++ shownText qs := by
  induction ps with
  | nil => simp
  | cons p ps ih => cases p <;> simp [shownText, ih, String.append_assoc]

/-- The text a client reads off one line: the payload of a text line, read as a string, and
    nothing from any other line. -/
def lineText (line : String) : String :=
  match line.toList with
  | '0' :: ':' :: payload =>
    match Json.parse (String.ofList payload) with
    | .ok (.string t) => t
    | _ => ""
  | _ => ""

/-- The text a client reads off lines, in order. -/
def readText (lines : List String) : String :=
  String.join (lines.map lineText)

theorem lineText_part (p : Part) :
    lineText (p.kind.tag ++ ":" ++ p.payload.render) = shownText [p] := by
  cases p with
  | text t =>
    have hline : (PartKind.text.tag ++ ":" ++ (Part.text t).payload.render).toList =
        '0' :: ':' :: (Part.text t).payload.render.toList := by
      simp [PartKind.tag, String.toList_append]
    simp only [Part.kind, lineText, hline, String.ofList_toList, parse_text_payload, shownText]
    simp
  | _ => simp [lineText, Part.kind, PartKind.tag, shownText]

theorem readText_lines (ps : List Part) :
    readText ({ received := partBytes ps } : Sink).lines = shownText ps := by
  rw [Sink.lines_partBytes rfl]
  induction ps with
  | nil => rfl
  | cons p ps ih =>
    rw [List.map_cons, readText, List.map_cons, String.join_cons, lineText_part]
    rw [readText] at ih
    rw [ih, ← shownText_append]
    rfl

theorem utf8_line_ne_nil (p : Part) : utf8 p.line ≠ [] := by
  simp [utf8, Part.line_toList]

theorem Appended.nil (before : List UInt8) : Appended before before [] [] :=
  ⟨by simp, .inl rfl⟩

theorem Appended.wrote {before mid after : List UInt8} {ps qs : List Part} {p : Part}
    {b : List UInt8} (h₁ : Appended before mid ps []) (h₂ : after = mid ++ partBytes qs ++ b)
    (hw : Wrote p qs b) : Appended before after (ps ++ qs) b := by
  refine ⟨by rw [h₂, h₁.1]; simp, ?_⟩
  rcases hw with ⟨-, rfl⟩ | ⟨-, hb, hne⟩
  · exact .inl rfl
  · exact .inr ⟨p, hb, hne⟩

theorem Appended.single {before after : List UInt8} {ps : List Part} {p : Part}
    {b : List UInt8} (h : after = before ++ partBytes ps ++ b) (hw : Wrote p ps b) :
    Appended before after ps b := by
  simpa using Appended.wrote (Appended.nil before) h hw

theorem Appended.trans {before mid after : List UInt8} {ps qs : List Part} {b : List UInt8}
    (h₁ : Appended before mid ps []) (h₂ : Appended mid after qs b) :
    Appended before after (ps ++ qs) b :=
  ⟨by rw [h₂.1, h₁.1]; simp, h₂.2⟩

theorem closingUsage_cons {c : Chunk} (hc : c.done = false) (cs : List Chunk) :
    closingUsage (c :: cs) = closingUsage cs := by
  cases cs with
  | nil => simp [closingUsage, hc]
  | cons d ds => simp [closingUsage, List.getLast?_cons_cons]

/-- A part that passes the check and is refused all the same was refused for good: the
    writer was not open, or its transport failed. -/
theorem send_refused_fatal {w w' : Writer} {p : Part} {e : StreamError}
    (h : w.send p = .done (.error e) w') (hfatal : e.isFatal = false) :
    w' = w ∧ Writer.check p ≠ none := by
  cases hc : Writer.check p with
  | none => simp [Writer.send_error_isFatal hc h] at hfatal
  | some e' =>
    rw [Writer.send_refused hc] at h
    cases h
    exact ⟨rfl, by simp⟩

/-- Writing a part under the token changes only the writer, and the cancellation flag when the
    timer cut a write that never completes short. It leaves the part's whole line or a proper
    prefix of it; when it goes through it left the whole line of a part that passes the check,
    and nothing of one that does not. -/
theorem guarded_wrote (r : Reply) (p : Part) :
    ((guarded p).exec r).2.text = r.text ∧ ((guarded p).exec r).2.usage = r.usage ∧
      ∃ ps b, ((guarded p).exec r).2.writer.sink.received =
          r.writer.sink.received ++ partBytes ps ++ b ∧ Wrote p ps b ∧
        (((guarded p).exec r).1 = .ok () → b = [] ∧ (Writer.check p = none → ps = [p])) := by
  have hline := (utf8_line_ne_nil p).symm
  by_cases hcan : r.isCancelled = true
  · rw [guarded_exec_of_fired hcan]
    exact ⟨rfl, rfl, [], [], by simp, .inr ⟨rfl, List.nil_prefix, hline⟩, by simp⟩
  have hcan' : r.isCancelled = false := by simpa using hcan
  rcases Writer.send_outcome r.writer p with ⟨s, hsend, hs, -⟩ | ⟨hnot, b, hb, hpre⟩
  · rw [guarded_exec_of_sent hcan' hsend]
    exact ⟨rfl, rfl, [p], [], by simp [hs], .inl ⟨rfl, rfl⟩, fun _ => ⟨rfl, fun _ => rfl⟩⟩
  have hwrote : ∃ ps b',
      r.writer.sink.received ++ b = r.writer.sink.received ++ partBytes ps ++ b' ∧
      Wrote p ps b' := by
    by_cases hfull : b = utf8 p.line
    · exact ⟨[p], [], by simp [hfull], .inl ⟨rfl, rfl⟩⟩
    · exact ⟨[], b, by simp, .inr ⟨rfl, hpre, hfull⟩⟩
  obtain ⟨ps, b', hbytes, hw⟩ := hwrote
  rcases hsend : r.writer.send p with ⟨_ | _, w⟩ | w
  · rename_i e
    have hw' : w.sink.received = r.writer.sink.received ++ b := by
      simpa [hsend, Sent.writer] using hb
    cases hfatal : e.isFatal
    · obtain ⟨rfl, hc⟩ := send_refused_fatal hsend hfatal
      rw [guarded_exec_of_skipped hcan' hsend hfatal]
      refine ⟨rfl, rfl, [], [], by simp, .inr ⟨rfl, List.nil_prefix, hline⟩, fun _ => ⟨rfl, ?_⟩⟩
      exact fun h => absurd h hc
    · rw [guarded_exec_of_failed hcan' hsend hfatal]
      exact ⟨rfl, rfl, ps, b', by rw [← hbytes, hw'], hw, by simp⟩
  · exact absurd hsend (hnot w)
  · have hw' : w.sink.received = r.writer.sink.received ++ b := by
      simpa [hsend, Sent.writer] using hb
    rw [guarded_exec_of_stalled hcan' hsend, block_exec]
    exact ⟨rfl, rfl, ps, b', by rw [← hbytes, hw'], hw, by simp⟩

/-- Run from `r`, the step leaves the reply's text and usage as they were, and the connection
    gets whole lines of parts that show no text, then, only if the step halted, part of one
    more line. -/
structure Quiet (m : ReplyM Unit) (r : Reply) : Prop where
  text : (m.exec r).2.text = r.text
  usage : (m.exec r).2.usage = r.usage
  lines : ∃ ps b, Appended r.writer.sink.received (m.exec r).2.writer.sink.received ps b ∧
    shownText ps = "" ∧ ((m.exec r).1 = .ok () → b = [])

namespace Quiet

variable {m k : ReplyM Unit} {r : Reply}

theorem pure (r : Reply) : Quiet (Pure.pure ()) r :=
  ⟨rfl, rfl, [], [], Appended.nil _, rfl, fun _ => rfl⟩

theorem of_halt {h : Halt} {r' : Reply} (hrun : m.exec r = (.error h, r'))
    (ht : r'.text = r.text) (hu : r'.usage = r.usage) (hw : r'.writer = r.writer) :
    Quiet m r := by
  refine ⟨by rw [hrun]; exact ht, by rw [hrun]; exact hu, [], [], ?_, rfl, by rw [hrun]; simp⟩
  rw [hrun, hw]
  exact Appended.nil _

theorem of_exec_eq {m' : ReplyM Unit} (he : m.exec r = m'.exec r) (h : Quiet m' r) : Quiet m r := by
  obtain ⟨ht, hu, hl⟩ := h
  exact ⟨he ▸ ht, he ▸ hu, he ▸ hl⟩

/-- Two quiet steps in sequence are quiet: the lines of the second follow those of the first,
    which went through and so left no part of a line. -/
theorem bind {k : Unit → ReplyM Unit} (hm : Quiet m r) (hk : ∀ r', Quiet (k ()) r') :
    Quiet (m >>= k) r := by
  obtain ⟨ht, hu, ps, b, happ, hshown, hok⟩ := hm
  rcases hrun : m.exec r with ⟨_ | _, r₁⟩
  · rename_i h
    have hstep : (m >>= k).exec r = (.error h, r₁) := by simp [hrun]
    rw [hrun] at ht hu happ
    exact ⟨by rw [hstep]; exact ht, by rw [hstep]; exact hu, ps, b, by rw [hstep]; exact happ,
      hshown, by rw [hstep]; simp⟩
  · have hstep : (m >>= k).exec r = (k ()).exec r₁ := by simp [hrun]
    rw [hrun] at ht hu happ hok
    obtain ⟨ht', hu', qs, b', happ', hshown', hok'⟩ := hk r₁
    have hb : b = [] := hok rfl
    subst hb
    refine ⟨by rw [hstep, ht', ht], by rw [hstep, hu', hu], ps ++ qs, b',
      by rw [hstep]; exact happ.trans happ', ?_, by rw [hstep]; exact hok'⟩
    rw [shownText_append, hshown, hshown']
    rfl

theorem get_bind {k : Reply → ReplyM Unit} (h : Quiet (k r) r) : Quiet (get >>= k) r :=
  of_exec_eq (by simp) h

end Quiet

theorem modify_quiet {r : Reply} {f : Reply → Reply} (ht : (f r).text = r.text)
    (hu : (f r).usage = r.usage) (hw : (f r).writer = r.writer) : Quiet (modify f) r := by
  refine ⟨by simpa using ht, by simpa using hu, [], [], ?_, rfl, fun _ => rfl⟩
  simpa [hw] using Appended.nil r.writer.sink.received

theorem guarded_quiet {p : Part} (hp : ∀ t, p ≠ .text t) (r : Reply) : Quiet (guarded p) r := by
  obtain ⟨ht, hu, ps, b, hbytes, hw, hok⟩ := guarded_wrote r p
  refine ⟨ht, hu, ps, b, ?_, ?_, fun h => (hok h).1⟩
  · exact Appended.single (by simpa using hbytes) hw
  · rcases hw with ⟨rfl, -⟩ | ⟨rfl, -⟩
    · cases p <;> simp_all [shownText]
    · rfl

theorem annotate_quiet (userMessageId messageId : String) (r : Reply) :
    Quiet (annotate userMessageId messageId) r := by
  unfold annotate
  refine Quiet.get_bind ?_
  split
  · exact Quiet.pure r
  · exact guarded_quiet (fun _ => by simp [annotationPart]) r

theorem checkCancelled_quiet (r : Reply) : Quiet checkCancelled r := by
  cases hc : r.isCancelled
  · exact Quiet.of_exec_eq (checkCancelled_exec_of_live hc) (Quiet.pure r)
  · exact Quiet.of_halt (checkCancelled_exec_of_fired hc) rfl rfl rfl

theorem block_quiet (r : Reply) : Quiet block r := by
  exact Quiet.of_halt (block_exec r) rfl rfl rfl

theorem forM_quiet {α : Type} {f : α → ReplyM Unit} (hf : ∀ x r', Quiet (f x) r') :
    ∀ (xs : List α) (r : Reply), Quiet (xs.forM f) r
  | [], r => Quiet.of_exec_eq (by simp) (Quiet.pure r)
  | x :: xs, r =>
    Quiet.of_exec_eq (by simp)
      (Quiet.bind (k := fun _ => xs.forM f) (hf x r) fun r' => forM_quiet hf xs r')

theorem putToolStream_quiet (i : Nat) (t : ToolStream) (r : Reply) : Quiet (putToolStream i t) r :=
  modify_quiet rfl rfl rfl

theorem forwardToolDelta_quiet (d : ToolCallDelta) (r : Reply) : Quiet (forwardToolDelta d) r := by
  have hlast : ∀ (id : String) (r' : Reply), Quiet (if (!d.arguments.isEmpty) = true then
      guarded (.toolCallArgDelta id d.arguments) else Pure.pure ()) r' := by
    intro id r'
    split
    · exact guarded_quiet (by simp) r'
    · exact Quiet.pure r'
  unfold forwardToolDelta
  refine Quiet.get_bind ?_
  dsimp only
  split
  · split
    · exact Quiet.bind (putToolStream_quiet _ _ r) fun r' => Quiet.pure r'
    · refine Quiet.bind (putToolStream_quiet _ _ r) fun r₁ => ?_
      refine Quiet.bind (guarded_quiet (by simp) r₁) fun r₂ => ?_
      split
      · exact Quiet.bind (guarded_quiet (by simp) r₂) fun r₃ => hlast _ r₃
      · exact hlast _ r₂
  · exact Quiet.bind (putToolStream_quiet _ _ r) fun r' => hlast _ r'

theorem dispatch_quiet (tools : Registry) (now : Instant) (call : ToolCall) (r : Reply) :
    Quiet (dispatch tools now call) r := by
  unfold dispatch
  split
  · exact Quiet.pure r
  · refine Quiet.bind (guarded_quiet (by simp) r) fun r₁ => ?_
    refine Quiet.bind (checkCancelled_quiet r₁) fun r₂ => ?_
    refine Quiet.bind (modify_quiet rfl rfl rfl) fun r₃ => ?_
    exact guarded_quiet (by simp) r₃

theorem finishParts_quiet (reason : FinishReason) (usage : Option Usage) (r : Reply) :
    Quiet (guarded (.finishStep reason usage reason.isToolCalls) >>= fun _ =>
      if (!reason.isToolCalls) = true then guarded (.finishMessage reason usage)
      else Pure.pure ()) r := by
  refine Quiet.bind (guarded_quiet (by simp) r) fun r₁ => ?_
  split
  · exact guarded_quiet (by simp) r₁
  · exact Quiet.pure r₁

theorem finish_eq (reason : FinishReason) (usage : Option Usage) :
    finish reason usage =
      ((guarded (.finishStep reason usage reason.isToolCalls) >>= fun _ =>
          if (!reason.isToolCalls) = true then guarded (.finishMessage reason usage)
          else Pure.pure ()) >>= fun _ =>
        modify fun r => { r with finishReason := some reason, usage }) := by
  unfold finish
  cases reason.isToolCalls <;> simp [bind_assoc]

/-- Quiet writes, then finishing the step: the reason and the usage are recorded only once
    every finish part went out. -/
theorem finish_after {m : ReplyM Unit} {r : Reply} (hm : Quiet m r) (reason : FinishReason)
    (usage : Option Usage) :
    ((m >>= fun _ => finish reason usage).exec r).2.text = r.text ∧
      ((m >>= fun _ => finish reason usage).exec r).2.usage =
        (if ((m >>= fun _ => finish reason usage).exec r).1.isOk then usage else r.usage) ∧
      ∃ ps b, Appended r.writer.sink.received
          ((m >>= fun _ => finish reason usage).exec r).2.writer.sink.received ps b ∧
        shownText ps = "" ∧
        (((m >>= fun _ => finish reason usage).exec r).1 = .ok () → b = []) := by
  set parts : ReplyM Unit := guarded (.finishStep reason usage reason.isToolCalls) >>= fun _ =>
    if (!reason.isToolCalls) = true then guarded (.finishMessage reason usage) else Pure.pure ()
  obtain ⟨ht, hu, hlines⟩ :=
    Quiet.bind (k := fun _ => parts) hm fun r' => finishParts_quiet reason usage r'
  rw [finish_eq, ← bind_assoc]
  rw [ReplyM.exec_bind (m >>= fun _ => parts)]
  rcases hrun : (m >>= fun _ => parts).exec r with ⟨_ | _, r₁⟩
  · rw [hrun] at ht hu hlines
    exact ⟨ht, by simpa [Except.isOk, Except.toBool] using hu, hlines⟩
  · rw [hrun] at ht hu hlines
    simp only [ReplyM.exec_modify]
    exact ⟨ht, by simp [Except.isOk, Except.toBool], by simpa using hlines⟩

/-- What follows a chunk's text: its fragments are passed on, and at a terminal chunk the
    complete calls are run and the step is finished. -/
def chunkTail (tools : Registry) (now : Instant) (c : Chunk) : ReplyM Unit := do
  c.toolCallDeltas.forM forwardToolDelta
  if c.done then
    c.completedToolCalls.forM (dispatch tools now)
    finish (c.finishReason.getD .unknown) c.usage

/-- What a reply does with a chunk it took off the channel: the chunk's text is added to the
    reply's text and then written, and the rest of the chunk follows. -/
def handleChunk (tools : Registry) (now : Instant) (c : Chunk) : ReplyM Unit := do
  if !c.text.isEmpty then
    modify fun r => { r with text := r.text ++ c.text }
    guarded (.text c.text)
  chunkTail tools now c

/-- Before each chunk the reply looks at the token, then handles the chunk, and goes on to the
    next one unless the chunk was terminal. -/
theorem streamChunks_cons (tools : Registry) (now : Instant) (c : Chunk) (rest : List Chunk)
    (ending : ChannelEnd) :
    streamChunks tools now (c :: rest) ending =
      (checkCancelled >>= fun _ => handleChunk tools now c >>= fun _ =>
        if c.done then Pure.pure () else streamChunks tools now rest ending) := by
  cases hd : c.done <;> by_cases ht : c.text = "" <;>
    simp [streamChunks, handleChunk, chunkTail, hd, ht]

/-- How many chunks the reply takes off the channel, run from `r`: none once the token has
    fired; after a chunk, none more when it was terminal or its handling halted. -/
def dequeued (tools : Registry) (now : Instant) : List Chunk → Reply → Nat
  | [], _ => 0
  | c :: rest, r =>
    if r.isCancelled then 0
    else match (handleChunk tools now c).exec r with
      | (.ok (), r') => if c.done then 1 else dequeued tools now rest r' + 1
      | (.error _, _) => 1

/-- The text lines among whole lines `ps` show the text of the chunks `taken`; or, only when
    the reply `halted`, the text of all of them but the last, `c`, of whose text line the
    connection holds at most a part, `b`. -/
def ShowsText (ps : List Part) (b : List UInt8) (halted : Prop) (taken : List Chunk) : Prop :=
  shownText ps = chunkText taken ∨
    halted ∧ ∃ pre c, taken = pre ++ [c] ∧ shownText ps = chunkText pre ∧
      b <+: utf8 (Part.text c.text).line

/-- The rest of a chunk adds no text, writes only lines that show none, and records the usage
    exactly when the chunk is terminal and its finish went out. -/
theorem chunkTail_run (tools : Registry) (now : Instant) (c : Chunk) (r : Reply) :
    ((chunkTail tools now c).exec r).2.text = r.text ∧
      ((chunkTail tools now c).exec r).2.usage =
        (if ((chunkTail tools now c).exec r).1.isOk && c.done then c.usage else r.usage) ∧
      ∃ ps b, Appended r.writer.sink.received
          ((chunkTail tools now c).exec r).2.writer.sink.received ps b ∧
        shownText ps = "" ∧ (((chunkTail tools now c).exec r).1 = .ok () → b = []) := by
  have hfrag := forM_quiet forwardToolDelta_quiet c.toolCallDeltas r
  cases hd : c.done
  · obtain ⟨ht, hu, hl⟩ := Quiet.bind (k := fun _ => Pure.pure ()) hfrag fun r' => Quiet.pure r'
    simp only [chunkTail, hd, Bool.false_eq_true, ↓reduceIte, Bool.and_false]
    exact ⟨ht, hu, hl⟩
  · have hcalls := Quiet.bind (k := fun _ => c.completedToolCalls.forM (dispatch tools now)) hfrag
      fun r' => forM_quiet (dispatch_quiet tools now) _ r'
    obtain ⟨ht, hu, hl⟩ := finish_after hcalls (c.finishReason.getD .unknown) c.usage
    simp only [chunkTail, hd, ↓reduceIte, Bool.and_true, bind_assoc] at ht hu hl ⊢
    exact ⟨ht, hu, hl⟩

theorem handleChunk_of_empty {c : Chunk} (hc : c.text.isEmpty = true) (tools : Registry)
    (now : Instant) : handleChunk tools now c = chunkTail tools now c := by
  simp [handleChunk, hc]

theorem handleChunk_of_text {c : Chunk} (hc : c.text.isEmpty = false) (tools : Registry)
    (now : Instant) :
    handleChunk tools now c =
      ((modify fun r => { r with text := r.text ++ c.text }) >>= fun _ =>
        guarded (.text c.text) >>= fun _ => chunkTail tools now c) := by
  simp [handleChunk, hc]

/-- One chunk, from any state: its text is added to the reply's text; the usage is recorded
    when the chunk is terminal and went through; and the lines written show its text, or, when
    the text write halted the reply, a prefix of the text's line stands cut off. -/
theorem handleChunk_run (tools : Registry) (now : Instant) (c : Chunk) (r : Reply) :
    ((handleChunk tools now c).exec r).2.text = r.text ++ c.text ∧
      ((handleChunk tools now c).exec r).2.usage =
        (if ((handleChunk tools now c).exec r).1.isOk && c.done then c.usage else r.usage) ∧
      ∃ ps b, Appended r.writer.sink.received
          ((handleChunk tools now c).exec r).2.writer.sink.received ps b ∧
        (((handleChunk tools now c).exec r).1 = .ok () → b = []) ∧
        ShowsText ps b (((handleChunk tools now c).exec r).1 ≠ .ok ()) [c] := by
  cases hempty : c.text.isEmpty
  · set r₀ : Reply := { r with text := r.text ++ c.text }
    obtain ⟨ht₁, hu₁, ps, b, hbytes, hw, hok₁⟩ := guarded_wrote r₀ (.text c.text)
    rcases hrun : (guarded (.text c.text)).exec r₀ with ⟨_ | _, r₁⟩
    · rename_i h
      have hstep : (handleChunk tools now c).exec r = (.error h, r₁) := by
        simp [handleChunk_of_text hempty, hrun, r₀]
      rw [hrun] at ht₁ hu₁ hbytes
      dsimp only at ht₁ hu₁ hbytes
      rw [hstep]
      refine ⟨ht₁, by simpa [Except.isOk, Except.toBool] using hu₁, ps, b,
        Appended.single hbytes hw, by simp, ?_⟩
      rcases hw with ⟨rfl, -⟩ | ⟨rfl, hpre, -⟩
      · exact .inl (by simp [shownText])
      · exact .inr ⟨by simp, [], c, rfl, by simp, hpre⟩
    · have hstep : (handleChunk tools now c).exec r = (chunkTail tools now c).exec r₁ := by
        simp [handleChunk_of_text hempty, hrun, r₀]
      rw [hrun] at ht₁ hu₁ hbytes hok₁
      dsimp only at ht₁ hu₁ hbytes hok₁
      obtain ⟨rfl, hps⟩ := hok₁ rfl
      obtain rfl := hps rfl
      have hfirst : Appended r.writer.sink.received r₁.writer.sink.received [.text c.text] [] :=
        Appended.single hbytes hw
      obtain ⟨ht, hu, qs, b', happ, hshown, hok⟩ := chunkTail_run tools now c r₁
      rw [hstep, ht, hu, hu₁, ht₁]
      refine ⟨?_, ?_, [.text c.text] ++ qs, b', ?_, hok, .inl ?_⟩
      · rfl
      · rfl
      · exact hfirst.trans happ
      · rw [shownText_append, hshown]
        simp [shownText]
  · have hc : c.text = "" := by simpa using hempty
    obtain ⟨ht, hu, ps, b, happ, hshown, hok⟩ := chunkTail_run tools now c r
    rw [handleChunk_of_empty hempty, ht, hu, hc]
    exact ⟨by simp, rfl, ps, b, happ, hok, .inl (by simp [hshown, hc])⟩

theorem ShowsText.prepend {ps qs : List Part} {b : List UInt8} {halted : Prop}
    {earlier taken : List Chunk} (hps : shownText ps = chunkText earlier)
    (h : ShowsText qs b halted taken) : ShowsText (ps ++ qs) b halted (earlier ++ taken) := by
  rcases h with h | ⟨hh, pre, c, rfl, hpre, hb⟩
  · exact .inl (by simp [shownText_append, hps, h])
  · exact .inr ⟨hh, earlier ++ pre, c, by simp, by simp [shownText_append, hps, hpre], hb⟩

/-- What a run of the chunk loop from `r` leaves, against the chunks `taken` off the channel:
    their text added to the reply's text; the closing usage recorded when the run went through,
    and the usage untouched otherwise; and the lines written show the text taken. -/
structure Streamed (r : Reply) (run : Except Halt Unit × Reply) (taken : List Chunk) : Prop where
  text : run.2.text = r.text ++ chunkText taken
  usage : run.2.usage = if run.1.isOk then closingUsage taken else r.usage
  lines : ∃ ps b, Appended r.writer.sink.received run.2.writer.sink.received ps b ∧
    (run.1 = .ok () → b = []) ∧ ShowsText ps b (run.1 ≠ .ok ()) taken

theorem block_halts (r : Reply) : (block.exec r).1.isOk = false := by
  simp [block_exec, Except.isOk, Except.toBool]

/-- At the end of the chunks the reply halts when the channel stays open, and finishes with
    an error step when it was closed. -/
theorem streamChunks_nil_run (tools : Registry) (now : Instant) (ending : ChannelEnd)
    (r : Reply) : Streamed r ((streamChunks tools now [] ending).exec r) [] := by
  cases ending with
  | blocked =>
    show Streamed r ((checkCancelled >>= fun _ => block).exec r) []
    have hhalt : ((checkCancelled >>= fun _ => block).exec r).1.isOk = false := by
      cases hc : r.isCancelled
      · simpa [checkCancelled_exec_of_live hc] using block_halts r
      · simp [checkCancelled_exec_of_fired hc, Except.isOk, Except.toBool]
    obtain ⟨ht, hu, ps, b, happ, hshown, hok⟩ :=
      Quiet.bind (k := fun _ => block) (checkCancelled_quiet r) fun r' => block_quiet r'
    exact ⟨by simpa using ht, by rw [hhalt]; exact hu, ps, b, happ, hok, .inl hshown⟩
  | closed =>
    show Streamed r ((checkCancelled >>= fun _ => finish .error none).exec r) []
    obtain ⟨ht, hu, ps, b, happ, hshown, hok⟩ := finish_after (checkCancelled_quiet r) .error none
    exact ⟨by simpa using ht, by simpa [closingUsage] using hu, ps, b, happ, hok, .inl hshown⟩

theorem streamChunks_cons_cancelled (tools : Registry) (now : Instant) {r : Reply}
    (hc : r.isCancelled = true) (c : Chunk) (rest : List Chunk) (ending : ChannelEnd) :
    (streamChunks tools now (c :: rest) ending).exec r = (.error (.failed .cancelled), r) := by
  simp [streamChunks_cons, checkCancelled_exec_of_fired hc]

/-- Otherwise the loop handles the chunk, and goes on from the state it left unless the
    handling halted or the chunk was terminal. -/
theorem streamChunks_cons_exec (tools : Registry) (now : Instant) {r : Reply}
    (hc : r.isCancelled = false) (c : Chunk) (rest : List Chunk) (ending : ChannelEnd) :
    (streamChunks tools now (c :: rest) ending).exec r =
      match (handleChunk tools now c).exec r with
      | (.ok (), r') =>
        if c.done then (.ok (), r') else (streamChunks tools now rest ending).exec r'
      | (.error h, r') => (.error h, r') := by
  rw [streamChunks_cons]
  rcases hrun : (handleChunk tools now c).exec r with ⟨_ | _, r'⟩ <;> cases c.done <;>
    simp [checkCancelled_exec_of_live hc, hrun]

/-- Every run of the chunk loop, from any state and over any chunks, leaves what the chunks
    it took off the channel say: their text, their closing usage and lines showing the text. -/
theorem streamChunks_run (tools : Registry) (now : Instant) (ending : ChannelEnd) :
    ∀ (cs : List Chunk) (r : Reply),
      Streamed r ((streamChunks tools now cs ending).exec r) (cs.take (dequeued tools now cs r))
  | [], r => by simpa [dequeued] using streamChunks_nil_run tools now ending r
  | c :: rest, r => by
    cases hc : r.isCancelled
    case true =>
      rw [streamChunks_cons_cancelled tools now hc]
      exact ⟨by simp [dequeued, hc], by simp [Except.isOk, Except.toBool], [], [],
        Appended.nil _, by simp, .inl (by simp [dequeued, hc])⟩
    case false =>
    obtain ⟨ht, hu, ps, b, happ, hok, hshows⟩ := handleChunk_run tools now c r
    rw [streamChunks_cons_exec tools now hc]
    rcases hrun : (handleChunk tools now c).exec r with ⟨_ | _, r'⟩
    case error h =>
      have htaken : (c :: rest).take (dequeued tools now (c :: rest) r) = [c] := by
        simp [dequeued, hc, hrun]
      rw [hrun] at ht hu happ hok hshows
      rw [htaken]
      exact ⟨by simpa using ht, by simpa [Except.isOk, Except.toBool] using hu, ps, b, happ,
        hok, hshows⟩
    case ok =>
    rw [hrun] at ht hu happ hok hshows
    obtain rfl := hok rfl
    have hshown : shownText ps = c.text := by
      simpa [ShowsText] using hshows
    cases hd : c.done
    case true =>
      have htaken : (c :: rest).take (dequeued tools now (c :: rest) r) = [c] := by
        simp [dequeued, hc, hrun, hd]
      rw [htaken]
      exact ⟨by simpa using ht, by simpa [Except.isOk, Except.toBool, closingUsage, hd] using hu,
        ps, [], by simpa using happ, fun _ => rfl, .inl (by simpa using hshown)⟩
    case false =>
    have htaken : (c :: rest).take (dequeued tools now (c :: rest) r) =
        c :: rest.take (dequeued tools now rest r') := by
      simp [dequeued, hc, hrun, hd]
    obtain ⟨ht', hu', qs, b', happ', hok', hshows'⟩ := streamChunks_run tools now ending rest r'
    simp only [Bool.false_eq_true, ↓reduceIte]
    rw [htaken]
    refine ⟨?_, ?_, ps ++ qs, b', (by simpa using happ : Appended _ _ ps []).trans happ', hok',
      (hshows'.prepend (by simpa using hshown) : ShowsText _ _ _ ([c] ++ _))⟩
    · rw [ht', ht]
      simp [String.append_assoc]
    · have hu₁ : r'.usage = r.usage := by simpa [hd] using hu
      rw [hu', closingUsage_cons hd, hu₁]

theorem EndsAtTerminal.tail {c : Chunk} {cs : List Chunk} {e : ChannelEnd}
    (h : EndsAtTerminal ⟨c :: cs, e⟩) : EndsAtTerminal ⟨cs, e⟩ :=
  fun xs d ys hxs hd => h (c :: xs) d ys (congrArg (c :: ·) hxs) hd

/-- A run of the loop that went through took every chunk, when a terminal chunk can only be
    the last. -/
theorem take_dequeued_of_ok (tools : Registry) (now : Instant) {ending : ChannelEnd} :
    ∀ {cs : List Chunk} {r : Reply}, EndsAtTerminal ⟨cs, ending⟩ →
      ((streamChunks tools now cs ending).exec r).1 = .ok () →
      cs.take (dequeued tools now cs r) = cs
  | [], _, _, _ => by simp [dequeued]
  | c :: rest, r, hend, hok => by
    cases hc : r.isCancelled
    case true => simp [streamChunks_cons_cancelled tools now hc] at hok
    case false =>
    rw [streamChunks_cons_exec tools now hc] at hok
    rcases hrun : (handleChunk tools now c).exec r with ⟨_ | _, r'⟩
    case error => simp [hrun] at hok
    case ok =>
    cases hd : c.done
    case true =>
      obtain ⟨rfl, -⟩ := hend [] c rest rfl hd
      simp [dequeued, hc, hrun, hd]
    case false =>
      simp only [hrun, hd, Bool.false_eq_true, ↓reduceIte] at hok
      simp [dequeued, hc, hrun, hd, take_dequeued_of_ok tools now (EndsAtTerminal.tail hend) hok]

/-- How many chunks a reply takes off the channel: none when its start part halted it. -/
def replyDequeued (tools : Registry) (now : Instant) (messageId : String) (chunks : Chunks)
    (r : Reply) : Nat :=
  match (guarded (.start messageId)).exec r with
  | (.ok (), r') => dequeued tools now chunks.chunks r'
  | (.error _, _) => 0

theorem Streamed.after {m : ReplyM Unit} {r r' : Reply} {run : Except Halt Unit × Reply}
    {taken : List Chunk} (hm : Quiet m r) (hrun : m.exec r = (.ok (), r'))
    (h : Streamed r' run taken) : Streamed r run taken := by
  obtain ⟨ht, hu, ps, b, happ, hshown, hok⟩ := hm
  rw [hrun] at ht hu happ hok
  obtain rfl := hok rfl
  obtain ⟨ht', hu', qs, b', happ', hok', hshows'⟩ := h
  exact ⟨by rw [ht', ht], by rw [hu', hu], ps ++ qs, b', happ.trans happ', hok',
    (hshows'.prepend hshown : ShowsText _ _ _ ([] ++ _))⟩

/-- Every reply, from any state, over any chunks and whatever the connection does, leaves
    what the chunks it took off the channel say. -/
theorem streamReply_run (tools : Registry) (now : Instant) (messageId : String)
    (chunks : Chunks) (r : Reply) :
    Streamed r ((streamReply tools now messageId chunks).exec r)
      (chunks.chunks.take (replyDequeued tools now messageId chunks r)) := by
  have hstart := guarded_quiet (p := .start messageId) (fun _ => by simp) r
  rcases hrun : (guarded (.start messageId)).exec r with ⟨_ | _, r'⟩
  case error h =>
    have hexec : (streamReply tools now messageId chunks).exec r = (.error h, r') := by
      simp [streamReply, hrun]
    obtain ⟨ht, hu, ps, b, happ, hshown, hok⟩ := hstart
    rw [hrun] at ht hu happ hok
    rw [hexec]
    exact ⟨by simpa [replyDequeued, hrun] using ht, by simpa [Except.isOk, Except.toBool] using hu,
      ps, b, happ, by simp, .inl (by simpa [replyDequeued, hrun] using hshown)⟩
  case ok =>
    have hexec : (streamReply tools now messageId chunks).exec r =
        (streamChunks tools now chunks.chunks chunks.ending).exec r' := by
      simp [streamReply, hrun]
    rw [hexec, show replyDequeued tools now messageId chunks r =
      dequeued tools now chunks.chunks r' by simp [replyDequeued, hrun]]
    exact Streamed.after hstart hrun (streamChunks_run tools now chunks.ending chunks.chunks r')

theorem take_replyDequeued_of_ok (tools : Registry) (now : Instant) (messageId : String)
    {chunks : Chunks} (hend : EndsAtTerminal chunks) {r : Reply}
    (hok : ((streamReply tools now messageId chunks).exec r).1 = .ok ()) :
    chunks.chunks.take (replyDequeued tools now messageId chunks r) = chunks.chunks := by
  rcases hrun : (guarded (.start messageId)).exec r with ⟨_ | _, r'⟩
  case error => simp [streamReply, hrun] at hok
  case ok =>
    simp only [streamReply, ReplyM.exec_bind, hrun] at hok
    simp only [replyDequeued, hrun]
    exact take_dequeued_of_ok tools now hend hok

/-- The chunks that reply takes off the channel. -/
def Service.replyTaken (s : Service) (sink : Sink) (cancel : Cancellation)
    (stream : EventStream) : List Chunk :=
  (accumulate stream cancel.before).chunks.take (replyDequeued s.tools s.now
    s.ids.random.1.toText (accumulate stream cancel.before) (replyStart sink cancel))

theorem replyRun_streamed (s : Service) (sink : Sink) (cancel : Cancellation)
    (stream : EventStream) :
    Streamed (replyStart sink cancel) (s.replyRun sink cancel stream)
      (s.replyTaken sink cancel stream) :=
  streamReply_run _ _ _ _ _

theorem replyRun_text (s : Service) (sink : Sink) (cancel : Cancellation)
    (stream : EventStream) :
    (s.replyRun sink cancel stream).2.text = chunkText (s.replyTaken sink cancel stream) :=
  (replyRun_streamed s sink cancel stream).text.trans String.empty_append

/-- A turn that reaches its reply, unless it waits forever, stores the text of the chunks the
    reply took off the channel, once and as the assistant of the turn's session, on the store
    as it was after the history was read; the connection then holds whole lines and at most
    part of one more, and the text lines show that text, or all of it but the last chunk's
    text when the reply halted at that chunk's text write; and a completed turn's outcome
    carries that text. -/
theorem reply_stores_reply {s : Service} {sink : Sink} {input : TurnInput}
    (cancel : Cancellation) {userMessage : StoredMessage} {store₁ store₂ : Store}
    {history : List StoredMessage} {stream : EventStream} {backend : Backend}
    (hsaved : s.store.save input.session .user input.content (estimateTokens input.content) =
      (.ok userMessage, store₁))
    (hread : store₁.recent input.session s.streamConfig.historyLimit = (.ok history, store₂))
    (hturn : s.backend.streamTurn ⟨history.map StoredMessage.toMessage, s.systemPrompt,
      s.tools.definitions⟩ = (.ok stream, backend))
    (hstream : sink.faults.streaming = true) :
    (s.reply sink input cancel).1.1 = .hung ∨
      (s.reply sink input cancel).2.store = (store₂.save input.session .assistant
        (chunkText (s.replyTaken sink cancel stream))
        (s.replyRun sink cancel stream).2.tokenCount).2 ∧
      (∃ ps b, Appended sink.received (s.reply sink input cancel).1.2.received ps b ∧
        ShowsText ps b ((s.replyRun sink cancel stream).1 ≠ .ok ())
          (s.replyTaken sink cancel stream)) ∧
      ∀ o, (s.reply sink input cancel).1.1 = .finished (.ok o) →
        o.text = chunkText (s.replyTaken sink cancel stream) ∧
          (s.replyRun sink cancel stream).1 = .ok () := by
  rw [← replyRun_text]
  obtain ⟨-, -, ps, b, happ, hok, hshows⟩ := replyRun_streamed s sink cancel stream
  change Appended sink.received _ ps b at happ
  rcases hrun : s.replyRun sink cancel stream with ⟨res, r₁⟩
  rw [hrun] at happ hok hshows
  dsimp only at happ hok hshows ⊢
  rcases res with (e | _) | ⟨⟩
  · rw [reply_of_stream_failed hsaved hread hturn hstream hrun]
    exact .inr ⟨rfl, ⟨ps, b, by simpa using happ, hshows⟩, fun o ho => by cases ho⟩
  · left
    rw [reply_of_stream_hung hsaved hread hturn hstream hrun]
  · obtain rfl := hok rfl
    have hshown : shownText ps = chunkText (s.replyTaken sink cancel stream) :=
      hshows.resolve_right fun h => h.1 rfl
    obtain ⟨hservice, hhung, hclosed⟩ := reply_of_stream_ok hsaved hread hturn hstream hrun
    obtain ⟨hat, -, qs, b', happ', hshown', -⟩ :=
      annotate_quiet userMessage.id.toText s.ids.random.1.toText r₁
    rcases hann : (annotate userMessage.id.toText s.ids.random.1.toText).exec r₁ with ⟨ares, r₂⟩
    rw [hann] at hat happ'
    by_cases hhung' : ares = .error .hung
    · subst hhung'
      left
      rw [hhung r₂ hann]
    right
    rw [hclosed ares r₂ hann hhung']
    refine ⟨by rw [hservice], ⟨ps ++ qs, b', by simpa using happ.trans happ', .inl ?_⟩,
      fun o ho => ⟨?_, rfl⟩⟩
    · rw [shownText_append, hshown, hshown', String.append_empty]
    · rw [Reply.eq_of_closingResult_eq_ok (TurnEnd.finished.inj ho)]
      exact hat

theorem chunkText_filterMap_eventChunk (es : List ProviderEvent) :
    chunkText (es.filterMap eventChunk) = String.join (es.map (·.text)) := by
  induction es with
  | nil => rfl
  | cons e es ih =>
    by_cases h : e.text.isEmpty = true ∧ e.toolCalls.isEmpty = true
    · have he : e.text = "" := by simpa using h.1
      simp [eventChunk, h.2, ih, he]
    · have hchunk :
          eventChunk e = some { text := e.text, toolCallDeltas := e.toolCalls.map normalize } := by
        simp only [eventChunk, Bool.and_eq_true]
        exact if_neg h
      simp [hchunk, ih]

theorem chunkText_accumulate_finished (items : List (Except ProviderError ProviderEvent)) :
    chunkText (accumulate ⟨items, .finished⟩).chunks =
      String.join ((okPrefix items).map (·.text)) := by
  rw [accumulate_finished]
  have hclose : ∀ events failed, (closingChunk events failed).text = "" := by
    intro events failed
    cases failed <;> rfl
  simp [chunkText_filterMap_eventChunk, hclose]

/-- A healthy turn fed a stream that ended completes with the text of the events before the
    stream's first failure. -/
theorem reply_healthy_text {s : Service} {sink : Sink} {input : TurnInput} {timer : Bool}
    {items : List (Except ProviderError ProviderEvent)}
    (hsave : s.store.faults.failSaves.contains s.store.saves = false)
    (hread : s.store.faults.failReads.contains s.store.reads = false)
    (hturn : ∀ request, (s.backend.streamTurn request).1 = .ok ⟨items, .finished⟩)
    (hsink : sink.faults.Healthy) (hidle : sink.cancelRequested = false) :
    ∃ o, (s.reply sink input ⟨false, timer⟩).1.1 = .finished (.ok o) ∧
      o.text = String.join ((okPrefix items).map (·.text)) := by
  obtain ⟨o, ho, -⟩ := reply_healthy hsave hread hturn hsink hidle
  obtain ⟨userMessage, store₁, history, store₂, backend, hsaved, hrecent, hasked⟩ :=
    s.reaches_stream hsave hread hturn input
  rcases reply_stores_reply ⟨false, timer⟩ hsaved hrecent hasked hsink.streaming
    with hhung | ⟨-, -, hout⟩
  · rw [ho] at hhung
    cases hhung
  obtain ⟨htext, hok⟩ := hout o ho
  have htaken := take_replyDequeued_of_ok s.tools s.now s.ids.random.1.toText
    (endsAtTerminal_accumulate ⟨items, .finished⟩ false) hok
  refine ⟨o, ho, ?_⟩
  rw [htext, Service.replyTaken, htaken]
  exact chunkText_accumulate_finished items

/-- A turn's reply text is stored once, on every way out, and nothing of it is lost. Any
    reply, from any state, over any chunks and on any connection, adds to its text the text of
    the chunks it took off the channel, and the whole text lines it wrote show that text, or
    all of it but the last chunk's text when it halted at that chunk's text write; whole
    lines read back as the text they show; a turn that reaches its reply and does not wait
    forever stores that text once, as its session's assistant message; and a healthy turn fed
    a stream that ended completes with the text of the events before the stream's first
    failure. -/
theorem reply_persists_streamed_text :
    (∀ (tools : Registry) (now : Instant) (messageId : String) (chunks : Chunks) (r : Reply),
      Streamed r ((streamReply tools now messageId chunks).exec r)
        (chunks.chunks.take (replyDequeued tools now messageId chunks r))) ∧
    (∀ ps : List Part, readText ({ received := partBytes ps } : Sink).lines = shownText ps) ∧
    (∀ {s : Service} {sink : Sink} {input : TurnInput} (cancel : Cancellation)
        {userMessage : StoredMessage} {store₁ store₂ : Store} {history : List StoredMessage}
        {stream : EventStream} {backend : Backend},
      s.store.save input.session .user input.content (estimateTokens input.content) =
        (.ok userMessage, store₁) →
      store₁.recent input.session s.streamConfig.historyLimit = (.ok history, store₂) →
      s.backend.streamTurn ⟨history.map StoredMessage.toMessage, s.systemPrompt,
        s.tools.definitions⟩ = (.ok stream, backend) →
      sink.faults.streaming = true →
      (s.reply sink input cancel).1.1 = .hung ∨
        (s.reply sink input cancel).2.store = (store₂.save input.session .assistant
          (chunkText (s.replyTaken sink cancel stream))
          (s.replyRun sink cancel stream).2.tokenCount).2 ∧
        (∃ ps b, Appended sink.received (s.reply sink input cancel).1.2.received ps b ∧
          ShowsText ps b ((s.replyRun sink cancel stream).1 ≠ .ok ())
            (s.replyTaken sink cancel stream)) ∧
        ∀ o, (s.reply sink input cancel).1.1 = .finished (.ok o) →
          o.text = chunkText (s.replyTaken sink cancel stream) ∧
            (s.replyRun sink cancel stream).1 = .ok ()) ∧
    (∀ {s : Service} {sink : Sink} {input : TurnInput} {timer : Bool}
        {items : List (Except ProviderError ProviderEvent)},
      s.store.faults.failSaves.contains s.store.saves = false →
      s.store.faults.failReads.contains s.store.reads = false →
      (∀ request, (s.backend.streamTurn request).1 = .ok ⟨items, .finished⟩) →
      sink.faults.Healthy → sink.cancelRequested = false →
      ∃ o, (s.reply sink input ⟨false, timer⟩).1.1 = .finished (.ok o) ∧
        o.text = String.join ((okPrefix items).map (·.text))) :=
  ⟨streamReply_run, readText_lines, fun cancel => reply_stores_reply cancel,
    fun hsave hread hturn hsink hidle => reply_healthy_text hsave hread hturn hsink hidle⟩

/-- A model that streams `Hel` and `lo`, then the reason `stop`, then its usage. -/
def usageStream : EventStream :=
  { items := [.ok { text := "Hel" }, .ok { text := "lo" }, .ok { finishReason := some "stop" },
      .ok { usage := some { promptTokens := 5, completionTokens := 3, totalTokens := 8 } }] }

/-- A service whose model streams `usageStream`. -/
def usageService : Service := { backend := .scripted { turns := [.events usageStream] } }

/-- A connection that refuses every write from its fifth on. -/
def failsFifthWrite : Sink :=
  { faults := { onWrite := fun n => if 4 ≤ n then .fail "client went away" else .accept none } }

/-- The user message `q` in a fresh session. -/
def questionInput : TurnInput :=
  { session := Uuid.withVersion 4 1, user := Uuid.withVersion 4 0, content := "q" }

/-- The turn that streams `usageStream` to a connection refusing the final `d` part stores
    its reply once, and a healthy turn with the scripted fallback completes with its text. -/
theorem reply_persists_streamed_text_failed_finish :
    (∃ (userMessage : StoredMessage) (store₁ store₂ : Store) (history : List StoredMessage)
        (backend : Backend),
      usageService.store.save questionInput.session .user questionInput.content
          (estimateTokens questionInput.content) = (.ok userMessage, store₁) ∧
      store₁.recent questionInput.session usageService.streamConfig.historyLimit =
        (.ok history, store₂) ∧
      usageService.backend.streamTurn ⟨history.map StoredMessage.toMessage,
        usageService.systemPrompt, usageService.tools.definitions⟩ = (.ok usageStream, backend) ∧
      ((usageService.reply failsFifthWrite questionInput {}).1.1 = .hung ∨
        (usageService.reply failsFifthWrite questionInput {}).2.store =
          (store₂.save questionInput.session .assistant
            (chunkText (usageService.replyTaken failsFifthWrite {} usageStream))
            (usageService.replyRun failsFifthWrite {} usageStream).2.tokenCount).2)) ∧
    ∃ o, (fallbackService.reply {} default ⟨false, false⟩).1.1 = .finished (.ok o) ∧
      o.text = String.join ((okPrefix Mock.fallback.items).map (·.text)) :=
  ⟨⟨_, _, _, _, _, rfl, rfl, rfl,
      (reply_persists_streamed_text.2.2.1 {} rfl rfl rfl rfl).imp id fun h => h.1⟩,
    reply_persists_streamed_text.2.2.2 rfl rfl (fun _ => rfl) Faults.healthy_default rfl⟩

theorem Reply.tokenCount_eq (r : Reply) :
    r.tokenCount = (r.usage.map (·.completionTokens)).getD (estimateTokens r.text) := by
  unfold Reply.tokenCount
  cases r.usage <;> rfl

/-- A turn that reaches its reply and does not wait forever stores the completion tokens of
    the terminal chunk's usage only when its reply went through, finish parts included;
    otherwise it stores the estimate from the reply's text, even when the reply took a
    terminal chunk carrying a usage. -/
theorem reply_token_count_follows_sent_usage {s : Service} {sink : Sink} {input : TurnInput}
    (cancel : Cancellation) {userMessage : StoredMessage} {store₁ store₂ : Store}
    {history : List StoredMessage} {stream : EventStream} {backend : Backend}
    (hsaved : s.store.save input.session .user input.content (estimateTokens input.content) =
      (.ok userMessage, store₁))
    (hread : store₁.recent input.session s.streamConfig.historyLimit = (.ok history, store₂))
    (hturn : s.backend.streamTurn ⟨history.map StoredMessage.toMessage, s.systemPrompt,
      s.tools.definitions⟩ = (.ok stream, backend))
    (hstream : sink.faults.streaming = true) :
    (s.reply sink input cancel).1.1 = .hung ∨
      (s.reply sink input cancel).2.store = (store₂.save input.session .assistant
        (chunkText (s.replyTaken sink cancel stream))
        (((if (s.replyRun sink cancel stream).1.isOk then
            closingUsage (s.replyTaken sink cancel stream) else none).map
              (·.completionTokens)).getD
          (estimateTokens (chunkText (s.replyTaken sink cancel stream))))).2 := by
  refine (reply_stores_reply cancel hsaved hread hturn hstream).imp id fun h => ?_
  rw [h.1, Reply.tokenCount_eq, (replyRun_streamed s sink cancel stream).usage, replyRun_text]
  rfl

/-- The failing turn: the reply took the terminal chunk carrying three completion tokens, yet
    the reply `Hello` is stored with the estimate, one token. -/
theorem reply_token_count_follows_sent_usage_failed_finish :
    ∃ (userMessage : StoredMessage) (store₁ store₂ : Store) (history : List StoredMessage)
        (backend : Backend),
      usageService.store.save questionInput.session .user questionInput.content
          (estimateTokens questionInput.content) = (.ok userMessage, store₁) ∧
      store₁.recent questionInput.session usageService.streamConfig.historyLimit =
        (.ok history, store₂) ∧
      usageService.backend.streamTurn ⟨history.map StoredMessage.toMessage,
        usageService.systemPrompt, usageService.tools.definitions⟩ = (.ok usageStream, backend) ∧
      ((usageService.reply failsFifthWrite questionInput {}).1.1 = .hung ∨
        (usageService.reply failsFifthWrite questionInput {}).2.store =
          (store₂.save questionInput.session .assistant
            (chunkText (usageService.replyTaken failsFifthWrite {} usageStream))
            (((if (usageService.replyRun failsFifthWrite {} usageStream).1.isOk then
                closingUsage (usageService.replyTaken failsFifthWrite {} usageStream)
                else none).map (·.completionTokens)).getD
              (estimateTokens
                (chunkText (usageService.replyTaken failsFifthWrite {} usageStream))))).2) :=
  ⟨_, _, _, _, _, rfl, rfl, rfl, reply_token_count_follows_sent_usage {} rfl rfl rfl rfl⟩

/-- Where the stored count leaves the provider's usage: the reply took a terminal chunk whose
    usage reports three completion tokens, the connection refused the final `d` part, and
    the reply `Hello` is stored with the estimate, one token. -/
theorem reply_stores_estimate_after_failed_finish :
    (usageService.replyTaken failsFifthWrite {} usageStream).getLast?.map
        (fun c => (c.done, c.usage.map (·.completionTokens))) = some (true, some 3) ∧
    ((usageService.reply failsFifthWrite questionInput {}).2.store.messages
        questionInput.session).map (fun m => (m.content, m.tokenCount)) =
      [("q", 0), ("Hello", 1)] := by
  constructor <;> decide +kernel

end ChatWire.Turn
