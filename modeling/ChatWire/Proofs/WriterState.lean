import ChatWire.Proofs.Writer

open ChatWire.Json ChatWire.Text

namespace ChatWire.Wire

/-- The parts the writer refuses before it looks at its state, each with its error: an empty
    message id for the start part; an empty tool call id for a tool call, a tool result, a
    tool call start and an argument delta; an empty tool name for a tool call or a tool call
    start, once its id was found not empty. -/
inductive Refusal : Part → StreamError → Prop
  | startId : Refusal (.start "") .emptyMessageId
  | toolCallId (name : String) (args : Value) : Refusal (.toolCall "" name args) .emptyToolCallId
  | toolCallName (id : String) (args : Value) (hid : id ≠ "") :
      Refusal (.toolCall id "" args) .emptyToolName
  | toolResultId (result : Value) : Refusal (.toolResult "" result) .emptyToolCallId
  | toolCallStartId (name : String) : Refusal (.toolCallStart "" name) .emptyToolCallId
  | toolCallStartName (id : String) (hid : id ≠ "") :
      Refusal (.toolCallStart id "") .emptyToolName
  | argDeltaId (delta : String) : Refusal (.toolCallArgDelta "" delta) .emptyToolCallId

/-- What a call answers on a writer that is poisoned or closed: a malformed part is refused
    as always, any other part with `closed`, and a close does nothing. -/
def WriterCall.inactiveResult : WriterCall → Except StreamError Unit
  | .send p => .error ((Writer.check p).getD .closed)
  | .close => .ok ()

namespace Writer

theorem check_eq_some_iff {p : Part} {e : StreamError} : check p = some e ↔ Refusal p e := by
  constructor
  · intro h
    cases p with
    | start id =>
      by_cases hid : id = ""
      · subst hid
        cases h
        exact .startId
      · simp [check, hid] at h
    | toolCall id name args =>
      by_cases hid : id = ""
      · subst hid
        cases h
        exact .toolCallId name args
      · by_cases hname : name = ""
        · subst hname
          simp only [check, String.isEmpty_iff, hid, ↓reduceIte, Option.some.injEq] at h
          subst h
          exact .toolCallName id args hid
        · simp [check, hid, hname] at h
    | toolResult id result =>
      by_cases hid : id = ""
      · subst hid
        cases h
        exact .toolResultId result
      · simp [check, hid] at h
    | toolCallStart id name =>
      by_cases hid : id = ""
      · subst hid
        cases h
        exact .toolCallStartId name
      · by_cases hname : name = ""
        · subst hname
          simp only [check, String.isEmpty_iff, hid, ↓reduceIte, Option.some.injEq] at h
          subst h
          exact .toolCallStartName id hid
        · simp [check, hid, hname] at h
    | toolCallArgDelta id delta =>
      by_cases hid : id = ""
      · subst hid
        cases h
        exact .argDeltaId delta
      · simp [check, hid] at h
    | text | data | error | annotations | finishStep | finishMessage => cases h
  · rintro (_ | _ | ⟨id, args, hid⟩ | _ | _ | ⟨id, hid⟩ | _) <;> simp [check, *]

/-- A part write that fails in transport poisons the writer; a short write reports how many
    bytes the sink took, fewer than the line has, and the line's length in bytes. -/
theorem send_transport_failed {w w' : Writer} {p : Part} {e : StreamError}
    (h : w.send p = .done (.error e) w') (he : e.isTransport = true) :
    w'.state = .failed ∧ ∀ written expected, e = .partialWrite written expected →
      written < expected ∧ expected = (utf8 p.line).length := by
  cases hc : check p with
  | some e' =>
    rw [send_refused hc] at h
    cases h
    simp [check_not_transport hc] at he
  | none =>
    by_cases hw : w.state = .open
    · rcases send_open hw hc with ⟨_, _, h', -⟩ | ⟨_, _, held, h', -, hleft, -⟩ | h' <;>
        rw [h'] at h <;> cases h
      refine ⟨rfl, fun written expected he' => ?_⟩
      subst he'
      exact hleft.2
    · rw [send_inactive hc hw] at h
      cases h
      simp [StreamError.isTransport] at he

theorem close_state (w : Writer) : w.close.2.state ≠ .open ∧ w.close.2.isFailed = w.isFailed := by
  by_cases hw : w.state = .open
  · have hclosed := (close_open hw).1
    refine ⟨by simp [hclosed], ?_⟩
    rw [isFailed, isFailed, hclosed, hw]
    rfl
  · simp [close_inactive hw, hw]

theorem isFatal_eq_false_iff (e : StreamError) : e.isFatal = false ↔ ∃ p, check p = some e := by
  constructor
  · intro h
    cases e with
    | emptyMessageId => exact ⟨.start "", rfl⟩
    | emptyToolCallId => exact ⟨.toolResult "" .null, rfl⟩
    | emptyToolName => exact ⟨.toolCallStart "c" "", rfl⟩
    | _ => cases h
  · rintro ⟨p, hp⟩
    rcases check_eq_some_iff.1 hp with _ | _ | _ | _ | _ | _ | _ <;> rfl

/-- Calls after a run that completed go on from the writer it left; a run that ended at a
    write that never completes makes no more calls. -/
theorem runCalls_append (w : Writer) (pre post : List WriterCall) :
    w.runCalls (pre ++ post) =
      if (w.runCalls pre).1.length = pre.length then
        ((w.runCalls pre).1 ++ ((w.runCalls pre).2.runCalls post).1,
          ((w.runCalls pre).2.runCalls post).2)
      else w.runCalls pre := by
  induction pre generalizing w with
  | nil => simp [runCalls]
  | cons call pre ih =>
    cases call with
    | send p =>
      rcases hs : w.send p with ⟨result, w'⟩ | w'
      · simp only [List.cons_append, runCalls, hs, ih w', List.length_cons,
          Nat.add_right_cancel_iff]
        split <;> simp
      · simp [runCalls, hs]
    | close =>
      simp only [List.cons_append, runCalls, ih w.close.2, List.length_cons,
        Nat.add_right_cancel_iff]
      split <;> simp

/-- A writer that is poisoned or closed answers every call at once and stays as it is, its
    sink untouched. -/
theorem runCalls_frozen {w : Writer} (hw : w.state ≠ .open) (calls : List WriterCall) :
    w.runCalls calls = (calls.map WriterCall.inactiveResult, w) := by
  induction calls with
  | nil => rfl
  | cons call calls ih =>
    cases call with
    | send p =>
      cases hc : check p with
      | some e => simp [runCalls, send_refused hc, ih, WriterCall.inactiveResult, hc]
      | none => simp [runCalls, send_inactive hc hw, ih, WriterCall.inactiveResult, hc]
    | close => simp [runCalls, close_inactive hw, ih, WriterCall.inactiveResult]

/-- Once a part write of a completed run fails in transport, every later call answers at once
    and the writer stays as the failure left it. -/
theorem runCalls_after_failure {w w' : Writer} {pre : List WriterCall} {p : Part}
    {e : StreamError} (hpre : (w.runCalls pre).1.length = pre.length)
    (h : (w.runCalls pre).2.send p = .done (.error e) w') (he : e.isTransport = true)
    (post : List WriterCall) :
    w.runCalls (pre ++ .send p :: post) =
      ((w.runCalls pre).1 ++ .error e :: post.map WriterCall.inactiveResult, w') := by
  have hfailed := (send_transport_failed h he).1
  rw [runCalls_append, if_pos hpre]
  simp [runCalls, h, runCalls_frozen (w := w') (by simp [hfailed]) post]

/-- After a close in a completed run, every later call answers at once and the writer stays
    as the close left it. -/
theorem runCalls_after_close {w : Writer} {pre : List WriterCall}
    (hpre : (w.runCalls pre).1.length = pre.length) (post : List WriterCall) :
    w.runCalls (pre ++ .close :: post) =
      ((w.runCalls pre).1 ++ (w.runCalls pre).2.close.1 :: post.map WriterCall.inactiveResult,
        (w.runCalls pre).2.close.2) := by
  rw [runCalls_append, if_pos hpre]
  simp [runCalls, runCalls_frozen (close_state (w.runCalls pre).2).1 post]

/-- Over a run from an open writer, the writer is failed exactly when a part write failed in
    transport. -/
theorem runCalls_isFailed {w : Writer} (hw : w.state = .open) (calls : List WriterCall) :
    (w.runCalls calls).2.isFailed = true ↔
      (firstTransportFailure calls (w.runCalls calls).1).isSome := by
  induction calls generalizing w with
  | nil => simp [runCalls, isFailed, hw, firstTransportFailure]
  | cons call calls ih =>
    cases call with
    | send p =>
      cases hc : check p with
      | some e =>
        simpa [runCalls, send_refused hc, firstTransportFailure, check_not_transport hc] using
          ih hw
      | none =>
        rcases send_open hw hc with ⟨s, _, h, -⟩ | ⟨s, e, _, h, he, -⟩ | h
        · simpa [runCalls, h, firstTransportFailure] using ih (w := ⟨s, .open⟩) rfl
        · obtain ⟨hend, -, hfailure, -⟩ := runCalls_poisoned h he calls
          simp [hend, hfailure, isFailed]
        · simp [runCalls, h, firstTransportFailure, isFailed, hw]
    | close =>
      have hclosed := (close_open hw).1
      obtain ⟨hend, -, hfailure⟩ := runCalls_inactive (w := w.close.2) (by simp [hclosed]) calls
      simp [runCalls, hend, hfailure, firstTransportFailure, isFailed, hclosed]

/-- The writer's error discipline, for every sink and every run of calls. A malformed part is
    refused, with the error `Refusal` names, whatever the writer's state, and nothing changes.
    A part write that fails in transport poisons the writer, and a short write reports fewer
    bytes than the line's length, which it reports too. In a run that got that far, once a
    part write has failed in transport, or once the writer was closed, every later call
    answers at once, without touching the sink: a malformed part is refused as before, any
    other part with `closed`, and a close with `ok`. From an open writer, the writer is failed
    exactly when a part write failed in transport; closing never makes it failed, even when
    the closing flush fails. The errors that leave the stream usable are exactly the
    refusals. -/
theorem writer_refuses_then_freezes :
    (∀ (p : Part) (e : StreamError), check p = some e ↔ Refusal p e) ∧
    (∀ (w : Writer) (p : Part) (e : StreamError), Refusal p e → w.send p = .done (.error e) w) ∧
    (∀ (w w' : Writer) (p : Part) (e : StreamError), w.send p = .done (.error e) w' →
      e.isTransport = true → w'.isFailed = true) ∧
    (∀ (w w' : Writer) (p : Part) (written expected : Nat),
      w.send p = .done (.error (.partialWrite written expected)) w' →
      written < expected ∧ expected = (utf8 p.line).length) ∧
    (∀ (w w' : Writer) (pre post : List WriterCall) (p : Part) (e : StreamError),
      (w.runCalls pre).1.length = pre.length → (w.runCalls pre).2.send p = .done (.error e) w' →
      e.isTransport = true →
      w.runCalls (pre ++ .send p :: post) =
        ((w.runCalls pre).1 ++ .error e :: post.map WriterCall.inactiveResult, w')) ∧
    (∀ (w : Writer) (pre post : List WriterCall), (w.runCalls pre).1.length = pre.length →
      w.runCalls (pre ++ .close :: post) =
        ((w.runCalls pre).1 ++ (w.runCalls pre).2.close.1 :: post.map WriterCall.inactiveResult,
          (w.runCalls pre).2.close.2) ∧ (w.runCalls pre).2.close.2.state ≠ .open) ∧
    (∀ (w : Writer) (calls : List WriterCall), w.state = .open →
      ((w.runCalls calls).2.isFailed = true ↔
        (firstTransportFailure calls (w.runCalls calls).1).isSome)) ∧
    (∀ w : Writer, w.close.2.isFailed = w.isFailed) ∧
    (∀ e : StreamError, e.isFatal = false ↔ ∃ p, check p = some e) := by
  refine ⟨fun p e => check_eq_some_iff, fun w p e hr => send_refused (check_eq_some_iff.2 hr),
    fun w w' p e h he => ?_, fun w w' p written expected h => ?_,
    fun w w' pre post p e hpre h he => runCalls_after_failure hpre h he post,
    fun w pre post hpre => ⟨runCalls_after_close hpre post, (close_state _).1⟩,
    fun w calls hw => runCalls_isFailed hw calls, fun w => (close_state w).2,
    isFatal_eq_false_iff⟩
  · simp [isFailed, (send_transport_failed h he).1]
  · exact (send_transport_failed h rfl).2 written expected rfl

/-- A writer whose second write keeps only three bytes: a tool call without a name is refused
    and changes nothing; the start part goes out; the text part `hello` is cut short after
    three of its ten bytes and poisons the writer; and the later calls answer at once. -/
theorem writer_refuses_then_freezes_short_write :
    let w : Writer :=
      { sink := { faults :=
        { onWrite := fun n => if n = 1 then .accept (some 3) else .accept none } } }
    let pre : List WriterCall := [.send (.start "m")]
    let post : List WriterCall := [.send (.toolCallArgDelta "" "x"), .send (.text "again"), .close]
    Refusal (.toolCall "c" "" .null) .emptyToolName ∧
      w.send (.toolCall "c" "" .null) = .done (.error .emptyToolName) w ∧
      (w.runCalls pre).1.length = pre.length ∧
      (w.runCalls pre).2.send (.text "hello") =
        .done (.error (.partialWrite 3 10)) ((w.runCalls pre).2.send (.text "hello")).writer ∧
      w.runCalls (pre ++ .send (.text "hello") :: post) =
        ((w.runCalls pre).1 ++ .error (.partialWrite 3 10) :: post.map WriterCall.inactiveResult,
          ((w.runCalls pre).2.send (.text "hello")).writer) ∧
      3 < 10 ∧ 10 = (utf8 (Part.text "hello").line).length ∧
      ((w.runCalls (pre ++ .send (.text "hello") :: post)).2.isFailed = true ↔
        (firstTransportFailure (pre ++ .send (.text "hello") :: post)
          (w.runCalls (pre ++ .send (.text "hello") :: post)).1).isSome) := by
  intro w pre post
  have hrefusal : Refusal (.toolCall "c" "" .null) .emptyToolName :=
    .toolCallName "c" .null (by decide)
  have hpre : (w.runCalls pre).1.length = pre.length := rfl
  have hshort : (w.runCalls pre).2.send (.text "hello") =
      .done (.error (.partialWrite 3 10)) ((w.runCalls pre).2.send (.text "hello")).writer := rfl
  obtain ⟨-, hsend, -, hcut, hrun, -, hfailed, -, -⟩ := writer_refuses_then_freezes
  exact ⟨hrefusal, hsend w _ _ hrefusal, hpre, hshort,
    hrun w _ pre post (.text "hello") _ hpre hshort rfl,
    (hcut (w.runCalls pre).2 _ (.text "hello") 3 10 hshort).1,
    (hcut (w.runCalls pre).2 _ (.text "hello") 3 10 hshort).2,
    hfailed w (pre ++ .send (.text "hello") :: post) rfl⟩

end Writer

end ChatWire.Wire
