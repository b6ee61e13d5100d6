import ChatWire.Proofs.ToolView

open ChatWire.Wire ChatWire.Stream ChatWire.Tool ChatWire.Provider ChatWire.Text

namespace ChatWire.Wire

/-- How sending parts one after another ends. -/
inductive Delivery where
  /-- Every part was written whole and flushed. -/
  | delivered
  /-- A part was refused, or its write or flush failed, with this error. -/
  | failed (e : StreamError)
  /-- The token had fired before a part, which was not started. -/
  | cancelled
  /-- A write never completes. -/
  | stalled
deriving DecidableEq

namespace Writer

/-- Sends `parts` one after another, as a turn does: before each part it looks at the
    token, which has fired beforehand when `fired` or when the client asked to cancel;
    it stops at the first part that is not sent in full, or whose write never
    completes. -/
def deliver (w : Writer) (fired : Bool) : List Part → Delivery × Writer
  | [] => (.delivered, w)
  | p :: ps =>
    if fired || w.sink.cancelRequested then (.cancelled, w)
    else
      match w.send p with
      | .done (.ok ()) w' => w'.deliver fired ps
      | .done (.error e) w' => (.failed e, w')
      | .stalled w' => (.stalled, w')

@[simp] theorem deliver_nil (w : Writer) (fired : Bool) : w.deliver fired [] = (.delivered, w) :=
  rfl

/-- Delivering two lists is delivering the first, then, if it was all delivered, the
    second. -/
theorem deliver_append (w : Writer) (fired : Bool) (ps qs : List Part) :
    w.deliver fired (ps ++ qs) =
      match w.deliver fired ps with
      | (.delivered, w') => w'.deliver fired qs
      | other => other := by
  induction ps generalizing w with
  | nil => rfl
  | cons p ps ih =>
    simp only [List.cons_append, deliver]
    split
    · rfl
    · split <;> simp [ih]

theorem deliver_append_of_delivered {w : Writer} {fired : Bool} {ps : List Part}
    (h : (w.deliver fired ps).1 = .delivered) (qs : List Part) :
    w.deliver fired (ps ++ qs) = (w.deliver fired ps).2.deliver fired qs := by
  rw [deliver_append]
  rcases hd : w.deliver fired ps with ⟨outcome, w'⟩
  rw [hd] at h
  cases h
  rfl

theorem deliver_of_fired {w : Writer} {fired : Bool}
    (hf : (fired || w.sink.cancelRequested) = true) (ps : List Part) :
    w.deliver fired ps = (if ps = [] then .delivered else .cancelled, w) := by
  cases ps with
  | nil => rfl
  | cons p ps => simp [deliver, hf]

/-- What sending a part can come to: it goes through, its line stored and flushed on a
    connection that behaves as before, the writer open; or it does not, and the sink kept a
    prefix of the line. -/
theorem send_outcome (w : Writer) (p : Part) :
    (∃ s, w.send p = .done (.ok ()) ⟨s, .open⟩ ∧
      s.received = w.sink.received ++ utf8 p.line ∧ s.faults = w.sink.faults) ∨
    ((∀ w', w.send p ≠ .done (.ok ()) w') ∧
      ∃ b, (w.send p).writer.sink.received = w.sink.received ++ b ∧ b <+: utf8 p.line) := by
  cases hc : check p with
  | some e => exact .inr ⟨by simp [send_refused hc], [], by simp [send_refused hc, Sent.writer],
      List.nil_prefix⟩
  | none =>
    by_cases hw : w.state = .open
    · have hsend : w.send p = w.emit (utf8 p.line) := by simp [send, hc]
      rw [hsend]
      rcases emit_open hw (utf8 p.line) with
        ⟨s, _, h, rfl⟩ | ⟨s, e, h, rfl⟩ | ⟨s, k, _, _, h, rfl⟩ | ⟨s, e, _, h, rfl⟩ |
        h
      · exact .inl ⟨_, h, rfl, rfl⟩
      · exact .inr ⟨by simp [h], [], by simp [h, Sent.writer], List.nil_prefix⟩
      · exact .inr ⟨by simp [h], (utf8 p.line).take k, by simp [h, Sent.writer],
          List.take_prefix _ _⟩
      · exact .inr ⟨by simp [h], _, by simp [h, Sent.writer], List.prefix_refl _⟩
      · exact .inr ⟨by simp [h], [], by simp [h, Sent.writer], List.nil_prefix⟩
    · exact .inr ⟨by simp [send_inactive hc hw], [], by simp [send_inactive hc hw, Sent.writer],
        List.nil_prefix⟩

theorem deliver_received (w : Writer) (fired : Bool) (ps : List Part) :
    ∃ b, (w.deliver fired ps).2.sink.received = w.sink.received ++ b ∧ b <+: partBytes ps := by
  induction ps generalizing w with
  | nil => exact ⟨[], by simp, List.nil_prefix⟩
  | cons p ps ih =>
    by_cases hf : (fired || w.sink.cancelRequested) = true
    · exact ⟨[], by simp [deliver, hf], List.nil_prefix⟩
    rcases send_outcome w p with ⟨s, hsend, hs, -⟩ | ⟨hnot, b, hb, hpre⟩
    · obtain ⟨b, hb, hpre⟩ := ih ⟨s, .open⟩
      refine ⟨utf8 p.line ++ b, ?_, ?_⟩
      · simp [deliver, hf, hsend, hb, hs]
      · simpa using hpre
    · refine ⟨b, ?_, hpre.trans (by simp)⟩
      have hstop : (w.deliver fired (p :: ps)).2 = (w.send p).writer := by
        simp only [deliver, hf, Bool.false_eq_true, ↓reduceIte]
        split
        · rename_i w' h
          exact absurd h (hnot w')
        · rename_i e w' h
          simp [h, Sent.writer]
        · rename_i w' h
          simp [h, Sent.writer]
      rw [hstop, hb]

/-- Parts delivered in full from an open writer leave their lines on the sink and the
    writer open. -/
theorem deliver_delivered {w : Writer} (hw : w.state = .open) {fired : Bool} {ps : List Part}
    (h : (w.deliver fired ps).1 = .delivered) :
    (w.deliver fired ps).2.sink.received = w.sink.received ++ partBytes ps ∧
      (w.deliver fired ps).2.state = .open := by
  induction ps generalizing w with
  | nil => simpa using hw
  | cons p ps ih =>
    by_cases hf : (fired || w.sink.cancelRequested) = true
    · simp [deliver, hf] at h
    rcases send_outcome w p with ⟨s, hsend, hs, -⟩ | ⟨hnot, -⟩
    · simp only [deliver, hf, Bool.false_eq_true, ↓reduceIte, hsend] at h ⊢
      obtain ⟨hrec, hopen⟩ := ih rfl h
      exact ⟨by simp [hrec, hs], hopen⟩
    · simp only [deliver, hf, Bool.false_eq_true, ↓reduceIte] at h
      split at h
      · rename_i w' hsend
        exact absurd hsend (hnot w')
      · cases h
      · cases h

/-- A healthy connection whose client never asks to cancel takes every well-formed part:
    the lines are stored and flushed and the writer stays open. -/
theorem deliver_healthy {w : Writer} (hw : w.state = .open) (hf : w.sink.faults.Healthy)
    (hreq : w.sink.cancelRequested = false) {ps : List Part}
    (hps : ∀ p ∈ ps, check p = none) :
    (w.deliver false ps).1 = .delivered ∧ (w.deliver false ps).2.state = .open ∧
      (w.deliver false ps).2.sink.faults = w.sink.faults ∧
      (w.deliver false ps).2.sink.cancelRequested = false ∧
      (w.deliver false ps).2.sink.received = w.sink.received ++ partBytes ps := by
  induction ps generalizing w with
  | nil => simpa using ⟨hw, hreq⟩
  | cons p ps ih =>
    have hsend : w.send p = w.emit (utf8 p.line) := by
      simp [send, hps p (List.mem_cons_self ..)]
    obtain ⟨hdone, hopen, hfaults, hreq', hrec⟩ :=
      ih (w := ⟨{ w.sink with
          writes := w.sink.writes + 1, received := w.sink.received ++ utf8 p.line,
          flushAttempts := w.sink.flushAttempts + 1, flushes := w.sink.flushes + 1 }, .open⟩)
        rfl hf hreq
        (fun q hq => hps q (List.mem_cons_of_mem _ hq))
    simp only [deliver, hreq, Bool.or_false, Bool.false_eq_true, ↓reduceIte, hsend,
      emit_healthy hw hf] at hdone hopen hfaults hreq' hrec ⊢
    exact ⟨hdone, hopen, hfaults, hreq', by simp [hrec]⟩

theorem send_error_isFatal {w w' : Writer} {p : Part} {e : StreamError} (hc : check p = none)
    (h : w.send p = .done (.error e) w') : e.isFatal = true := by
  by_cases hw : w.state = .open
  · have hsend : w.send p = w.emit (utf8 p.line) := by simp [send, hc]
    rw [hsend] at h
    rcases emit_open hw (utf8 p.line) with
      ⟨_, _, h', -⟩ | ⟨_, _, h', -⟩ | ⟨_, _, _, _, h', -⟩ | ⟨_, _, _, h', -⟩ |
      h' <;>
      rw [h'] at h <;> cases h <;> rfl
  · rw [send_inactive hc hw] at h
    cases h
    rfl

end Writer

end ChatWire.Wire

namespace ChatWire.Turn

/-- How a step may halt when sending its parts ends in `outcome`, leaving the writer `w`,
    from a state whose token had fired beforehand when `fired` and whose timer is `timer`:
    with the error of the part that was not sent; with `cancelled` once the token has
    fired; at a write that never completes, by waiting, which the timer cuts short with
    `cancelled`. A step that `waits` once its parts are out halts the same way. -/
def Halts (fired timer waits : Bool) (w : Writer) : Delivery → Halt → Prop
  | .failed e, h => h = .failed (.stream e)
  | .cancelled, h => h = .failed .cancelled
  | .stalled, h => h = if timer then .failed .cancelled else .hung
  | .delivered, h => h = .failed .cancelled ∧ (fired || w.sink.cancelRequested) = true ∨
      waits = true ∧ h = if timer then .failed .cancelled else .hung

/-- Run from `r`, the step sends `parts` as `Writer.deliver` does: it leaves the writer
    that delivering leaves; it goes through only when every part was delivered, and then
    keeps the token and the timer and ends in a state that satisfies `post`; otherwise it
    halts as `Halts` says. A step that `waits` never goes through: it waits forever once
    its parts are out. -/
structure Delivers (m : ReplyM Unit) (r : Reply) (parts : List Part) (post : Reply → Prop)
    (waits : Bool := false) : Prop where
  writer : (m.exec r).2.writer = (r.writer.deliver r.cancelled parts).2
  ok : (m.exec r).1 = .ok () → (r.writer.deliver r.cancelled parts).1 = .delivered ∧
    (m.exec r).2.cancelled = r.cancelled ∧ (m.exec r).2.timer = r.timer ∧ post (m.exec r).2
  finishes : (m.exec r).1 = .ok () → waits = false
  halt : ∀ h, (m.exec r).1 = .error h →
    Halts r.cancelled r.timer waits (r.writer.deliver r.cancelled parts).2
      (r.writer.deliver r.cancelled parts).1 h

/-- A halt after the first parts is a halt after more: delivering stopped at the same
    writer, or, when all the first parts went out, the token had fired and stops the
    rest. -/
theorem Halts.append {fired timer waits : Bool} {w₀ : Writer} {ps : List Part} {h : Halt}
    (hh : Halts fired timer false (w₀.deliver fired ps).2 (w₀.deliver fired ps).1 h)
    (qs : List Part) :
    (w₀.deliver fired (ps ++ qs)).2 = (w₀.deliver fired ps).2 ∧
      Halts fired timer waits (w₀.deliver fired (ps ++ qs)).2
        (w₀.deliver fired (ps ++ qs)).1 h := by
  rw [Writer.deliver_append]
  rcases hd : w₀.deliver fired ps with ⟨outcome, w⟩
  rw [hd] at hh
  cases outcome with
  | delivered =>
    obtain ⟨rfl, hf⟩ : h = .failed .cancelled ∧ (fired || w.sink.cancelRequested) = true := by
      simpa [Halts] using hh
    simp only [Writer.deliver_of_fired hf]
    by_cases hq : qs = [] <;> simp [hq, Halts, hf]
  | failed e => exact ⟨rfl, hh⟩
  | cancelled => exact ⟨rfl, hh⟩
  | stalled => exact ⟨rfl, hh⟩

/-- Once a step has halted, parts that would have come after it change nothing on the
    connection, unless the step waits, and then none come. -/
theorem Halts.deliver_append {fired timer waits : Bool} {w₀ : Writer} {ps : List Part} {h : Halt}
    (hh : Halts fired timer waits (w₀.deliver fired ps).2 (w₀.deliver fired ps).1 h)
    {qs : List Part} (hq : waits = true → qs = []) :
    (w₀.deliver fired (ps ++ qs)).2 = (w₀.deliver fired ps).2 := by
  cases waits with
  | false => exact (@Halts.append fired timer false w₀ ps h hh qs).1
  | true => simp [hq rfl]

namespace Delivers

variable {m k : ReplyM Unit} {r : Reply} {ps qs : List Part} {P Q : Reply → Prop} {w : Bool}

theorem pure (h : P r) : Delivers (pure ()) r [] P where
  writer := rfl
  ok _ := ⟨rfl, rfl, rfl, h⟩
  finishes _ := rfl
  halt _ hh := by simp at hh

theorem mono (hm : Delivers m r ps P w) (hPQ : ∀ r', P r' → Q r') : Delivers m r ps Q w where
  writer := hm.writer
  ok hok := by
    obtain ⟨hd, hc, ht, hP⟩ := hm.ok hok
    exact ⟨hd, hc, ht, hPQ _ hP⟩
  finishes := hm.finishes
  halt := hm.halt

theorem of_exec_eq {m' : ReplyM Unit} (he : m.exec r = m'.exec r) (h : Delivers m' r ps P w) :
    Delivers m r ps P w := by
  obtain ⟨hw, hok, hfin, hh⟩ := h
  exact ⟨he ▸ hw, he ▸ hok, he ▸ hfin, he ▸ hh⟩

/-- Two steps in sequence send the parts of the first, then those of the second; a halt
    in the first is a halt of the sequence. -/
theorem bind (hm : Delivers m r ps P) (hk : ∀ r', P r' → Delivers k r' qs Q w) :
    Delivers (m >>= fun _ => k) r (ps ++ qs) Q w := by
  rcases hrun : m.exec r with ⟨_ | _, r₁⟩
  · rename_i h
    have hstep : (m >>= fun _ => k).exec r = (.error h, r₁) := by simp [hrun]
    have hw₁ : r₁.writer = (r.writer.deliver r.cancelled ps).2 := by
      simpa [hrun] using hm.writer
    obtain ⟨hsame, hhalt⟩ := (hm.halt h (by simp [hrun])).append qs
    refine ⟨by rw [hstep, hsame, hw₁], fun hok => by simp [hstep] at hok,
      fun hok => by simp [hstep] at hok, fun h' hh => ?_⟩
    rw [hstep] at hh
    cases hh
    exact hhalt
  · have hstep : (m >>= fun _ => k).exec r = k.exec r₁ := by simp [hrun]
    obtain ⟨hdone, hc, ht, hP⟩ := hm.ok (by simp [hrun])
    rw [hrun] at hc ht hP
    have hw₁ : r₁.writer = (r.writer.deliver r.cancelled ps).2 := by
      simpa [hrun] using hm.writer
    have hcont :
        r.writer.deliver r.cancelled (ps ++ qs) = r₁.writer.deliver r₁.cancelled qs := by
      rw [Writer.deliver_append_of_delivered hdone, hw₁, hc]
    obtain ⟨hw, hok, hfin, hh⟩ := hk r₁ hP
    refine ⟨by rw [hstep, hcont, hw], fun hok' => ?_, fun hok' => ?_, fun h hh' => ?_⟩
    · rw [hstep] at hok' ⊢
      obtain ⟨hd', hc', ht', hQ⟩ := hok hok'
      exact ⟨hcont ▸ hd', hc'.trans hc, ht'.trans ht, hQ⟩
    · rw [hstep] at hok'
      exact hfin hok'
    · rw [hstep] at hh'
      rw [hcont, ← hc, ← ht]
      exact hh h hh'

theorem get_bind {k : Reply → ReplyM Unit} (h : Delivers (k r) r ps P w) :
    Delivers (get >>= k) r ps P w :=
  of_exec_eq (by simp) h

theorem modify_bind {f : Reply → Reply} (hw : (f r).writer = r.writer)
    (hc : (f r).cancelled = r.cancelled) (ht : (f r).timer = r.timer)
    (h : Delivers k (f r) ps P w) : Delivers (modify f >>= fun _ => k) r ps P w := by
  have hstep : (modify f >>= fun _ => k).exec r = k.exec (f r) := by simp
  obtain ⟨hwr, hok, hfin, hh⟩ := h
  rw [hw, hc] at hwr hok hh
  rw [ht] at hh
  refine ⟨by rw [hstep, hwr], fun hok' => ?_, fun hok' => hfin (hstep ▸ hok'),
    fun h' hh' => ?_⟩
  · rw [hstep] at hok' ⊢
    obtain ⟨hd, hc', ht', hP⟩ := hok hok'
    exact ⟨hd, hc', ht'.trans ht, hP⟩
  · rw [hstep] at hh'
    exact hh h' hh'

theorem putToolStream_bind {i : Nat} {s : ToolStream}
    (h : Delivers k (r.setToolStream i s) ps P w) :
    Delivers (putToolStream i s >>= fun _ => k) r ps P w :=
  modify_bind rfl rfl rfl h

theorem modify_alone {f : Reply → Reply} (hw : (f r).writer = r.writer)
    (hc : (f r).cancelled = r.cancelled) (ht : (f r).timer = r.timer) (h : P (f r)) :
    Delivers (modify f) r [] P := by
  have hstep : (modify f : ReplyM Unit).exec r =
      (modify f >>= fun _ => Pure.pure () : ReplyM Unit).exec r := by simp
  exact of_exec_eq hstep (modify_bind hw hc ht (Delivers.pure h))

/-- A step that halts, leaving the writer that delivering leaves, delivers when the halt is
    one that `Halts` allows. -/
theorem of_halt {h : Halt} {r' : Reply} (hrun : m.exec r = (.error h, r'))
    (hw : r'.writer = (r.writer.deliver r.cancelled ps).2)
    (hh : Halts r.cancelled r.timer w (r.writer.deliver r.cancelled ps).2
      (r.writer.deliver r.cancelled ps).1 h) :
    Delivers m r ps P w := by
  refine ⟨by rw [hrun]; exact hw, fun hok => by simp [hrun] at hok,
    fun hok => by simp [hrun] at hok, fun h' hh' => ?_⟩
  rw [hrun] at hh'
  cases hh'
  exact hh

/-- Once the token has fired, a step that halts with `cancelled` and changes nothing
    delivers as any parts would. -/
theorem of_fired (hf : r.isCancelled = true) (hrun : m.exec r = (.error (.failed .cancelled), r)) :
    Delivers m r ps P w := by
  have hf' : (r.cancelled || r.writer.sink.cancelRequested) = true := by
    simpa [Reply.isCancelled] using hf
  refine of_halt hrun (by rw [Writer.deliver_of_fired hf']) ?_
  rw [Writer.deliver_of_fired hf']
  by_cases hps : ps = [] <;> simp [hps, Halts, hf']

theorem checkCancelled_bind (h : Delivers k r ps P w) :
    Delivers (checkCancelled >>= fun _ => k) r ps P w := by
  cases hc : r.isCancelled with
  | false => exact of_exec_eq (by simp [checkCancelled_exec_of_live hc]) h
  | true => exact of_fired hc (by simp [checkCancelled_exec_of_fired hc])

end Delivers

theorem guarded_delivers (r : Reply) {p : Part} (hc : Writer.check p = none) :
    Delivers (guarded p) r [p] r.SameTurn := by
  by_cases hcan : r.isCancelled = true
  · exact Delivers.of_fired hcan (guarded_exec_of_fired hcan)
  have hf : (r.cancelled || r.writer.sink.cancelRequested) = false := by
    simpa [Reply.isCancelled] using hcan
  have hcan' : r.isCancelled = false := by simpa using hcan
  rcases hsend : r.writer.send p with ⟨_ | _, w⟩ | w
  · rename_i e
    have hrun := guarded_exec_of_failed hcan' hsend (Writer.send_error_isFatal hc hsend)
    refine Delivers.of_halt hrun ?_ ?_ <;> simp [Writer.deliver, hf, hsend, Halts]
  · have hrun := guarded_exec_of_sent hcan' hsend
    refine ⟨by simp [hrun, Writer.deliver, hf, hsend], fun _ => ?_, fun _ => rfl, fun h hh => by
      simp [hrun] at hh⟩
    simp [hrun, Writer.deliver, hf, hsend, Reply.SameTurn]
  · have hrun := (guarded_exec_of_stalled hcan' hsend).trans (block_exec _)
    refine Delivers.of_halt hrun ?_ ?_ <;> simp [Writer.deliver, hf, hsend, Halts]

/-- Waiting for something that never comes sends nothing, and halts as a step that waits:
    the timer cancels the turn, or the reply hangs. -/
theorem block_delivers (r : Reply) (P : Reply → Prop) : Delivers block r [] P true :=
  Delivers.of_halt (block_exec r) rfl (by simp [Halts])

theorem Delivers.guarded_bind {k : ReplyM Unit} {r : Reply} {p : Part} {qs : List Part}
    {Q : Reply → Prop} (hc : Writer.check p = none)
    {w : Bool} (hk : ∀ r', r.SameTurn r' → Delivers k r' qs Q w) :
    Delivers (guarded p >>= fun _ => k) r (p :: qs) Q w :=
  Delivers.bind (guarded_delivers r hc) hk

/-- A step that sends well-formed parts as `Writer.deliver` does meets the weaker `Emits`
    from an open writer. -/
theorem Delivers.emits {m : ReplyM Unit} {r : Reply} {ps : List Part} {P : Reply → Prop}
    (h : Delivers m r ps P) (hw : r.writer.state = .open)
    (hps : ∀ p ∈ ps, Writer.check p = none) : Emits m r ps P := by
  refine ⟨?_, fun hok => ?_, fun hh => ?_⟩
  · obtain ⟨b, hb, hpre⟩ := Writer.deliver_received r.writer r.cancelled ps
    exact ⟨b, by rw [h.writer, hb], hpre⟩
  · obtain ⟨hdone, -, -, hP⟩ := h.ok hok
    obtain ⟨hrec, hopen⟩ := Writer.deliver_delivered hw hdone
    exact ⟨by rw [h.writer, hrec], by rw [h.writer, hopen], hP⟩
  · obtain ⟨hdone, hopen, hfaults, hreq, -⟩ :=
      Writer.deliver_healthy hh.writerOpen hh.sink hh.notRequested hps
    have hcan := hh.notCancelled
    have hok : (m.exec r).1 = .ok () := by
      rcases hrun : (m.exec r).1 with e | _
      · have hhalt := h.halt e hrun
        rw [hcan, hdone] at hhalt
        simp [Halts, hreq] at hhalt
      · rfl
    obtain ⟨-, hc, -, -⟩ := h.ok hok
    refine ⟨hok, ?_, ?_, ?_, ?_⟩
    · rw [h.writer, hcan]
      exact hopen
    · rw [h.writer, hcan, hfaults]
      exact hh.sink
    · rw [h.writer, hcan]
      exact hreq
    · rw [hc]
      exact hh.notCancelled

theorem forM_guarded_delivers {ps : List Part} (hps : ∀ p ∈ ps, Writer.check p = none) :
    ∀ r : Reply, Delivers (ps.forM guarded) r ps r.SameTurn := by
  induction ps with
  | nil => exact fun r => Delivers.pure (Reply.SameTurn.refl r)
  | cons p ps ih =>
    intro r
    simp only [List.forM_eq_forM, List.forM_cons]
    refine Delivers.guarded_bind (hps p List.mem_cons_self) fun r₁ hs₁ => ?_
    exact (ih (fun q hq => hps q (List.mem_cons_of_mem _ hq)) r₁).mono fun _ h => hs₁.trans h

/-- Passing one fragment on sends the parts `fragmentParts` gives for it and keeps the
    reply tracking the fragments. -/
theorem forwardToolDelta_delivers {r : Reply} {seen : List RawToolCallDelta}
    (ht : r.Tracks seen) (d : RawToolCallDelta) :
    Delivers (forwardToolDelta (normalize d)) r (fragmentParts (fragmentsAt d.index seen) d)
      (·.Tracks (seen ++ [d])) := by
  rw [forwardToolDelta_eq]
  refine Delivers.get_bind ?_
  simp only [Stream.normalize, ht d.index]
  have hparts := ToolStream.partsFor_ofFragments (fragmentsAt d.index seen) d
  have hview := ToolStream.advance_ofFragments (fragmentsAt d.index seen) d
  simp only [Stream.normalize] at hparts hview
  rw [hparts, hview]
  refine Delivers.putToolStream_bind ((forM_guarded_delivers ?_ _).mono fun r' h' =>
    (ht.setToolStream d).of_toolStreams_eq h'.toolStreams)
  rw [← hparts]
  exact ToolStream.check_partsFor (ToolStream.wellFormed_ofFragments _) _

end ChatWire.Turn
