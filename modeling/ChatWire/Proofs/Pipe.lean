import ChatWire.Stream.Pipe

namespace ChatWire.Stream

open ChatWire.Provider

namespace Producer

/-- The chunks the task still sends if nothing stops it. -/
def pending (ending : StreamEnd) : Producer → List Chunk
  | .reading p items => (accumulateFrom p ending items).chunks
  | .sending c next => c :: pending ending next
  | .stopped => []

/-- How the channel ends after those chunks, if nothing stops the task. -/
def pendingEnd (ending : StreamEnd) : Producer → ChannelEnd
  | .reading p items => (accumulateFrom p ending items).ending
  | .sending _ next => pendingEnd ending next
  | .stopped => .closed

theorem pending_afterRead (ending : StreamEnd) (p : Progress)
    (items : List (Except ProviderError ProviderEvent)) :
    (afterRead ending p items).pending ending = (accumulateFrom p ending items).chunks ∧
      (afterRead ending p items).pendingEnd ending = (accumulateFrom p ending items).ending := by
  match items with
  | [] => cases ending <;> exact ⟨rfl, rfl⟩
  | .error _ :: _ => exact ⟨rfl, rfl⟩
  | .ok e :: rest =>
    rcases h : step p e with ⟨_ | c, p'⟩ <;>
      simp [afterRead, accumulateFrom, h, pending, pendingEnd]

end Producer

/-- The chunks of a channel stop at a terminal chunk: none follows it, and the channel
    closes after it. -/
def EndsAtTerminal (r : Chunks) : Prop :=
  ∀ xs c ys, r.chunks = xs ++ c :: ys → c.done → ys = [] ∧ r.ending = .closed

theorem endsAtTerminal_nil (e : ChannelEnd) : EndsAtTerminal ⟨[], e⟩ := by
  intro xs c ys h
  simp at h

theorem endsAtTerminal_single (c : Chunk) : EndsAtTerminal ⟨[c], .closed⟩ := by
  intro xs c' ys h _
  have hlen := congrArg List.length h
  simp only [List.length_append, List.length_cons, List.length_nil] at hlen
  exact ⟨List.eq_nil_of_length_eq_zero (by omega), rfl⟩

theorem EndsAtTerminal.cons {d : Chunk} {r : Chunks} (hd : d.done = false)
    (hr : EndsAtTerminal r) : EndsAtTerminal ⟨d :: r.chunks, r.ending⟩ := by
  intro xs c ys h hc
  cases xs with
  | nil =>
    obtain ⟨rfl, -⟩ := List.cons.inj h
    simp [hd] at hc
  | cons x xs => exact hr xs c ys (List.cons.inj h).2 hc

theorem step_done {p p' : Progress} {e : ProviderEvent} {c : Chunk}
    (h : step p e = (some c, p')) : c.done = false := by
  simp only [step] at h
  split at h
  · cases h
  · cases h
    rfl

theorem endsAtTerminal_accumulateFrom (p : Progress) (ending : StreamEnd)
    (items : List (Except ProviderError ProviderEvent)) :
    EndsAtTerminal (accumulateFrom p ending items) := by
  induction items generalizing p with
  | nil =>
    cases ending
    · exact endsAtTerminal_single _
    · exact endsAtTerminal_nil _
    · exact endsAtTerminal_nil _
  | cons item rest ih =>
    cases item with
    | error _ => exact endsAtTerminal_single _
    | ok e =>
      rcases h : step p e with ⟨_ | c, p'⟩
      · simpa [accumulateFrom, h] using ih p'
      · simpa [accumulateFrom, h] using (ih p').cons (step_done h)

theorem endsAtTerminal_accumulate (stream : EventStream) (cancelled : Bool) :
    EndsAtTerminal (accumulate stream cancelled) := by
  unfold accumulate
  split
  · exact endsAtTerminal_nil _
  · exact endsAtTerminal_accumulateFrom _ _ _

namespace Consumer

/-- Whether the orchestrator is done with the channel: it has returned, or it handles the
    terminal chunk. -/
def finished : Consumer → Bool
  | .receiving => false
  | .handling c _ => c.done
  | .stopped => true

end Consumer

namespace Pipe

/-- A step of the accumulator task waits, returns when the token has fired or the
    orchestrator has returned, reads an item, or sends a chunk. -/
theorem produce_cases (s : Pipe) :
    s.produce = s ∨
    ((s.cancelled = true ∨
        ∃ c next, s.producer = .sending c next ∧ s.consumer.isStopped = true) ∧
      s.produce = { s with producer := .stopped }) ∨
    (∃ p items, s.producer = .reading p items ∧ s.cancelled = false ∧
      s.produce = { s with producer := Producer.afterRead s.ending p items }) ∨
    (∃ c next, s.producer = .sending c next ∧ s.cancelled = false ∧
      s.consumer.isStopped = false ∧
      s.produce = { s with producer := next, queue := s.queue ++ [c] }) := by
  unfold produce
  split
  · exact .inl rfl
  · rename_i p items hp
    cases hc : s.cancelled
    · exact .inr (.inr (.inl ⟨p, items, hp, rfl, by simp⟩))
    · exact .inr (.inl ⟨.inl rfl, by simp⟩)
  · rename_i c next hp
    cases hc : s.cancelled <;> cases hs : s.consumer.isStopped
    · by_cases hroom : s.queue.length < s.bound
      · exact .inr (.inr (.inr ⟨c, next, hp, rfl, rfl, by simp [hroom]⟩))
      · exact .inl (by simp [hroom])
    · exact .inr (.inl ⟨.inr ⟨c, next, hp, rfl⟩, by simp⟩)
    all_goals exact .inr (.inl ⟨.inl rfl, by simp⟩)

/-- A step of the orchestrator waits, receives a chunk, or changes only where it stands;
    it is done with the channel afterwards only if it was already, or the token has fired,
    its write failed, or the channel has closed empty. -/
theorem consume_cases (ok : Bool) (s : Pipe) :
    s.consume ok = s ∨
    (∃ c rest, s.consumer = .receiving ∧ s.cancelled = false ∧ s.queue = c :: rest ∧
      s.consume ok =
        { s with queue := rest, received := s.received ++ [c],
                 consumer := .handling c (s.work c) }) ∨
    (∃ k, s.consume ok = { s with consumer := k } ∧
      (k.finished → s.consumer.finished ∨ s.cancelled ∨ ok = false ∨
        (s.queue = [] ∧ s.producer.isStopped))) := by
  unfold consume
  split
  · exact .inl rfl
  · rename_i hk
    cases hc : s.cancelled
    · cases hq : s.queue with
      | cons c rest => exact .inr (.inl ⟨c, rest, hk, rfl, rfl, rfl⟩)
      | nil =>
        cases hp : s.producer.isStopped
        · exact .inl (by simp)
        · exact .inr (.inr ⟨.stopped, by simp, fun _ => by simp⟩)
    · exact .inr (.inr ⟨.stopped, by simp, fun _ => by simp⟩)
  · rename_i c hk
    refine .inr (.inr ⟨if c.done then .stopped else .receiving, rfl, fun hf => .inl ?_⟩)
    cases hd : c.done <;> simp_all [Consumer.finished]
  · rename_i c left hk
    cases hc : s.cancelled
    · cases ok
      · exact .inr (.inr ⟨.stopped, by simp, fun _ => .inr (.inr (.inl rfl))⟩)
      · exact .inr (.inr ⟨.handling c left, by simp,
          fun hf => .inl (by simpa [hk, Consumer.finished] using hf)⟩)
    · exact .inr (.inr ⟨.stopped, by simp, fun _ => .inr (.inl rfl)⟩)

theorem consume_stopped {s : Pipe} (h : s.consumer.isStopped = true) (ok : Bool) :
    s.consume ok = s := by
  unfold consume
  split <;> simp_all [Consumer.isStopped]

@[simp] theorem run_nil (s : Pipe) : s.run [] = s := rfl

@[simp] theorem run_cons (s : Pipe) (a : Action) (acts : List Action) :
    s.run (a :: acts) = (s.step a).run acts := rfl

theorem run_append (s : Pipe) (acts more : List Action) :
    s.run (acts ++ more) = (s.run acts).run more := by
  induction acts generalizing s with
  | nil => rfl
  | cons a acts ih => exact ih (s.step a)

theorem run_invariant (P : Pipe → Prop) (allowed : Action → Prop)
    (hstep : ∀ s a, allowed a → P s → P (s.step a)) :
    ∀ (acts : List Action) (s : Pipe), (∀ a ∈ acts, allowed a) → P s → P (s.run acts)
  | [], _, _, h => h
  | a :: acts, s, hacts, h =>
    run_invariant P allowed hstep acts (s.step a)
      (fun b hb => hacts b (List.mem_cons_of_mem a hb))
      (hstep s a (hacts a List.mem_cons_self) h)

/-- The chunks received, those in the channel and those the task still sends, in this
    order, begin the reference. -/
def InOrder (reference : List Chunk) (s : Pipe) : Prop :=
  s.received ++ s.queue ++ s.producer.pending s.ending <+: reference

theorem inOrder_start (stream : EventStream) (capacity : Nat) (work : Chunk → Nat)
    (cancelled : Bool) :
    (start stream capacity work cancelled).InOrder (accumulate stream).chunks := by
  simp [InOrder, start, Producer.pending, accumulate]

theorem InOrder.produce {reference : List Chunk} {s : Pipe} (h : s.InOrder reference) :
    s.produce.InOrder reference := by
  rcases produce_cases s with
    hs | ⟨-, hs⟩ | ⟨p, items, hp, -, hs⟩ | ⟨c, next, hp, -, -, hs⟩ <;>
    rw [hs]
  · exact h
  · simpa [InOrder, Producer.pending] using (List.prefix_append _ _).trans h
  · simpa [InOrder, hp, Producer.pending, (Producer.pending_afterRead s.ending p items).1] using h
  · simpa [InOrder, hp, Producer.pending] using h

theorem InOrder.consume {reference : List Chunk} {s : Pipe} (h : s.InOrder reference)
    (ok : Bool) : (s.consume ok).InOrder reference := by
  rcases consume_cases ok s with hs | ⟨c, rest, -, -, hq, hs⟩ | ⟨k, hs, -⟩ <;> rw [hs]
  · exact h
  · simpa [InOrder, hq] using h
  · exact h

theorem InOrder.step {reference : List Chunk} {s : Pipe} (h : s.InOrder reference)
    (a : Action) : (s.step a).InOrder reference := by
  cases a with
  | produce => exact h.produce
  | consume ok => exact h.consume ok
  | cancel => exact h

/-- Whatever the capacity, the handling costs, the interleaving and the moments the token
    fires, the orchestrator receives a prefix of the chunks `accumulate` gives. -/
theorem received_starts_reference (stream : EventStream) (capacity : Nat) (work : Chunk → Nat)
    (cancelled : Bool) (acts : List Action) :
    ((start stream capacity work cancelled).run acts).received <+: (accumulate stream).chunks := by
  have h := run_invariant (InOrder (accumulate stream).chunks) (fun _ => True)
    (fun _ a _ h => h.step a) acts _ (fun _ _ => trivial)
    (inOrder_start stream capacity work cancelled)
  exact (List.prefix_append _ _).trans ((List.prefix_append _ _).trans h)

/-- Whether the token has fired or the orchestrator has returned, dropping its receiver. -/
def Interrupted (s : Pipe) : Prop :=
  s.cancelled = true ∨ s.consumer.isStopped = true

/-- Once the turn is interrupted, a step sends nothing, receives nothing, and leaves it
    interrupted. -/
theorem Interrupted.step {s : Pipe} (h : s.Interrupted) (a : Action) :
    (s.step a).queue = s.queue ∧ (s.step a).received = s.received ∧ (s.step a).Interrupted := by
  cases a with
  | produce =>
    rcases produce_cases s with hs | ⟨-, hs⟩ | ⟨p, items, -, -, hs⟩ |
      ⟨c, next, -, hc, hstop, -⟩
    · rw [Pipe.step, hs]; exact ⟨rfl, rfl, h⟩
    · rw [Pipe.step, hs]; exact ⟨rfl, rfl, h⟩
    · rw [Pipe.step, hs]; exact ⟨rfl, rfl, h⟩
    · simp [Interrupted, hc, hstop] at h
  | consume ok =>
    rcases h with hc | hstop
    · rcases consume_cases ok s with hs | ⟨c, rest, -, hc', -, -⟩ | ⟨k, hs, -⟩
      · rw [Pipe.step, hs]; exact ⟨rfl, rfl, .inl hc⟩
      · simp [hc] at hc'
      · rw [Pipe.step, hs]; exact ⟨rfl, rfl, .inl hc⟩
    · have hs := consume_stopped hstop ok
      rw [Pipe.step, hs]; exact ⟨rfl, rfl, .inr hstop⟩
  | cancel => exact ⟨rfl, rfl, .inl rfl⟩

/-- From the moment the token fires or the orchestrator returns, whatever follows, the
    accumulator task sends no chunk and the channel stays as it is. -/
theorem Interrupted.run {s : Pipe} (h : s.Interrupted) (acts : List Action) :
    (s.run acts).queue = s.queue ∧ (s.run acts).received = s.received := by
  induction acts generalizing s with
  | nil => exact ⟨rfl, rfl⟩
  | cons a acts ih =>
    obtain ⟨hq, hr, h'⟩ := h.step a
    obtain ⟨hq', hr'⟩ := ih h'
    exact ⟨hq'.trans hq, hr'.trans hr⟩

namespace Action

/-- Whether a schedule entry neither fires the token nor fails a write. -/
def quiet : Action → Bool
  | .produce => true
  | .consume ok => ok
  | .cancel => false

end Action

/-- How a turn stands when nothing interrupts it: the chunks received, in the channel and
    still to be sent are the whole reference, the channel will end as the reference
    does, and once the orchestrator is done with the channel nothing is left and the
    reference closes. -/
structure Conserves (reference : Chunks) (s : Pipe) : Prop where
  whole : s.received ++ s.queue ++ s.producer.pending s.ending = reference.chunks
  ending : s.producer.pendingEnd s.ending = reference.ending
  drained : s.consumer.finished →
    s.queue = [] ∧ s.producer.pending s.ending = [] ∧ reference.ending = .closed
  uncancelled : s.cancelled = false

theorem conserves_start (stream : EventStream) (capacity : Nat) (work : Chunk → Nat) :
    (start stream capacity work false).Conserves (accumulate stream) where
  whole := by simp [start, Producer.pending, accumulate]
  ending := by simp [start, Producer.pendingEnd, accumulate]
  drained := by simp [start, Consumer.finished]
  uncancelled := rfl

section Conserves

variable {reference : Chunks} {s : Pipe}

theorem Conserves.produce (h : s.Conserves reference) :
    s.produce.Conserves reference := by
  rcases produce_cases s with hs | ⟨habort, hs⟩ | ⟨p, items, hp, -, hs⟩ |
    ⟨c, next, hp, -, hstop, hs⟩ <;> rw [hs]
  · exact h
  · rcases habort with hc | ⟨c, next, hp, hstop⟩
    · simp [h.uncancelled] at hc
    · have hleft := (h.drained (by cases hk : s.consumer <;> simp_all [Consumer.isStopped,
        Consumer.finished])).2.1
      simp [hp, Producer.pending] at hleft
  · have hread := Producer.pending_afterRead s.ending p items
    refine ⟨?_, ?_, ?_, h.uncancelled⟩
    · simpa [hp, Producer.pending, hread.1] using h.whole
    · simpa [hp, Producer.pendingEnd, hread.2] using h.ending
    · simpa [hp, Producer.pending, hread.1] using h.drained
  · have hnotdone : s.consumer.finished = false := by
      cases hf : s.consumer.finished
      · rfl
      · have hleft := (h.drained hf).2.1
        simp [hp, Producer.pending] at hleft
    refine ⟨?_, ?_, fun hf => absurd hf (by simp [hnotdone]), h.uncancelled⟩
    · simpa [hp, Producer.pending] using h.whole
    · simpa [hp, Producer.pendingEnd] using h.ending

theorem Conserves.consume (hr : EndsAtTerminal reference) (h : s.Conserves reference) :
    (s.consume true).Conserves reference := by
  rcases consume_cases true s with hs | ⟨c, rest, -, -, hq, hs⟩ | ⟨k, hs, hk⟩ <;> rw [hs]
  · exact h
  · have hwhole : reference.chunks = s.received ++ c :: (rest ++ s.producer.pending s.ending) := by
      simpa [hq] using h.whole.symm
    refine ⟨by simpa [hq] using h.whole, h.ending, fun hf => ?_, h.uncancelled⟩
    obtain ⟨hnil, hclosed⟩ := hr _ c _ hwhole hf
    exact ⟨(List.append_eq_nil_iff.1 hnil).1, (List.append_eq_nil_iff.1 hnil).2, hclosed⟩
  · refine ⟨h.whole, h.ending, fun hf => ?_, h.uncancelled⟩
    rcases hk hf with hold | hc | hok | ⟨hq, hstopped⟩
    · exact h.drained hold
    · simp [h.uncancelled] at hc
    · cases hok
    · have hp : s.producer = .stopped := by
        cases hpr : s.producer <;> simp_all [Producer.isStopped]
      have hend := h.ending
      simp only [hp, Producer.pendingEnd] at hend
      exact ⟨hq, by simp [hp, Producer.pending], hend.symm⟩

theorem Conserves.step (hr : EndsAtTerminal reference) (h : s.Conserves reference)
    {a : Action} (ha : a.quiet) : (s.step a).Conserves reference := by
  cases a with
  | produce => exact h.produce
  | consume ok =>
    obtain rfl : ok = true := ha
    exact h.consume hr
  | cancel => cases ha

end Conserves

/-- Neither task can move: each waits or has returned. -/
def Settled (s : Pipe) : Prop :=
  s.produce = s ∧ s.consume true = s

/-- A settled turn that nothing interrupted handed the orchestrator the whole reference:
    all its chunks, and then its end. -/
theorem Conserves.observed_of_settled {reference : Chunks} {s : Pipe}
    (h : s.Conserves reference) (hs : s.Settled) : s.observed = reference := by
  obtain ⟨hprod, hcons⟩ := hs
  cases hk : s.consumer with
  | stopped =>
    obtain ⟨hq, hp, hend⟩ := h.drained (by simp [hk, Consumer.finished])
    have hwhole := h.whole
    rw [hq, hp] at hwhole
    simp only [List.append_nil] at hwhole
    cases reference
    simp_all [observed, Consumer.isStopped]
  | handling c left =>
    have hmove := congrArg Pipe.consumer hcons
    cases left <;> cases hd : c.done <;> simp [Pipe.consume, hk, hd, h.uncancelled] at hmove
  | receiving =>
    have hq : s.queue = [] := by
      cases hq : s.queue with
      | nil => rfl
      | cons c rest =>
        have hmove := congrArg Pipe.consumer hcons
        simp [Pipe.consume, hk, hq, h.uncancelled] at hmove
    have hrun : s.producer.isStopped = false := by
      cases hpr : s.producer.isStopped
      · rfl
      · have hmove := congrArg Pipe.consumer hcons
        simp [Pipe.consume, hk, hq, hpr, h.uncancelled] at hmove
    have hwait :
        s.producer.pending s.ending = [] ∧ s.producer.pendingEnd s.ending = .blocked := by
      have hstay := congrArg Pipe.producer hprod
      cases hpr : s.producer with
      | stopped => simp [hpr, Producer.isStopped] at hrun
      | sending c next =>
        have hbound : 0 < s.bound := by
          simp only [bound]
          omega
        have hsent := congrArg Pipe.queue hprod
        simp [Pipe.produce, hpr, h.uncancelled, hk, Consumer.isStopped, hq, hbound] at hsent
      | reading p items =>
        simp only [Pipe.produce, hpr, h.uncancelled, Bool.false_eq_true, if_false] at hstay
        cases items with
        | cons item rest =>
          cases item with
          | error _ => simp [Producer.afterRead] at hstay
          | ok e =>
            rcases he : Stream.step p e with ⟨_ | c, p'⟩ <;>
              simp [Producer.afterRead, he] at hstay
        | nil =>
          cases hend : s.ending <;> simp [Producer.afterRead, hend] at hstay
          simp [Producer.pending, Producer.pendingEnd, accumulateFrom]
    have hwhole := h.whole
    rw [hq, hwait.1] at hwhole
    have hend := h.ending
    rw [hwait.2] at hend
    cases reference
    simp_all [observed, Consumer.isStopped]

/-- What the orchestrator still does for chunks it has not received: receive each, make
    its writes and tool calls, and finish with it. -/
def load (work : Chunk → Nat) : List Chunk → Nat
  | [] => 0
  | c :: rest => work c + 3 + load work rest

theorem load_append (work : Chunk → Nat) (l₁ l₂ : List Chunk) :
    load work (l₁ ++ l₂) = load work l₁ + load work l₂ := by
  induction l₁ with
  | nil => simp [load]
  | cons c l₁ ih =>
    simp only [List.cons_append, load, ih]
    omega

end Pipe

namespace Producer

/-- How many steps the task can still take that change where it stands. -/
def steps : Producer → Nat
  | .reading _ items => 2 * items.length + 2
  | .sending _ next => steps next + 1
  | .stopped => 0

/-- Reading an item leaves the task where it was, on a stalled stream, or brings it
    closer to its end. -/
theorem afterRead_steps (ending : StreamEnd) (p : Progress)
    (items : List (Except ProviderError ProviderEvent)) :
    afterRead ending p items = .reading p items ∨
      (afterRead ending p items).steps < (Producer.reading p items).steps := by
  match items with
  | [] => cases ending <;> simp [afterRead, steps]
  | .error _ :: _ => simp [afterRead, steps]
  | .ok e :: rest =>
    right
    rcases h : step p e with ⟨_ | c, p'⟩ <;> simp [afterRead, h, steps]
    omega

end Producer

namespace Consumer

/-- How many steps the orchestrator can still take for the chunk it holds. -/
def steps : Consumer → Nat
  | .receiving => 1
  | .handling _ left => left + 2
  | .stopped => 0

end Consumer

namespace Pipe

/-- How many steps of the two tasks can still change the turn. -/
def steps (s : Pipe) : Nat :=
  s.producer.steps + s.consumer.steps + load s.work (s.queue ++ s.producer.pending s.ending)

theorem produce_steps (s : Pipe) : s.produce = s ∨ s.produce.steps < s.steps := by
  rcases produce_cases s with hs | ⟨-, hs⟩ | ⟨p, items, hp, -, hs⟩ |
    ⟨c, next, hp, -, -, hs⟩
  · exact .inl hs
  · rw [hs]
    cases hpr : s.producer with
    | stopped => exact .inl (by rw [← hpr])
    | reading p items =>
      right
      simp [steps, hpr, Producer.steps, Producer.pending, load_append]
      omega
    | sending c next =>
      right
      simp [steps, hpr, Producer.steps, Producer.pending, load_append]
      omega
  · rw [hs]
    rcases Producer.afterRead_steps s.ending p items with hsame | hless
    · exact .inl (by rw [hsame, ← hp])
    · right
      simp only [steps, hp, (Producer.pending_afterRead s.ending p items).1, Producer.pending]
      omega
  · right
    rw [hs]
    simp [steps, hp, Producer.steps, Producer.pending, load_append, load]

theorem consume_steps (ok : Bool) (s : Pipe) :
    s.consume ok = s ∨ (s.consume ok).steps < s.steps := by
  unfold consume
  split
  · exact .inl rfl
  · rename_i hk
    by_cases hc : s.cancelled
    · right
      simp [steps, hk, hc, Consumer.steps]
    · cases hq : s.queue with
      | cons c rest =>
        right
        simp [steps, hk, hc, hq, Consumer.steps, load, load_append]
        omega
      | nil =>
        by_cases hp : s.producer.isStopped
        · right
          simp [steps, hk, hc, hq, hp, Consumer.steps]
        · left
          simp [hc, hp]
  · rename_i c hk
    right
    cases c.done <;> simp [steps, hk, Consumer.steps]
  · rename_i c left hk
    right
    by_cases hstop : s.cancelled || !ok
    · simp [steps, hk, hstop, Consumer.steps]
    · simp only [hstop, Bool.false_eq_true, if_false, steps, hk, Consumer.steps]
      omega

/-- One round of a schedule that completes a turn: the task, then the orchestrator. -/
def round : List Action := [.produce, .consume true]

/-- `n` rounds. -/
def rounds : Nat → List Action
  | 0 => []
  | n + 1 => round ++ rounds n

theorem quiet_rounds (n : Nat) : ∀ a ∈ rounds n, a.quiet := by
  induction n with
  | zero => simp [rounds]
  | succ n ih =>
    intro a ha
    simp only [rounds, round, List.cons_append, List.nil_append, List.mem_cons] at ha
    rcases ha with rfl | rfl | ha
    · rfl
    · rfl
    · exact ih a ha

theorem Settled.run_rounds {s : Pipe} (h : s.Settled) (n : Nat) : s.run (rounds n) = s := by
  induction n with
  | zero => rfl
  | succ n ih =>
    simp only [rounds, run_append, round, run_cons, run_nil, Pipe.step, h.1, h.2]
    exact ih

theorem round_steps (s : Pipe) : s.Settled ∨ (s.run round).steps < s.steps := by
  have hround : s.run round = s.produce.consume true := rfl
  rcases produce_steps s with hp | hp
  · rcases consume_steps true s with hc | hc
    · exact .inl ⟨hp, hc⟩
    · right
      rw [hround, hp]
      exact hc
  · right
    rw [hround]
    rcases consume_steps true s.produce with hc | hc
    · rw [hc]
      exact hp
    · omega

theorem run_rounds_settled (n : Nat) :
    ∀ s : Pipe, s.steps ≤ n → (s.run (rounds n)).Settled := by
  induction n with
  | zero =>
    intro s hs
    rcases round_steps s with h | h
    · exact h
    · omega
  | succ n ih =>
    intro s hs
    rcases round_steps s with h | h
    · rw [h.run_rounds]
      exact h
    · rw [rounds, run_append]
      exact ih _ (by omega)

/-- Every schedule can be completed by steps in which the token does not fire and no
    write fails. -/
theorem run_completes (s : Pipe) (acts : List Action) :
    ∃ more, (∀ a ∈ more, a.quiet) ∧ (s.run (acts ++ more)).Settled := by
  refine ⟨rounds (s.run acts).steps, quiet_rounds _, ?_⟩
  rw [run_append]
  exact run_rounds_settled _ _ (Nat.le_refl _)

/-- When the token never fires and no write fails, a completed schedule hands the
    orchestrator exactly what `accumulate` gives, whatever the capacity, the handling
    costs and the interleaving. -/
theorem observed_of_quiet (stream : EventStream) (capacity : Nat) (work : Chunk → Nat)
    {acts : List Action} (hq : ∀ a ∈ acts, a.quiet)
    (hs : ((start stream capacity work false).run acts).Settled) :
    ((start stream capacity work false).run acts).observed = accumulate stream := by
  have h := run_invariant (Conserves (accumulate stream)) (fun a => a.quiet)
    (fun _ _ ha h => h.step (endsAtTerminal_accumulate stream false) ha) acts _ hq
    (conserves_start stream capacity work)
  exact h.observed_of_settled hs

/-- Chunks cross the channel between the accumulator task and the orchestrator in order:
    for every provider stream, capacity (zero included), handling cost and schedule, the
    orchestrator receives a prefix of the chunks `accumulate` gives; once the token fires
    or the orchestrator returns, nothing more is sent or received; and when the token
    never fires and no write fails, every schedule can be completed, and a completed one
    hands the orchestrator exactly what `accumulate` gives. -/
theorem channel_delivers_in_order :
    (∀ (stream : EventStream) (capacity : Nat) (work : Chunk → Nat) (cancelled : Bool)
        (acts : List Action),
      ((start stream capacity work cancelled).run acts).received <+: (accumulate stream).chunks) ∧
    (∀ (s : Pipe) (acts : List Action), s.cancelled = true ∨ s.consumer.isStopped = true →
      (s.run acts).queue = s.queue ∧ (s.run acts).received = s.received) ∧
    (∀ (stream : EventStream) (capacity : Nat) (work : Chunk → Nat) (acts : List Action),
      (∀ a ∈ acts, a.quiet) →
      (∃ more, (∀ a ∈ more, a.quiet) ∧
        ((start stream capacity work false).run (acts ++ more)).Settled) ∧
      (((start stream capacity work false).run acts).Settled →
        ((start stream capacity work false).run acts).observed = accumulate stream)) :=
  ⟨received_starts_reference, fun _ acts h => Interrupted.run h acts,
    fun stream capacity work acts hq =>
      ⟨run_completes _ acts, observed_of_quiet stream capacity work hq⟩⟩

/-- One text event through a channel of capacity zero: ten rounds bring the turn to rest
    with the text chunk and the terminal chunk received, and after the token fires the
    channel stays empty. -/
theorem channel_delivers_in_order_one_text :
    let stream : EventStream := ⟨[.ok { text := "hi" }], .finished⟩
    ((start stream 0 (fun _ => 1) false).run (rounds 10)).observed = accumulate stream ∧
      ((start stream 0 (fun _ => 1) true).run (rounds 10)).received = [] :=
  ⟨(channel_delivers_in_order.2.2 _ 0 (fun _ => 1) (rounds 10) (quiet_rounds 10)).2 ⟨rfl, rfl⟩,
    (channel_delivers_in_order.2.1 (start ⟨[.ok { text := "hi" }], .finished⟩ 0 (fun _ => 1) true)
      (rounds 10) (.inl rfl)).2⟩

end Pipe

end ChatWire.Stream
