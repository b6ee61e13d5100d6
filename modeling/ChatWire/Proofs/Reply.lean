import ChatWire.Turn.Reply
import ChatWire.Proofs.Writer
import ChatWire.Proofs.Accumulator

open ChatWire.Wire ChatWire.Stream ChatWire.Tool ChatWire.Provider ChatWire.Text

namespace ChatWire.Turn

/-- A step of a reply run from a state: how it ended, and the state it left. -/
def ReplyM.exec {α : Type} (m : ReplyM α) (r : Reply) : Except Halt α × Reply :=
  m.run.run r

namespace ReplyM

@[simp] theorem exec_bind {α β : Type} (m : ReplyM α) (k : α → ReplyM β) (r : Reply) :
    (m >>= k).exec r = match m.exec r with
      | (.ok a, r') => (k a).exec r'
      | (.error e, r') => (.error e, r') := by
  simp only [exec, ExceptT.run_bind, StateT.run_bind]
  rcases (ExceptT.run m).run r with ⟨_ | a, r'⟩ <;> rfl

@[simp] theorem exec_pure {α : Type} (a : α) (r : Reply) :
    (pure a : ReplyM α).exec r = (.ok a, r) := rfl

@[simp] theorem exec_get (r : Reply) : (get : ReplyM Reply).exec r = (.ok r, r) := rfl

@[simp] theorem exec_set (r r' : Reply) : (set r' : ReplyM Unit).exec r = (.ok (), r') := rfl

@[simp] theorem exec_modify (f : Reply → Reply) (r : Reply) :
    (modify f : ReplyM Unit).exec r = (.ok (), f r) := rfl

@[simp] theorem exec_throw {α : Type} (e : Halt) (r : Reply) :
    (throw e : ReplyM α).exec r = (.error e, r) := rfl

end ReplyM

section Guarded

variable {r : Reply}

theorem checkCancelled_exec_of_fired (h : r.isCancelled = true) :
    checkCancelled.exec r = (.error (.failed .cancelled), r) := by
  simp [checkCancelled, h]

theorem checkCancelled_exec_of_live (h : r.isCancelled = false) :
    checkCancelled.exec r = (.ok (), r) := by
  simp [checkCancelled, h]

/-- Waiting always halts, cancelled by the timer if there is one and hung otherwise, and
    changes nothing but the cancellation flag, which the timer sets. -/
theorem block_exec (r : Reply) :
    block.exec r = (.error (if r.timer then .failed .cancelled else .hung),
      { r with cancelled := r.timer || r.cancelled }) := by
  rcases Bool.eq_false_or_eq_true r.timer with ht | ht
  · simp [block, ht]
  · obtain ⟨⟩ := r
    simp_all [block]

variable {p : Part} {w : Writer}

theorem guarded_exec_of_fired (h : r.isCancelled = true) :
    (guarded p).exec r = (.error (.failed .cancelled), r) := by
  simp [guarded, checkCancelled_exec_of_fired h]

theorem guarded_exec_of_sent (h : r.isCancelled = false)
    (hs : r.writer.send p = .done (.ok ()) w) :
    (guarded p).exec r = (.ok (), { r with writer := w }) := by
  simp [guarded, checkCancelled_exec_of_live h, hs]

theorem guarded_exec_of_skipped {e : StreamError} (h : r.isCancelled = false)
    (hs : r.writer.send p = .done (.error e) w) (hf : e.isFatal = false) :
    (guarded p).exec r = (.ok (), { r with writer := w }) := by
  simp [guarded, checkCancelled_exec_of_live h, hs, hf]

theorem guarded_exec_of_failed {e : StreamError} (h : r.isCancelled = false)
    (hs : r.writer.send p = .done (.error e) w) (hf : e.isFatal = true) :
    (guarded p).exec r = (.error (.failed (.stream e)), { r with writer := w }) := by
  simp [guarded, checkCancelled_exec_of_live h, hs, hf]

theorem guarded_exec_of_stalled (h : r.isCancelled = false) (hs : r.writer.send p = .stalled w) :
    (guarded p).exec r = block.exec { r with writer := w } := by
  simp [guarded, checkCancelled_exec_of_live h, hs]

theorem guarded_exec_writer (h : r.isCancelled = false) :
    ((guarded p).exec r).2.writer = (r.writer.send p).writer := by
  rcases hs : r.writer.send p with ⟨e | _, w⟩ | w
  · cases hf : e.isFatal
    · rw [guarded_exec_of_skipped h hs hf]
      rfl
    · rw [guarded_exec_of_failed h hs hf]
      rfl
  · rw [guarded_exec_of_sent h hs]
    rfl
  · rw [guarded_exec_of_stalled h hs, block_exec]
    rfl

end Guarded

/-- A reply whose writer is open on a healthy connection that has not asked to cancel,
    and whose token nothing else cancelled. -/
structure Reply.Healthy (r : Reply) : Prop where
  writerOpen : r.writer.state = .open
  sink : r.writer.sink.faults.Healthy
  notRequested : r.writer.sink.cancelRequested = false
  notCancelled : r.cancelled = false

/-- `r'` goes on with the turn of `r`: only the writer differs. -/
def Reply.SameTurn (r r' : Reply) : Prop :=
  r' = { r with writer := r'.writer }

theorem Reply.SameTurn.toolStreams {r r' : Reply} (h : r.SameTurn r') :
    r'.toolStreams = r.toolStreams := by
  unfold Reply.SameTurn at h
  exact (congrArg Reply.toolStreams h).trans rfl

theorem Reply.SameTurn.trans {r r₁ r₂ : Reply} (h₁ : r.SameTurn r₁) (h₂ : r₁.SameTurn r₂) :
    r.SameTurn r₂ := by
  obtain ⟨⟩ := r
  obtain ⟨⟩ := r₁
  obtain ⟨⟩ := r₂
  simp_all [Reply.SameTurn]

/-- Run from `r`, the step writes a prefix of the lines of `parts`, whatever the connection
    does and whenever the token fires; when it goes through it wrote all of them, keeps the
    writer open and ends in a state that satisfies `post`; on a healthy connection it goes
    through and leaves the connection healthy. -/
structure Emits (m : ReplyM Unit) (r : Reply) (parts : List Part) (post : Reply → Prop) :
    Prop where
  truncated : ∃ b, (m.exec r).2.writer.sink.received = r.writer.sink.received ++ b ∧
    b <+: partBytes parts
  complete : (m.exec r).1 = .ok () →
    (m.exec r).2.writer.sink.received = r.writer.sink.received ++ partBytes parts ∧
      (m.exec r).2.writer.state = .open ∧ post (m.exec r).2
  healthy : r.Healthy → (m.exec r).1 = .ok () ∧ (m.exec r).2.Healthy

@[simp] theorem partBytes_nil : partBytes [] = [] := rfl

@[simp] theorem partBytes_append (ps qs : List Part) :
    partBytes (ps ++ qs) = partBytes ps ++ partBytes qs := by
  simp [partBytes]

@[simp] theorem partBytes_cons (p : Part) (ps : List Part) :
    partBytes (p :: ps) = utf8 p.line ++ partBytes ps := by
  simp [partBytes]

namespace Emits

variable {m k : ReplyM Unit} {r : Reply} {ps qs : List Part} {P Q : Reply → Prop}

/-- On a healthy connection a step goes through, writes all of its parts and keeps the
    connection healthy. -/
theorem healthy_run (hm : Emits m r ps P) (hh : r.Healthy) :
    ∃ r', m.exec r = (.ok (), r') ∧ r'.Healthy ∧
      r'.writer.sink.received = r.writer.sink.received ++ partBytes ps ∧ P r' := by
  obtain ⟨hok, hh'⟩ := hm.healthy hh
  obtain ⟨hrec, -, hP⟩ := hm.complete hok
  rcases hrun : m.exec r with ⟨res, r'⟩
  rw [hrun] at hok hh' hrec hP
  subst hok
  exact ⟨r', rfl, hh', hrec, hP⟩

end Emits

/-- Whether fragments have carried a non-empty id and a non-empty tool name. -/
def announced (ds : List RawToolCallDelta) : Bool :=
  !(firstId ds).isEmpty && !(firstName ds).isEmpty

/-- The client's view of the tool call at a position after its fragments `ds`: the first
    id and name they carried, whether both are known, and the argument text held back
    until then. -/
def ToolStream.ofFragments (ds : List RawToolCallDelta) : ToolStream :=
  { id := firstId ds, name := firstName ds, started := announced ds,
    heldArguments := if announced ds then "" else argumentText ds }

/-- An argument delta part for non-empty text, nothing for empty text. -/
def argumentPart (id text : String) : List Part :=
  if text.isEmpty then [] else [.toolCallArgDelta id text]

/-- The parts a client is sent for one fragment, given the fragments of its position
    that came before it. Nothing is sent until a non-empty id and a non-empty name are
    known; at the fragment that completes them, the start of the call with the first id
    and name, then the argument text held back so far, then the fragment's own argument
    text; afterwards, the fragment's argument text. Empty argument text is never sent. -/
def fragmentParts (before : List RawToolCallDelta) (d : RawToolCallDelta) : List Part :=
  let after := before ++ [d]
  if announced before then argumentPart (firstId before) (d.arguments.getD "")
  else if announced after then
    .toolCallStart (firstId after) (firstName after) ::
      (argumentPart (firstId after) (argumentText before) ++
        argumentPart (firstId after) (d.arguments.getD ""))
  else []

/-- The reply's view of every tool call is what the fragments `seen` so far say. -/
def Reply.Tracks (r : Reply) (seen : List RawToolCallDelta) : Prop :=
  ∀ i, r.toolStream i = ToolStream.ofFragments (fragmentsAt i seen)

theorem lookup_filter_ne {l : List (Nat × ToolStream)} {i index : Nat} (hi : i ≠ index) :
    (l.filter (·.1 != index)).lookup i = l.lookup i := by
  induction l with
  | nil => rfl
  | cons e rest ih =>
    obtain ⟨k, v⟩ := e
    by_cases hk : k = index
    · subst hk
      have hb : (i == k) = false := by simpa using hi
      simp [List.lookup_cons, hb, ih]
    · have hb : (k != index) = true := by simpa using hk
      simp [hb, List.lookup_cons, ih]

theorem toolStream_setToolStream (r : Reply) (index : Nat) (s : ToolStream) (i : Nat) :
    (r.setToolStream index s).toolStream i = if i = index then s else r.toolStream i := by
  by_cases hi : i = index
  · subst hi
    simp [Reply.setToolStream, Reply.toolStream]
  · have hb : (i == index) = false := by simpa using hi
    simp [Reply.setToolStream, Reply.toolStream, List.lookup_cons, hb, hi, lookup_filter_ne hi]

theorem tracks_empty (r : Reply) (h : r.toolStreams = []) : r.Tracks [] := by
  intro i
  simp [Reply.toolStream, h, ToolStream.ofFragments, fragmentsAt, announced, firstId, firstName,
    argumentText, String.join_nil]

theorem Reply.Tracks.of_toolStreams_eq {r r' : Reply} {seen : List RawToolCallDelta}
    (ht : r.Tracks seen) (h : r'.toolStreams = r.toolStreams) : r'.Tracks seen := by
  intro i
  simpa [Reply.toolStream, h] using ht i

/-- Recording the view that a position's fragments give, after one more fragment, keeps
    the reply tracking the fragments. -/
theorem Reply.Tracks.setToolStream {r : Reply} {seen : List RawToolCallDelta} (ht : r.Tracks seen)
    (d : RawToolCallDelta) :
    (r.setToolStream d.index (ToolStream.ofFragments (fragmentsAt d.index seen ++ [d]))).Tracks
      (seen ++ [d]) := by
  intro i
  rw [toolStream_setToolStream, fragmentsAt_append_single]
  by_cases hi : i = d.index
  · subst hi
    simp
  · have hd : d.index ≠ i := Ne.symm hi
    simp [hi, hd, ht i]

theorem keepFirst_of_isEmpty_false {current : String} (h : current.isEmpty = false)
    (offered : Option String) : keepFirst current offered = current := by
  simp [keepFirst, h]

theorem announced_append_single {before : List RawToolCallDelta} (h : announced before = true)
    (d : RawToolCallDelta) : announced (before ++ [d]) = true := by
  simp only [announced, Bool.and_eq_true, Bool.not_eq_true'] at h
  simp [announced, firstId_append_single, firstName_append_single, keepFirst_of_isEmpty_false h.1,
    keepFirst_of_isEmpty_false h.2, h.1, h.2]

theorem firstId_isEmpty_of_announced {ds : List RawToolCallDelta} (h : announced ds = true) :
    (firstId ds).isEmpty = false := by
  simp only [announced, Bool.and_eq_true, Bool.not_eq_true'] at h
  exact h.1

theorem firstName_isEmpty_of_announced {ds : List RawToolCallDelta} (h : announced ds = true) :
    (firstName ds).isEmpty = false := by
  simp only [announced, Bool.and_eq_true, Bool.not_eq_true'] at h
  exact h.2

end ChatWire.Turn
