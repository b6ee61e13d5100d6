import ChatWire.Cli.Program
import ChatWire.Proofs.TurnStages

namespace ChatWire.Turn.Service

theorem replies_cons_of_hung {s : Service} {c : TurnCall} (rest : List TurnCall)
    (hend : (s.reply c.sink c.input c.cancel).1.1 = .hung) :
    s.replies (c :: rest) =
      ([(s.reply c.sink c.input c.cancel).1], (s.reply c.sink c.input c.cancel).2) := by
  simp [replies, hend]

theorem replies_cons_of_finished {s : Service} {c : TurnCall} (rest : List TurnCall)
    {r : Except TurnError TurnOutcome}
    (hend : (s.reply c.sink c.input c.cancel).1.1 = .finished r) :
    s.replies (c :: rest) =
      ((s.reply c.sink c.input c.cancel).1 :: ((s.reply c.sink c.input c.cancel).2.replies rest).1,
        ((s.reply c.sink c.input c.cancel).2.replies rest).2) := by
  simp [replies, hend]

theorem replies_length_or_hung (s : Service) (calls : List TurnCall) :
    (s.replies calls).1.length = calls.length ∨
      ∃ sink, (s.replies calls).1.getLast? = some (.hung, sink) := by
  induction calls generalizing s with
  | nil => exact .inl rfl
  | cons c rest ih =>
    cases hend : (s.reply c.sink c.input c.cancel).1.1 with
    | hung =>
      refine .inr ⟨(s.reply c.sink c.input c.cancel).1.2, ?_⟩
      rw [replies_cons_of_hung rest hend, ← hend]
      rfl
    | finished r =>
      rw [replies_cons_of_finished rest hend]
      rcases ih (s.reply c.sink c.input c.cancel).2 with hlen | ⟨sink, hlast⟩
      · exact .inl (by simp [hlen])
      · exact .inr ⟨sink, by simp [List.getLast?_cons, hlast]⟩

/-- A run whose turns were all cancelled before they started answers every call, each with a
    failure. -/
theorem replies_of_before (s : Service) (calls : List TurnCall)
    (hbefore : ∀ c ∈ calls, c.cancel.before = true) :
    (s.replies calls).1.length = calls.length ∧
      ∀ t ∈ (s.replies calls).1, ∃ e, t.1 = .finished (.error e) := by
  induction calls generalizing s with
  | nil => simp [replies]
  | cons c rest ih =>
    obtain ⟨e, hend⟩ := reply_finishes_of_before s c.sink c.input (hbefore c List.mem_cons_self)
    obtain ⟨hlen, hfailed⟩ := ih (s.reply c.sink c.input c.cancel).2
      fun c' hc' => hbefore c' (List.mem_cons_of_mem c hc')
    rw [replies_cons_of_finished rest hend]
    refine ⟨by simp [hlen], fun t ht => ?_⟩
    rcases List.mem_cons.1 ht with rfl | ht
    · exact ⟨e, hend⟩
    · exact hfailed t ht

end ChatWire.Turn.Service

namespace ChatWire.Cli

open ChatWire.Turn ChatWire.Wire ChatWire.History

/-- Whether a trimmed line is a command that ends line mode. -/
def isQuitCommand (t : String) : Bool :=
  t == "/quit" || t == "/exit"

/-- The texts line mode sends as turns, in order: each line trimmed, up to the first quit
    command, blank lines left out. -/
def sentLines (lines : List String) : List String :=
  ((lines.map Text.trim).takeWhile fun t => !isQuitCommand t).filter fun t => !t.isEmpty

/-- The turns line mode runs for the texts it sends: one per text, in one session for one user,
    the `n`-th interrupted as the `n`-th of `interrupts` says and those past its end not at all. -/
def turnCalls (session user : Uuid) : List String → List Interrupt → List TurnCall
  | [], _ => []
  | content :: rest, interrupts =>
    { sink := (interrupts.headD {}).sink, input := { session, user, content },
      cancel := (interrupts.headD {}).cancellation } :: turnCalls session user rest interrupts.tail

/-- The turns line mode runs for its lines: one per sent line. -/
def lineCalls (session user : Uuid) (lines : List String) (interrupts : List Interrupt) :
    List TurnCall :=
  turnCalls session user (sentLines lines) interrupts

/-- The note line mode prints after a turn that returned: nothing when it went through,
    `[Interrupted]` when it was cancelled, else its failure on one line. -/
def turnNote : Except TurnError TurnOutcome → String
  | .ok _ => ""
  | .error .cancelled => "[Interrupted]\n"
  | .error e => "Error: " ++ Report.lineText ⟨"Turn failed" :: turnErrorChain e⟩ ++ "\n"

/-- What line mode shows of one turn, from how it ended and what its client received: the
    stream headers on the error output when they are asked for, the reply on the output,
    then the note of a turn that returned. A turn that waits forever leaves the program
    waiting. -/
def showTurn (showHeaders : Bool) (o : Outcome) (turn : TurnEnd × Sink) : Outcome :=
  let headers := if showHeaders then
    String.join (turn.2.headers.map fun h => h.1 ++ ": " ++ h.2 ++ "\n") else ""
  let o := (o.printError headers).print turn.2.contents
  match turn.1 with
  | .finished r => o.printError (turnNote r)
  | .hung => { o with hangs := true }

theorem isQuitCommand_not_isEmpty {t : String} (h : isQuitCommand t = true) :
    t.isEmpty = false := by
  simp only [isQuitCommand, Bool.or_eq_true, beq_iff_eq] at h
  rcases h with rfl | rfl <;> rfl

theorem length_turnCalls (session user : Uuid) :
    ∀ (contents : List String) (interrupts : List Interrupt),
      (turnCalls session user contents interrupts).length = contents.length
  | [], _ => rfl
  | _ :: rest, interrupts => by
    rw [turnCalls, List.length_cons, length_turnCalls session user rest interrupts.tail,
      List.length_cons]

theorem lineCalls_of_quit {session user : Uuid} {line : String} (rest : List String)
    (interrupts : List Interrupt) (hq : isQuitCommand (Text.trim line) = true) :
    lineCalls session user (line :: rest) interrupts = [] := by
  simp [lineCalls, sentLines, hq, turnCalls]

theorem lineCalls_of_blank {session user : Uuid} {line : String} (rest : List String)
    (interrupts : List Interrupt) (hq : isQuitCommand (Text.trim line) = false)
    (hb : (Text.trim line).isEmpty = true) :
    lineCalls session user (line :: rest) interrupts = lineCalls session user rest interrupts := by
  simp [lineCalls, sentLines, hq, hb]

theorem lineCalls_of_sent {session user : Uuid} {line : String} (rest : List String)
    (interrupts : List Interrupt) (hq : isQuitCommand (Text.trim line) = false)
    (hb : (Text.trim line).isEmpty = false) :
    lineCalls session user (line :: rest) interrupts =
      { sink := (interrupts.headD {}).sink, input := { session, user, content := Text.trim line },
        cancel := (interrupts.headD {}).cancellation } ::
        lineCalls session user rest interrupts.tail := by
  simp [lineCalls, sentLines, hq, hb, turnCalls]

section Step

variable {session user : Uuid} {showHeaders : Bool} {line : String} {rest : List String}
  {interrupts : List Interrupt} {s : Service} {o : Outcome}

theorem replLines_of_quit (hq : isQuitCommand (Text.trim line) = true) :
    replLines session user showHeaders (line :: rest) interrupts s o = o := by
  have hne := isQuitCommand_not_isEmpty hq
  simp only [isQuitCommand] at hq
  simp [replLines, classify, hne, hq]

theorem replLines_of_blank (hb : (Text.trim line).isEmpty = true) :
    replLines session user showHeaders (line :: rest) interrupts s o =
      replLines session user showHeaders rest interrupts s o := by
  simp [replLines, classify, hb]

theorem replLines_of_hung (hq : isQuitCommand (Text.trim line) = false)
    (hb : (Text.trim line).isEmpty = false)
    (hend : (s.reply (interrupts.headD {}).sink ⟨session, user, Text.trim line⟩
      (interrupts.headD {}).cancellation).1.1 = .hung) :
    replLines session user showHeaders (line :: rest) interrupts s o =
      showTurn showHeaders o (s.reply (interrupts.headD {}).sink ⟨session, user, Text.trim line⟩
        (interrupts.headD {}).cancellation).1 := by
  simp only [isQuitCommand] at hq
  simp only [replLines, classify, hb, hq, Bool.false_eq_true, ↓reduceIte, runTurn]
  generalize s.reply _ _ _ = turn at hend ⊢
  obtain ⟨⟨ending, sink⟩, s'⟩ := turn
  cases hend
  rfl

theorem replLines_of_finished {r : Except TurnError TurnOutcome}
    (hq : isQuitCommand (Text.trim line) = false) (hb : (Text.trim line).isEmpty = false)
    (hend : (s.reply (interrupts.headD {}).sink ⟨session, user, Text.trim line⟩
      (interrupts.headD {}).cancellation).1.1 = .finished r) :
    replLines session user showHeaders (line :: rest) interrupts s o =
      replLines session user showHeaders rest interrupts.tail
        (s.reply (interrupts.headD {}).sink ⟨session, user, Text.trim line⟩
          (interrupts.headD {}).cancellation).2
        (showTurn showHeaders o (s.reply (interrupts.headD {}).sink ⟨session, user, Text.trim line⟩
          (interrupts.headD {}).cancellation).1) := by
  simp only [isQuitCommand] at hq
  simp only [replLines, classify, hb, hq, Bool.false_eq_true, ↓reduceIte, runTurn]
  generalize s.reply _ _ _ = turn at hend ⊢
  obtain ⟨⟨ending, sink⟩, s'⟩ := turn
  cases hend
  rcases r with e | _
  · cases e <;> rfl
  · simp [showTurn, turnNote, Outcome.printError]

end Step

/-- Line mode is the printed run of its calls: the service answers the sent lines one after
    another, each interrupted as the user's presses say, and each turn it returns is shown as it
    ends. -/
theorem replLines_eq_replies (session user : Uuid) (showHeaders : Bool) (lines : List String)
    (interrupts : List Interrupt) (s : Service) (o : Outcome) :
    replLines session user showHeaders lines interrupts s o =
      (s.replies (lineCalls session user lines interrupts)).1.foldl (showTurn showHeaders) o := by
  induction lines generalizing interrupts s o with
  | nil => rfl
  | cons line rest ih =>
    cases hq : isQuitCommand (Text.trim line)
    · cases hb : (Text.trim line).isEmpty
      · rw [lineCalls_of_sent rest interrupts hq hb]
        cases hend : (s.reply (interrupts.headD {}).sink ⟨session, user, Text.trim line⟩
            (interrupts.headD {}).cancellation).1.1 with
        | hung =>
          rw [replLines_of_hung hq hb hend, Service.replies_cons_of_hung _ hend]
          rfl
        | finished r =>
          rw [replLines_of_finished hq hb hend, Service.replies_cons_of_finished _ hend, ih]
          rfl
      · rw [replLines_of_blank hb, lineCalls_of_blank rest interrupts hq hb, ih]
    · rw [replLines_of_quit hq, lineCalls_of_quit rest interrupts hq]
      rfl

/-- Line mode sends, as turns of one session for one user, every line of its input that is not
    blank, trimmed, in line order, up to the first line that trims to `/quit` or `/exit` or to
    the end of the input, whenever the user presses Ctrl-C. Each turn is shown as it returns; a
    failed or interrupted turn is reported and the next line is read, so only a turn that waits
    forever leaves lines unsent. -/
theorem replLines_sends_trimmed_lines (session user : Uuid) (showHeaders : Bool)
    (lines : List String) (interrupts : List Interrupt) (s : Service) (o : Outcome) :
    replLines session user showHeaders lines interrupts s o =
        (s.replies (lineCalls session user lines interrupts)).1.foldl (showTurn showHeaders) o ∧
      ((s.replies (lineCalls session user lines interrupts)).1.length = (sentLines lines).length ∨
        ∃ sink, (s.replies (lineCalls session user lines interrupts)).1.getLast? =
          some (.hung, sink)) := by
  refine ⟨replLines_eq_replies session user showHeaders lines interrupts s o, ?_⟩
  rw [← length_turnCalls session user (sentLines lines) interrupts]
  exact Service.replies_length_or_hung s (lineCalls session user lines interrupts)

theorem turnCalls_before (session user : Uuid) :
    ∀ (contents : List String) (interrupts : List Interrupt),
      (∀ i ∈ interrupts, i.atStart = true) → contents.length ≤ interrupts.length →
      ∀ c ∈ turnCalls session user contents interrupts, c.cancel.before = true
  | [], _, _, _ => by simp [turnCalls]
  | _ :: _, [], _, hlen => absurd hlen (by simp)
  | _ :: rest, i :: interrupts, hat, hlen => by
    intro c hc
    rcases List.mem_cons.1 hc with rfl | hc
    · exact hat i List.mem_cons_self
    · exact turnCalls_before session user rest interrupts
        (fun j hj => hat j (List.mem_cons_of_mem i hj)) (by simpa using hlen) c hc

/-- When the user presses Ctrl-C before each turn starts, line mode still answers every line it
    sends, each turn reported as failed (as `[Interrupted]` once its reply was reached), and no
    turn leaves the program waiting. -/
theorem replLines_interrupted_at_start (session user : Uuid) (lines : List String)
    (interrupts : List Interrupt) (s : Service) (hat : ∀ i ∈ interrupts, i.atStart = true)
    (hlen : (sentLines lines).length ≤ interrupts.length) :
    (s.replies (lineCalls session user lines interrupts)).1.length = (sentLines lines).length ∧
      ∀ t ∈ (s.replies (lineCalls session user lines interrupts)).1,
        ∃ e, t.1 = .finished (.error e) := by
  obtain ⟨hcount, hfailed⟩ := Service.replies_of_before s _
    (turnCalls_before session user (sentLines lines) interrupts hat hlen)
  exact ⟨hcount.trans (length_turnCalls session user _ interrupts), hfailed⟩

/-- The lines of the classification tests: only the first is sent, trimmed. -/
example : sentLines ["  hello there ", "   ", " /exit ", "later"] = ["hello there"] := by decide

end ChatWire.Cli
