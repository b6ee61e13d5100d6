import ChatWire.Proofs.Transcript
import Mathlib.Data.List.Induction

open ChatWire.Wire ChatWire.Stream ChatWire.Tool ChatWire.Provider

namespace ChatWire.Wire.Part

/-- Whether a part belongs to a tool call: its start, an argument delta, the complete call
    or its result. -/
def forToolCall : Part → Bool
  | .toolCallStart .. | .toolCallArgDelta .. | .toolCall .. | .toolResult .. => true
  | _ => false

/-- Whether a part reports a complete tool call or its result. -/
def reportsCall : Part → Bool
  | .toolCall .. | .toolResult .. => true
  | _ => false

end ChatWire.Wire.Part

namespace ChatWire.Turn

/-- The parts of a reply tagged with `call`, in order: with `some i` those of the tool call
    at position `i`, with `none` those of no tool call. -/
def partsOf (call : Option Nat) (ts : List Tagged) : List Part :=
  (ts.filter (·.call == call)).map Tagged.part

@[simp] theorem partsOf_nil (call : Option Nat) : partsOf call [] = [] := rfl

@[simp] theorem partsOf_cons (call : Option Nat) (t : Tagged) (ts : List Tagged) :
    partsOf call (t :: ts) = (if t.call = call then [t.part] else []) ++ partsOf call ts := by
  by_cases h : t.call = call <;> simp [partsOf, h]

@[simp] theorem partsOf_append (call : Option Nat) (ts us : List Tagged) :
    partsOf call (ts ++ us) = partsOf call ts ++ partsOf call us := by
  simp [partsOf, List.filter_append]

@[simp] theorem partsOf_map_mk (call tag : Option Nat) (ps : List Part) :
    partsOf call (ps.map (Tagged.mk tag)) = if tag = call then ps else [] := by
  by_cases h : tag = call <;> simp [partsOf, List.filter_map, Function.comp_def, h]

/-- The parts a client is sent for the fragments `ds` of one position, each given the
    fragments of that position before it. -/
def streamedParts (before : List RawToolCallDelta) : List RawToolCallDelta → List Part
  | [] => []
  | d :: rest => fragmentParts before d ++ streamedParts (before ++ [d]) rest

theorem streamedParts_append (before xs ys : List RawToolCallDelta) :
    streamedParts before (xs ++ ys) =
      streamedParts before xs ++ streamedParts (before ++ xs) ys := by
  induction xs generalizing before with
  | nil => simp [streamedParts]
  | cons d rest ih => simp [streamedParts, ih]

@[simp] theorem fragmentsAt_nil (i : Nat) : fragmentsAt i [] = [] := rfl

/-- While a reply streams, the parts of a position are the streamed parts of its own
    fragments: fragments of other positions add nothing to them. -/
theorem partsOf_fragmentsTranscript (i : Nat) (seen ds : List RawToolCallDelta) :
    partsOf (some i) (fragmentsTranscript seen ds) =
      streamedParts (fragmentsAt i seen) (fragmentsAt i ds) := by
  induction ds generalizing seen with
  | nil => rfl
  | cons d rest ih =>
    simp only [fragmentsTranscript, partsOf_append, partsOf_map_mk, Option.some.injEq, ih,
      fragmentsAt_append_single]
    by_cases h : d.index = i
    · simp [h, fragmentsAt, streamedParts]
    · simp [h, fragmentsAt]

theorem partsOf_none_fragmentsTranscript (seen ds : List RawToolCallDelta) :
    partsOf none (fragmentsTranscript seen ds) = [] := by
  induction ds generalizing seen with
  | nil => rfl
  | cons d rest ih => simp [fragmentsTranscript, ih]

theorem partsOf_eventsTranscript (i : Nat) (seen : List RawToolCallDelta)
    (events : List ProviderEvent) :
    partsOf (some i) (eventsTranscript seen events) =
      streamedParts (fragmentsAt i seen) (fragmentsAt i (allFragments events)) := by
  induction events generalizing seen with
  | nil => rfl
  | cons e rest ih =>
    simp [eventsTranscript, partsOf_fragmentsTranscript, ih, allFragments, fragmentsAt,
      List.filter_append, streamedParts_append]

theorem partsOf_none_eventsTranscript (seen : List RawToolCallDelta)
    (events : List ProviderEvent) :
    partsOf none (eventsTranscript seen events) = events.flatMap fun e => textPart e.text := by
  induction events generalizing seen with
  | nil => rfl
  | cons e rest ih => simp [eventsTranscript, partsOf_none_fragmentsTranscript, ih]

theorem partsOf_flatMap_tagged (i : Nat) (f : Nat → List Part) {ns : List Nat}
    (hns : ns.Nodup) :
    partsOf (some i) (ns.flatMap fun j => (f j).map (Tagged.mk (some j))) =
      if i ∈ ns then f i else [] := by
  induction ns with
  | nil => rfl
  | cons j rest ih =>
    obtain ⟨hj, hrest⟩ := List.nodup_cons.1 hns
    rw [List.flatMap_cons, partsOf_append, partsOf_map_mk, ih hrest]
    by_cases h : j = i
    · subst h
      simp [hj]
    · simp [h, Ne.symm h]

/-- Each position is listed once among the complete calls, so its parts there are those of
    its own call; a position no fragment names has an empty call, which writes nothing. -/
theorem partsOf_callsTranscript (tools : Registry) (now : Instant) (i : Nat)
    (fragments : List RawToolCallDelta) :
    partsOf (some i) (callsTranscript tools now fragments) =
      callParts tools now (assemble (fragmentsAt i fragments)) := by
  have hnodup : (positions fragments).Nodup := (positions_sorted fragments).imp ne_of_lt
  rw [callsTranscript, partsOf_flatMap_tagged i _ hnodup]
  by_cases hi : i ∈ positions fragments
  · rw [if_pos hi]
  · have hnil : fragmentsAt i fragments = [] :=
      fragmentsAt_eq_nil (by simpa [mem_positions] using hi)
    simp [hi, hnil, callParts, assemble, firstId]

theorem partsOf_none_callsTranscript (tools : Registry) (now : Instant)
    (fragments : List RawToolCallDelta) :
    partsOf none (callsTranscript tools now fragments) = [] := by
  simp [callsTranscript, partsOf, List.filter_flatMap, List.filter_map, Function.comp_def]

/-- The parts of the tool call at a position: those streamed for its fragments, then,
    in a turn that ends in tool calls, those of its complete call. -/
theorem partsOf_transcript (tools : Registry) (now : Instant) (messageId userMessageId : String)
    (items : List (Except ProviderError ProviderEvent)) (i : Nat) :
    partsOf (some i) (transcript tools now messageId userMessageId items) =
      streamedParts [] (fragmentsAt i (allFragments (okPrefix items))) ++
        if (closingReason items).isToolCalls then
          callParts tools now (assemble (fragmentsAt i (allFragments (okPrefix items))))
        else [] := by
  by_cases h : (closingReason items).isToolCalls <;>
    simp [transcript, streamTranscript, h, partsOf_eventsTranscript, partsOf_callsTranscript]

/-- The parts of a reply that belong to no tool call: the start, the text of the events,
    the finish parts and the annotation. -/
theorem partsOf_none_transcript (tools : Registry) (now : Instant)
    (messageId userMessageId : String) (items : List (Except ProviderError ProviderEvent)) :
    partsOf none (transcript tools now messageId userMessageId items) =
      .start messageId :: ((okPrefix items).flatMap fun e => textPart e.text) ++
        finishParts (closingReason items) (lastUsage (okPrefix items)) ++
          [annotationPart userMessageId messageId] := by
  by_cases h : (closingReason items).isToolCalls <;>
    simp [transcript, streamTranscript, h, partsOf_none_eventsTranscript,
      partsOf_none_callsTranscript]

theorem first_isEmpty_eq_false_iff (offers : List (Option String)) :
    ((offers.filterMap nonEmpty).head?.getD "").isEmpty = false ↔
      ∃ o ∈ offers, (nonEmpty o).isSome := by
  cases hfirst : offers.filterMap nonEmpty with
  | nil =>
    rw [List.filterMap_eq_nil_iff] at hfirst
    simpa using hfirst
  | cons s rest =>
    have hs : s ∈ offers.filterMap nonEmpty := by simp [hfirst]
    obtain ⟨o, ho, hos⟩ := List.mem_filterMap.1 hs
    simp only [List.head?_cons, Option.getD_some, nonEmpty_isEmpty hos, true_iff]
    exact ⟨o, ho, by simp [hos]⟩

/-- A call is announced once some fragment carried a non-empty id and some a non-empty
    name. -/
theorem announced_iff (ds : List RawToolCallDelta) :
    announced ds = true ↔
      (∃ d ∈ ds, (nonEmpty d.id).isSome) ∧ ∃ d ∈ ds, (nonEmpty d.name).isSome := by
  have hid : firstId ds = ((ds.map (·.id)).filterMap nonEmpty).head?.getD "" := by
    simp [firstId, List.filterMap_map]
  have hname : firstName ds = ((ds.map (·.name)).filterMap nonEmpty).head?.getD "" := by
    simp [firstName, List.filterMap_map]
  simp only [announced, Bool.and_eq_true, Bool.not_eq_true', hid, hname,
    first_isEmpty_eq_false_iff]
  simp

theorem argumentPart_texts (id text : String) :
    ∃ texts : List String, argumentPart id text = texts.map (.toolCallArgDelta id) ∧
      String.join texts = text := by
  by_cases h : text.isEmpty
  · refine ⟨[], by simp [argumentPart, h], ?_⟩
    simpa [String.isEmpty_iff] using h.symm
  · exact ⟨[text], by simp [argumentPart, h], by simp⟩

theorem streamedParts_of_not_announced {ds : List RawToolCallDelta} (h : announced ds = false) :
    streamedParts [] ds = [] := by
  induction ds using List.reverseRec with
  | nil => rfl
  | append_singleton ds d ih =>
    have hds : announced ds = false := by
      cases hprev : announced ds
      · rfl
      · simp [announced_append_single hprev d] at h
    rw [streamedParts_append, ih hds]
    simp [streamedParts, fragmentParts, hds, h]

/-- What is streamed of the call whose fragments are `ds`: its start with the first id and
    name, then argument deltas under that id whose texts make up its whole argument text. -/
def StreamsCall (ds : List RawToolCallDelta) (ps : List Part) : Prop :=
  ∃ texts : List String, ps = .toolCallStart (firstId ds) (firstName ds) ::
    texts.map (.toolCallArgDelta (firstId ds)) ∧ String.join texts = argumentText ds

/-- An announced call is streamed as one start and the whole argument text, the text held
    back before the start included. -/
theorem streamedParts_of_announced {ds : List RawToolCallDelta} (h : announced ds = true) :
    StreamsCall ds (streamedParts [] ds) := by
  induction ds using List.reverseRec with
  | nil => simp [announced, firstId] at h
  | append_singleton ds d ih =>
    rw [streamedParts_append]
    cases hprev : announced ds with
    | true =>
      obtain ⟨texts, hps, hjoin⟩ := ih hprev
      obtain ⟨more, hmore, hjoinMore⟩ := argumentPart_texts (firstId ds) (d.arguments.getD "")
      have hid : firstId (ds ++ [d]) = firstId ds := by
        rw [firstId_append_single,
          keepFirst_of_isEmpty_false (firstId_isEmpty_of_announced hprev)]
      have hname : firstName (ds ++ [d]) = firstName ds := by
        rw [firstName_append_single,
          keepFirst_of_isEmpty_false (firstName_isEmpty_of_announced hprev)]
      refine ⟨texts ++ more, ?_, ?_⟩
      · simp [hps, streamedParts, fragmentParts, hprev, hmore, hid, hname]
      · simp [argumentText_append_single, String.join_append, hjoin, hjoinMore]
    | false =>
      obtain ⟨held, hheld, hjoinHeld⟩ :=
        argumentPart_texts (firstId (ds ++ [d])) (argumentText ds)
      obtain ⟨more, hmore, hjoinMore⟩ :=
        argumentPart_texts (firstId (ds ++ [d])) (d.arguments.getD "")
      refine ⟨held ++ more, ?_, ?_⟩
      · simp [streamedParts_of_not_announced hprev, streamedParts, fragmentParts, hprev, h,
          hheld, hmore]
      · simp [argumentText_append_single, String.join_append, hjoinHeld, hjoinMore]

/-- The complete call of an announced position is written with its first id and name and
    its parsed arguments, then its result; nothing is written for any other. -/
theorem callParts_assemble (tools : Registry) (now : Instant) (ds : List RawToolCallDelta) :
    callParts tools now (assemble ds) =
      if announced ds then
        [.toolCall (firstId ds) (firstName ds) (assemble ds).parsedArguments,
          .toolResult (firstId ds)
            (reportedResult (tools.execute now (firstName ds) (argumentText ds))).toValue]
      else [] := by
  cases h : announced ds <;> simp_all [callParts, announced, assemble]

/-- What a client is to be sent of the tool call whose fragments are `ds`, in a turn that
    ends with `reason`: nothing unless some fragment carried a non-empty id and some a
    non-empty name; otherwise the start of the call with the first of each, argument deltas
    under that id whose texts make up the complete call's argument text, and, when the turn
    ends in tool calls, the complete call with the same id and name and its parsed
    arguments, then its result. -/
def ShowsCall (tools : Registry) (now : Instant) (reason : FinishReason)
    (ds : List RawToolCallDelta) (ps : List Part) : Prop :=
  if (∃ d ∈ ds, (nonEmpty d.id).isSome) ∧ ∃ d ∈ ds, (nonEmpty d.name).isSome then
    ∃ texts : List String,
      ps = .toolCallStart (firstId ds) (firstName ds) ::
        texts.map (.toolCallArgDelta (firstId ds)) ++
          (if reason.isToolCalls then
            [.toolCall (firstId ds) (firstName ds) (assemble ds).parsedArguments,
              .toolResult (firstId ds)
                (reportedResult (tools.execute now (firstName ds) (argumentText ds))).toValue]
          else []) ∧
      String.join texts = (assemble ds).arguments
  else ps = []

/-- The tool call parts of a sent reply agree with the complete calls of the provider
    stream `items`: no tool call part is left without a position, the parts of each
    position are what `ShowsCall` says, and the complete calls and their results go out in
    the order of the calls the stream closes with. -/
structure CallsAgree (tools : Registry) (now : Instant)
    (items : List (Except ProviderError ProviderEvent)) (sent : List Tagged) : Prop where
  untagged : ∀ p ∈ partsOf none sent, p.forToolCall = false
  each : ∀ i, ShowsCall tools now (closingReason items)
    (fragmentsAt i (allFragments (okPrefix items))) (partsOf (some i) sent)
  ordered : (sent.map Tagged.part).filter Part.reportsCall =
    if (closingReason items).isToolCalls then
      ((positions (allFragments (okPrefix items))).map fun i =>
        assemble (fragmentsAt i (allFragments (okPrefix items)))).flatMap (callParts tools now)
    else []

theorem showsCall_transcript (tools : Registry) (now : Instant)
    (messageId userMessageId : String) (items : List (Except ProviderError ProviderEvent))
    (i : Nat) :
    ShowsCall tools now (closingReason items) (fragmentsAt i (allFragments (okPrefix items)))
      (partsOf (some i) (transcript tools now messageId userMessageId items)) := by
  rw [partsOf_transcript, callParts_assemble]
  unfold ShowsCall
  cases h : announced (fragmentsAt i (allFragments (okPrefix items))) with
  | true =>
    rw [if_pos ((announced_iff _).1 h)]
    obtain ⟨texts, hps, hjoin⟩ := streamedParts_of_announced h
    exact ⟨texts, by rw [hps]; split <;> simp, hjoin⟩
  | false =>
    rw [if_neg (by rw [← announced_iff, h]; decide)]
    simp [streamedParts_of_not_announced h]

theorem forToolCall_of_partsOf_none (tools : Registry) (now : Instant)
    (messageId userMessageId : String) (items : List (Except ProviderError ProviderEvent)) :
    ∀ p ∈ partsOf none (transcript tools now messageId userMessageId items),
      p.forToolCall = false := by
  rw [partsOf_none_transcript]
  intro p hp
  simp only [List.mem_cons, List.mem_append, List.mem_flatMap, List.not_mem_nil, or_false] at hp
  rcases hp with ((rfl | ⟨e, -, htext⟩) | hfinish) | rfl
  · rfl
  · unfold textPart at htext
    split at htext <;> simp_all [Part.forToolCall]
  · unfold finishParts at hfinish
    split at hfinish <;> simp only [List.mem_cons, List.not_mem_nil, or_false] at hfinish
    · rw [hfinish]
      rfl
    · rcases hfinish with rfl | rfl <;> rfl
  · rfl

theorem reportsCall_fragmentParts (before : List RawToolCallDelta) (d : RawToolCallDelta) :
    ∀ p ∈ fragmentParts before d, p.reportsCall = false := by
  have harg : ∀ id text, ∀ p ∈ argumentPart id text, p.reportsCall = false := by
    intro id text p hp
    unfold argumentPart at hp
    split at hp <;> simp_all [Part.reportsCall]
  intro p hp
  by_cases hbefore : announced before
  · simp only [fragmentParts, hbefore, ↓reduceIte] at hp
    exact harg _ _ p hp
  · by_cases hafter : announced (before ++ [d])
    · simp only [fragmentParts, hbefore, hafter, Bool.false_eq_true, ↓reduceIte, List.mem_cons,
        List.mem_append] at hp
      rcases hp with rfl | hp | hp
      · rfl
      · exact harg _ _ p hp
      · exact harg _ _ p hp
    · simp [fragmentParts, hbefore, hafter] at hp

theorem reportsCall_eventsTranscript (seen : List RawToolCallDelta)
    (events : List ProviderEvent) :
    ((eventsTranscript seen events).map Tagged.part).filter Part.reportsCall = [] := by
  induction events generalizing seen with
  | nil => rfl
  | cons e rest ih =>
    have hfragments : ∀ ds seen,
        ((fragmentsTranscript seen ds).map Tagged.part).filter Part.reportsCall = [] := by
      intro ds
      induction ds with
      | nil => simp [fragmentsTranscript]
      | cons d ds ihd =>
        intro seen
        simp only [fragmentsTranscript, List.map_append, List.map_map, Tagged.part_comp_mk,
          List.map_id, List.filter_append, ihd, List.append_nil, List.filter_eq_nil_iff]
        intro p hp
        simp [reportsCall_fragmentParts _ d p hp]
    have htext : (textPart e.text).filter Part.reportsCall = [] := by
      unfold textPart
      split <;> simp [Part.reportsCall]
    simp [eventsTranscript, List.filter_append, hfragments, ih, htext]

theorem filter_reportsCall_transcript (tools : Registry) (now : Instant)
    (messageId userMessageId : String) (items : List (Except ProviderError ProviderEvent)) :
    ((transcript tools now messageId userMessageId items).map Tagged.part).filter
        Part.reportsCall =
      if (closingReason items).isToolCalls then
        ((positions (allFragments (okPrefix items))).map fun i =>
          assemble (fragmentsAt i (allFragments (okPrefix items)))).flatMap (callParts tools now)
      else [] := by
  have hcalls : ∀ call, (callParts tools now call).filter Part.reportsCall =
      callParts tools now call := by
    intro call
    unfold callParts
    split <;> simp [Part.reportsCall]
  have hfinish : ∀ reason usage, (finishParts reason usage).filter Part.reportsCall = [] := by
    intro reason usage
    unfold finishParts
    split <;> simp [Part.reportsCall]
  by_cases h : (closingReason items).isToolCalls <;>
    simp [transcript, streamTranscript, h, List.filter_append, reportsCall_eventsTranscript,
      callsTranscript_parts, List.filter_flatMap, hcalls, hfinish, annotationPart,
      Part.reportsCall]

theorem transcript_callsAgree (tools : Registry) (now : Instant)
    (messageId userMessageId : String) (items : List (Except ProviderError ProviderEvent)) :
    CallsAgree tools now items (transcript tools now messageId userMessageId items) where
  untagged := forToolCall_of_partsOf_none tools now messageId userMessageId items
  each := showsCall_transcript tools now messageId userMessageId items
  ordered := filter_reportsCall_transcript tools now messageId userMessageId items

/-- A turn whose store works, whose provider starts a stream that ends, on a connection
    that takes every write and flush and never cancels, completes; the client is sent the
    transcript, and its tool call parts agree with the complete calls the stream closes
    with, which come by ascending position. -/
theorem tool_parts_agree_with_calls {s : Service} {sink : Sink} {input : TurnInput}
    {timer : Bool} {items : List (Except ProviderError ProviderEvent)}
    (hsave : s.store.faults.failSaves.contains s.store.saves = false)
    (hread : s.store.faults.failReads.contains s.store.reads = false)
    (hturn : ∀ request, (s.backend.streamTurn request).1 = .ok ⟨items, .finished⟩)
    (hsink : sink.faults.Healthy) (hidle : sink.cancelRequested = false) :
    ∃ outcome, (s.reply sink input ⟨false, timer⟩).1.1 = .finished (.ok outcome) ∧
      (s.reply sink input ⟨false, timer⟩).1.2.received = sink.received ++
        partBytes ((transcript s.tools s.now outcome.messageId outcome.userMessage.id.toText
          items).map Tagged.part) ∧
      CallsAgree s.tools s.now items
        (transcript s.tools s.now outcome.messageId outcome.userMessage.id.toText items) ∧
      (positions (allFragments (okPrefix items))).Pairwise (· < ·) := by
  obtain ⟨outcome, hdone, hsent⟩ := reply_healthy hsave hread hturn hsink hidle
  exact ⟨outcome, hdone, hsent, transcript_callsAgree _ _ _ _ items, positions_sorted _⟩

/-- A provider stream whose one call gets part of its argument text before its id and
    name, and that ends in tool calls. -/
def heldArgumentsStream : EventStream :=
  { items := [.ok { toolCalls := [{ index := 0, arguments := some "\x7b" }] },
      .ok { toolCalls := [{ index := 0, id := some "call-1", name := some "clock" }] },
      .ok { toolCalls := [{ index := 0, arguments := some "\x7d" }]
            finishReason := some "tool_calls" }] }

theorem tool_parts_agree_with_calls_held_arguments :
    ∃ outcome, (({ backend := .scripted { turns := [.events heldArgumentsStream] } } :
        Service).reply {} default ⟨false, false⟩).1.1 = .finished (.ok outcome) ∧
      (({ backend := .scripted { turns := [.events heldArgumentsStream] } } : Service).reply {}
        default ⟨false, false⟩).1.2.received = ([] : List UInt8) ++
        partBytes ((transcript {} ⟨0, 0⟩ outcome.messageId outcome.userMessage.id.toText
          heldArgumentsStream.items).map Tagged.part) ∧
      CallsAgree {} ⟨0, 0⟩ heldArgumentsStream.items
        (transcript {} ⟨0, 0⟩ outcome.messageId outcome.userMessage.id.toText
          heldArgumentsStream.items) ∧
      (positions (allFragments (okPrefix heldArgumentsStream.items))).Pairwise (· < ·) :=
  tool_parts_agree_with_calls
    (s := { backend := .scripted { turns := [.events heldArgumentsStream] } }) rfl rfl
    (fun _ => rfl) Faults.healthy_default rfl

end ChatWire.Turn
