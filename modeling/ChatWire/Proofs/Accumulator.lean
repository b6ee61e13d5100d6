import ChatWire.Stream.Chunk
import Mathlib.Data.List.Sort

open ChatWire.Provider ChatWire.Wire

namespace ChatWire.Stream

/-- The fragments of the tool call at a position, in the order they came. -/
def fragmentsAt (index : Nat) (ds : List RawToolCallDelta) : List RawToolCallDelta :=
  ds.filter (·.index == index)

/-- The first non-empty id among fragments; empty when none carried one. -/
def firstId (ds : List RawToolCallDelta) : String :=
  ((ds.filterMap fun d => nonEmpty d.id).head?).getD ""

/-- The first non-empty tool name among fragments; empty when none carried one. -/
def firstName (ds : List RawToolCallDelta) : String :=
  ((ds.filterMap fun d => nonEmpty d.name).head?).getD ""

/-- The first non-empty call type among fragments; empty when none carried one. -/
def firstType (ds : List RawToolCallDelta) : String :=
  ((ds.filterMap fun d => nonEmpty d.callType).head?).getD ""

/-- The argument text of fragments, in the order they came. -/
def argumentText (ds : List RawToolCallDelta) : String :=
  String.join (ds.map fun d => d.arguments.getD "")

/-- The complete call that the fragments of one position make up. -/
def assemble (ds : List RawToolCallDelta) : ToolCall :=
  { id := firstId ds, callType := if (firstType ds).isEmpty then "function" else firstType ds,
    name := firstName ds, arguments := argumentText ds }

/-- The positions that fragments name, in ascending order. -/
def positions (ds : List RawToolCallDelta) : List Nat :=
  (List.range (ds.foldr (fun d m => max (d.index + 1) m) 0)).filter fun i => ds.any (·.index == i)

/-- A fragment in the normal form it is passed on in: empty ids and names dropped, absent
    argument text empty. -/
def normalize (d : RawToolCallDelta) : ToolCallDelta :=
  { index := d.index, id := nonEmpty d.id, name := nonEmpty d.name,
    arguments := d.arguments.getD "" }

theorem nonEmpty_isEmpty {o : Option String} {s : String} (h : nonEmpty o = some s) :
    s.isEmpty = false := by
  cases o with
  | none => cases h
  | some t =>
    by_cases ht : t.isEmpty
    · simp [nonEmpty, ht] at h
    · simp only [nonEmpty, ht, Bool.false_eq_true, ↓reduceIte, Option.some.injEq] at h
      subst h
      simpa using ht

/-- The first non-empty text of a list of offers, extended by one more offer, is kept
    unless it was empty. -/
theorem first_append_single (offers : List (Option String)) (offer : Option String) :
    ((offers ++ [offer]).filterMap nonEmpty).head?.getD "" =
      keepFirst ((offers.filterMap nonEmpty).head?.getD "") (nonEmpty offer) := by
  rw [List.filterMap_append]
  cases hfirst : offers.filterMap nonEmpty with
  | nil =>
    cases hoffer : nonEmpty offer with
    | none => simp [hoffer, keepFirst]
    | some s => simp [hoffer, keepFirst]
  | cons s rest =>
    have hs : s.isEmpty = false := by
      have hmem : s ∈ offers.filterMap nonEmpty := by simp [hfirst]
      obtain ⟨o, -, ho⟩ := List.mem_filterMap.1 hmem
      exact nonEmpty_isEmpty ho
    simp [keepFirst, hs]

theorem firstId_append_single (ds : List RawToolCallDelta) (d : RawToolCallDelta) :
    firstId (ds ++ [d]) = keepFirst (firstId ds) (nonEmpty d.id) := by
  have h := first_append_single (ds.map (·.id)) d.id
  simpa [firstId, List.filterMap_map, Function.comp_def] using h

theorem firstName_append_single (ds : List RawToolCallDelta) (d : RawToolCallDelta) :
    firstName (ds ++ [d]) = keepFirst (firstName ds) (nonEmpty d.name) := by
  have h := first_append_single (ds.map (·.name)) d.name
  simpa [firstName, List.filterMap_map, Function.comp_def] using h

theorem firstType_append_single (ds : List RawToolCallDelta) (d : RawToolCallDelta) :
    firstType (ds ++ [d]) = keepFirst (firstType ds) (nonEmpty d.callType) := by
  have h := first_append_single (ds.map (·.callType)) d.callType
  simpa [firstType, List.filterMap_map, Function.comp_def] using h

theorem argumentText_append_single (ds : List RawToolCallDelta) (d : RawToolCallDelta) :
    argumentText (ds ++ [d]) = argumentText ds ++ d.arguments.getD "" := by
  simp [argumentText, String.join_append, String.join_cons, String.join_nil]

theorem fragmentsAt_append_single (index : Nat) (ds : List RawToolCallDelta)
    (d : RawToolCallDelta) :
    fragmentsAt index (ds ++ [d]) =
      if d.index = index then fragmentsAt index ds ++ [d] else fragmentsAt index ds := by
  by_cases h : d.index = index <;> simp [fragmentsAt, List.filter_append, h]

theorem fragmentsAt_eq_nil {index : Nat} {ds : List RawToolCallDelta}
    (h : ds.any (·.index == index) = false) : fragmentsAt index ds = [] := by
  simpa [fragmentsAt] using h

theorem mem_positions (i : Nat) (ds : List RawToolCallDelta) :
    i ∈ positions ds ↔ ds.any (·.index == i) := by
  have hbound : ∀ d ∈ ds, d.index < ds.foldr (fun d m => max (d.index + 1) m) 0 := by
    intro d hd
    induction ds with
    | nil => cases hd
    | cons e rest ih =>
      rcases List.mem_cons.1 hd with rfl | hrest
      · simp
      · have := ih hrest
        simp only [List.foldr_cons]
        omega
  constructor
  · intro h
    exact (List.mem_filter.1 h).2
  · intro h
    obtain ⟨d, hd, hi⟩ := List.any_eq_true.1 h
    have hdi : d.index = i := by simpa using hi
    refine List.mem_filter.2 ⟨List.mem_range.2 ?_, h⟩
    exact hdi ▸ hbound d hd

theorem positions_sorted (ds : List RawToolCallDelta) : (positions ds).Pairwise (· < ·) :=
  (List.pairwise_lt_range).filter _

theorem any_index_eq (i : Nat) (ds : List RawToolCallDelta) :
    ds.any (·.index == i) = !(fragmentsAt i ds).isEmpty := by
  cases h : ds.any (·.index == i)
  · simp [fragmentsAt_eq_nil h]
  · obtain ⟨d, hd, hdi⟩ := List.any_eq_true.1 h
    have hmem : d ∈ fragmentsAt i ds := List.mem_filter.2 ⟨hd, hdi⟩
    cases hf : fragmentsAt i ds with
    | nil => simp [hf] at hmem
    | cons _ _ => rfl

/-- Fragments with the same fragments at every position, in the same order, name the same
    positions. -/
theorem positions_congr {ds ds' : List RawToolCallDelta}
    (h : ∀ i, fragmentsAt i ds' = fragmentsAt i ds) : positions ds' = positions ds := by
  refine List.Pairwise.eq_of_mem_iff (positions_sorted ds') (positions_sorted ds) fun i => ?_
  rw [mem_positions, mem_positions, any_index_eq, any_index_eq, h]

/-- What the accumulator holds for a position after its fragments `ds`. -/
def Pending.ofFragments (ds : List RawToolCallDelta) : Pending :=
  { id := firstId ds, callType := firstType ds, name := firstName ds, arguments := argumentText ds }

/-- The accumulator holds, in ascending order of position, exactly the positions the
    fragments `seen` name, each with what its fragments say. -/
structure Accumulator.Holds (a : Accumulator) (seen : List RawToolCallDelta) : Prop where
  sorted : a.entries.Pairwise (fun x y => x.1 < y.1)
  lookup : ∀ i, a.entries.lookup i =
    if seen.any (·.index == i) then some (Pending.ofFragments (fragmentsAt i seen)) else none

namespace Accumulator

theorem holds_empty : ({} : Accumulator).Holds [] :=
  ⟨List.Pairwise.nil, fun i => by simp⟩

theorem key_of_mem_update {entries : List (Nat × Pending)} {index : Nat} {f : Pending → Pending}
    {z : Nat × Pending} (hz : z ∈ update entries index f) :
    z.1 = index ∨ z.1 ∈ entries.map (·.1) := by
  induction entries with
  | nil =>
    simp only [update, List.mem_singleton] at hz
    exact .inl (by rw [hz])
  | cons entry rest ih =>
    obtain ⟨k, p⟩ := entry
    by_cases hlt : index < k
    · simp only [update, hlt, ↓reduceIte, List.mem_cons] at hz
      rcases hz with rfl | rfl | hz
      · exact .inl rfl
      · exact .inr (by simp)
      · exact .inr (by simp only [List.map_cons, List.mem_cons]; exact .inr (List.mem_map_of_mem hz))
    · by_cases heq : index = k
      · subst heq
        simp only [update, hlt, ↓reduceIte, beq_self_eq_true, List.mem_cons] at hz
        rcases hz with rfl | hz
        · exact .inl rfl
        · exact .inr (by simp only [List.map_cons, List.mem_cons]; exact .inr (List.mem_map_of_mem hz))
      · have hne : (index == k) = false := by simpa using heq
        simp only [update, hlt, ↓reduceIte, hne, Bool.false_eq_true, List.mem_cons] at hz
        rcases hz with rfl | hz
        · exact .inr (by simp)
        · rcases ih hz with h | h
          · exact .inl h
          · exact .inr (by simp only [List.map_cons, List.mem_cons]; exact .inr h)

theorem update_sorted {entries : List (Nat × Pending)} (index : Nat) (f : Pending → Pending)
    (h : entries.Pairwise (fun x y => x.1 < y.1)) :
    (update entries index f).Pairwise (fun x y => x.1 < y.1) := by
  induction entries with
  | nil => simp [update]
  | cons entry rest ih =>
    obtain ⟨k, p⟩ := entry
    have hhead := (List.pairwise_cons.1 h).1
    have htail := (List.pairwise_cons.1 h).2
    by_cases hlt : index < k
    · simp only [update, hlt, ↓reduceIte]
      refine List.pairwise_cons.2 ⟨?_, h⟩
      intro y hy
      rcases List.mem_cons.1 hy with rfl | hy
      · exact hlt
      · exact Nat.lt_trans hlt (hhead y hy)
    · by_cases heq : index = k
      · subst heq
        simp only [update, Nat.lt_irrefl, ↓reduceIte, beq_self_eq_true]
        exact List.pairwise_cons.2 ⟨hhead, htail⟩
      · have hgt : k < index := by omega
        have hne : (index == k) = false := by simpa using heq
        simp only [update, hlt, ↓reduceIte, hne, Bool.false_eq_true]
        refine List.pairwise_cons.2 ⟨fun y hy => ?_, ih htail⟩
        rcases key_of_mem_update hy with hy | hy
        · rw [hy]
          exact hgt
        · obtain ⟨z, hz, hzy⟩ := List.mem_map.1 hy
          rw [← hzy]
          exact hhead z hz

theorem lookup_update {entries : List (Nat × Pending)} (index : Nat) (f : Pending → Pending)
    (h : entries.Pairwise (fun x y => x.1 < y.1)) (j : Nat) :
    (update entries index f).lookup j =
      if j = index then some (f ((entries.lookup index).getD {})) else entries.lookup j := by
  induction entries with
  | nil => by_cases hj : j = index <;> simp [update, hj]
  | cons entry rest ih =>
    obtain ⟨k, p⟩ := entry
    have hhead := (List.pairwise_cons.1 h).1
    have htail := (List.pairwise_cons.1 h).2
    by_cases hlt : index < k
    · have habsent : (((k, p) :: rest).lookup index) = none := by
        simp only [List.lookup_eq_none_iff, List.mem_cons]
        rintro q (rfl | hq)
        · simpa using Nat.ne_of_lt hlt
        · simpa using Nat.ne_of_lt (Nat.lt_trans hlt (hhead q hq))
      by_cases hj : j = index
      · subst hj
        simp [update, hlt, habsent]
      · have hb : (j == index) = false := by simpa using hj
        simp [update, hlt, hj, List.lookup_cons, hb]
    · by_cases heq : index = k
      · subst heq
        by_cases hj : j = index
        · subst hj
          simp [update]
        · have hb : (j == index) = false := by simpa using hj
          simp [update, hj, List.lookup_cons, hb]
      · have hne : (index == k) = false := by simpa using heq
        simp only [update, hlt, ↓reduceIte, hne, Bool.false_eq_true, List.lookup_cons, ih htail]
        by_cases hj : j = index
        · subst hj
          simp [hne]
        · simp [hj]

theorem lookup_of_mem {entries : List (Nat × Pending)}
    (h : entries.Pairwise (fun x y => x.1 < y.1)) {e : Nat × Pending} (he : e ∈ entries) :
    entries.lookup e.1 = some e.2 := by
  induction entries with
  | nil => cases he
  | cons x rest ih =>
    obtain ⟨k, v⟩ := x
    rcases List.mem_cons.1 he with rfl | he
    · simp
    · have hlt := (List.pairwise_cons.1 h).1 e he
      have hne : (e.1 == k) = false := by simpa using Nat.ne_of_gt hlt
      simp [List.lookup_cons, hne, ih (List.pairwise_cons.1 h).2 he]

/-- Merging a fragment keeps the accumulator in step with the fragments it has seen, and
    the fragment is passed on in normal form. -/
theorem apply_holds {a : Accumulator} {seen : List RawToolCallDelta} (h : a.Holds seen)
    (d : RawToolCallDelta) :
    (a.apply d).1 = normalize d ∧ (a.apply d).2.Holds (seen ++ [d]) := by
  refine ⟨rfl, update_sorted _ _ h.sorted, fun j => ?_⟩
  rw [apply, lookup_update _ _ h.sorted, h.lookup, h.lookup]
  by_cases hj : j = d.index
  · subst hj
    by_cases hseen : seen.any (·.index == d.index)
    · simp [hseen, Pending.ofFragments, fragmentsAt_append_single, firstId_append_single,
        firstName_append_single, firstType_append_single, argumentText_append_single]
    · have hnil := fragmentsAt_eq_nil (Bool.eq_false_iff.2 hseen)
      simp [hseen, Pending.ofFragments, fragmentsAt_append_single, hnil, firstId, firstName,
        firstType, argumentText, keepFirst, String.join_cons, String.join_nil]
  · have hne : (d.index == j) = false := by simpa using Ne.symm hj
    simp [hj, hne, fragmentsAt_append_single, Ne.symm hj]

theorem applyAll_holds {a : Accumulator} {seen : List RawToolCallDelta} (h : a.Holds seen)
    (ds : List RawToolCallDelta) :
    (applyAll a ds).1 = ds.map normalize ∧ (applyAll a ds).2.Holds (seen ++ ds) := by
  induction ds generalizing a seen with
  | nil => simpa [applyAll] using h
  | cons d ds ih =>
    obtain ⟨hd, ha⟩ := apply_holds h d
    obtain ⟨hds, hrest⟩ := ih ha
    refine ⟨by simp [applyAll, hd, hds], ?_⟩
    simpa [applyAll] using hrest

/-- An accumulator that is in step with the fragments it has seen finishes with the call
    of every position they name, in ascending order. -/
theorem finish_of_holds {a : Accumulator} {seen : List RawToolCallDelta} (h : a.Holds seen) :
    a.finish = (positions seen).map fun i => assemble (fragmentsAt i seen) := by
  have hself : ∀ e ∈ a.entries, a.entries.lookup e.1 = some e.2 :=
    fun e he => lookup_of_mem h.sorted he
  have hkeys : a.entries.map (·.1) = positions seen := by
    refine List.Pairwise.eq_of_mem_iff ?_ (positions_sorted seen) fun i => ?_
    · exact List.pairwise_map.2 h.sorted
    · rw [mem_positions]
      have hl := h.lookup i
      constructor
      · intro hi
        obtain ⟨e, he, rfl⟩ := List.mem_map.1 hi
        by_contra hno
        rw [hself e he] at hl
        simp [hno] at hl
      · intro hi
        have hsome : (a.entries.lookup i).isSome := by simp [hl, hi]
        obtain ⟨e, he, hei⟩ := List.lookup_isSome_iff.1 hsome
        exact List.mem_map.2 ⟨e, he, (beq_iff_eq.1 hei).symm⟩
  have hvalues : ∀ e ∈ a.entries, e.2 = Pending.ofFragments (fragmentsAt e.1 seen) := by
    intro e he
    have hl := h.lookup e.1
    rw [hself e he] at hl
    split at hl
    · exact Option.some.inj hl
    · cases hl
  rw [← hkeys, List.map_map, finish]
  exact List.map_congr_left fun e he => by simp [hvalues e he, assemble, Pending.ofFragments]

end Accumulator

/-- The finish reason a provider reported last, in the protocol's terms. -/
def lastReason (events : List ProviderEvent) : Option FinishReason :=
  ((events.filterMap (·.finishReason)).getLast?).map FinishReason.ofProvider

/-- The usage a provider reported last. -/
def lastUsage (events : List ProviderEvent) : Option Usage :=
  (events.filterMap (·.usage)).getLast?

/-- Every tool call fragment of the events, in order. -/
def allFragments (events : List ProviderEvent) : List RawToolCallDelta :=
  events.flatMap (·.toolCalls)

/-- The chunk an event becomes: its text and its fragments in normal form, unless it
    carries neither. -/
def eventChunk (e : ProviderEvent) : Option Chunk :=
  if e.text.isEmpty && e.toolCalls.isEmpty then none
  else some { text := e.text, toolCallDeltas := e.toolCalls.map normalize }

/-- The events a provider sent before its first failure. -/
def okPrefix : List (Except ProviderError ProviderEvent) → List ProviderEvent
  | .ok e :: rest => e :: okPrefix rest
  | _ => []

/-- Whether the items of a provider stream include a failure. -/
def hasFailure : List (Except ProviderError ProviderEvent) → Bool
  | .ok _ :: rest => hasFailure rest
  | .error _ :: _ => true
  | [] => false

/-- The terminal chunk of a stream that ended, after the events it sent: an `error` chunk
    with the usage so far if it failed; otherwise the last reason reported (`stop` when none
    was), the last usage, and, for `tool-calls`, the call of every position in ascending
    order. -/
def closingChunk (events : List ProviderEvent) (failed : Bool) : Chunk :=
  if failed then Chunk.terminal .error (lastUsage events) []
  else Chunk.terminal ((lastReason events).getD .stop) (lastUsage events)
    ((positions (allFragments events)).map fun i => assemble (fragmentsAt i (allFragments events)))

/-- The accumulator task's progress is in step with the events it has read. -/
structure Progress.Holds (p : Progress) (events : List ProviderEvent) : Prop where
  calls : p.calls.Holds (allFragments events)
  reason : p.finishReason = lastReason events
  usage : p.usage = lastUsage events

theorem lastReason_append_single (events : List ProviderEvent) (e : ProviderEvent) :
    lastReason (events ++ [e]) =
      match e.finishReason with
      | some r => some (FinishReason.ofProvider r)
      | none => lastReason events := by
  cases h : e.finishReason <;> simp [lastReason, h, List.filterMap_append]

theorem lastUsage_append_single (events : List ProviderEvent) (e : ProviderEvent) :
    lastUsage (events ++ [e]) = if e.usage.isSome then e.usage else lastUsage events := by
  cases h : e.usage <;> simp [lastUsage, h, List.filterMap_append]

theorem progress_holds_empty : ({} : Progress).Holds [] :=
  ⟨Accumulator.holds_empty, rfl, rfl⟩

theorem step_holds {p : Progress} {events : List ProviderEvent} (h : p.Holds events)
    (e : ProviderEvent) : (step p e).1 = eventChunk e ∧ (step p e).2.Holds (events ++ [e]) := by
  obtain ⟨hdeltas, hcalls⟩ := Accumulator.applyAll_holds h.calls e.toolCalls
  rcases hall : applyAll p.calls e.toolCalls with ⟨deltas, calls⟩
  rw [hall] at hdeltas hcalls
  simp only at hdeltas hcalls
  subst hdeltas
  have hstep : step p e = (eventChunk e,
      { calls := calls
        finishReason := match e.finishReason with
          | some r => some (FinishReason.ofProvider r)
          | none => p.finishReason
        usage := if e.usage.isSome then e.usage else p.usage }) := by
    unfold step eventChunk
    rw [hall]
    simp only [List.isEmpty_map]
    split <;> rfl
  rw [hstep]
  refine ⟨rfl, ⟨?_, ?_, ?_⟩⟩
  · simpa [allFragments, List.flatMap_append] using hcalls
  · cases hr : e.finishReason <;> simp [hr, lastReason_append_single, h.reason]
  · cases hu : e.usage <;> simp [hu, lastUsage_append_single, h.usage]

/-- A provider stream that ends yields a chunk for each event before its first failure
    that carries text or fragments, then its closing chunk, and the channel closes. -/
theorem accumulateFrom_finished {p : Progress} {events : List ProviderEvent} (h : p.Holds events)
    (items : List (Except ProviderError ProviderEvent)) :
    accumulateFrom p .finished items =
      ⟨(okPrefix items).filterMap eventChunk ++
        [closingChunk (events ++ okPrefix items) (hasFailure items)], .closed⟩ := by
  induction items generalizing p events with
  | nil =>
    simp [accumulateFrom, okPrefix, hasFailure, closingChunk, ← h.reason, ← h.usage,
      Accumulator.finish_of_holds h.calls]
  | cons item items ih =>
    cases item with
    | error e =>
      simp [accumulateFrom, okPrefix, hasFailure, closingChunk, h.usage]
    | ok e =>
      obtain ⟨hchunk, hstep⟩ := step_holds h e
      rcases hs : step p e with ⟨chunk, p'⟩
      rw [hs] at hchunk hstep
      simp only at hchunk hstep
      subst hchunk
      have hrest := ih hstep
      cases hc : eventChunk e <;>
        simp [accumulateFrom, hs, hrest, hc, okPrefix, hasFailure]

theorem accumulate_finished (items : List (Except ProviderError ProviderEvent)) :
    accumulate ⟨items, .finished⟩ =
      ⟨(okPrefix items).filterMap eventChunk ++
        [closingChunk (okPrefix items) (hasFailure items)], .closed⟩ := by
  simpa [accumulate] using accumulateFrom_finished progress_holds_empty items

/-- Merging fragments from an empty accumulator leaves the call of every position they name,
    in ascending order of position. -/
theorem finish_applyAll (ds : List RawToolCallDelta) :
    (applyAll {} ds).2.finish = (positions ds).map fun i => assemble (fragmentsAt i ds) := by
  have hholds := (Accumulator.applyAll_holds Accumulator.holds_empty ds).2
  rw [List.nil_append] at hholds
  exact Accumulator.finish_of_holds hholds

/-- The accumulator against its reference definition. Every fragment merged, whatever the
    accumulator held, is passed on in normal form. A fresh accumulator that merged fragments
    `ds` finishes with one call for each position they name, in strictly ascending order; the
    call at position `i` has the first non-empty id, name and type among the fragments at
    `i` (empty, empty and `function` when there is none) and their argument text in the order
    it came. So a reordering of `ds` that keeps the order of each position's fragments
    finishes with the same calls. -/
theorem accumulator_matches_reference (ds : List RawToolCallDelta) :
    (∀ (a : Accumulator) (d : RawToolCallDelta), (a.apply d).1 = normalize d) ∧
    (applyAll {} ds).1 = ds.map normalize ∧
    (applyAll {} ds).2.finish = (positions ds).map (fun i => assemble (fragmentsAt i ds)) ∧
    (positions ds).Pairwise (· < ·) ∧ (∀ i, i ∈ positions ds ↔ ∃ d ∈ ds, d.index = i) ∧
    ∀ ds' : List RawToolCallDelta, (∀ i, fragmentsAt i ds' = fragmentsAt i ds) →
      (applyAll {} ds').2.finish = (applyAll {} ds).2.finish := by
  refine ⟨fun a d => rfl, ?_, finish_applyAll ds, positions_sorted ds, fun i => ?_,
    fun ds' h => ?_⟩
  · simpa using (Accumulator.applyAll_holds Accumulator.holds_empty ds).1
  · simp [mem_positions]
  · rw [finish_applyAll, finish_applyAll, positions_congr h]
    exact List.map_congr_left fun i _ => by rw [h i]

/-- Two calls whose fragments interleave finish the same when the first call's fragment is
    moved to the end. -/
theorem accumulator_matches_reference_interleaved :
    (∀ i, fragmentsAt i
        [{ index := 1, id := some "b", name := some "g", arguments := some "[" },
         { index := 1, arguments := some "]" },
         { index := 0, id := some "a", callType := some "function", name := some "f" }] =
      fragmentsAt i
        [{ index := 1, id := some "b", name := some "g", arguments := some "[" },
         { index := 0, id := some "a", callType := some "function", name := some "f" },
         { index := 1, arguments := some "]" }]) ∧
    (applyAll {}
        [{ index := 1, id := some "b", name := some "g", arguments := some "[" },
         { index := 1, arguments := some "]" },
         { index := 0, id := some "a", callType := some "function", name := some "f" }]).2.finish =
      (applyAll {}
        [{ index := 1, id := some "b", name := some "g", arguments := some "[" },
         { index := 0, id := some "a", callType := some "function", name := some "f" },
         { index := 1, arguments := some "]" }]).2.finish := by
  have h : ∀ i, fragmentsAt i
        [{ index := 1, id := some "b", name := some "g", arguments := some "[" },
         { index := 1, arguments := some "]" },
         { index := 0, id := some "a", callType := some "function", name := some "f" }] =
      fragmentsAt i
        [{ index := 1, id := some "b", name := some "g", arguments := some "[" },
         { index := 0, id := some "a", callType := some "function", name := some "f" },
         { index := 1, arguments := some "]" }] := by
    intro i
    rcases i with _ | _ | i <;> simp [fragmentsAt]
  exact ⟨h, (accumulator_matches_reference _).2.2.2.2.2 _ h⟩

/-- The accumulator task over a provider stream that ends, with no cancellation and a
    receiver that reads to the end: each event before the first failed item that carries text
    or fragments becomes one chunk with its text and its fragments in normal form, and nothing
    else; then one terminal chunk follows and the channel closes. The terminal chunk's reason
    is `error` after a failed item, otherwise the last reason reported, `stop` when none was;
    it carries the last usage reported, and, only for `tool-calls`, what the accumulator
    finishes with after every fragment. -/
theorem accumulate_run_contract (items : List (Except ProviderError ProviderEvent)) :
    let events := okPrefix items
    let reason := if hasFailure items then FinishReason.error else (lastReason events).getD .stop
    accumulate ⟨items, .finished⟩ =
      ⟨events.filterMap (fun e => if e.text.isEmpty && e.toolCalls.isEmpty then none else
          some { text := e.text, toolCallDeltas := e.toolCalls.map normalize,
                 completedToolCalls := [], done := false, finishReason := none, usage := none }) ++
        [{ text := "", toolCallDeltas := [], done := true, finishReason := some reason,
           usage := lastUsage events,
           completedToolCalls :=
             if reason.isToolCalls then (applyAll {} (allFragments events)).2.finish else [] }],
        .closed⟩ := by
  dsimp only
  have hchunk : (fun e : ProviderEvent => if e.text.isEmpty && e.toolCalls.isEmpty then none else
      some ({ text := e.text, toolCallDeltas := e.toolCalls.map normalize, completedToolCalls := [],
              done := false, finishReason := none, usage := none } : Chunk)) = eventChunk := rfl
  rw [hchunk, accumulate_finished, finish_applyAll]
  cases hasFailure items
  · rfl
  · simp [closingChunk, Chunk.terminal, FinishReason.isToolCalls]

end ChatWire.Stream
