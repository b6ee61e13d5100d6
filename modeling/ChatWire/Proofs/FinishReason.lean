import ChatWire.Proofs.Transcript

namespace ChatWire.Wire.FinishReason

/-- The wire spelling of a reason a provider reports: `stop` for an empty reason, the
    hyphenated spelling of the two reasons providers write with an underscore, and the
    text itself otherwise. -/
def wireSpelling (reason : String) : String :=
  if reason = "" then "stop"
  else if reason = "tool_calls" then "tool-calls"
  else if reason = "content_filter" then "content-filter"
  else reason

/-- Whether a provider's reason asks for tool calls, in either spelling. -/
def asksForTools (reason : String) : Bool :=
  reason == "tool_calls" || reason == "tool-calls"

theorem name_ofProvider (reason : String) : (ofProvider reason).name = wireSpelling reason := by
  unfold ofProvider
  split <;> simp_all [name, wireSpelling]

theorem ofProvider_wireSpelling (reason : String) :
    ofProvider (wireSpelling reason) = ofProvider reason := by
  unfold wireSpelling
  split_ifs with hempty htools hfilter
  · subst hempty; rfl
  · subst htools; rfl
  · subst hfilter; rfl
  · rfl

theorem isToolCalls_ofProvider (reason : String) :
    (ofProvider reason).isToolCalls = asksForTools reason := by
  unfold ofProvider
  split <;> simp_all [isToolCalls, asksForTools]

theorem ofProvider_name_ofProvider (reason : String) :
    ofProvider (ofProvider reason).name = ofProvider reason := by
  rw [name_ofProvider, ofProvider_wireSpelling]

end ChatWire.Wire.FinishReason

namespace ChatWire.Turn

open ChatWire.Wire ChatWire.Wire.FinishReason

/-- The finish lines of a step: the step's line with the reason's wire spelling, the usage
    when known and `isContinued` when the step ends in tool calls, then the message's line
    unless it does. -/
theorem finishParts_lines (reason : FinishReason) (usage : Option Usage) :
    (finishParts reason usage).map Part.line =
      frame .finishStep (.object ([("finishReason", .string reason.name)] ++
          Part.usageMember usage ++
          if reason.isToolCalls then [("isContinued", .bool true)] else [])) ::
        if reason.isToolCalls then []
        else [frame .finishMessage (.object ([("finishReason", .string reason.name)] ++
          Part.usageMember usage))] := by
  cases h : reason.isToolCalls <;>
    simp [finishParts, h, Part.line, Part.kind, Part.payload, FinishReason.toValue]

/-- Reading a provider's reason is a projection onto its wire spelling: the spelling reads
    back as the same reason, it is the provider's text but for `""`, `tool_calls` and
    `content_filter`, the reason asks for tool calls exactly for the two tool call
    spellings, its JSON form is the string of its spelling, and the finish lines written for
    it are fixed by the provider's text and the usage. -/
theorem ofProvider_projects_onto_wire_spelling (reason : String) (usage : Option Usage) :
    ofProvider (ofProvider reason).name = ofProvider reason ∧
    (ofProvider reason).name = wireSpelling reason ∧
    ((ofProvider reason).isToolCalls = true ↔ reason = "tool_calls" ∨ reason = "tool-calls") ∧
    (ofProvider reason).toValue = .string (ofProvider reason).name ∧
    (finishParts (ofProvider reason) usage).map Part.line =
      frame .finishStep (.object ([("finishReason", .string (wireSpelling reason))] ++
          Part.usageMember usage ++
          if asksForTools reason then [("isContinued", .bool true)] else [])) ::
        if asksForTools reason then []
        else [frame .finishMessage (.object ([("finishReason", .string (wireSpelling reason))] ++
          Part.usageMember usage))] := by
  refine ⟨ofProvider_name_ofProvider reason, name_ofProvider reason, ?_, rfl, ?_⟩
  · simp [isToolCalls_ofProvider, asksForTools]
  · rw [finishParts_lines, name_ofProvider, isToolCalls_ofProvider]

example : (ofProvider "content_filter").name = "content-filter" := by decide

end ChatWire.Turn
