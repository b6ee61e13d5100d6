import ChatWire.Proofs.JsonRoundTrip
import ChatWire.Proofs.Writer

namespace ChatWire.Json

/-- Whether a text holds no character below `U+0020`, so nothing that ends a line. -/
def noControl (s : String) : Bool :=
  s.toList.all fun c => decide (0x20 ≤ c.toNat)

@[simp] theorem noControl_append (a b : String) :
    noControl (a ++ b) = (noControl a && noControl b) := by
  simp only [noControl, String.toList_append, List.all_append]

theorem not_mem_of_noControl {s : String} (h : noControl s) :
    '\n' ∉ s.toList ∧ '\r' ∉ s.toList := by
  simp only [noControl, List.all_eq_true, decide_eq_true_eq] at h
  constructor <;> intro hc <;> exact absurd (h _ hc) (by decide)

theorem toNat_of_isDigit {c : Char} (h : c.isDigit) : 48 ≤ c.toNat := by
  simp only [Char.isDigit, Bool.and_eq_true, decide_eq_true_eq] at h
  exact h.1

theorem noControl_ofList_digits {n : Nat} {l : List Char} (h : l ⊆ Nat.toDigits 10 n) :
    noControl (String.ofList l) := by
  simp only [noControl, String.toList_ofList, List.all_eq_true, decide_eq_true_eq]
  intro c hc
  have := toNat_of_isDigit (Nat.isDigit_of_mem_toDigits (by decide) (by decide) (h hc))
  omega

theorem noControl_toString (n : Nat) : noControl (toString n) :=
  noControl_ofList_digits (List.Subset.refl _)

theorem noControl_zeros (n : Nat) : noControl (zeros n) := by
  simp [zeros, noControl]

theorem Binary64.noControl_jsonText (x : Binary64) : noControl x.jsonText := by
  have hdigits : ∀ l ⊆ Nat.toDigits 10 x.shortest.digits, noControl (String.ofList l) :=
    fun _ hl => noControl_ofList_digits hl
  unfold Binary64.jsonText
  dsimp only
  split_ifs <;> simp +decide only [noControl_append, hdigits _ (List.take_subset _ _),
    hdigits _ (List.drop_subset _ _), hdigits _ (List.Subset.refl _), noControl_zeros,
    noControl_toString, Bool.and_true]

theorem Number.noControl_jsonText (n : Number) : noControl n.jsonText := by
  cases n with
  | int i =>
    cases i with
    | ofNat m => exact noControl_toString m
    | negSucc m =>
      show noControl ("-" ++ toString (m + 1))
      simp +decide only [noControl_append, noControl_toString]
  | float x => exact Binary64.noControl_jsonText x

theorem hexDigit_toNat_ge : ∀ n < 16, 0x20 ≤ (hexDigit n).toNat := by
  decide

theorem escapeChar_noControl (c : Char) :
    (escapeChar c).all fun c' => decide (0x20 ≤ c'.toNat) := by
  unfold escapeChar
  split_ifs with h1 h2 h3 h4 h5 h6 h7 h8
  all_goals try decide
  · have hhi := hexDigit_toNat_ge (c.toNat / 16) (by omega)
    have hlo := hexDigit_toNat_ge (c.toNat % 16) (by omega)
    simp only [List.all_cons, List.all_nil, decide_eq_true hhi, decide_eq_true hlo]
    decide
  · simp only [List.all_cons, List.all_nil, Bool.and_true, decide_eq_true_eq]
    omega

theorem noControl_quote (s : String) : noControl (quote s) := by
  have hbody : (s.toList.flatMap escapeChar).all fun c => decide (0x20 ≤ c.toNat) := by
    rw [List.all_flatMap, List.all_eq_true]
    exact fun c _ => escapeChar_noControl c
  simp only [noControl, quote, String.toList_ofList, List.all_cons, List.all_append, hbody]
  decide

mutual

theorem Value.noControl_render : (v : Value) → noControl v.render
  | .null => by decide
  | .bool true => by decide
  | .bool false => by decide
  | .number n => Number.noControl_jsonText n
  | .string s => noControl_quote s
  | .array items => by
    rw [Value.render]
    simp +decide only [noControl_append, noControl_renderItems items]
  | .object members => by
    rw [Value.render]
    simp +decide only [noControl_append, noControl_renderMembers members]

theorem noControl_renderItems : (items : List Value) → noControl (renderItems items)
  | [] => by decide
  | [v] => Value.noControl_render v
  | v :: w :: rest => by
    rw [renderItems]
    · simp +decide only [noControl_append, Value.noControl_render v,
        noControl_renderItems (w :: rest)]
    · exact List.cons_ne_nil w rest

theorem noControl_renderMembers : (members : List (String × Value)) →
    noControl (renderMembers members)
  | [] => by decide
  | [(k, v)] => by
    rw [renderMembers]
    simp +decide only [noControl_append, noControl_quote, Value.noControl_render v]
  | (k, v) :: m :: rest => by
    rw [renderMembers]
    · simp +decide only [noControl_append, noControl_quote, Value.noControl_render v,
        noControl_renderMembers (m :: rest)]
    · exact List.cons_ne_nil m rest

end

end ChatWire.Json

namespace ChatWire.Wire

open ChatWire.Json ChatWire.Text

theorem PartKind.noControl_tag (kind : PartKind) : noControl kind.tag := by
  cases kind <;> decide

theorem PartKind.tag_injective : Function.Injective PartKind.tag := by
  intro a b h
  cases a <;> cases b <;> simp [PartKind.tag] at h ⊢

theorem Part.line_toList (p : Part) :
    p.line.toList = (p.kind.tag ++ ":" ++ p.payload.render).toList ++ ['\n'] := by
  simp only [Part.line, frame, String.toList_append]
  rfl

theorem partBytes_eq (parts : List Part) :
    partBytes parts = utf8 (String.ofList
      ((parts.map fun p => (p.kind.tag ++ ":" ++ p.payload.render).toList).flatMap
        (· ++ ['\n']))) := by
  simp only [partBytes, utf8, String.toList_ofList, List.flatMap_map, List.flatMap_assoc,
    Part.line_toList]

theorem Sink.lines_partBytes {s : Sink} {parts : List Part} (h : s.received = partBytes parts) :
    s.lines = parts.map fun p => p.kind.tag ++ ":" ++ p.payload.render := by
  rw [Sink.lines, Sink.contents, h, partBytes_eq, decodeLossy_utf8, lines_of_terminated]
  · simp only [List.map_map, Function.comp_def, String.ofList_toList]
  · simp only [List.mem_map]
    rintro _ ⟨p, -, rfl⟩
    apply not_mem_of_noControl
    simp only [noControl_append, PartKind.noControl_tag, Value.noControl_render]
    decide

theorem parse_text_payload (s : String) :
    parse (Part.text s).payload.render = .ok (.string s) :=
  parse_render (v := .string s) rfl (Nat.zero_le 127)

theorem parse_error_payload (m : String) :
    parse (Part.error m).payload.render = .ok (.string m) :=
  parse_render (v := .string m) rfl (Nat.zero_le 127)

theorem parse_argDelta_payload (id delta : String) :
    parse (Part.toolCallArgDelta id delta).payload.render =
      .ok (.object [("argsTextDelta", .string delta), ("toolCallId", .string id)]) := by
  have hlt : ("argsTextDelta" : String) < "toolCallId" := by
    rw [String.lt_iff_toList_lt]
    decide
  rw [Part.payload, parse_render rfl (by simp [Value.nesting, Value.nestingMembers])]
  simp [Value.canonical, Value.canonicalMembers, Value.mapOf, Value.insertMember, hlt]

/-- Every value with exact integers, sorted keys and at most 127 levels of nesting is
    framed as one line whose payload reads back as the value; tags tell kinds apart; a
    sink holding framed parts gives one line per part; and the payloads of text, error
    and argument-delta parts read back as their strings. -/
theorem framed_parts_read_back :
    (∀ (kind : PartKind) (v : Value), v.plain → v.sortedKeys → v.nesting ≤ 127 →
      frame kind v = kind.tag ++ ":" ++ v.render ++ "\n" ∧
        '\n' ∉ v.render.toList ∧ '\r' ∉ v.render.toList ∧ parse v.render = .ok v) ∧
    Function.Injective PartKind.tag ∧
    (∀ parts : List Part, ({ received := partBytes parts } : Sink).lines =
      parts.map fun p => p.kind.tag ++ ":" ++ p.payload.render) ∧
    (∀ s : String, parse (Part.text s).payload.render = .ok (.string s) ∧
      parse (Part.error s).payload.render = .ok (.string s)) ∧
    (∀ id delta : String, parse (Part.toolCallArgDelta id delta).payload.render =
      .ok (.object [("argsTextDelta", .string delta), ("toolCallId", .string id)])) := by
  refine ⟨fun kind v hv hs hd => ?_, PartKind.tag_injective, fun parts => Sink.lines_partBytes rfl,
    fun s => ⟨parse_text_payload s, parse_error_payload s⟩, parse_argDelta_payload⟩
  obtain ⟨hn, hr⟩ := not_mem_of_noControl (Value.noControl_render v)
  refine ⟨rfl, hn, hr, ?_⟩
  rw [parse_render hv hd, Value.canonical_of_sortedKeys v hs]

/-- A data part holding a number, a string with a newline and a map reads back. -/
theorem framed_parts_read_back_data :
    let v : Value := .array [.nat 7, .string "a\nb", .object [("k", .null), ("m", .bool true)]]
    frame .data v = "2:" ++ v.render ++ "\n" ∧ parse v.render = .ok v :=
  let h := (framed_parts_read_back.1 .data
    (.array [.nat 7, .string "a\nb", .object [("k", .null), ("m", .bool true)]])
    (by decide) (by decide) (by decide))
  ⟨h.1, h.2.2.2⟩

end ChatWire.Wire
