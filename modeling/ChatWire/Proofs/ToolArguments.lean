import ChatWire.Proofs.JsonRoundTrip
import ChatWire.Tool.Result
import ChatWire.Stream.ToolCall

namespace ChatWire.Json.Reader

open ReadM

theorem exec_skipBlanksFor_append {ws rest : List UInt8} (hws : ∀ b ∈ ws, isBlankByte b = true)
    (hrest : ∀ b ∈ rest.head?, isBlankByte b = false) (fuel : Nat) (hfuel : ws.length ≤ fuel)
    (i t d : Nat) :
    (skipBlanksFor fuel).exec ⟨ws ++ rest, i, t, d⟩ =
      (.ok rest.head?, ⟨rest, i + ws.length, t, d⟩) := by
  induction ws generalizing fuel i with
  | nil =>
    cases fuel with
    | zero => rfl
    | succ fuel =>
      cases rest with
      | nil => rfl
      | cons b r =>
        have hb : isBlankByte b = false := hrest b rfl
        simp [skipBlanksFor, hb]
  | cons w ws ih =>
    obtain ⟨fuel, rfl⟩ : ∃ f, fuel = f + 1 := ⟨fuel - 1, by simp at hfuel; omega⟩
    have hw : isBlankByte w = true := hws w List.mem_cons_self
    simp only [skipBlanksFor, List.cons_append, exec_bind, exec_peek, List.head?_cons, hw, if_true,
      exec_eat]
    rw [ih (fun b hb => hws b (List.mem_cons_of_mem w hb)) fuel (by simp at hfuel; omega) (i + 1)]
    simp [Nat.add_assoc, Nat.add_comm 1]

/-- A byte no JSON value starts with and no blank: the control bytes `0x0B`, `0x0C`, or a byte
    above ASCII. -/
def Inert (b : UInt8) : Prop :=
  b.toNat = 11 ∨ b.toNat = 12 ∨ 128 ≤ b.toNat

theorem isBlankByte_of_inert {b : UInt8} (h : Inert b) : isBlankByte b = false := by
  simp only [isBlankByte, Bool.or_eq_false_iff, beq_eq_false_iff_ne, ne_eq, ← UInt8.toNat_inj,
    UInt8.reduceToNat]
  unfold Inert at h
  omega

theorem exec_skipBlanks_append {ws rest : List UInt8} (hws : ∀ b ∈ ws, isBlankByte b = true)
    (hrest : ∀ b ∈ rest.head?, Inert b) (i t d : Nat) :
    skipBlanks.exec ⟨ws ++ rest, i, t, d⟩ = (.ok rest.head?, ⟨rest, i + ws.length, t, d⟩) := by
  simp only [skipBlanks, exec_bind, exec_get]
  exact exec_skipBlanksFor_append hws (fun b hb => isBlankByte_of_inert (hrest b hb)) _
    (by simp) i t d

theorem exec_readAny_blank {ws rest : List UInt8} (hws : ∀ b ∈ ws, isBlankByte b = true)
    (hrest : ∀ b ∈ rest.head?, Inert b) (fuel i t d : Nat) :
    ∃ e c, (readAny (fuel + 1)).exec ⟨ws ++ rest, i, t, d⟩ = (.error e, c) := by
  rw [readAny]
  simp only [exec_bind, exec_skipBlanks_append hws hrest]
  cases rest with
  | nil => exact ⟨_, _, rfl⟩
  | cons b r =>
    have hb : Inert b := hrest b rfl
    unfold Inert at hb
    have hdigit : isDigit b = false := by
      simp only [isDigit, Bool.and_eq_false_iff, decide_eq_false_iff_not, UInt8.not_le,
        UInt8.lt_iff_toNat_lt, UInt8.reduceToNat]
      omega
    simp only [List.head?_cons]
    split <;> rename_i heq <;> cases heq <;> simp_all [failAhead]

/-- The bytes of a blank character: one blank byte for space, tab, newline and carriage
    return; for every other blank, bytes that start with an inert byte. -/
theorem utf8EncodeChar_of_isBlank {c : Char} (h : Text.isBlank c = true) :
    (∃ b, String.utf8EncodeChar c = [b] ∧ isBlankByte b = true) ∨
      ∃ b r, String.utf8EncodeChar c = b :: r ∧ Inert b := by
  have hc : c.toNat = c.val.toNat := rfl
  simp only [Text.isBlank, hc, Bool.or_eq_true, Bool.and_eq_true, decide_eq_true_eq,
    beq_iff_eq] at h
  unfold String.utf8EncodeChar
  dsimp only
  split
  · rename_i hsmall
    by_cases hjson : c.val.toNat = 9 ∨ c.val.toNat = 10 ∨ c.val.toNat = 13 ∨ c.val.toNat = 32
    · refine .inl ⟨_, rfl, ?_⟩
      rcases hjson with hv | hv | hv | hv <;> simp [hv, isBlankByte]
    · refine .inr ⟨_, [], rfl, ?_⟩
      simp only [Inert, UInt8.toNat_ofNat', Nat.reducePow]
      omega
  · repeat' split
    all_goals
      refine .inr ⟨_, _, rfl, ?_⟩
      simp only [Inert, UInt8.toNat_ofNat', Nat.reducePow]
      omega

theorem flatMap_utf8EncodeChar_of_isBlank (cs : List Char)
    (h : ∀ c ∈ cs, Text.isBlank c = true) :
    ∃ ws rest, cs.flatMap String.utf8EncodeChar = ws ++ rest ∧
      (∀ b ∈ ws, isBlankByte b = true) ∧ ∀ b ∈ rest.head?, Inert b := by
  induction cs with
  | nil => exact ⟨[], [], rfl, by simp, by simp⟩
  | cons c cs ih =>
    obtain ⟨ws, rest, hbytes, hws, hrest⟩ := ih fun c' hc' => h c' (List.mem_cons_of_mem c hc')
    rw [List.flatMap_cons]
    rcases utf8EncodeChar_of_isBlank (h c List.mem_cons_self) with
      ⟨b, hb, hblank⟩ | ⟨b, r, hb, hinert⟩
    · refine ⟨b :: ws, rest, by rw [hb, hbytes]; rfl, ?_, hrest⟩
      intro b' hb'
      rcases List.mem_cons.1 hb' with rfl | hb'
      · exact hblank
      · exact hws b' hb'
    · refine ⟨[], b :: r ++ ws ++ rest, by rw [hb, hbytes]; simp, by simp, ?_⟩
      intro b' hb'
      simp only [List.cons_append, List.head?_cons, Option.mem_def, Option.some.injEq] at hb'
      exact hb' ▸ hinert

end ChatWire.Json.Reader

namespace ChatWire.Json

/-- A text of blanks only is no JSON text: its Unicode blanks that JSON does not skip start
    no value either. -/
theorem parse_of_isBlankText {s : String} (h : Text.isBlankText s = true) :
    ∃ e, parse s = .error e := by
  obtain ⟨ws, rest, hbytes, hws, hrest⟩ :=
    Reader.flatMap_utf8EncodeChar_of_isBlank s.toList (by simpa [Text.isBlankText] using h)
  obtain ⟨e, c, hread⟩ := Reader.exec_readAny_blank hws hrest
    (2 * (Text.utf8 s).length + 62) 0 (Text.utf8 s).length 128
  unfold parse readText
  dsimp only
  rw [show 2 * (Text.utf8 s).length + 64 = 2 * (Text.utf8 s).length + 62 + 1 + 1 from rfl,
    Reader.readAs_any]
  have hexec : ∀ (x : ReadM Value) (c : Cursor), StateT.run (ExceptT.run x) c = x.exec c :=
    fun _ _ => rfl
  rw [Text.utf8] at hread ⊢
  rw [hbytes] at hread ⊢
  simp only [hexec, ReadM.exec_bind, hread]
  cases e <;> exact ⟨_, rfl⟩

end ChatWire.Json

namespace ChatWire.Stream.ToolCall

open ChatWire.Json

theorem parsedArguments_of_ok {c : ToolCall} {v : Value} (h : parse c.arguments = .ok v) :
    c.parsedArguments = v := by
  rw [parsedArguments, h]

theorem parsedArguments_of_error {c : ToolCall} {e : ReadError}
    (h : parse c.arguments = .error e) : c.parsedArguments = .string c.arguments := by
  rw [parsedArguments, h]

end ChatWire.Stream.ToolCall

namespace ChatWire.Tool

open ChatWire.Json ChatWire.Stream

theorem parseArguments_any_of_not_blank {a : String} (h : Text.isBlankText a = false)
    (v : Value) : parseArguments .any a = .ok v ↔ parse a = .ok v := by
  unfold parseArguments parse
  simp only [h, Bool.false_eq_true, if_false]
  cases readText .any a <;> simp

theorem parseArguments_any_of_blank {a : String} (h : Text.isBlankText a = true) :
    parseArguments .any a = .ok (.object []) := by
  unfold parseArguments
  simp only [h, if_true]
  rfl

/-- The arguments a complete call is shown with are those its tool runs with, for every
    argument text the tool accepts, exactly when the text is not blank; a blank text is run
    as the empty object and shown as the string it is. -/
theorem shown_arguments_agree_unless_blank (c : ToolCall) {v : Value}
    (h : parseArguments .any c.arguments = .ok v) :
    (c.parsedArguments = v ↔ Text.isBlankText c.arguments = false) ∧
    (Text.isBlankText c.arguments = true →
      v = .object [] ∧ c.parsedArguments = .string c.arguments) := by
  cases hblank : Text.isBlankText c.arguments with
  | false =>
    have hparse := (parseArguments_any_of_not_blank hblank v).1 h
    exact ⟨iff_of_true (ToolCall.parsedArguments_of_ok hparse) rfl, fun h => absurd h (by simp)⟩
  | true =>
    have hv : v = .object [] := by
      rw [parseArguments_any_of_blank hblank] at h
      exact (Except.ok.inj h).symm
    obtain ⟨e, he⟩ := parse_of_isBlankText hblank
    have hshown := ToolCall.parsedArguments_of_error he
    refine ⟨iff_of_false (by rw [hshown, hv]; simp) (by simp), fun _ => ⟨hv, hshown⟩⟩

/-- A call whose arguments are the array `[1]`. -/
theorem shown_arguments_agree_unless_blank_array :
    parseArguments .any "[1]" = .ok (.array [.number (.int 1)]) ∧
    ((({ id := "c1", callType := "function", name := "t", arguments := "[1]" } :
          ToolCall).parsedArguments = .array [.number (.int 1)] ↔
        Text.isBlankText "[1]" = false) ∧
      (Text.isBlankText "[1]" = true → Value.array [.number (.int 1)] = .object [] ∧
        ({ id := "c1", callType := "function", name := "t", arguments := "[1]" } :
          ToolCall).parsedArguments = .string "[1]")) :=
  have h : parseArguments .any "[1]" = .ok (.array [.number (.int 1)]) := rfl
  ⟨h, shown_arguments_agree_unless_blank
    { id := "c1", callType := "function", name := "t", arguments := "[1]" } h⟩

/-- A call whose argument text is one space runs with `{}` and is shown with the string
    `" "`. -/
theorem blank_arguments_shown_as_text :
    ∃ v, parseArguments .any " " = .ok v ∧
      ({ id := "c1", callType := "function", name := "echo", arguments := " " } :
        ToolCall).parsedArguments ≠ v := by
  obtain ⟨e, he⟩ := parse_of_isBlankText (s := " ") rfl
  refine ⟨.object [], parseArguments_any_of_blank rfl, ?_⟩
  rw [ToolCall.parsedArguments_of_error he]
  simp

end ChatWire.Tool
