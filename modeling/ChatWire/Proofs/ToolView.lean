import ChatWire.Proofs.Reply

open ChatWire.Wire ChatWire.Stream ChatWire.Tool

namespace ChatWire.Turn

theorem check_argumentPart {id : String} (hid : id.isEmpty = false) (text : String) :
    ∀ p ∈ argumentPart id text, Writer.check p = none := by
  intro p hp
  unfold argumentPart at hp
  split at hp
  · cases hp
  · simp only [List.mem_singleton] at hp
    simp [hp, Writer.check, hid]

theorem eq_of_mem_argumentPart {id text : String} {p : Part} (hp : p ∈ argumentPart id text) :
    p = .toolCallArgDelta id text := by
  unfold argumentPart at hp
  split at hp
  · cases hp
  · exact List.mem_singleton.1 hp

namespace ToolStream

/-- A view is well formed when a started call has a non-empty id and a non-empty name. -/
def WellFormed (s : ToolStream) : Prop :=
  s.started = true → s.id.isEmpty = false ∧ s.name.isEmpty = false

/-- `s'` grew out of `s`: an id or a name that was non-empty is unchanged, and a started
    call is still started. -/
structure Grows (s s' : ToolStream) : Prop where
  id : s.id.isEmpty = false → s'.id = s.id
  name : s.name.isEmpty = false → s'.name = s.name
  started : s.started = true → s'.started = true

theorem Grows.refl (s : ToolStream) : s.Grows s := ⟨fun _ => rfl, fun _ => rfl, fun h => h⟩

theorem Grows.trans {s₁ s₂ s₃ : ToolStream} (h₁ : s₁.Grows s₂) (h₂ : s₂.Grows s₃) :
    s₁.Grows s₃ where
  id h := (h₂.id (h₁.id h ▸ h)).trans (h₁.id h)
  name h := (h₂.name (h₁.name h ▸ h)).trans (h₁.name h)
  started h := h₂.started (h₁.started h)

/-- The view with the id and the name a fragment offers, each taken only while the view's
    own is empty. -/
def offer (s : ToolStream) (d : ToolCallDelta) : ToolStream :=
  { s with id := keepFirst s.id d.id, name := keepFirst s.name d.name }

/-- The view after a fragment: a started call only takes what it offers; a call whose id or
    name is still empty holds the fragment's argument text back; a call whose id and name
    are both known now starts, and what it held back goes out. -/
def advance (s : ToolStream) (d : ToolCallDelta) : ToolStream :=
  let o := s.offer d
  if o.started then o
  else if o.id.isEmpty || o.name.isEmpty then
    { o with heldArguments := o.heldArguments ++ d.arguments }
  else { o with started := true, heldArguments := "" }

/-- The parts a fragment sends from the view before it: the fragment's argument text for a
    started call; nothing while the id or the name is empty; and at the fragment that makes
    both known, the start of the call, the argument text held back, then its own. -/
def partsFor (s : ToolStream) (d : ToolCallDelta) : List Part :=
  let o := s.offer d
  if o.started then argumentPart o.id d.arguments
  else if o.id.isEmpty || o.name.isEmpty then []
  else .toolCallStart o.id o.name ::
    (argumentPart o.id o.heldArguments ++ argumentPart o.id d.arguments)

section Cases

variable {s : ToolStream} {d : ToolCallDelta}

theorem advance_of_started (h : s.started = true) :
    s.advance d = { id := keepFirst s.id d.id, name := keepFirst s.name d.name, started := true,
                    heldArguments := s.heldArguments } := by
  simp [advance, offer, h]

theorem advance_of_unknown (h : s.started = false)
    (hk : ((keepFirst s.id d.id).isEmpty || (keepFirst s.name d.name).isEmpty) = true) :
    s.advance d = { id := keepFirst s.id d.id, name := keepFirst s.name d.name, started := false,
                    heldArguments := s.heldArguments ++ d.arguments } := by
  simp [advance, offer, h, hk]

theorem advance_of_known (h : s.started = false) (hid : (keepFirst s.id d.id).isEmpty = false)
    (hname : (keepFirst s.name d.name).isEmpty = false) :
    s.advance d = { id := keepFirst s.id d.id, name := keepFirst s.name d.name, started := true } := by
  simp [advance, offer, h, hid, hname]

theorem partsFor_of_started (h : s.started = true) :
    s.partsFor d = argumentPart (keepFirst s.id d.id) d.arguments := by
  simp [partsFor, offer, h]

theorem partsFor_of_unknown (h : s.started = false)
    (hk : ((keepFirst s.id d.id).isEmpty || (keepFirst s.name d.name).isEmpty) = true) :
    s.partsFor d = [] := by
  simp [partsFor, offer, h, hk]

theorem partsFor_of_known (h : s.started = false) (hid : (keepFirst s.id d.id).isEmpty = false)
    (hname : (keepFirst s.name d.name).isEmpty = false) :
    s.partsFor d = .toolCallStart (keepFirst s.id d.id) (keepFirst s.name d.name) ::
      (argumentPart (keepFirst s.id d.id) s.heldArguments ++
        argumentPart (keepFirst s.id d.id) d.arguments) := by
  simp [partsFor, offer, h, hid, hname]

end Cases

theorem offer_grows (s : ToolStream) (d : ToolCallDelta) : s.Grows (s.offer d) where
  id h := keepFirst_of_isEmpty_false h _
  name h := keepFirst_of_isEmpty_false h _
  started h := h

theorem advance_grows (s : ToolStream) (d : ToolCallDelta) : s.Grows (s.advance d) := by
  have ho := s.offer_grows d
  unfold advance
  dsimp only
  split
  · exact ho
  · split
    · exact ⟨ho.id, ho.name, ho.started⟩
    · exact ⟨ho.id, ho.name, fun _ => rfl⟩

/-- A started view keeps its id and name, so a fragment leaves a well-formed view well
    formed. -/
theorem advance_wellFormed {s : ToolStream} (h : s.WellFormed) (d : ToolCallDelta) :
    (s.advance d).WellFormed := by
  have ho := s.offer_grows d
  unfold advance
  dsimp only
  split
  · rename_i hstarted
    intro _
    obtain ⟨hid, hname⟩ := h hstarted
    rw [ho.id hid, ho.name hname]
    exact ⟨hid, hname⟩
  · split
    · rename_i hstarted _
      exact fun h' => absurd h' hstarted
    · rename_i hknown
      simp only [Bool.or_eq_true, not_or, Bool.not_eq_true] at hknown
      exact fun _ => hknown

theorem check_partsFor {s : ToolStream} (h : s.WellFormed) (d : ToolCallDelta) :
    ∀ p ∈ s.partsFor d, Writer.check p = none := by
  have ho := s.offer_grows d
  intro p hp
  unfold partsFor at hp
  dsimp only at hp
  split at hp
  · rename_i hstarted
    obtain ⟨hid, -⟩ := h hstarted
    exact check_argumentPart ((ho.id hid).symm ▸ hid) _ p hp
  · split at hp
    · cases hp
    · rename_i hknown
      simp only [Bool.or_eq_true, not_or, Bool.not_eq_true] at hknown
      simp only [List.mem_cons, List.mem_append] at hp
      rcases hp with rfl | hp | hp
      · simp [Writer.check, hknown.1, hknown.2]
      · exact check_argumentPart hknown.1 _ p hp
      · exact check_argumentPart hknown.1 _ p hp

theorem argDelta_of_mem_partsFor {s : ToolStream} (h : s.WellFormed) {d : ToolCallDelta}
    {id text : String} (hp : .toolCallArgDelta id text ∈ s.partsFor d) :
    (s.advance d).started = true ∧ id = (s.advance d).id ∧ id.isEmpty = false := by
  cases hstarted : s.started with
  | true =>
    obtain ⟨hid, -⟩ := h hstarted
    rw [partsFor_of_started hstarted] at hp
    cases eq_of_mem_argumentPart hp
    rw [advance_of_started hstarted, keepFirst_of_isEmpty_false hid]
    exact ⟨rfl, rfl, hid⟩
  | false =>
    cases hknown : ((keepFirst s.id d.id).isEmpty || (keepFirst s.name d.name).isEmpty) with
    | true =>
      rw [partsFor_of_unknown hstarted hknown] at hp
      cases hp
    | false =>
      simp only [Bool.or_eq_false_iff] at hknown
      rw [partsFor_of_known hstarted hknown.1 hknown.2] at hp
      simp only [List.mem_cons, reduceCtorEq, false_or, List.mem_append] at hp
      rw [advance_of_known hstarted hknown.1 hknown.2]
      rcases hp with hp | hp <;> cases eq_of_mem_argumentPart hp <;> exact ⟨rfl, rfl, hknown.1⟩

theorem wellFormed_ofFragments (ds : List RawToolCallDelta) : (ofFragments ds).WellFormed :=
  fun h => ⟨firstId_isEmpty_of_announced h, firstName_isEmpty_of_announced h⟩

theorem offer_ofFragments (before : List RawToolCallDelta) (d : RawToolCallDelta) :
    (ofFragments before).offer (Stream.normalize d) =
      { id := firstId (before ++ [d]), name := firstName (before ++ [d]), started := announced before,
        heldArguments := (ofFragments before).heldArguments } := by
  simp [offer, ofFragments, Stream.normalize, firstId_append_single, firstName_append_single]

theorem isEmpty_or_eq_not_announced (ds : List RawToolCallDelta) :
    ((firstId ds).isEmpty || (firstName ds).isEmpty) = !announced ds := by
  simp [announced]

theorem advance_ofFragments (before : List RawToolCallDelta) (d : RawToolCallDelta) :
    (ofFragments before).advance (Stream.normalize d) = ofFragments (before ++ [d]) := by
  unfold advance
  rw [offer_ofFragments]
  dsimp only
  rw [isEmpty_or_eq_not_announced]
  cases hb : announced before with
  | true => simp [ofFragments, announced_append_single hb d, hb]
  | false =>
    cases ha : announced (before ++ [d]) <;>
      simp [ofFragments, hb, ha, argumentText_append_single, Stream.normalize]

/-- The parts one fragment sends from the view its position's fragments give are those
    `fragmentParts` gives. -/
theorem partsFor_ofFragments (before : List RawToolCallDelta) (d : RawToolCallDelta) :
    (ofFragments before).partsFor (Stream.normalize d) = fragmentParts before d := by
  unfold partsFor fragmentParts
  rw [offer_ofFragments]
  dsimp only
  rw [isEmpty_or_eq_not_announced]
  cases hb : announced before with
  | true =>
    have hid := firstId_isEmpty_of_announced hb
    simp [firstId_append_single, keepFirst_of_isEmpty_false hid, Stream.normalize]
  | false =>
    cases ha : announced (before ++ [d]) <;> simp [ofFragments, hb, Stream.normalize]

end ToolStream

theorem Reply.toolStream_congr {r r' : Reply} (h : r'.toolStreams = r.toolStreams) :
    r'.toolStream = r.toolStream := by
  funext i
  simp [Reply.toolStream, h]

theorem Reply.SameTurn.refl (r : Reply) : r.SameTurn r := rfl

/-- Passing a fragment on records the advanced view of its position, then writes the parts
    `partsFor` gives, in order. -/
theorem forwardToolDelta_eq (d : ToolCallDelta) :
    forwardToolDelta d = (do
      let s := (← get).toolStream d.index
      putToolStream d.index (s.advance d)
      (s.partsFor d).forM guarded) := by
  unfold forwardToolDelta
  congr 1
  funext r
  dsimp only
  set s := r.toolStream d.index
  have hargs : ∀ id : String,
      (if (!d.arguments.isEmpty) = true then guarded (.toolCallArgDelta id d.arguments)
        else pure ()) = (argumentPart id d.arguments).forM guarded := by
    intro id
    cases ha : d.arguments.isEmpty <;> simp [argumentPart, ha]
  cases hstarted : s.started with
  | true =>
    simp only [Bool.not_true, Bool.false_eq_true, ↓reduceIte,
      ToolStream.partsFor_of_started hstarted, ← ToolStream.advance_of_started hstarted, hargs]
  | false =>
    simp only [Bool.not_false, ↓reduceIte]
    cases hknown : ((keepFirst s.id d.id).isEmpty || (keepFirst s.name d.name).isEmpty) with
    | true =>
      simp [ToolStream.partsFor_of_unknown hstarted hknown,
        ← ToolStream.advance_of_unknown hstarted hknown]
    | false =>
      simp only [Bool.or_eq_false_iff] at hknown
      simp only [Bool.false_eq_true, ↓reduceIte,
        ToolStream.partsFor_of_known hstarted hknown.1 hknown.2,
        ← ToolStream.advance_of_known hstarted hknown.1 hknown.2, hargs]
      cases hheld : s.heldArguments.isEmpty <;> simp [argumentPart, hheld]

end ChatWire.Turn
