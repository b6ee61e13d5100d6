import ChatWire.Proofs.JsonRead
import Mathlib.Data.String.Basic

namespace ChatWire.Json

mutual

/-- The value as reading gives it back: every object is the map of its members, keys
    sorted and the last member with a key winning. -/
def Value.canonical : Value → Value
  | .array items => .array (Value.canonicalItems items)
  | .object members => Value.mapOf (Value.canonicalMembers members)
  | v => v

def Value.canonicalItems : List Value → List Value
  | [] => []
  | v :: rest => v.canonical :: Value.canonicalItems rest

def Value.canonicalMembers : List (String × Value) → List (String × Value)
  | [] => []
  | (k, v) :: rest => (k, v.canonical) :: Value.canonicalMembers rest

end

mutual

/-- A value with no binary64 number, whose integers the reader keeps exact: within
    `[-2^63, 2^64)`. -/
def Value.plain : Value → Bool
  | .number (.int i) =>
    decide (-((Nat.pow 2 63 : Nat) : Int) ≤ i) && decide (i < ((Nat.pow 2 64 : Nat) : Int))
  | .number (.float _) => false
  | .array items => Value.plainItems items
  | .object members => Value.plainMembers members
  | _ => true

def Value.plainItems : List Value → Bool
  | [] => true
  | v :: rest => v.plain && Value.plainItems rest

def Value.plainMembers : List (String × Value) → Bool
  | [] => true
  | (_, v) :: rest => v.plain && Value.plainMembers rest

end

mutual

/-- How deep arrays and objects nest in a value: `0` for a scalar. -/
def Value.nesting : Value → Nat
  | .array items => Value.nestingItems items + 1
  | .object members => Value.nestingMembers members + 1
  | _ => 0

def Value.nestingItems : List Value → Nat
  | [] => 0
  | v :: rest => max v.nesting (Value.nestingItems rest)

def Value.nestingMembers : List (String × Value) → Nat
  | [] => 0
  | (_, v) :: rest => max v.nesting (Value.nestingMembers rest)

end

mutual

/-- A value that is a JSON map throughout: the keys of every object strictly increase. -/
def Value.sortedKeys : Value → Bool
  | .array items => Value.sortedKeysItems items
  | .object members =>
    decide (members.Pairwise fun a b => a.1 < b.1) && Value.sortedKeysMembers members
  | _ => true

def Value.sortedKeysItems : List Value → Bool
  | [] => true
  | v :: rest => v.sortedKeys && Value.sortedKeysItems rest

def Value.sortedKeysMembers : List (String × Value) → Bool
  | [] => true
  | (_, v) :: rest => v.sortedKeys && Value.sortedKeysMembers rest

end

mutual

/-- The fuel the reader spends on a value: one step per scalar, and for an array or an
    object one step, one more per item or member, and one at the closing bracket. -/
def Value.weight : Value → Nat
  | .array items => Value.weightItems items + 1
  | .object members => Value.weightMembers members + 1
  | _ => 1

def Value.weightItems : List Value → Nat
  | [] => 1
  | v :: rest => v.weight + Value.weightItems rest + 1

def Value.weightMembers : List (String × Value) → Nat
  | [] => 1
  | (_, v) :: rest => v.weight + Value.weightMembers rest + 1

end

theorem Value.weight_pos (v : Value) : 1 ≤ v.weight := by
  cases v <;> simp [Value.weight]

theorem Value.weightItems_pos (items : List Value) : 1 ≤ Value.weightItems items := by
  cases items <;> simp [Value.weightItems]

theorem Value.weightMembers_pos (members : List (String × Value)) :
    1 ≤ Value.weightMembers members := by
  cases members <;> simp [Value.weightMembers]

theorem utf8_append (a b : String) : Text.utf8 (a ++ b) = Text.utf8 a ++ Text.utf8 b := by
  simp only [Text.utf8, String.toList_append, List.flatMap_append]

/-- The bytes of one member: the quoted key, a colon and the value. -/
def memberBytes (m : String × Value) : List UInt8 :=
  Text.utf8 (quote m.1) ++ 58 :: Text.utf8 m.2.render

theorem utf8_render_array (items : List Value) :
    Text.utf8 (Value.array items).render = 91 :: (Text.utf8 (renderItems items) ++ [93]) := by
  rw [Value.render, utf8_append, utf8_append]
  rfl

theorem utf8_render_object (members : List (String × Value)) :
    Text.utf8 (Value.object members).render =
      123 :: (Text.utf8 (renderMembers members) ++ [125]) := by
  rw [Value.render, utf8_append, utf8_append]
  rfl

theorem utf8_comma : Text.utf8 "," = [44] := rfl

theorem utf8_colon : Text.utf8 ":" = [58] := rfl

theorem utf8_renderItems_cons (v : Value) (rest : List Value) :
    Text.utf8 (renderItems (v :: rest)) =
      Text.utf8 v.render ++ rest.flatMap fun w => 44 :: Text.utf8 w.render := by
  induction rest generalizing v with
  | nil => simp [renderItems]
  | cons w rest ih =>
    rw [renderItems, utf8_append, utf8_append, ih, List.flatMap_cons, utf8_comma]
    · simp only [List.append_assoc, List.cons_append, List.nil_append]
    · exact List.cons_ne_nil w rest

theorem utf8_renderMembers_cons (m : String × Value) (rest : List (String × Value)) :
    Text.utf8 (renderMembers (m :: rest)) =
      memberBytes m ++ rest.flatMap fun m' => 44 :: memberBytes m' := by
  induction rest generalizing m with
  | nil =>
    obtain ⟨k, v⟩ := m
    simp only [renderMembers, utf8_append, memberBytes, List.flatMap_nil, List.append_nil,
      List.append_assoc, utf8_colon, List.singleton_append]
  | cons m' rest ih =>
    obtain ⟨k, v⟩ := m
    rw [renderMembers, utf8_append, utf8_append, utf8_append, utf8_append, ih, List.flatMap_cons]
    · simp only [memberBytes, List.append_assoc, utf8_colon, utf8_comma, List.cons_append,
        List.nil_append]
    · exact List.cons_ne_nil m' rest

/-- What may follow a value: nothing, a comma or a closing bracket. -/
def ClosesValue (r : List UInt8) : Prop :=
  ∀ b ∈ r.head?, b = 44 ∨ b = 93 ∨ b = 125

theorem ClosesValue.not_digit {r : List UInt8} (h : ClosesValue r) :
    ∀ b ∈ r.head?, Reader.isDigit b = false := by
  intro b hb
  rcases h b hb with rfl | rfl | rfl <;> rfl

theorem ClosesValue.not_numberTail {r : List UInt8} (h : ClosesValue r) :
    ∀ b ∈ r.head?, b ≠ 46 ∧ b ≠ 101 ∧ b ≠ 69 := by
  intro b hb
  rcases h b hb with rfl | rfl | rfl <;> decide

theorem closesValue_cons (b : UInt8) (hb : b = 44 ∨ b = 93 ∨ b = 125) (r : List UInt8) :
    ClosesValue (b :: r) := by
  intro b' hb'
  cases hb'
  exact hb

theorem utf8_jsonText_int (n : Int) :
    Text.utf8 (Number.jsonText (.int n)) = match n with
      | .ofNat m => Text.utf8 (Nat.repr m)
      | .negSucc m => 45 :: Text.utf8 (Nat.repr (m + 1)) := by
  cases n with
  | ofNat m => rfl
  | negSucc m =>
    show Text.utf8 ("-" ++ Nat.repr (m + 1)) = _
    rw [utf8_append]
    rfl

theorem utf8_repr_head (m : Nat) : ∃ b rest, Text.utf8 (Nat.repr m) = b :: rest ∧
    Reader.isDigit b = true := by
  obtain ⟨c, cs, hds, -⟩ := Reader.toDigits_head m
  have hc : c.isDigit := Nat.isDigit_of_mem_toDigits (by decide) (by decide)
    (hds ▸ List.mem_cons_self)
  obtain ⟨hbyte, hdigit, -⟩ := Reader.utf8EncodeChar_digit hc
  exact ⟨_, _, by rw [Reader.utf8_repr, hds, List.flatMap_cons, hbyte]; rfl, hdigit⟩

theorem isBlankByte_of_isDigit {b : UInt8} (hb : Reader.isDigit b = true) :
    Reader.isBlankByte b = false := by
  simp only [Reader.isDigit, Bool.and_eq_true, decide_eq_true_eq, UInt8.le_iff_toNat_le,
    UInt8.reduceToNat] at hb
  simp only [Reader.isBlankByte, Bool.or_eq_false_iff, beq_eq_false_iff_ne, ne_eq,
    ← UInt8.toNat_inj, UInt8.reduceToNat]
  omega

/-- A value's text starts with a byte that is no blank, comma or closing bracket, so the
    reader takes it as the start of an item. -/
theorem utf8_render_head {v : Value} (hv : v.plain) :
    ∃ b rest, Text.utf8 v.render = b :: rest ∧ Reader.isBlankByte b = false ∧ b ≠ 44 ∧
      b ≠ 93 ∧ b ≠ 125 := by
  cases v with
  | null => exact ⟨110, _, rfl, rfl, by decide, by decide, by decide⟩
  | bool b => cases b <;> exact ⟨_, _, rfl, rfl, by decide, by decide, by decide⟩
  | number n =>
    cases n with
    | float x => simp [Value.plain] at hv
    | int n =>
      rw [Value.render, utf8_jsonText_int]
      cases n with
      | ofNat m =>
        obtain ⟨b, rest, hbytes, hdigit⟩ := utf8_repr_head m
        refine ⟨b, rest, hbytes, isBlankByte_of_isDigit hdigit, ?_, ?_, ?_⟩ <;>
          · rintro rfl
            exact absurd hdigit (by decide)
      | negSucc m => exact ⟨45, _, rfl, rfl, by decide, by decide, by decide⟩
  | string s => exact ⟨34, _, Reader.utf8_quote s, rfl, by decide, by decide, by decide⟩
  | array items => exact ⟨91, _, utf8_render_array items, rfl, by decide, by decide, by decide⟩
  | object members =>
    exact ⟨123, _, utf8_render_object members, rfl, by decide, by decide, by decide⟩

theorem Value.weight_lt_length_of_scalar {v : Value} (hv : v.plain) (h : v.weight = 1) :
    v.weight < 2 * (Text.utf8 v.render).length := by
  obtain ⟨b, rest, hbytes, -⟩ := utf8_render_head hv
  rw [h, hbytes, List.length_cons]
  omega

mutual

theorem Value.weight_lt_length : (v : Value) → v.plain →
    v.weight < 2 * (Text.utf8 v.render).length
  | .null, hv => Value.weight_lt_length_of_scalar hv rfl
  | .bool _, hv => Value.weight_lt_length_of_scalar hv rfl
  | .number _, hv => Value.weight_lt_length_of_scalar hv rfl
  | .string _, hv => Value.weight_lt_length_of_scalar hv rfl
  | .array items, hv => by
    have hitems := Value.weightItems_le_length items hv
    rw [Value.weight, utf8_render_array, List.length_cons, List.length_append]
    simp only [List.length_cons, List.length_nil]
    omega
  | .object members, hv => by
    have hmembers := Value.weightMembers_le_length members hv
    rw [Value.weight, utf8_render_object, List.length_cons, List.length_append]
    simp only [List.length_cons, List.length_nil]
    omega

theorem Value.weightItems_le_length : (items : List Value) → Value.plainItems items →
    Value.weightItems items ≤ 2 * (Text.utf8 (renderItems items)).length + 2
  | [], _ => by simp [Value.weightItems]
  | v :: rest, hp => by
    simp only [Value.plainItems, Bool.and_eq_true] at hp
    have hv := Value.weight_lt_length v hp.1
    have hrest := Value.weightItems_le_tail rest hp.2
    rw [utf8_renderItems_cons, List.length_append, Value.weightItems]
    omega

theorem Value.weightItems_le_tail : (rest : List Value) → Value.plainItems rest →
    Value.weightItems rest ≤ 2 * (rest.flatMap fun w => 44 :: Text.utf8 w.render).length + 1
  | [], _ => by simp [Value.weightItems]
  | w :: rest, hp => by
    simp only [Value.plainItems, Bool.and_eq_true] at hp
    have hw := Value.weight_lt_length w hp.1
    have hrest := Value.weightItems_le_tail rest hp.2
    rw [List.flatMap_cons, List.length_append, List.length_cons, Value.weightItems]
    omega

theorem Value.weightMembers_le_length : (members : List (String × Value)) →
    Value.plainMembers members →
    Value.weightMembers members ≤ 2 * (Text.utf8 (renderMembers members)).length + 2
  | [], _ => by simp [Value.weightMembers]
  | (k, v) :: rest, hp => by
    simp only [Value.plainMembers, Bool.and_eq_true] at hp
    have hv := Value.weight_lt_length v hp.1
    have hrest := Value.weightMembers_le_tail rest hp.2
    rw [utf8_renderMembers_cons, List.length_append, Value.weightMembers, memberBytes,
      List.length_append, List.length_cons]
    dsimp only
    omega

theorem Value.weightMembers_le_tail : (rest : List (String × Value)) →
    Value.plainMembers rest →
    Value.weightMembers rest ≤ 2 * (rest.flatMap fun m => 44 :: memberBytes m).length + 1
  | [], _ => by simp [Value.weightMembers]
  | (k, v) :: rest, hp => by
    simp only [Value.plainMembers, Bool.and_eq_true] at hp
    have hv := Value.weight_lt_length v hp.1
    have hrest := Value.weightMembers_le_tail rest hp.2
    rw [List.flatMap_cons, List.length_append, List.length_cons, Value.weightMembers,
      memberBytes, List.length_append, List.length_cons]
    dsimp only
    omega

end

theorem insertMember_of_lt {k : String} {v : Value} {acc : List (String × Value)}
    (h : ∀ m ∈ acc, m.1 < k) : Value.insertMember k v acc = acc ++ [(k, v)] := by
  induction acc with
  | nil => rfl
  | cons m acc ih =>
    obtain ⟨k', w⟩ := m
    have hlt : k' < k := h _ List.mem_cons_self
    have hrest := ih fun m hm => h m (List.mem_cons_of_mem _ hm)
    simp only [Value.insertMember, lt_asymm hlt, ne_of_gt hlt, if_false, hrest, List.cons_append]

theorem foldl_insertMember_sorted (l : List (String × Value))
    (hl : l.Pairwise fun a b => a.1 < b.1) (acc : List (String × Value))
    (hacc : ∀ a ∈ acc, ∀ b ∈ l, a.1 < b.1) :
    l.foldl (fun acc (k, v) => Value.insertMember k v acc) acc = acc ++ l := by
  induction l generalizing acc with
  | nil => simp
  | cons m l ih =>
    obtain ⟨k, v⟩ := m
    rw [List.pairwise_cons] at hl
    have hlast : ∀ a ∈ acc ++ [(k, v)], ∀ b ∈ l, a.1 < b.1 := by
      intro a ha b hb
      rcases List.mem_append.1 ha with ha | ha
      · exact hacc a ha b (List.mem_cons_of_mem _ hb)
      · rw [List.mem_singleton] at ha
        exact ha ▸ hl.1 b hb
    simp only [List.foldl_cons, insertMember_of_lt fun a ha => hacc a ha _ List.mem_cons_self,
      ih hl.2 _ hlast, List.append_assoc, List.singleton_append]

mutual

theorem Value.canonical_of_sortedKeys : (v : Value) → v.sortedKeys → v.canonical = v
  | .null, _ => rfl
  | .bool _, _ => rfl
  | .number _, _ => rfl
  | .string _, _ => rfl
  | .array items, h => by
    rw [Value.canonical, Value.canonicalItems_of_sortedKeys items h]
  | .object members, h => by
    simp only [Value.sortedKeys, Bool.and_eq_true, decide_eq_true_eq] at h
    rw [Value.canonical, Value.canonicalMembers_of_sortedKeys members h.2, Value.mapOf,
      foldl_insertMember_sorted members h.1 [] (by simp), List.nil_append]

theorem Value.canonicalItems_of_sortedKeys : (items : List Value) →
    Value.sortedKeysItems items → Value.canonicalItems items = items
  | [], _ => rfl
  | v :: rest, h => by
    simp only [Value.sortedKeysItems, Bool.and_eq_true] at h
    rw [Value.canonicalItems, Value.canonical_of_sortedKeys v h.1,
      Value.canonicalItems_of_sortedKeys rest h.2]

theorem Value.canonicalMembers_of_sortedKeys : (members : List (String × Value)) →
    Value.sortedKeysMembers members → Value.canonicalMembers members = members
  | [], _ => rfl
  | (k, v) :: rest, h => by
    simp only [Value.sortedKeysMembers, Bool.and_eq_true] at h
    rw [Value.canonicalMembers, Value.canonical_of_sortedKeys v h.1,
      Value.canonicalMembers_of_sortedKeys rest h.2]

end

namespace Reader

open ReadM

theorem readAs_any (fuel : Nat) : readAs (fuel + 1) .any = readAny fuel := by
  rw [readAs]

/-- With `fuel`, the reader gives back every value that needs no more fuel and nests less
    deep than it may still go, whatever closes the value. -/
def ReadsBack (fuel : Nat) : Prop :=
  ∀ v : Value, v.plain → v.weight ≤ fuel → ∀ r, ClosesValue r → ∀ i t d, v.nesting < d →
    (readAny fuel).exec ⟨Text.utf8 v.render ++ r, i, t, d⟩ =
      (.ok v.canonical, ⟨r, i + (Text.utf8 v.render).length, t, d⟩)

theorem exec_readAny_digit {b : UInt8} (hb : isDigit b = true) (fuel : Nat) (r : List UInt8)
    (i t d : Nat) :
    (readAny (fuel + 1)).exec ⟨b :: r, i, t, d⟩ =
      (do let s ← number true; pure (Value.number s.toNumber)).exec ⟨b :: r, i, t, d⟩ := by
  rw [readAny]
  simp only [exec_bind, exec_skipBlanks_cons (isBlankByte_of_isDigit hb)]
  split <;> rename_i heq <;> cases heq <;> simp_all [isDigit]

theorem exec_readAny_int {n : Int} (hlo : -((Nat.pow 2 63 : Nat) : Int) ≤ n)
    (hhi : n < ((Nat.pow 2 64 : Nat) : Int)) (fuel : Nat) (r : List UInt8) (hr : ClosesValue r)
    (i t d : Nat) :
    (readAny (fuel + 1)).exec ⟨Text.utf8 (Number.jsonText (.int n)) ++ r, i, t, d⟩ =
      (.ok (.number (.int n)), ⟨r, i + (Text.utf8 (Number.jsonText (.int n))).length, t, d⟩) := by
  simp only [Nat.pow_eq, Nat.reducePow] at hlo hhi
  cases n with
  | ofNat m =>
    have hm : m ≤ maxWord64 := by
      simp only [Int.ofNat_eq_natCast] at hhi
      simp only [maxWord64, Nat.pow_eq, Nat.reducePow]
      omega
    obtain ⟨b, rest, hbytes, hdigit⟩ := utf8_repr_head m
    rw [utf8_jsonText_int]
    dsimp only
    rw [hbytes, List.cons_append, exec_readAny_digit hdigit, ← List.cons_append, ← hbytes]
    simp only [exec_bind, exec_number true hm r hr.not_digit,
      exec_numberTail_end true m r hr.not_numberTail, if_true, exec_pure]
    rfl
  | negSucc m =>
    have hm : m + 1 ≤ Nat.pow 2 63 := by
      simp only [Int.negSucc_eq] at hlo
      simp only [Nat.pow_eq, Nat.reducePow]
      omega
    have hmax : m + 1 ≤ maxWord64 := by
      simp only [maxWord64, Nat.pow_eq, Nat.reducePow] at hm ⊢
      omega
    rw [utf8_jsonText_int]
    dsimp only
    rw [readAny]
    simp only [List.cons_append, exec_bind, exec_skipBlanks_cons (b := 45) rfl, exec_eat,
      exec_number false hmax r hr.not_digit, exec_numberTail_end false (m + 1) r hr.not_numberTail,
      Bool.false_eq_true, if_false, if_pos (show 1 ≤ m + 1 ∧ m + 1 ≤ Nat.pow 2 63 from ⟨by omega, hm⟩),
      exec_pure, Scanned.toNumber, List.length_cons]
    rw [Nat.add_assoc, Nat.add_comm 1]
    rfl

theorem exec_readAny_null (fuel : Nat) (r : List UInt8) (i t d : Nat) :
    (readAny (fuel + 1)).exec ⟨Text.utf8 Value.null.render ++ r, i, t, d⟩ =
      (.ok .null, ⟨r, i + (Text.utf8 Value.null.render).length, t, d⟩) := by
  show (readAny (fuel + 1)).exec ⟨110 :: 117 :: 108 :: 108 :: r, i, t, d⟩ = (.ok .null, ⟨r, i + 4, t, d⟩)
  simp [readAny, ident, exec_skipBlanks_cons (b := 110) rfl]

theorem exec_readAny_bool (b : Bool) (fuel : Nat) (r : List UInt8) (i t d : Nat) :
    (readAny (fuel + 1)).exec ⟨Text.utf8 (Value.bool b).render ++ r, i, t, d⟩ =
      (.ok (.bool b), ⟨r, i + (Text.utf8 (Value.bool b).render).length, t, d⟩) := by
  cases b
  · show (readAny (fuel + 1)).exec ⟨102 :: 97 :: 108 :: 115 :: 101 :: r, i, t, d⟩ =
      (.ok (.bool false), ⟨r, i + 5, t, d⟩)
    simp [readAny, ident, exec_skipBlanks_cons (b := 102) rfl]
  · show (readAny (fuel + 1)).exec ⟨116 :: 114 :: 117 :: 101 :: r, i, t, d⟩ =
      (.ok (.bool true), ⟨r, i + 4, t, d⟩)
    simp [readAny, ident, exec_skipBlanks_cons (b := 116) rfl]

theorem exec_readAny_string (s : String) (fuel : Nat) (r : List UInt8) (i t d : Nat) :
    (readAny (fuel + 1)).exec ⟨Text.utf8 (Value.string s).render ++ r, i, t, d⟩ =
      (.ok (.string s), ⟨r, i + (Text.utf8 (Value.string s).render).length, t, d⟩) := by
  rw [show (Value.string s).render = quote s from rfl, utf8_quote, readAny]
  simp [exec_skipBlanks_cons (b := 34) rfl, List.append_assoc, exec_string]
  omega

theorem closesValue_items (rest : List Value) (r : List UInt8) :
    ClosesValue ((rest.flatMap fun w => 44 :: Text.utf8 w.render) ++ 93 :: r) := by
  cases rest with
  | nil => exact closesValue_cons 93 (by decide) r
  | cons w rest => exact closesValue_cons 44 (by decide) _

theorem exec_readItems_rest {n : Nat} (H : ∀ m < n, ReadsBack m) (rest : List Value)
    (hp : Value.plainItems rest = true) (F : Nat) (hF : Value.weightItems rest ≤ F) (hFn : F ≤ n)
    (acc : List Value) (r : List UInt8) (i t d : Nat) (hd : Value.nestingItems rest < d) :
    (readItems F .any false acc).exec
        ⟨(rest.flatMap fun w => 44 :: Text.utf8 w.render) ++ 93 :: r, i, t, d⟩ =
      (.ok (acc.reverse ++ Value.canonicalItems rest),
        ⟨93 :: r, i + (rest.flatMap fun w => 44 :: Text.utf8 w.render).length, t, d⟩) := by
  induction rest generalizing acc F i with
  | nil =>
    obtain ⟨F, rfl⟩ : ∃ F', F = F' + 1 := ⟨F - 1, by simp only [Value.weightItems] at hF; omega⟩
    rw [readItems]
    simp [exec_nextItem_close, Value.canonicalItems]
  | cons w rest ih =>
    simp only [Value.plainItems, Bool.and_eq_true] at hp
    simp only [Value.weightItems] at hF
    simp only [Value.nestingItems] at hd
    have hw := Value.weight_pos w
    have hrest := Value.weightItems_pos rest
    obtain ⟨F, rfl⟩ : ∃ F', F = F' + 2 := ⟨F - 2, by omega⟩
    obtain ⟨b, wrest, hbytes, hblank, -, h93, -⟩ := utf8_render_head hp.1
    have hnext : (nextItem false).exec
        ⟨44 :: (Text.utf8 w.render ++ ((rest.flatMap fun w => 44 :: Text.utf8 w.render) ++ 93 :: r)),
          i, t, d⟩ =
        (.ok true, ⟨Text.utf8 w.render ++ ((rest.flatMap fun w => 44 :: Text.utf8 w.render) ++ 93 :: r),
          i + 1, t, d⟩) := by
      rw [hbytes]
      exact exec_nextItem_comma hblank h93 _ _ _ _
    have hitem := H F (by omega) w hp.1 (by omega) _ (closesValue_items rest r) (i + 1) t d
      (by omega)
    rw [readItems]
    simp only [List.flatMap_cons, List.cons_append, List.append_assoc, exec_bind, hnext, if_true,
      readAs_any, hitem]
    rw [ih hp.2 (F + 1) (by omega) (by omega) _ _ (by omega)]
    simp only [List.reverse_cons, List.append_assoc, List.singleton_append, Value.canonicalItems,
      List.length_cons, List.length_append, Prod.mk.injEq, Cursor.mk.injEq, true_and, and_true]
    omega

theorem exec_readItems_first {n : Nat} (H : ∀ m < n, ReadsBack m) (items : List Value)
    (hp : Value.plainItems items = true) (F : Nat) (hF : Value.weightItems items ≤ F) (hFn : F ≤ n)
    (r : List UInt8) (i t d : Nat) (hd : Value.nestingItems items < d) :
    (readItems F .any true []).exec ⟨Text.utf8 (renderItems items) ++ 93 :: r, i, t, d⟩ =
      (.ok (Value.canonicalItems items),
        ⟨93 :: r, i + (Text.utf8 (renderItems items)).length, t, d⟩) := by
  cases items with
  | nil =>
    obtain ⟨F, rfl⟩ : ∃ F', F = F' + 1 := ⟨F - 1, by simp only [Value.weightItems] at hF; omega⟩
    rw [readItems]
    simp [renderItems, Value.canonicalItems]
    rfl
  | cons v rest =>
    simp only [Value.plainItems, Bool.and_eq_true] at hp
    simp only [Value.weightItems] at hF
    simp only [Value.nestingItems] at hd
    have hv := Value.weight_pos v
    have hrest := Value.weightItems_pos rest
    obtain ⟨F, rfl⟩ : ∃ F', F = F' + 2 := ⟨F - 2, by omega⟩
    obtain ⟨b, vrest, hbytes, hblank, -, h93, -⟩ := utf8_render_head hp.1
    have hnext : (nextItem true).exec
        ⟨Text.utf8 v.render ++ ((rest.flatMap fun w => 44 :: Text.utf8 w.render) ++ 93 :: r),
          i, t, d⟩ =
        (.ok true, ⟨Text.utf8 v.render ++ ((rest.flatMap fun w => 44 :: Text.utf8 w.render) ++ 93 :: r),
          i, t, d⟩) := by
      rw [hbytes]
      exact exec_nextItem_first hblank h93 _ _ _ _
    have hitem := H F (by omega) v hp.1 (by omega) _ (closesValue_items rest r) i t d (by omega)
    rw [utf8_renderItems_cons, List.append_assoc, readItems]
    simp only [exec_bind, hnext, if_true, readAs_any, hitem]
    rw [exec_readItems_rest H rest hp.2 (F + 1) (by omega) (by omega) _ _ _ _ _ (by omega)]
    simp only [List.reverse_cons, List.reverse_nil, List.nil_append, List.singleton_append,
      Value.canonicalItems, List.length_append, Prod.mk.injEq, Cursor.mk.injEq, true_and, and_true]
    omega

theorem exec_readAny_array {n : Nat} (H : ∀ m < n, ReadsBack m) (items : List Value)
    (hp : Value.plainItems items = true) (hw : Value.weightItems items ≤ n) (r : List UInt8)
    (i t d : Nat) (hd : Value.nestingItems items + 1 < d) :
    (readAny (n + 1)).exec ⟨Text.utf8 (Value.array items).render ++ r, i, t, d⟩ =
      (.ok (.array (Value.canonicalItems items)),
        ⟨r, i + (Text.utf8 (Value.array items).render).length, t, d⟩) := by
  rw [utf8_render_array, readAny]
  simp only [List.cons_append, List.append_assoc, List.nil_append, exec_bind,
    exec_skipBlanks_cons (b := 91) rfl]
  simp only [exec_enter (show 2 ≤ d by omega), exec_attempt,
    exec_readItems_first H items hp n hw (Nat.le_refl n) r (i + 1) t (d - 1) (by omega),
    exec_closeArray, exec_leave, exec_mk_pure, exec_pure]
  simp only [List.length_cons, List.length_append, List.length_nil, Prod.mk.injEq,
    Cursor.mk.injEq, true_and]
  omega

theorem closesValue_members (rest : List (String × Value)) (r : List UInt8) :
    ClosesValue ((rest.flatMap fun m => 44 :: memberBytes m) ++ 125 :: r) := by
  cases rest with
  | nil => exact closesValue_cons 125 (by decide) r
  | cons m rest => exact closesValue_cons 44 (by decide) _

/-- The members after the first, each read after its comma and put into the map read so
    far, up to the closing brace. -/
theorem exec_readMembers_rest {n : Nat} (H : ∀ m < n, ReadsBack m)
    (rest : List (String × Value)) (hp : Value.plainMembers rest = true) (F : Nat)
    (hF : Value.weightMembers rest ≤ F) (hFn : F ≤ n) (acc : List (String × Value))
    (r : List UInt8) (i t d : Nat) (hd : Value.nestingMembers rest < d) :
    (readMembers F false acc).exec
        ⟨(rest.flatMap fun m => 44 :: memberBytes m) ++ 125 :: r, i, t, d⟩ =
      (.ok ((Value.canonicalMembers rest).foldl (fun acc (k, v) => Value.insertMember k v acc)
          acc),
        ⟨125 :: r, i + (rest.flatMap fun m => 44 :: memberBytes m).length, t, d⟩) := by
  induction rest generalizing acc F i with
  | nil =>
    obtain ⟨F, rfl⟩ : ∃ F', F = F' + 1 := ⟨F - 1, by simp only [Value.weightMembers] at hF; omega⟩
    rw [readMembers]
    simp [exec_nextKey_close, Value.canonicalMembers]
  | cons m rest ih =>
    obtain ⟨k, v⟩ := m
    simp only [Value.plainMembers, Bool.and_eq_true] at hp
    simp only [Value.weightMembers] at hF
    simp only [Value.nestingMembers] at hd
    have hrest := Value.weightMembers_pos rest
    obtain ⟨F, rfl⟩ : ∃ F', F = F' + 1 := ⟨F - 1, by omega⟩
    have hvalue := H F (by omega) v hp.1 (by omega) _ (closesValue_members rest r)
      (i + 1 + (Text.utf8 (quote k)).length + 1) t d (by omega)
    rw [readMembers, List.flatMap_cons, memberBytes]
    simp only [List.cons_append, List.append_assoc, exec_bind, exec_nextKey_comma, exec_colon,
      hvalue]
    rw [ih hp.2 F (by omega) (by omega) _ _ (by omega)]
    simp only [Value.canonicalMembers, List.foldl_cons, List.length_cons, List.length_append,
      Prod.mk.injEq, Cursor.mk.injEq, true_and, and_true]
    omega

/-- The members of an object, read from just after the opening brace up to the closing
    one, into a map. -/
theorem exec_readMembers_first {n : Nat} (H : ∀ m < n, ReadsBack m)
    (members : List (String × Value)) (hp : Value.plainMembers members = true) (F : Nat)
    (hF : Value.weightMembers members ≤ F) (hFn : F ≤ n) (r : List UInt8) (i t d : Nat)
    (hd : Value.nestingMembers members < d) :
    (readMembers F true []).exec ⟨Text.utf8 (renderMembers members) ++ 125 :: r, i, t, d⟩ =
      (.ok ((Value.canonicalMembers members).foldl
          (fun acc (k, v) => Value.insertMember k v acc) []),
        ⟨125 :: r, i + (Text.utf8 (renderMembers members)).length, t, d⟩) := by
  cases members with
  | nil =>
    obtain ⟨F, rfl⟩ : ∃ F', F = F' + 1 := ⟨F - 1, by simp only [Value.weightMembers] at hF; omega⟩
    rw [readMembers]
    simp [renderMembers, Value.canonicalMembers]
    rfl
  | cons m rest =>
    obtain ⟨k, v⟩ := m
    simp only [Value.plainMembers, Bool.and_eq_true] at hp
    simp only [Value.weightMembers] at hF
    simp only [Value.nestingMembers] at hd
    have hrest := Value.weightMembers_pos rest
    obtain ⟨F, rfl⟩ : ∃ F', F = F' + 1 := ⟨F - 1, by omega⟩
    have hvalue := H F (by omega) v hp.1 (by omega) _ (closesValue_members rest r)
      (i + (Text.utf8 (quote k)).length + 1) t d (by omega)
    rw [utf8_renderMembers_cons, memberBytes, readMembers]
    simp only [List.cons_append, List.append_assoc, exec_bind, exec_nextKey_first, exec_colon,
      hvalue]
    rw [exec_readMembers_rest H rest hp.2 F (by omega) (by omega) _ _ _ _ _ (by omega)]
    simp only [Value.canonicalMembers, List.foldl_cons, List.length_cons, List.length_append,
      Prod.mk.injEq, Cursor.mk.injEq, true_and, and_true]
    omega

/-- An object: entered one level deeper, its members read into a map, and left at its
    closing brace. -/
theorem exec_readAny_object {n : Nat} (H : ∀ m < n, ReadsBack m)
    (members : List (String × Value)) (hp : Value.plainMembers members = true)
    (hw : Value.weightMembers members ≤ n) (r : List UInt8) (i t d : Nat)
    (hd : Value.nestingMembers members + 1 < d) :
    (readAny (n + 1)).exec ⟨Text.utf8 (Value.object members).render ++ r, i, t, d⟩ =
      (.ok (Value.object members).canonical,
        ⟨r, i + (Text.utf8 (Value.object members).render).length, t, d⟩) := by
  rw [utf8_render_object, readAny]
  simp only [List.cons_append, List.append_assoc, List.nil_append, exec_bind,
    exec_skipBlanks_cons (b := 123) rfl]
  simp only [exec_enter (show 2 ≤ d by omega), exec_attempt,
    exec_readMembers_first H members hp n hw (Nat.le_refl n) r (i + 1) t (d - 1) (by omega),
    exec_closeObject, exec_leave, exec_mk_pure, exec_pure, Value.canonical, Value.mapOf]
  simp only [List.length_cons, List.length_append, List.length_nil, Prod.mk.injEq,
    Cursor.mk.injEq, true_and]
  omega

/-- Every fuel reads back the values it suffices for. The induction is on the fuel: an
    array or an object reads its items and members with less. -/
theorem readsBack (fuel : Nat) : ReadsBack fuel := by
  induction fuel using Nat.strongRecOn with
  | ind fuel H =>
    intro v hv hw r hr i t d hd
    obtain ⟨n, rfl⟩ : ∃ n, fuel = n + 1 := ⟨fuel - 1, by have := Value.weight_pos v; omega⟩
    have H' : ∀ m < n, ReadsBack m := fun m hm => H m (by omega)
    cases v with
    | null => exact exec_readAny_null n r i t d
    | bool b => exact exec_readAny_bool b n r i t d
    | string s => exact exec_readAny_string s n r i t d
    | number x =>
      cases x with
      | int k =>
        simp only [Value.plain, Bool.and_eq_true, decide_eq_true_eq] at hv
        exact exec_readAny_int hv.1 hv.2 n r hr i t d
      | float x => simp [Value.plain] at hv
    | array items =>
      simp only [Value.weight] at hw
      simp only [Value.nesting] at hd
      exact exec_readAny_array H' items hv (by omega) r i t d hd
    | object members =>
      simp only [Value.weight] at hw
      simp only [Value.nesting] at hd
      exact exec_readAny_object H' members hv (by omega) r i t d hd

end Reader

/-- Reading the compact text of a value gives the value back as a map, for every value
    whose integers the reader keeps exact and that nests at most 127 deep. -/
theorem parse_render {v : Value} (hv : v.plain) (hd : v.nesting ≤ 127) :
    parse v.render = .ok v.canonical := by
  have hw := Value.weight_lt_length v hv
  have hread := Reader.readsBack (2 * (Text.utf8 v.render).length + 63) v hv (by omega) []
    (fun b hb => by cases hb) 0 (Text.utf8 v.render).length 128 (by omega)
  rw [List.append_nil] at hread
  unfold parse readText
  dsimp only
  rw [show 2 * (Text.utf8 v.render).length + 64 = 2 * (Text.utf8 v.render).length + 63 + 1
    from rfl, Reader.readAs_any]
  have hexec : ∀ (x : ReadM Value) (c : Cursor), StateT.run (ExceptT.run x) c = x.exec c :=
    fun _ _ => rfl
  simp only [hexec, ReadM.exec_bind, hread, Reader.exec_skipBlanks_nil, Option.isSome_none,
    Bool.false_eq_true, if_false, ReadM.exec_pure]

/-- Empty arrays nested `k + 1` deep. -/
def Value.nestedArray : Nat → Value
  | 0 => .array []
  | k + 1 => .array [Value.nestedArray k]

theorem Value.nestedArray_nesting (k : Nat) : (Value.nestedArray k).nesting = k + 1 := by
  induction k with
  | zero => rfl
  | succ k ih => simp [Value.nestedArray, Value.nesting, Value.nestingItems, ih]

theorem Value.nestedArray_plain (k : Nat) : (Value.nestedArray k).plain := by
  induction k with
  | zero => rfl
  | succ k ih => simp [Value.nestedArray, Value.plain, Value.plainItems, ih]

theorem Value.nestedArray_sortedKeys (k : Nat) : (Value.nestedArray k).sortedKeys := by
  induction k with
  | zero => rfl
  | succ k ih => simp [Value.nestedArray, Value.sortedKeys, Value.sortedKeysItems, ih]

theorem utf8_render_nestedArray (k : Nat) :
    Text.utf8 (Value.nestedArray (k + 1)).render =
      91 :: (Text.utf8 (Value.nestedArray k).render ++ [93]) := by
  rw [Value.nestedArray, utf8_render_array]
  rfl

theorem length_utf8_render_nestedArray (k : Nat) :
    (Text.utf8 (Value.nestedArray k).render).length = 2 * (k + 1) := by
  induction k with
  | zero => rfl
  | succ k ih =>
    rw [utf8_render_nestedArray, List.length_cons, List.length_append, ih]
    simp only [List.length_singleton]
    omega

namespace Reader

open ReadM

theorem exec_readAny_open_limit (fuel : Nat) (rest : List UInt8) (i t : Nat) {d : Nat}
    (hd : d ≤ 1) :
    (readAny (fuel + 1)).exec ⟨91 :: rest, i, t, d⟩ =
      (.error (.placed .recursionLimitExceeded (min (i + 1) t)), ⟨91 :: rest, i, t, d⟩) := by
  rw [readAny]
  simp only [exec_bind, exec_skipBlanks_cons (b := 91) rfl, exec_enter_limit hd]

/-- Reading arrays nested deeper than the reader may still go fails at the first
    bracket it may not enter, once the fuel lasts that far: three steps a level. The
    induction is on the nesting, the reader one level deeper at each step. -/
theorem exec_readAny_nestedArray (k : Nat) : ∀ (fuel : Nat) (r : List UInt8) (i t d : Nat),
    1 ≤ d → d ≤ k + 1 → 3 * d ≤ fuel + 2 →
    ∃ c, (readAny fuel).exec ⟨Text.utf8 (Value.nestedArray k).render ++ r, i, t, d⟩ =
      (.error (.placed .recursionLimitExceeded (min (i + d) t)), c) := by
  induction k with
  | zero =>
    intro fuel r i t d h1 hk hfuel
    obtain rfl : d = 1 := by omega
    obtain ⟨F, rfl⟩ : ∃ F, fuel = F + 1 := ⟨fuel - 1, by omega⟩
    exact ⟨_, exec_readAny_open_limit F _ i t (Nat.le_refl 1)⟩
  | succ k ih =>
    intro fuel r i t d h1 hk hfuel
    rw [utf8_render_nestedArray, List.cons_append, List.append_assoc, List.singleton_append]
    rcases Nat.lt_or_ge d 2 with hd | hd
    · obtain rfl : d = 1 := by omega
      obtain ⟨F, rfl⟩ : ∃ F, fuel = F + 1 := ⟨fuel - 1, by omega⟩
      exact ⟨_, exec_readAny_open_limit F _ i t (Nat.le_refl 1)⟩
    · obtain ⟨H, rfl⟩ : ∃ H, fuel = H + 3 := ⟨fuel - 3, by omega⟩
      obtain ⟨c, hinner⟩ := ih H (93 :: r) (i + 1) t (d - 1) (by omega) (by omega) (by omega)
      rw [show i + 1 + (d - 1) = i + d by omega] at hinner
      obtain ⟨b, rest, hbytes, hblank, -, h93, -⟩ := utf8_render_head (Value.nestedArray_plain k)
      have hnext : (nextItem true).exec
          ⟨Text.utf8 (Value.nestedArray k).render ++ 93 :: r, i + 1, t, d - 1⟩ =
          (.ok true, ⟨Text.utf8 (Value.nestedArray k).render ++ 93 :: r, i + 1, t, d - 1⟩) := by
        rw [hbytes]
        exact exec_nextItem_first hblank h93 _ _ _ _
      have hitems : (readItems (H + 2) .any true []).exec
          ⟨Text.utf8 (Value.nestedArray k).render ++ 93 :: r, i + 1, t, d - 1⟩ =
          (.error (.placed .recursionLimitExceeded (min (i + d) t)), c) := by
        rw [readItems]
        simp only [exec_bind, hnext, if_true, readAs_any, hinner]
      rw [readAny]
      simp only [exec_bind, exec_skipBlanks_cons (b := 91) rfl, exec_enter (show 2 ≤ d by omega),
        exec_attempt, hitems, exec_mk_pure]
      exact ⟨_, rfl⟩

end Reader

/-- Empty arrays nested 128 deep or more are refused: the reader may not enter the
    128th bracket. -/
theorem parse_nestedArray_refused {k : Nat} (hk : 127 ≤ k) :
    ∃ line column, parse (Value.nestedArray k).render =
      .error { issue := .recursionLimitExceeded, line, column } := by
  have hlen := length_utf8_render_nestedArray k
  obtain ⟨c, hread⟩ := Reader.exec_readAny_nestedArray k
    (2 * (Text.utf8 (Value.nestedArray k).render).length + 63) [] 0
    (Text.utf8 (Value.nestedArray k).render).length 128 (by omega) (by omega) (by omega)
  rw [List.append_nil] at hread
  unfold parse readText
  dsimp only
  rw [show 2 * (Text.utf8 (Value.nestedArray k).render).length + 64 =
    2 * (Text.utf8 (Value.nestedArray k).render).length + 63 + 1 from rfl, Reader.readAs_any]
  have hexec : ∀ (x : ReadM Value) (c : Cursor), StateT.run (ExceptT.run x) c = x.exec c :=
    fun _ _ => rfl
  simp only [hexec, ReadM.exec_bind, hread]
  exact ⟨_, _, rfl⟩

/-- The compact text of empty arrays nested 128 deep, a value with no number and no
    object, does not read back. -/
theorem parse_refuses_arrays_nested_128 :
    (Value.nestedArray 127).plain ∧ (Value.nestedArray 127).sortedKeys ∧
      (Value.nestedArray 127).nesting = 128 ∧
      ∃ line column, parse (Value.nestedArray 127).render =
        .error { issue := .recursionLimitExceeded, line, column } :=
  ⟨Value.nestedArray_plain 127, Value.nestedArray_sortedKeys 127, Value.nestedArray_nesting 127,
    parse_nestedArray_refused (Nat.le_refl 127)⟩

end ChatWire.Json
