import ChatWire.Json.Reader
import ChatWire.Json.Render
import ChatWire.Proofs.Text

namespace ChatWire.Json

/-- A reading step run from a cursor: how it ended, and where it stopped. -/
def ReadM.exec {α : Type} (x : ReadM α) (c : Cursor) : Except Failure α × Cursor :=
  x.run.run c

namespace ReadM

@[simp] theorem exec_bind {α β : Type} (x : ReadM α) (k : α → ReadM β) (c : Cursor) :
    (x >>= k).exec c = match x.exec c with
      | (.ok a, c') => (k a).exec c'
      | (.error e, c') => (.error e, c') := by
  simp only [exec, ExceptT.run_bind, StateT.run_bind]
  rcases (ExceptT.run x).run c with ⟨_ | a, c'⟩ <;> rfl

@[simp] theorem exec_map {α β : Type} (f : α → β) (x : ReadM α) (c : Cursor) :
    (f <$> x).exec c = match x.exec c with
      | (.ok a, c') => (.ok (f a), c')
      | (.error e, c') => (.error e, c') := by
  simp only [exec, ExceptT.run_map, StateT.run_map]
  rcases (ExceptT.run x).run c with ⟨_ | a, c'⟩ <;> rfl

@[simp] theorem exec_pure {α : Type} (a : α) (c : Cursor) :
    (pure a : ReadM α).exec c = (.ok a, c) := rfl

@[simp] theorem exec_get (c : Cursor) : (get : ReadM Cursor).exec c = (.ok c, c) := rfl

@[simp] theorem exec_set (c c' : Cursor) : (set c' : ReadM Unit).exec c = (.ok (), c') := rfl

@[simp] theorem exec_modify (f : Cursor → Cursor) (c : Cursor) :
    (modify f : ReadM Unit).exec c = (.ok (), f c) := rfl

@[simp] theorem exec_throw {α : Type} (e : Failure) (c : Cursor) :
    (throw e : ReadM α).exec c = (.error e, c) := rfl

@[simp] theorem exec_mk_pure {α : Type} (r : Except Failure α) (c : Cursor) :
    ReadM.exec (ExceptT.mk (pure r)) c = (r, c) := rfl

end ReadM

namespace Reader

open ReadM

@[simp] theorem exec_attempt {α : Type} (x : ReadM α) (c : Cursor) :
    (attempt x).exec c = (.ok (x.exec c).1, (x.exec c).2) := rfl

@[simp] theorem exec_peek (c : Cursor) : peek.exec c = (.ok c.rest.head?, c) := rfl

@[simp] theorem exec_eat (b : UInt8) (r : List UInt8) (i t d : Nat) :
    eat.exec ⟨b :: r, i, t, d⟩ = (.ok (), ⟨r, i + 1, t, d⟩) := rfl

@[simp] theorem exec_next (b : UInt8) (r : List UInt8) (i t d : Nat) :
    next.exec ⟨b :: r, i, t, d⟩ = (.ok (some b), ⟨r, i + 1, t, d⟩) := rfl

theorem exec_skipBlanks_cons {b : UInt8} (hb : isBlankByte b = false) (r : List UInt8)
    (i t d : Nat) : skipBlanks.exec ⟨b :: r, i, t, d⟩ = (.ok (some b), ⟨b :: r, i, t, d⟩) := by
  simp [skipBlanks, skipBlanksFor, hb]

theorem exec_skipBlanks_nil (i t d : Nat) :
    skipBlanks.exec ⟨[], i, t, d⟩ = (.ok none, ⟨[], i, t, d⟩) := by
  simp [skipBlanks, skipBlanksFor]

theorem exec_enter {b : UInt8} {d : Nat} (hd : 2 ≤ d) (r : List UInt8) (i t : Nat) :
    enter.exec ⟨b :: r, i, t, d⟩ = (.ok (), ⟨r, i + 1, t, d - 1⟩) := by
  simp [enter, show ¬d ≤ 1 by omega]

theorem exec_enter_limit {b : UInt8} {d : Nat} (hd : d ≤ 1) (r : List UInt8) (i t : Nat) :
    enter.exec ⟨b :: r, i, t, d⟩ =
      (.error (.placed .recursionLimitExceeded (min (i + 1) t)), ⟨b :: r, i, t, d⟩) := by
  simp [enter, hd, failAhead]

@[simp] theorem exec_leave (r : List UInt8) (i t d : Nat) :
    leave.exec ⟨r, i, t, d⟩ = (.ok (), ⟨r, i, t, d + 1⟩) := rfl

theorem exec_closeArray (r : List UInt8) (i t d : Nat) :
    closeArray.exec ⟨93 :: r, i, t, d⟩ = (.ok (), ⟨r, i + 1, t, d⟩) := by
  simp [closeArray, exec_skipBlanks_cons (b := 93) rfl]

theorem exec_closeObject (r : List UInt8) (i t d : Nat) :
    closeObject.exec ⟨125 :: r, i, t, d⟩ = (.ok (), ⟨r, i + 1, t, d⟩) := by
  simp [closeObject, exec_skipBlanks_cons (b := 125) rfl]

theorem exec_colon (r : List UInt8) (i t d : Nat) :
    colon.exec ⟨58 :: r, i, t, d⟩ = (.ok (), ⟨r, i + 1, t, d⟩) := by
  simp [colon, exec_skipBlanks_cons (b := 58) rfl]

theorem exec_nextItem_close (first : Bool) (r : List UInt8) (i t d : Nat) :
    (nextItem first).exec ⟨93 :: r, i, t, d⟩ = (.ok false, ⟨93 :: r, i, t, d⟩) := by
  simp [nextItem, exec_skipBlanks_cons (b := 93) rfl]

theorem exec_nextItem_first {b : UInt8} (hb : isBlankByte b = false) (h93 : b ≠ 93)
    (r : List UInt8) (i t d : Nat) :
    (nextItem true).exec ⟨b :: r, i, t, d⟩ = (.ok true, ⟨b :: r, i, t, d⟩) := by
  simp only [nextItem, exec_bind, exec_skipBlanks_cons hb]
  split <;> simp_all

theorem exec_nextItem_comma {b : UInt8} (hb : isBlankByte b = false) (h93 : b ≠ 93)
    (r : List UInt8) (i t d : Nat) :
    (nextItem false).exec ⟨44 :: b :: r, i, t, d⟩ = (.ok true, ⟨b :: r, i + 1, t, d⟩) := by
  simp only [nextItem, exec_bind, exec_skipBlanks_cons (b := 44) rfl]
  split <;> simp_all [exec_skipBlanks_cons hb]

theorem exec_nextKey_close (first : Bool) (r : List UInt8) (i t d : Nat) :
    (nextKey first).exec ⟨125 :: r, i, t, d⟩ = (.ok none, ⟨125 :: r, i, t, d⟩) := by
  simp [nextKey, exec_skipBlanks_cons (b := 125) rfl]

/-- The bytes a JSON string writes for one character. -/
def escapedBytes (c : Char) : List UInt8 :=
  (escapeChar c).flatMap String.utf8EncodeChar

theorem utf8_quote (s : String) :
    Text.utf8 (quote s) = 34 :: (s.toList.flatMap escapedBytes ++ [34]) := by
  simp only [Text.utf8, quote, String.toList_ofList, List.flatMap_cons, List.flatMap_append,
    List.flatMap_assoc, List.flatMap_nil, List.append_nil]
  rfl

theorem exec_stringBytes_close (acc : List UInt8) (fuel : Nat) (r : List UInt8) (i t d : Nat) :
    (stringBytes acc (fuel + 1)).exec ⟨34 :: r, i, t, d⟩ = (.ok acc.reverse, ⟨r, i + 1, t, d⟩) := by
  simp [stringBytes]

theorem exec_stringBytes_plain {b : UInt8} (h34 : b ≠ 34) (h92 : b ≠ 92) (hctl : 0x20 ≤ b)
    (acc : List UInt8) (fuel : Nat) (r : List UInt8) (i t d : Nat) :
    (stringBytes acc (fuel + 1)).exec ⟨b :: r, i, t, d⟩ =
      (stringBytes (b :: acc) fuel).exec ⟨r, i + 1, t, d⟩ := by
  simp [stringBytes, UInt8.not_lt.mpr hctl]

theorem exec_stringBytes_backslash {r bytes : List UInt8} {i t d : Nat} {c' : Cursor}
    (hesc : escape.exec ⟨r, i + 1, t, d⟩ = (.ok bytes, c')) (acc : List UInt8) (fuel : Nat) :
    (stringBytes acc (fuel + 1)).exec ⟨92 :: r, i, t, d⟩ =
      (stringBytes (bytes.reverse ++ acc) fuel).exec c' := by
  rw [stringBytes]
  simp [hesc]

theorem exec_escape_letter {e y : UInt8}
    (h : (e, y) ∈ [(34, 34), (92, 92), (110, 10), (114, 13), (116, 9), (98, 8), (102, 12)])
    (r : List UInt8) (i t d : Nat) :
    escape.exec ⟨e :: r, i, t, d⟩ = (.ok [y], ⟨r, i + 1, t, d⟩) := by
  simp only [List.mem_cons, Prod.mk.injEq, List.not_mem_nil, or_false] at h
  rcases h with ⟨rfl, rfl⟩ | ⟨rfl, rfl⟩ | ⟨rfl, rfl⟩ | ⟨rfl, rfl⟩ | ⟨rfl, rfl⟩ | ⟨rfl, rfl⟩ |
    ⟨rfl, rfl⟩ <;> rfl

theorem exec_stringBytes_short {c : Char} {e y : UInt8} (hbytes : escapedBytes c = [92, e])
    (hchar : String.utf8EncodeChar c = [y])
    (hesc : ∀ r i t d, escape.exec ⟨e :: r, i, t, d⟩ = (.ok [y], ⟨r, i + 1, t, d⟩))
    (acc : List UInt8) (fuel : Nat) (r : List UInt8) (i t d : Nat) :
    (stringBytes acc (fuel + (escapedBytes c).length)).exec ⟨escapedBytes c ++ r, i, t, d⟩ =
      (stringBytes ((String.utf8EncodeChar c).reverse ++ acc) (fuel + 1)).exec
        ⟨r, i + (escapedBytes c).length, t, d⟩ := by
  rw [hbytes, hchar, List.length_cons, List.length_cons, List.length_nil, List.cons_append,
    List.cons_append, List.nil_append, exec_stringBytes_backslash (hesc r (i + 1) t d)]

theorem hexDigit_byte : ∀ k, k < 16 →
    String.utf8EncodeChar (hexDigit k) = [UInt8.ofNat (hexDigit k).toNat] ∧
      hexValue (UInt8.ofNat (hexDigit k).toNat) = some k := by
  decide

theorem exec_escape_control {n : Nat} (hn : n < 0x20) (r : List UInt8) (i t d : Nat) :
    escape.exec ⟨117 :: 48 :: 48 :: (String.utf8EncodeChar (hexDigit (n / 16)) ++
        String.utf8EncodeChar (hexDigit (n % 16)) ++ r), i, t, d⟩ =
      (.ok (String.utf8EncodeChar (Char.ofNat n)), ⟨r, i + 5, t, d⟩) := by
  obtain ⟨hhi, hhiv⟩ := hexDigit_byte (n / 16) (by omega)
  obtain ⟨hlo, hlov⟩ := hexDigit_byte (n % 16) (by omega)
  have hzero : hexValue 48 = some 0 := rfl
  have hn' : n / 16 * 16 + n % 16 = n := by omega
  have hlow : ¬(56320 ≤ n ∧ n ≤ 57343) := by omega
  have hbmp : n < 55296 ∨ 56319 < n := by omega
  rw [hhi, hlo]
  simp [escape, unicodeEscape, hexEscape, hhiv, hlov, hzero, hn', hlow, hbmp, codePointBytes]

theorem exec_stringBytes_plainBytes (bs : List UInt8) (h : ∀ b ∈ bs, b ≠ 34 ∧ b ≠ 92 ∧ 0x20 ≤ b)
    (acc : List UInt8) (fuel : Nat) (r : List UInt8) (i t d : Nat) :
    (stringBytes acc (fuel + bs.length)).exec ⟨bs ++ r, i, t, d⟩ =
      (stringBytes (bs.reverse ++ acc) fuel).exec ⟨r, i + bs.length, t, d⟩ := by
  induction bs generalizing acc i with
  | nil => rfl
  | cons b bs ih =>
    obtain ⟨h34, h92, hctl⟩ := h b List.mem_cons_self
    have hrest := ih (fun b' hb' => h b' (List.mem_cons_of_mem b hb')) (b :: acc) (i + 1)
    rw [List.length_cons, ← Nat.add_assoc, List.cons_append, exec_stringBytes_plain h34 h92 hctl,
      hrest, List.reverse_cons, List.append_assoc, List.singleton_append, Nat.add_assoc,
      Nat.add_comm 1]

/-- The bytes of a character that a string holds unescaped are neither a quote, a backslash
    nor a control byte. -/
theorem utf8EncodeChar_plain {c : Char} (h34 : c ≠ '"') (h92 : c ≠ '\\') (hctl : 0x20 ≤ c.toNat) :
    ∀ b ∈ String.utf8EncodeChar c, b ≠ 34 ∧ b ≠ 92 ∧ 0x20 ≤ b := by
  have h34' : c.toNat ≠ 34 := fun h => h34 (Char.toNat_inj.mp h)
  have h92' : c.toNat ≠ 92 := fun h => h92 (Char.toNat_inj.mp h)
  have hbytes : ∀ b ∈ String.utf8EncodeChar c,
      (b.toNat = c.toNat ∧ c.toNat < 0x80) ∨ 0x80 ≤ b.toNat := by
    unfold String.utf8EncodeChar
    dsimp only
    intro b hb
    split at hb
    · simp only [List.mem_singleton] at hb
      subst hb
      left
      simp only [UInt8.toNat_ofNat', Char.toNat]
      omega
    split at hb
    · simp only [List.mem_cons, List.not_mem_nil, or_false] at hb
      rcases hb with rfl | rfl <;> right <;> simp only [UInt8.toNat_ofNat'] <;> omega
    split at hb
    · simp only [List.mem_cons, List.not_mem_nil, or_false] at hb
      rcases hb with rfl | rfl | rfl <;> right <;> simp only [UInt8.toNat_ofNat'] <;> omega
    · simp only [List.mem_cons, List.not_mem_nil, or_false] at hb
      rcases hb with rfl | rfl | rfl | rfl <;> right <;> simp only [UInt8.toNat_ofNat'] <;> omega
  intro b hb
  have := hbytes b hb
  simp only [ne_eq, ← UInt8.toNat_inj, UInt8.le_iff_toNat_le, UInt8.reduceToNat]
  omega

/-- Reading the written form of one character puts its bytes on the accumulator, and
    leaves at least as much fuel as the written form is long. -/
theorem exec_stringBytes_char (c : Char) (acc : List UInt8) (fuel : Nat) (r : List UInt8)
    (i t d : Nat) :
    ∃ fuel', fuel ≤ fuel' ∧
      (stringBytes acc (fuel + (escapedBytes c).length)).exec ⟨escapedBytes c ++ r, i, t, d⟩ =
        (stringBytes ((String.utf8EncodeChar c).reverse ++ acc) fuel').exec
          ⟨r, i + (escapedBytes c).length, t, d⟩ := by
  have hself : Char.ofNat c.toNat = c := Char.ofNat_toNat c
  have short : ∀ {e y : UInt8}, escapedBytes c = [92, e] → String.utf8EncodeChar c = [y] →
      (e, y) ∈ [(34, 34), (92, 92), (110, 10), (114, 13), (116, 9), (98, 8), (102, 12)] →
      ∃ fuel', fuel ≤ fuel' ∧
        (stringBytes acc (fuel + (escapedBytes c).length)).exec ⟨escapedBytes c ++ r, i, t, d⟩ =
          (stringBytes ((String.utf8EncodeChar c).reverse ++ acc) fuel').exec
            ⟨r, i + (escapedBytes c).length, t, d⟩ :=
    fun hb hc he => ⟨fuel + 1, by omega, exec_stringBytes_short hb hc (exec_escape_letter he) ..⟩
  by_cases hq : c = '"'
  · subst hq
    exact short (e := 34) (y := 34) (by decide) (by decide) (by decide)
  by_cases hb : c = '\\'
  · subst hb
    exact short (e := 92) (y := 92) (by decide) (by decide) (by decide)
  by_cases hn : c = '\n'
  · subst hn
    exact short (e := 110) (y := 10) (by decide) (by decide) (by decide)
  by_cases hr : c = '\r'
  · subst hr
    exact short (e := 114) (y := 13) (by decide) (by decide) (by decide)
  by_cases ht : c = '\t'
  · subst ht
    exact short (e := 116) (y := 9) (by decide) (by decide) (by decide)
  by_cases h8 : c.toNat = 0x08
  · have hc : c = Char.ofNat 0x08 := by rw [← hself, h8]
    subst hc
    exact short (e := 98) (y := 8) (by decide) (by decide) (by decide)
  by_cases h12 : c.toNat = 0x0C
  · have hc : c = Char.ofNat 0x0C := by rw [← hself, h12]
    subst hc
    exact short (e := 102) (y := 12) (by decide) (by decide) (by decide)
  have hother : escapeChar c = if c.toNat < 0x20 then
      ['\\', 'u', '0', '0', hexDigit (c.toNat / 16), hexDigit (c.toNat % 16)] else [c] := by
    simp only [escapeChar, hq, hb, hn, hr, ht, h8, h12, if_false]
  by_cases hctl : c.toNat < 0x20
  · have hbytes : escapedBytes c = 92 :: 117 :: 48 :: 48 ::
        (String.utf8EncodeChar (hexDigit (c.toNat / 16)) ++
          String.utf8EncodeChar (hexDigit (c.toNat % 16))) := by
      rw [escapedBytes, hother, if_pos hctl]
      simp only [List.flatMap_cons, List.flatMap_nil, List.append_nil]
      rfl
    have hlen : (escapedBytes c).length = 6 := by
      rw [hbytes, (hexDigit_byte _ (by omega)).1, (hexDigit_byte _ (by omega)).1]
      rfl
    refine ⟨fuel + 5, by omega, ?_⟩
    rw [hlen, hbytes, List.cons_append, List.cons_append, List.cons_append, List.cons_append,
      exec_stringBytes_backslash (exec_escape_control hctl _ _ _ _), hself, Nat.add_assoc]
  · have hbytes : escapedBytes c = String.utf8EncodeChar c := by
      rw [escapedBytes, hother, if_neg hctl, List.flatMap_singleton]
    refine ⟨fuel, Nat.le_refl _, ?_⟩
    rw [hbytes, exec_stringBytes_plainBytes _ (utf8EncodeChar_plain hq hb (by omega))]

theorem exec_stringBytes_chars (cs : List Char) (acc : List UInt8) (fuel : Nat) (r : List UInt8)
    (i t d : Nat) :
    (stringBytes acc (fuel + 1 + (cs.flatMap escapedBytes).length)).exec
        ⟨cs.flatMap escapedBytes ++ 34 :: r, i, t, d⟩ =
      (.ok (acc.reverse ++ cs.flatMap String.utf8EncodeChar),
        ⟨r, i + (cs.flatMap escapedBytes).length + 1, t, d⟩) := by
  induction cs generalizing acc fuel i with
  | nil =>
    simp only [List.flatMap_nil, List.length_nil, Nat.add_zero, List.nil_append,
      exec_stringBytes_close, List.append_nil]
  | cons c cs ih =>
    obtain ⟨fuel', hfuel, hstep⟩ :=
      exec_stringBytes_char c acc (fuel + 1 + (cs.flatMap escapedBytes).length)
        (cs.flatMap escapedBytes ++ 34 :: r) i t d
    have hsplit : fuel' = fuel' - 1 - (cs.flatMap escapedBytes).length + 1 +
        (cs.flatMap escapedBytes).length := by omega
    have hfuel_eq : fuel + 1 + ((escapedBytes c).length + (cs.flatMap escapedBytes).length) =
        fuel + 1 + (cs.flatMap escapedBytes).length + (escapedBytes c).length := by omega
    rw [List.flatMap_cons, List.length_append, List.append_assoc, hfuel_eq, hstep, hsplit, ih]
    simp only [List.reverse_append, List.reverse_reverse, List.flatMap_cons, List.append_assoc,
      Nat.add_assoc]

theorem exec_string (s : String) (r : List UInt8) (i t d : Nat) :
    string.exec ⟨s.toList.flatMap escapedBytes ++ 34 :: r, i, t, d⟩ =
      (.ok s, ⟨r, i + (s.toList.flatMap escapedBytes).length + 1, t, d⟩) := by
  have hfuel : (s.toList.flatMap escapedBytes ++ 34 :: r).length + 1 =
      r.length + 1 + 1 + (s.toList.flatMap escapedBytes).length := by
    simp only [List.length_append, List.length_cons]
    omega
  simp only [string, exec_bind, exec_get, hfuel, exec_stringBytes_chars, exec_pure,
    List.reverse_nil, List.nil_append]
  rw [← Text.utf8, Text.decodeLossy_utf8]

theorem exec_nextKey_first (k : String) (r : List UInt8) (i t d : Nat) :
    (nextKey true).exec ⟨Text.utf8 (quote k) ++ r, i, t, d⟩ =
      (.ok (some k), ⟨r, i + (Text.utf8 (quote k)).length, t, d⟩) := by
  rw [utf8_quote]
  simp [nextKey, exec_skipBlanks_cons (b := 34) rfl, List.append_assoc, exec_string]
  omega

theorem exec_nextKey_comma (k : String) (r : List UInt8) (i t d : Nat) :
    (nextKey false).exec ⟨44 :: (Text.utf8 (quote k) ++ r), i, t, d⟩ =
      (.ok (some k), ⟨r, i + 1 + (Text.utf8 (quote k)).length, t, d⟩) := by
  rw [utf8_quote]
  simp [nextKey, exec_skipBlanks_cons (b := 34) rfl, exec_skipBlanks_cons (b := 44) rfl,
    List.append_assoc, exec_string]
  omega

theorem wouldOverflow_eq_false {acc d limit : Nat} (hd : d < 10) (h : acc * 10 + d ≤ limit) :
    wouldOverflow acc d limit = false := by
  simp only [wouldOverflow, Bool.and_eq_false_iff, decide_eq_false_iff_not, Bool.or_eq_false_iff]
  omega

theorem utf8EncodeChar_digit {c : Char} (h : c.isDigit) :
    String.utf8EncodeChar c = [UInt8.ofNat c.toNat] ∧ isDigit (UInt8.ofNat c.toNat) = true ∧
      (UInt8.ofNat c.toNat - 48).toNat = c.toNat - 48 := by
  have hc := Char.isDigit_iff_toNat.mp h
  simp only [Char.reduceToNat] at hc
  refine ⟨String.utf8EncodeChar_eq_singleton ?_, ?_, ?_⟩
  · rw [Char.utf8Size_eq_one_iff]
    simp only [Char.toNat] at hc
    simp only [UInt32.le_iff_toNat_le, UInt32.reduceToNat]
    omega
  · simp only [isDigit, Bool.and_eq_true, decide_eq_true_eq, UInt8.le_iff_toNat_le,
      Text.toNat_byte (show c.toNat < 256 by omega), UInt8.reduceToNat]
    omega
  · rw [UInt8.toNat_sub_of_le] <;> simp only [Text.toNat_byte (show c.toNat < 256 by omega),
      UInt8.reduceToNat, UInt8.le_iff_toNat_le]
    omega

theorem ofDigitChars_ge (ds : List Char) (acc : Nat) : acc ≤ Nat.ofDigitChars 10 ds acc := by
  rw [Nat.ofDigitChars_eq_ofDigitChars_zero]
  have hpow : 1 ≤ 10 ^ ds.length := Nat.one_le_pow _ _ (by omega)
  calc acc ≤ 10 ^ ds.length * acc := Nat.le_mul_of_pos_left acc hpow
    _ ≤ _ := Nat.le_add_right _ _

theorem length_flatMap_utf8_digits (cs : List Char) (h : ∀ c ∈ cs, c.isDigit) :
    (cs.flatMap String.utf8EncodeChar).length = cs.length := by
  induction cs with
  | nil => rfl
  | cons c cs ih =>
    rw [List.flatMap_cons, List.length_append, (utf8EncodeChar_digit (h c List.mem_cons_self)).1,
      ih fun c' hc' => h c' (List.mem_cons_of_mem c hc'), List.length_singleton, List.length_cons,
      Nat.add_comm]

theorem exec_integerDigits (positive : Bool) (ds : List Char) (hds : ∀ c ∈ ds, c.isDigit)
    (acc fuel : Nat) (hfuel : ds.length ≤ fuel) (hmax : Nat.ofDigitChars 10 ds acc ≤ maxWord64)
    (r : List UInt8) (hr : ∀ b ∈ r.head?, isDigit b = false) (i t d : Nat) :
    (integerDigits positive acc fuel).exec ⟨ds.flatMap String.utf8EncodeChar ++ r, i, t, d⟩ =
      (numberTail positive (Nat.ofDigitChars 10 ds acc)).exec ⟨r, i + ds.length, t, d⟩ := by
  induction ds generalizing acc fuel i with
  | nil =>
    rw [List.flatMap_nil, List.nil_append, Nat.ofDigitChars_nil, List.length_nil, Nat.add_zero]
    cases fuel with
    | zero => rfl
    | succ fuel =>
      rw [integerDigits]
      cases r with
      | nil => simp
      | cons b r =>
        have hb : isDigit b = false := hr b rfl
        simp [hb]
  | cons c ds ih =>
    obtain ⟨hbyte, hdigit, hval⟩ := utf8EncodeChar_digit (hds c List.mem_cons_self)
    have hc := Char.isDigit_iff_toNat.mp (hds c List.mem_cons_self)
    simp only [Char.reduceToNat] at hc
    obtain ⟨fuel, rfl⟩ : ∃ f, fuel = f + 1 :=
      ⟨fuel - 1, by simp only [List.length_cons] at hfuel; omega⟩
    rw [Nat.ofDigitChars_cons] at hmax ⊢
    simp only [Char.reduceToNat] at hmax ⊢
    have hnext := ofDigitChars_ge ds (10 * acc + (c.toNat - 48))
    have hno : wouldOverflow acc (c.toNat - 48) maxWord64 = false :=
      wouldOverflow_eq_false (by omega) (by omega)
    rw [List.flatMap_cons, hbyte, integerDigits]
    simp only [List.cons_append, exec_bind, exec_peek, List.head?_cons, hdigit, if_true, hval, hno,
      Bool.false_eq_true, if_false, List.nil_append, exec_eat]
    rw [Nat.mul_comm acc 10, ih (fun c' hc' => hds c' (List.mem_cons_of_mem c hc')) _ fuel
      (by simp only [List.length_cons] at hfuel; omega) hmax, List.length_cons, Nat.add_assoc,
      Nat.add_comm 1]

theorem exec_numberTail_end (positive : Bool) (n : Nat) (r : List UInt8)
    (hr : ∀ b ∈ r.head?, b ≠ 46 ∧ b ≠ 101 ∧ b ≠ 69) (i t d : Nat) :
    (numberTail positive n).exec ⟨r, i, t, d⟩ =
      (.ok (if positive then .unsigned n
        else if 1 ≤ n ∧ n ≤ Nat.pow 2 63 then .negative (-(n : Int))
        else .float (Binary64.ofNat n).negate), ⟨r, i, t, d⟩) := by
  rw [numberTail]
  cases r with
  | nil =>
    cases positive <;> simp
    split <;> rfl
  | cons b r =>
    obtain ⟨h46, h101, h69⟩ := hr b rfl
    cases positive <;> simp [h46, h101, h69]
    split <;> rfl

theorem toDigits_head (n : Nat) : ∃ c cs, Nat.toDigits 10 n = c :: cs ∧ (0 < n → c ≠ '0') := by
  induction n using Nat.strongRecOn with
  | ind n ih =>
    rw [Nat.toDigits_eq_if (by omega)]
    split
    · exact ⟨_, [], rfl, fun hpos => by simp only [ne_eq, Nat.digitChar_eq_zero]; omega⟩
    · obtain ⟨c, cs, hcs, hc⟩ := ih (n / 10) (by omega)
      exact ⟨c, cs ++ _, by rw [hcs, List.cons_append], fun _ => hc (by omega)⟩

theorem utf8_repr (n : Nat) :
    Text.utf8 (Nat.repr n) = (Nat.toDigits 10 n).flatMap String.utf8EncodeChar := by
  rw [Text.utf8, Nat.toList_repr]

theorem exec_number (positive : Bool) {n : Nat} (hn : n ≤ maxWord64) (r : List UInt8)
    (hr : ∀ b ∈ r.head?, isDigit b = false) (i t d : Nat) :
    (number positive).exec ⟨Text.utf8 (Nat.repr n) ++ r, i, t, d⟩ =
      (numberTail positive n).exec ⟨r, i + (Text.utf8 (Nat.repr n)).length, t, d⟩ := by
  obtain ⟨c, cs, hds, hlead⟩ := toDigits_head n
  have hdig : ∀ x ∈ c :: cs, x.isDigit := fun x hx =>
    Nat.isDigit_of_mem_toDigits (by decide) (by decide) (hds ▸ hx)
  obtain ⟨hbyte, hdigit, hval⟩ := utf8EncodeChar_digit (hdig c List.mem_cons_self)
  have hvalue : Nat.ofDigitChars 10 cs (c.toNat - 48) = n := by
    have h := Nat.ofDigitChars_ten_toDigits (n := n)
    rw [hds, Nat.ofDigitChars_cons] at h
    simpa using h
  have hlen : (cs.flatMap String.utf8EncodeChar).length = cs.length :=
    length_flatMap_utf8_digits cs fun x hx => hdig x (List.mem_cons_of_mem c hx)
  rw [utf8_repr, hds, List.flatMap_cons, hbyte, List.singleton_append, List.cons_append, number]
  by_cases hn0 : n = 0
  · subst hn0
    have hc : c = '0' ∧ cs = [] := by simpa [Nat.toDigits_zero] using hds.symm
    obtain ⟨rfl, rfl⟩ := hc
    cases r with
    | nil => simp
    | cons b r =>
      have hb : isDigit b = false := hr b rfl
      simp [hb]
  · have hc0 : c.toNat ≠ 48 := fun h => hlead (by omega) (Char.toNat_inj.mp h)
    have hb48 : (UInt8.ofNat c.toNat == 48) = false := by
      have := Char.isDigit_iff_toNat.mp (hdig c List.mem_cons_self)
      simp only [Char.reduceToNat] at this
      simp only [beq_eq_false_iff_ne, ne_eq, ← UInt8.toNat_inj,
        Text.toNat_byte (show c.toNat < 256 by omega), UInt8.reduceToNat]
      exact hc0
    simp only [exec_bind, exec_next, hb48, hdigit, Bool.false_eq_true, if_false, if_true, exec_get,
      hval]
    rw [exec_integerDigits positive cs (fun x hx => hdig x (List.mem_cons_of_mem c hx)) _ _
      (by rw [List.length_append, hlen]; omega) (by rw [hvalue]; exact hn) r hr, hvalue,
      List.length_cons, hlen, Nat.add_assoc, Nat.add_comm 1]

end Reader

end ChatWire.Json
