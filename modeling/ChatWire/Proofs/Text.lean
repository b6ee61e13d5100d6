import ChatWire.Text.Utf8
import ChatWire.Text.Blank

namespace ChatWire.Text

theorem or_eq_add_of_dvd {a b k : Nat} (ha : Nat.pow 2 k ∣ a) (hb : b < Nat.pow 2 k) :
    a ||| b = a + b := by
  obtain ⟨q, rfl⟩ := ha
  exact (Nat.two_pow_add_eq_or_of_lt hb q).symm

theorem payload_bits {x base k : Nat} (hk : Nat.pow 2 k ∣ base) (hx : x < Nat.pow 2 k)
    (h : x + base < 256) : (x + base) % 256 &&& (Nat.pow 2 k - 1) = x := by
  obtain ⟨q, rfl⟩ := hk
  rw [Nat.pow_eq] at h hx ⊢
  rw [Nat.mod_eq_of_lt h, Nat.and_two_pow_sub_one_eq_mod, Nat.add_mul_mod_self_left,
    Nat.mod_eq_of_lt hx]

theorem toNat_byte {x : Nat} (h : x < 256) : (UInt8.ofNat x).toNat = x := by
  simp only [UInt8.toNat_ofNat']
  omega

theorem char2_ofNat {hi lo : Nat} (hhi : hi < 32) (hlo : lo < 64) :
    char2 (UInt8.ofNat (hi + 0xC0)) (UInt8.ofNat (lo + 0x80)) = Char.ofNat (hi * 64 + lo) := by
  have h1 : (hi + 0xC0) % 256 &&& 0x1F = hi := payload_bits (k := 5) ⟨6, rfl⟩ hhi (by omega)
  have h2 : (lo + 0x80) % 256 &&& 0x3F = lo := payload_bits (k := 6) ⟨2, rfl⟩ hlo (by omega)
  have hall : hi * 64 ||| lo = hi * 64 + lo := or_eq_add_of_dvd (k := 6) (Nat.dvd_mul_left _ _) hlo
  simp only [char2, UInt8.toNat_ofNat', h1, h2, Nat.shiftLeft_eq, Nat.reducePow, hall]

theorem char3_ofNat {hi mid lo : Nat} (hhi : hi < 16) (hmid : mid < 64) (hlo : lo < 64) :
    char3 (UInt8.ofNat (hi + 0xE0)) (UInt8.ofNat (mid + 0x80)) (UInt8.ofNat (lo + 0x80)) =
      Char.ofNat (hi * 4096 + mid * 64 + lo) := by
  have h1 : (hi + 0xE0) % 256 &&& 0x0F = hi := payload_bits (k := 4) ⟨14, rfl⟩ hhi (by omega)
  have h2 : (mid + 0x80) % 256 &&& 0x3F = mid := payload_bits (k := 6) ⟨2, rfl⟩ hmid (by omega)
  have h3 : (lo + 0x80) % 256 &&& 0x3F = lo := payload_bits (k := 6) ⟨2, rfl⟩ hlo (by omega)
  have hhm : hi * 4096 ||| mid * 64 = hi * 4096 + mid * 64 :=
    or_eq_add_of_dvd (k := 12) (Nat.dvd_mul_left _ _) (by simp only [Nat.pow_eq]; omega)
  have hall : (hi * 4096 + mid * 64) ||| lo = hi * 4096 + mid * 64 + lo :=
    or_eq_add_of_dvd (k := 6) ⟨hi * 64 + mid, by simp only [Nat.pow_eq]; omega⟩ hlo
  simp only [char3, UInt8.toNat_ofNat', h1, h2, h3, Nat.shiftLeft_eq, Nat.reducePow, hhm, hall]

theorem char4_ofNat {hi m1 m2 lo : Nat} (hhi : hi < 8) (hm1 : m1 < 64) (hm2 : m2 < 64)
    (hlo : lo < 64) :
    char4 (UInt8.ofNat (hi + 0xF0)) (UInt8.ofNat (m1 + 0x80)) (UInt8.ofNat (m2 + 0x80))
        (UInt8.ofNat (lo + 0x80)) =
      Char.ofNat (hi * 262144 + m1 * 4096 + m2 * 64 + lo) := by
  have h1 : (hi + 0xF0) % 256 &&& 0x07 = hi := payload_bits (k := 3) ⟨30, rfl⟩ hhi (by omega)
  have h2 : (m1 + 0x80) % 256 &&& 0x3F = m1 := payload_bits (k := 6) ⟨2, rfl⟩ hm1 (by omega)
  have h3 : (m2 + 0x80) % 256 &&& 0x3F = m2 := payload_bits (k := 6) ⟨2, rfl⟩ hm2 (by omega)
  have h4 : (lo + 0x80) % 256 &&& 0x3F = lo := payload_bits (k := 6) ⟨2, rfl⟩ hlo (by omega)
  have hhm : hi * 262144 ||| m1 * 4096 = hi * 262144 + m1 * 4096 :=
    or_eq_add_of_dvd (k := 18) (Nat.dvd_mul_left _ _) (by simp only [Nat.pow_eq]; omega)
  have hhmm : (hi * 262144 + m1 * 4096) ||| m2 * 64 = hi * 262144 + m1 * 4096 + m2 * 64 :=
    or_eq_add_of_dvd (k := 12) ⟨hi * 64 + m1, by simp only [Nat.pow_eq]; omega⟩
      (by simp only [Nat.pow_eq]; omega)
  have hall : (hi * 262144 + m1 * 4096 + m2 * 64) ||| lo = hi * 262144 + m1 * 4096 + m2 * 64 + lo :=
    or_eq_add_of_dvd (k := 6) ⟨hi * 4096 + m1 * 64 + m2, by simp only [Nat.pow_eq]; omega⟩ hlo
  simp only [char4, UInt8.toNat_ofNat', h1, h2, h3, h4, Nat.shiftLeft_eq, Nat.reducePow, hhm, hhmm,
    hall]

theorem decodeLossyOnto_one {acc : String} {x : Nat} (hx : x < 0x80) (rest : List UInt8) :
    decodeLossyOnto acc (UInt8.ofNat x :: rest) = decodeLossyOnto (acc.push (Char.ofNat x)) rest := by
  have hb := toNat_byte (x := x) (by omega)
  rw [decodeLossyOnto.eq_def]
  simp only [UInt8.lt_iff_toNat_lt, hb, UInt8.reduceToNat]
  rw [if_pos hx]

theorem decodeLossyOnto_two {acc : String} {hi lo : Nat} (h2 : 2 ≤ hi) (hhi : hi < 32)
    (hlo : lo < 64) (rest : List UInt8) :
    decodeLossyOnto acc (UInt8.ofNat (hi + 0xC0) :: UInt8.ofNat (lo + 0x80) :: rest) =
      decodeLossyOnto (acc.push (Char.ofNat (hi * 64 + lo))) rest := by
  have hb := toNat_byte (x := hi + 0xC0) (by omega)
  have hc := toNat_byte (x := lo + 0x80) (by omega)
  rw [decodeLossyOnto.eq_def, ← char2_ofNat hhi hlo]
  simp only [UInt8.lt_iff_toNat_lt, UInt8.le_iff_toNat_le, hb, hc, UInt8.reduceToNat,
    isContinuation, Bool.and_eq_true, decide_eq_true_eq]
  rw [if_neg (by omega), if_pos (by omega), if_pos (by omega)]

theorem decodeLossyOnto_three {acc : String} {hi mid lo : Nat} (hhi : hi < 16) (hmid : mid < 64)
    (hlo : lo < 64) (hlong : hi = 0 → 32 ≤ mid) (hsur : hi = 13 → mid < 32) (rest : List UInt8) :
    decodeLossyOnto acc
        (UInt8.ofNat (hi + 0xE0) :: UInt8.ofNat (mid + 0x80) :: UInt8.ofNat (lo + 0x80) :: rest) =
      decodeLossyOnto (acc.push (Char.ofNat (hi * 4096 + mid * 64 + lo))) rest := by
  have hb := toNat_byte (x := hi + 0xE0) (by omega)
  have hc := toNat_byte (x := mid + 0x80) (by omega)
  have hd := toNat_byte (x := lo + 0x80) (by omega)
  have hfits : secondOfThreeFits (UInt8.ofNat (hi + 0xE0)) (UInt8.ofNat (mid + 0x80)) = true := by
    simp only [secondOfThreeFits, isContinuation, ← UInt8.toNat_inj, UInt8.le_iff_toNat_le, hb, hc,
      UInt8.reduceToNat]
    repeat' split
    all_goals simp only [Bool.and_eq_true, decide_eq_true_eq]; omega
  rw [decodeLossyOnto.eq_def, ← char3_ofNat hhi hmid hlo]
  simp only [UInt8.lt_iff_toNat_lt, UInt8.le_iff_toNat_le, hb, hd, UInt8.reduceToNat,
    isContinuation, Bool.and_eq_true, decide_eq_true_eq, hfits]
  rw [if_neg (by omega), if_neg (by omega), if_pos (by omega), if_pos trivial, if_pos (by omega)]

theorem decodeLossyOnto_four {acc : String} {hi m1 m2 lo : Nat} (hhi : hi ≤ 4) (hm1 : m1 < 64)
    (hm2 : m2 < 64) (hlo : lo < 64) (hlong : hi = 0 → 16 ≤ m1) (hmax : hi = 4 → m1 < 16)
    (rest : List UInt8) :
    decodeLossyOnto acc (UInt8.ofNat (hi + 0xF0) :: UInt8.ofNat (m1 + 0x80) ::
        UInt8.ofNat (m2 + 0x80) :: UInt8.ofNat (lo + 0x80) :: rest) =
      decodeLossyOnto (acc.push (Char.ofNat (hi * 262144 + m1 * 4096 + m2 * 64 + lo))) rest := by
  have hb := toNat_byte (x := hi + 0xF0) (by omega)
  have hc := toNat_byte (x := m1 + 0x80) (by omega)
  have hd := toNat_byte (x := m2 + 0x80) (by omega)
  have he := toNat_byte (x := lo + 0x80) (by omega)
  have hfits : secondOfFourFits (UInt8.ofNat (hi + 0xF0)) (UInt8.ofNat (m1 + 0x80)) = true := by
    simp only [secondOfFourFits, isContinuation, ← UInt8.toNat_inj, UInt8.le_iff_toNat_le, hb, hc,
      UInt8.reduceToNat]
    repeat' split
    all_goals simp only [Bool.and_eq_true, decide_eq_true_eq]; omega
  rw [decodeLossyOnto.eq_def, ← char4_ofNat (by omega) hm1 hm2 hlo]
  simp only [UInt8.lt_iff_toNat_lt, UInt8.le_iff_toNat_le, hb, hd, he, UInt8.reduceToNat,
    isContinuation, Bool.and_eq_true, decide_eq_true_eq, hfits]
  rw [if_neg (by omega), if_neg (by omega), if_neg (by omega), if_pos (by omega), if_pos trivial,
    if_pos (by omega), if_pos (by omega)]

theorem decodeLossyOnto_encodeChar (acc : String) (c : Char) (rest : List UInt8) :
    decodeLossyOnto acc (String.utf8EncodeChar c ++ rest) = decodeLossyOnto (acc.push c) rest := by
  have hself : Char.ofNat c.val.toNat = c := Char.ofNat_toNat c
  have hvalid : c.val.toNat < 0xD800 ∨ (0xDFFF < c.val.toNat ∧ c.val.toNat < 0x110000) := c.valid
  unfold String.utf8EncodeChar
  dsimp only
  split
  · rw [List.singleton_append, decodeLossyOnto_one (by omega), hself]
  split
  · have hv : c.val.toNat / 64 % 32 * 64 + c.val.toNat % 64 = c.val.toNat := by omega
    rw [List.cons_append, List.cons_append, List.nil_append,
      decodeLossyOnto_two (by omega) (by omega) (by omega), hv, hself]
  split
  · have hv : c.val.toNat / 4096 % 16 * 4096 + c.val.toNat / 64 % 64 * 64 + c.val.toNat % 64 =
        c.val.toNat := by omega
    rw [List.cons_append, List.cons_append, List.cons_append, List.nil_append,
      decodeLossyOnto_three (by omega) (by omega) (by omega) (by omega) (by omega), hv, hself]
  · have hv : c.val.toNat / 262144 % 8 * 262144 + c.val.toNat / 4096 % 64 * 4096 +
        c.val.toNat / 64 % 64 * 64 + c.val.toNat % 64 = c.val.toNat := by omega
    rw [List.cons_append, List.cons_append, List.cons_append, List.cons_append, List.nil_append,
      decodeLossyOnto_four (by omega) (by omega) (by omega) (by omega) (by omega) (by omega), hv,
      hself]

theorem decodeLossyOnto_flatMap (acc : String) (cs : List Char) :
    (decodeLossyOnto acc (cs.flatMap String.utf8EncodeChar)).toList = acc.toList ++ cs := by
  induction cs generalizing acc with
  | nil =>
    rw [List.flatMap_nil, decodeLossyOnto.eq_def, List.append_nil]
  | cons c cs ih =>
    rw [List.flatMap_cons, decodeLossyOnto_encodeChar, ih, String.toList_push, List.append_assoc,
      List.singleton_append]

@[simp] theorem decodeLossy_utf8 (s : String) : decodeLossy (utf8 s) = s := by
  apply String.toList_injective
  rw [decodeLossy, utf8, decodeLossyOnto_flatMap, String.toList_empty, List.nil_append]

theorem splitAfterNewline_append (cur line rest : List Char) (h : '\n' ∉ line) :
    splitAfterNewline cur (line ++ '\n' :: rest) =
      (cur.reverse ++ line ++ ['\n']) :: splitAfterNewline [] rest := by
  induction line generalizing cur with
  | nil => simp [splitAfterNewline]
  | cons c line ih =>
    have hc : c ≠ '\n' := fun hc => h (hc ▸ List.mem_cons_self)
    have hline : '\n' ∉ line := fun hl => h (List.mem_cons_of_mem c hl)
    simp [splitAfterNewline, hc, ih _ hline]

theorem stripLineEnding_terminated (line : List Char) (h : '\r' ∉ line) :
    stripLineEnding (line ++ ['\n']) = line := by
  unfold stripLineEnding
  rw [List.reverse_append, List.reverse_singleton, List.singleton_append]
  split
  · rename_i body hbody
    have : '\r' ∈ line := by
      rw [← List.mem_reverse, List.cons.inj hbody |>.2]
      exact List.mem_cons_self
    exact absurd this h
  · rename_i body hbody
    rw [← (List.cons.inj hbody).2, List.reverse_reverse]
  · rename_i _ hnone
    exact (hnone _ rfl).elim

theorem lines_of_terminated (ls : List (List Char)) (h : ∀ l ∈ ls, '\n' ∉ l ∧ '\r' ∉ l) :
    lines (String.ofList (ls.flatMap (· ++ ['\n']))) = ls.map String.ofList := by
  rw [lines, String.toList_ofList]
  induction ls with
  | nil => simp [splitAfterNewline]
  | cons l ls ih =>
    have hl := h l List.mem_cons_self
    rw [List.flatMap_cons, List.append_assoc, List.singleton_append,
      splitAfterNewline_append [] l _ hl.1, List.map_cons, List.map_cons, List.reverse_nil,
      List.nil_append, stripLineEnding_terminated l hl.2,
      ih fun l' hl' => h l' (List.mem_cons_of_mem l hl')]

theorem lt_append_of_length_eq {α : Type} [LT α] {l₁ l₂ : List α} (hlen : l₁.length = l₂.length)
    (h : l₁ < l₂) (r₁ r₂ : List α) : l₁ ++ r₁ < l₂ ++ r₂ := by
  induction l₁ generalizing l₂ with
  | nil =>
    cases l₂ with
    | nil => exact absurd h (List.not_lt_nil _)
    | cons b l₂ => simp at hlen
  | cons a l₁ ih =>
    cases l₂ with
    | nil => simp at hlen
    | cons b l₂ =>
      rcases List.cons_lt_cons_iff.1 h with hab | ⟨rfl, htail⟩
      · exact List.cons_lt_cons_iff.2 (.inl hab)
      · exact List.cons_lt_cons_iff.2 (.inr ⟨rfl, ih (by simpa using hlen) htail⟩)

/-- Byte sequences compare on their lead bytes, or after equal lead bytes on the rest when
    that has the same length. -/
theorem cons_append_lt {a b : UInt8} {l₁ l₂ : List UInt8}
    (h : a.toNat < b.toNat ∨ (a.toNat = b.toNat ∧ l₁.length = l₂.length ∧ l₁ < l₂))
    (r₁ r₂ : List UInt8) : a :: l₁ ++ r₁ < b :: l₂ ++ r₂ := by
  rcases h with hab | ⟨hab, hlen, hl⟩
  · exact List.cons_lt_cons_iff.2 (.inl (UInt8.lt_iff_toNat_lt.2 hab))
  · exact lt_append_of_length_eq (by simpa using hlen) (List.cons_lt_cons_iff.2
      (.inr ⟨UInt8.toNat_inj.1 hab, hl⟩)) r₁ r₂

theorem utf8EncodeChar_lt {c d : Char} (h : c < d) (r₁ r₂ : List UInt8) :
    String.utf8EncodeChar c ++ r₁ < String.utf8EncodeChar d ++ r₂ := by
  have hcd : c.val.toNat < d.val.toNat := h
  have hd : d.val.toNat < 0x110000 := by have := d.valid; omega
  unfold String.utf8EncodeChar
  dsimp only
  repeat' split
  all_goals
    refine cons_append_lt ?_ r₁ r₂
    simp (disch := omega) only [UInt8.toNat_ofNat', List.cons_lt_cons_iff, UInt8.lt_iff_toNat_lt,
      ← UInt8.toNat_inj, List.length_cons, List.length_nil, List.not_lt_nil, true_and, and_false,
      or_false, Nat.reducePow, Nat.mod_eq_of_lt]
    omega

theorem flatMap_utf8EncodeChar_lt {l₁ l₂ : List Char} (h : l₁ < l₂) :
    l₁.flatMap String.utf8EncodeChar < l₂.flatMap String.utf8EncodeChar := by
  induction l₁ generalizing l₂ with
  | nil =>
    cases l₂ with
    | nil => exact absurd h (List.not_lt_nil _)
    | cons d l₂ =>
      obtain ⟨b, bs, hb⟩ : ∃ b bs, String.utf8EncodeChar d = b :: bs := by
        unfold String.utf8EncodeChar
        dsimp only
        repeat' split
        all_goals exact ⟨_, _, rfl⟩
      rw [List.flatMap_nil, List.flatMap_cons, hb, List.cons_append]
      exact List.nil_lt_cons _ _
  | cons c l₁ ih =>
    cases l₂ with
    | nil => exact absurd h (List.not_lt_nil _)
    | cons d l₂ =>
      rw [List.flatMap_cons, List.flatMap_cons]
      rcases List.cons_lt_cons_iff.1 h with hcd | ⟨rfl, htail⟩
      · exact utf8EncodeChar_lt hcd _ _
      · exact List.append_left_lt (ih htail)

theorem lt_iff_utf8_lt (s t : String) : s < t ↔ utf8 s < utf8 t := by
  constructor
  · intro h
    exact flatMap_utf8EncodeChar_lt h
  · intro h
    rcases Std.lt_trichotomy s t with hst | rfl | hts
    · exact hst
    · exact absurd h (List.lt_irrefl _)
    · exact absurd h (List.lt_asymm (flatMap_utf8EncodeChar_lt hts))

end ChatWire.Text
