namespace ChatWire.Domain.Punycode

/-- The largest 32-bit unsigned number. -/
def wordMax : Nat := 4294967295

/-- The value of a digit as a character: `a` to `z` for 0 to 25, `0` to `9` for 26 to
    35. -/
def digitChar (d : Nat) : Char :=
  if d < 26 then Char.ofNat (d + 'a'.toNat) else Char.ofNat (d - 26 + '0'.toNat)

/-- The value of a digit character, in either case. -/
def digitValue (c : Char) : Option Nat :=
  if '0' ≤ c ∧ c ≤ '9' then some (c.toNat - '0'.toNat + 26)
  else if 'A' ≤ c ∧ c ≤ 'Z' then some (c.toNat - 'A'.toNat)
  else if 'a' ≤ c ∧ c ≤ 'z' then some (c.toNat - 'a'.toNat)
  else none

/-- The threshold of the digit at position `k`, counted in steps of 36: a digit below
    it ends its number. It lies between 1 and 26. -/
def threshold (k bias : Nat) : Nat :=
  if k ≤ bias then 1 else if bias + 26 ≤ k then 26 else k - bias

theorem threshold_pos (k bias : Nat) : 1 ≤ threshold k bias := by
  unfold threshold
  split
  · omega
  · split <;> omega

theorem threshold_le (k bias : Nat) : threshold k bias ≤ 26 := by
  unfold threshold
  split
  · omega
  · split <;> omega

/-- Divides `delta` by 35 until it is at most 455, counting 36 for each division. -/
def adaptLoop (delta k : Nat) : Nat × Nat :=
  if 455 < delta then adaptLoop (delta / 35) (k + 36) else (delta, k)
termination_by delta
decreasing_by exact Nat.div_lt_self (by omega) (by omega)

/-- The bias after a number `delta` that placed a code point among `points` code
    points; the first number is damped by 700, the later ones by 2. -/
def adapt (delta points : Nat) (first : Bool) : Nat :=
  let damped := if first then delta / 700 else delta / 2
  let spread := damped + damped / points
  let (rest, k) := adaptLoop spread 0
  k + 36 * rest / (rest + 38)

/-- The digits of a number `q`, least significant first, from position `k` on. -/
def encodeNumber (bias k q : Nat) : List Char :=
  let t := threshold k bias
  if q < t then [digitChar q]
  else digitChar (t + (q - t) % (36 - t)) :: encodeNumber bias (k + 36) ((q - t) / (36 - t))
termination_by q
decreasing_by
  have _h1 := threshold_pos k bias
  have _h2 := threshold_le k bias
  calc (q - threshold k bias) / (36 - threshold k bias)
      ≤ q - threshold k bias := Nat.div_le_self _ _
    _ < q := by omega

/-- The state of encoding: the digits written, the distance since the last code point
    written, the bias, and how many code points have been placed. -/
structure Encoding where
  out : List Char
  delta : Nat
  bias : Nat
  placed : Nat

/-- Passes one code point of the text while placing the value `m`: a smaller code
    point adds one to the distance, and `m` itself writes the distance as a number. -/
def Encoding.pass (basic m : Nat) (st : Option Encoding) (c : Nat) : Option Encoding := do
  let st ← st
  if c < m then
    if st.delta + 1 > wordMax then none
    return { st with delta := st.delta + 1 }
  else if c == m then
    return { out := st.out ++ encodeNumber st.bias 36 st.delta, delta := 0,
             bias := adapt st.delta (st.placed + 1) (st.placed == basic), placed := st.placed + 1 }
  else return st

/-- Places the values of `ms`, ascending, one after another; `n` is the value after
    the last one placed. -/
def Encoding.placeAll (text : List Nat) (basic : Nat) :
    List Nat → Nat → Encoding → Option Encoding
  | [], _, st => some st
  | m :: rest, n, st => do
    let delta := st.delta + (m - n) * (st.placed + 1)
    if delta > wordMax then none
    let st ← text.foldl (Encoding.pass basic m) (some { st with delta := delta })
    Encoding.placeAll text basic rest (m + 1) { st with delta := st.delta + 1 }

/-- Inserts a value into an ascending list without repeats. -/
def insertAscending (x : Nat) : List Nat → List Nat
  | [] => [x]
  | y :: ys => if x < y then x :: y :: ys else if x == y then y :: ys else y :: insertAscending x ys

/-- The values of a list in ascending order, each once. -/
def ascendingValues (xs : List Nat) : List Nat :=
  xs.foldl (fun acc x => insertAscending x acc) []

/-- The Punycode form of a text of code points, or `none` when a distance leaves the
    32-bit range. -/
def encode (text : List Nat) : Option (List Char) := do
  let basic := (text.filter (· < 0x80)).map Char.ofNat
  let ext := ascendingValues (text.filter (0x80 ≤ ·))
  let st ← Encoding.placeAll text basic.length ext 128
    { out := [], delta := 0, bias := 72, placed := basic.length }
  return basic ++ (if basic.isEmpty then [] else ['-']) ++ st.out

/-- Reads one number from position `k` on, adding each digit times its weight `w` to
    `i`: the new `i` and the input left. -/
def decodeNumber (bias : Nat) : List Char → Nat → Nat → Nat → Option (Nat × List Char)
  | [], _, _, _ => none
  | c :: rest, k, w, i => do
    let d ← digitValue c
    if d * w > wordMax - i then none
    let i := i + d * w
    let t := threshold k bias
    if d < t then return (i, rest)
    if w * (36 - t) > wordMax then none
    decodeNumber bias rest (k + 36) (w * (36 - t)) i

/-- Reads the numbers after the basic code points, inserting each code point at the
    place it names. `out` is the text so far, `n` the last value and `i` the place.
    Every number takes at least one character, so a fuel of the input length is
    enough. -/
def decodeRest : Nat → List Char → List Nat → Nat → Nat → Nat → Option (List Nat)
  | _, [], out, _, _, _ => some out
  | 0, _ :: _, _, _, _, _ => none
  | fuel + 1, cs, out, n, i, bias =>
    match decodeNumber bias cs 36 1 i with
    | none => none
    | some (next, rest) =>
      let length := out.length + 1
      if next / length > wordMax - n then none
      else
        let value := n + next / length
        let place := next % length
        if value > 0x10FFFF ∨ (0xD800 ≤ value ∧ value < 0xE000) then none
        else
          decodeRest fuel rest (out.take place ++ value :: out.drop place) value (place + 1)
            (adapt (next - i) length (i == 0))

/-- The code points of a Punycode text, or `none` when it is not one. The basic code
    points stand before the last hyphen; a hyphen at the very start is not a
    separator. -/
def decode (cs : List Char) : Option (List Nat) :=
  if cs.any (·.toNat ≥ 0x80) then none
  else
    let hyphens := (cs.zipIdx.filter fun (c, _) => c == '-').map Prod.snd
    match hyphens.getLast? with
    | some p =>
      if p > 0 then decodeRest cs.length (cs.drop (p + 1)) ((cs.take p).map Char.toNat) 128 0 72
      else decodeRest cs.length cs [] 128 0 72
    | none => decodeRest cs.length cs [] 128 0 72

end ChatWire.Domain.Punycode
