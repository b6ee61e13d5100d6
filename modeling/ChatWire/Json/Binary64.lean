namespace ChatWire.Json

/-- An IEEE 754 binary64 value, kept as its 64-bit pattern. -/
structure Binary64 where
  bits : UInt64
deriving DecidableEq, Inhabited

namespace Binary64

/-- Positive zero. -/
def zero : Binary64 := ⟨0⟩

/-- Positive infinity. -/
def infinity : Binary64 := ⟨0x7FF0000000000000⟩

/-- The sign bit is set. -/
def isNegative (x : Binary64) : Bool :=
  x.bits >>> 63 == 1

/-- The 11-bit biased exponent field. -/
def exponentField (x : Binary64) : Nat :=
  ((x.bits >>> 52) &&& 0x7FF).toNat

/-- The 52-bit fraction field. -/
def fractionField (x : Binary64) : Nat :=
  (x.bits &&& 0xFFFFFFFFFFFFF).toNat

/-- Neither an infinity nor a NaN. -/
def isFinite (x : Binary64) : Bool :=
  x.exponentField != 0x7FF

/-- An infinity of either sign. -/
def isInfinite (x : Binary64) : Bool :=
  x.exponentField == 0x7FF && x.fractionField == 0

/-- Zero of either sign. -/
def isZero (x : Binary64) : Bool :=
  x.exponentField == 0 && x.fractionField == 0

/-- The same magnitude with the other sign. -/
def negate (x : Binary64) : Binary64 :=
  ⟨x.bits ^^^ 0x8000000000000000⟩

/-- The significand `m` of a finite value, whose magnitude is `m · 2^exponent`. -/
def significand (x : Binary64) : Nat :=
  if x.exponentField = 0 then x.fractionField else x.fractionField + Nat.pow 2 52

/-- The exponent `q` of a finite value, whose magnitude is `significand · 2^q`. -/
def exponent (x : Binary64) : Int :=
  if x.exponentField = 0 then -1074 else (x.exponentField : Int) - 1075

/-- The positive value with the given exponent field and fraction field. -/
def ofFields (e f : Nat) : Binary64 :=
  ⟨UInt64.ofNat (e * Nat.pow 2 52 + f)⟩

/-- Quotient, remainder and divisor of `num · 2^s / den`. -/
def scaledDivision (num den : Nat) (s : Int) : Nat × Nat × Nat :=
  if 0 ≤ s then
    let n := num * Nat.pow 2 s.toNat
    (n / den, n % den, den)
  else
    let d := den * Nat.pow 2 (-s).toNat
    (num / d, num % d, d)

/-- Packs a rounded significand `m < 2^53` at exponent `q ≥ -1074`; a significand
    below `2^52` is subnormal and only occurs at `q = -1074`. -/
def pack (m : Nat) (q : Int) : Binary64 :=
  if m = Nat.pow 2 53 then
    if q + 1 > 971 then infinity else ofFields (q + 1 + 1075).toNat 0
  else if q > 971 then infinity
  else if m < Nat.pow 2 52 then ofFields 0 m
  else ofFields (q + 1075).toNat (m - Nat.pow 2 52)

/-- The binary64 nearest to `num / den · 2^e`, ties to an even significand; zero when
    `num = 0`, infinity above the largest finite value. `den` must be positive. -/
def roundScaled (num den : Nat) (e : Int) : Binary64 :=
  if num = 0 then zero else
  -- the value lies in `(2^(k-1), 2^(k+1))`
  let k : Int := (num.log2 : Int) - (den.log2 : Int) + e
  let q0 : Int := max (k - 52) (-1074)
  let first := scaledDivision num den (e - q0)
  let (q, m, r, d) :=
    if first.1 < Nat.pow 2 52 ∧ q0 > -1074 then
      let second := scaledDivision num den (e - (q0 - 1))
      (q0 - 1, second.1, second.2.1, second.2.2)
    else (q0, first.1, first.2.1, first.2.2)
  let up := 2 * r > d || (2 * r == d && m % 2 == 1)
  pack (if up then m + 1 else m) q

/-- The quiet not-a-number value. -/
def nan : Binary64 := ⟨0x7FF8000000000000⟩

/-- Whether a value is not a number. -/
def isNaN (x : Binary64) : Bool :=
  x.exponentField == 2047 && x.fractionField != 0

/-- The binary64 nearest to `m · 10^e`; infinity when that is above the largest finite
    value, zero when it is below half the smallest positive one. -/
def ofDecimal (m : Nat) (e : Int) : Binary64 :=
  -- `log2 m / 4` is at most, and `(log2 m + 1) / 3 + 1` at least, the decimal magnitude
  if m = 0 then zero
  else if (Nat.log2 m : Int) / 4 + e > 400 then infinity
  else if ((Nat.log2 m : Int) + 1) / 3 + 1 + e < -400 then zero
  else if 0 ≤ e then roundScaled (m * Nat.pow 10 e.toNat) 1 0
  else roundScaled m (Nat.pow 10 (-e).toNat) 0

/-- The binary64 nearest to a natural number. -/
def ofNat (n : Nat) : Binary64 :=
  roundScaled n 1 0

/-- The binary64 nearest to `10^k`. -/
def powTen (k : Nat) : Binary64 :=
  roundScaled (Nat.pow 10 k) 1 0

/-- The correctly rounded product of two finite non-negative values. -/
def mul (x y : Binary64) : Binary64 :=
  roundScaled (x.significand * y.significand) 1 (x.exponent + y.exponent)

/-- The correctly rounded quotient of two finite non-negative values, `y` not zero. -/
def div (x y : Binary64) : Binary64 :=
  roundScaled x.significand y.significand (x.exponent - y.exponent)

end Binary64

end ChatWire.Json
