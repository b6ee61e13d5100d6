import ChatWire.Json.Binary64

namespace ChatWire.Json

/-- A decimal `digits · 10^exponent`. -/
structure Decimal where
  digits : Nat
  exponent : Int
deriving DecidableEq, Inhabited

namespace Decimal

/-- Number of decimal digits of a natural; zero has one digit. -/
def digitCount (n : Nat) : Nat :=
  (Nat.toDigits 10 n).length

/-- The same decimal with trailing zero digits moved into the exponent. -/
def normalize (d : Decimal) (fuel : Nat := 400) : Decimal :=
  match fuel with
  | 0 => d
  | fuel + 1 =>
    if d.digits ≠ 0 ∧ d.digits % 10 = 0 then
      normalize ⟨d.digits / 10, d.exponent + 1⟩ fuel
    else d

end Decimal

namespace Binary64

/-- The interval of a finite positive value, as numerators over the common
    denominator `den`: the value, the lower end and the upper end. -/
structure Interval where
  value : Nat
  low : Nat
  high : Nat
  den : Nat
  inclusive : Bool

/-- The reals that round to the finite positive value `x`. The gap below is half as
    wide when `x` is the first value of its binade. -/
def interval (x : Binary64) : Interval :=
  let m := x.significand
  let q := x.exponent
  let lowerCloser := x.fractionField = 0 ∧ x.exponentField > 1
  let scale := Nat.pow 2 (q - 2).toNat
  { value := 4 * m * scale
    low := (4 * m - (if lowerCloser then 1 else 2)) * scale
    high := (4 * m + 2) * scale
    den := Nat.pow 2 (2 - q).toNat
    inclusive := m % 2 == 0 }

/-- `⌊log10 (num / den)⌋` for positive `num` and `den`. -/
def decimalMagnitude (num den : Nat) : Int :=
  if den ≤ num then (Decimal.digitCount (num / den) : Int) - 1
  else -(Decimal.digitCount ((den - 1) / num) : Int)

/-- The grid point chosen on the grid `10^k`, if one of the two points next to the
    value lies in the interval. -/
def pickOnGrid (iv : Interval) (k : Int) : Option Nat :=
  -- the grid step is `gN / gD`
  let gN := Nat.pow 10 k.toNat
  let gD := Nat.pow 10 (-k).toNat
  let lo := iv.value * gD / (iv.den * gN)
  let exact := iv.value * gD % (iv.den * gN) == 0
  if exact then some lo
  else
    let hi := lo + 1
    let loIn := if iv.inclusive then iv.low * gD ≤ lo * gN * iv.den
      else iv.low * gD < lo * gN * iv.den
    let hiIn := if iv.inclusive then hi * gN * iv.den ≤ iv.high * gD
      else hi * gN * iv.den < iv.high * gD
    if loIn ∧ hiIn then
      let twice := 2 * iv.value * gD
      let mid := (2 * lo + 1) * gN * iv.den
      if twice < mid then some lo
      else if mid < twice then some hi
      else if lo % 2 = 0 then some lo else some hi
    else if loIn then some lo
    else if hiIn then some hi
    else none

/-- Tries the grids with `n, n+1, …` significant digits below `10^(top+1)`. -/
def searchGrids (iv : Interval) (top : Int) (n : Nat) : Nat → Decimal
  | 0 => ⟨iv.value, 0⟩
  | fuel + 1 =>
    let k := top - n + 1
    match pickOnGrid iv k with
    | some c => ⟨c, k⟩
    | none => searchGrids iv top (n + 1) fuel

/-- The shortest decimal that reads back as the finite positive value `x`. -/
def shortest (x : Binary64) : Decimal :=
  let iv := x.interval
  (searchGrids iv (decimalMagnitude iv.value iv.den) 1 17).normalize

end Binary64

end ChatWire.Json
