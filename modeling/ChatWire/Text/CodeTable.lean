namespace ChatWire.Text

/-- The value of an uppercase hex digit. -/
def upperHexValue (c : Char) : Option Nat :=
  if '0' ≤ c ∧ c ≤ '9' then some (c.toNat - '0'.toNat)
  else if 'A' ≤ c ∧ c ≤ 'F' then some (c.toNat - 'A'.toNat + 10)
  else none

/-- Reads the uppercase hex digits at the front of a text: their value, and what
    follows them. No digits read as zero. -/
def readHexFront (cs : List Char) : Nat × List Char :=
  let digits := cs.takeWhile fun c => (upperHexValue c).isSome
  (digits.foldl (fun n c => n * 16 + (upperHexValue c).getD 0) 0, cs.drop digits.length)

/-- Reads uppercase hex numbers separated by `sep`, skipping empty pieces. -/
def readHexList (sep : Char) (cs : List Char) : List Nat :=
  ((cs.splitOn sep).filter fun piece => !piece.isEmpty).map fun piece => (readHexFront piece).1

/-- A table over code points: the first code point of every entry, in ascending
    order, and the entry's value at the same index. -/
structure CodeTable (α : Type) where
  starts : Array Nat
  values : Array α

namespace CodeTable

/-- Reads a table from the lines of its text; `read` gives an entry's value from the
    text after its first code point. -/
def ofLines (lines : List String) (read : List Char → α) : CodeTable α :=
  let entries := (lines.flatMap fun line => line.splitOn " ").filterMap fun word =>
    if word.isEmpty then none
    else
      let (start, rest) := readHexFront word.toList
      some (start, read rest)
  { starts := (entries.map Prod.fst).toArray, values := (entries.map Prod.snd).toArray }

/-- `lo` plus the number of entries from `lo` up to `hi` that start at or before `n`,
    when the starts are ascending. Each step halves the range, so a fuel of one more
    than the bit length of the range is enough. -/
def countStartsUpTo (starts : Array Nat) (n : Nat) : Nat → Nat → Nat → Nat
  | 0, lo, _ => lo
  | fuel + 1, lo, hi =>
    if lo < hi then
      let mid := (lo + hi) / 2
      if starts.getD mid 0 ≤ n then countStartsUpTo starts n fuel (mid + 1) hi
      else countStartsUpTo starts n fuel lo mid
    else lo

/-- The entry that covers a code point: its first code point and its value. Every
    table here starts at code point zero, so only a table without entries covers
    nothing. -/
def find? (t : CodeTable α) (n : Nat) : Option (Nat × α) :=
  match countStartsUpTo t.starts n 64 0 t.starts.size with
  | 0 => none
  | k + 1 =>
    match t.starts[k]?, t.values[k]? with
    | some s, some v => some (s, v)
    | _, _ => none

/-- The value of the entry that starts exactly at a code point, for tables whose
    entries stand for single code points. -/
def valueAt? (t : CodeTable α) (n : Nat) : Option α :=
  match t.find? n with
  | some (s, v) => if s == n then some v else none
  | none => none

end CodeTable

end ChatWire.Text
