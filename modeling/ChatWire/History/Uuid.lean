import ChatWire.Json.Render

namespace ChatWire.History

/-- A 128-bit identifier. -/
structure Uuid where
  value : Nat
deriving DecidableEq, Inhabited

namespace Uuid

/-- `width` lowercase hex digits of `n`, most significant first. -/
def hexField (width n : Nat) : String :=
  String.ofList ((List.range width).reverse.map fun i => Json.hexDigit (n / Nat.pow 16 i % 16))

/-- The hyphenated text of an id. -/
def toText (u : Uuid) : String :=
  let n := u.value % Nat.pow 2 128
  hexField 8 (n / Nat.pow 2 96) ++ "-" ++ hexField 4 (n / Nat.pow 2 80) ++ "-" ++ hexField 4 (n / Nat.pow 2 64) ++
    "-" ++ hexField 4 (n / Nat.pow 2 48) ++ "-" ++ hexField 12 n

/-- The version number of an id: bits 76 to 79. -/
def version (u : Uuid) : Nat :=
  u.value / Nat.pow 2 76 % 16

/-- An id of the given version whose other bits come from `bits`, with the RFC 4122
    variant. -/
def withVersion (version bits : Nat) : Uuid :=
  let high := bits / Nat.pow 2 62 % Nat.pow 2 48        -- the first 48 bits
  let middle := bits / Nat.pow 2 50 % Nat.pow 2 12      -- 12 bits after the version
  let low := bits % Nat.pow 2 62                  -- 62 bits after the variant
  { value := high * Nat.pow 2 80 + version * Nat.pow 2 76 + middle * Nat.pow 2 64 + 2 * Nat.pow 2 62 + low }

end Uuid

/-- A supply of fresh identifiers. -/
structure IdSource where
  /-- How many ids were handed out. -/
  issued : Nat := 0
deriving Inhabited

namespace IdSource

/-- A fresh random (version 4) id. -/
def random (s : IdSource) : Uuid × IdSource :=
  (Uuid.withVersion 4 (s.issued + 1), { issued := s.issued + 1 })

/-- A fresh time-ordered (version 7) id. -/
def timed (s : IdSource) : Uuid × IdSource :=
  (Uuid.withVersion 7 ((s.issued + 1) * Nat.pow 2 62), { issued := s.issued + 1 })

end IdSource

end ChatWire.History
