import ChatWire.Json.ReadError
import ChatWire.Json.Shape
import ChatWire.Text.Utf8

namespace ChatWire.Json

/-- Where the reader stands: the bytes left, the offset of the first of them, the
    length of the whole text, and how many more levels of nesting are allowed. -/
structure Cursor where
  rest : List UInt8
  index : Nat
  total : Nat
  depth : Nat

/-- A failure while reading: placed at a byte offset, or not yet placed (a value of
    the wrong kind, placed by the enclosing reading step). -/
inductive Failure where
  | placed (issue : ReadIssue) (index : Nat)
  | loose (issue : ReadIssue)

/-- Reading steps. A failure keeps the cursor where reading stopped. -/
abbrev ReadM := ExceptT Failure (StateM Cursor)

/-- A number as the text gives it, before a shape decides what it may be. -/
inductive Scanned where
  | unsigned (n : Nat)
  | negative (i : Int)
  | float (x : Binary64)

namespace Scanned

/-- The JSON number of a scanned number. -/
def toNumber : Scanned → Number
  | .unsigned n => .int n
  | .negative i => .int i
  | .float x => .float x

/-- How error messages describe a scanned number. -/
def unexpected : Scanned → Unexpected
  | .unsigned n => .unsigned n
  | .negative i => .signed i
  | .float x => .float x

end Scanned

namespace Reader

/-- The byte being looked at. -/
def peek : ReadM (Option UInt8) := do
  return (← get).rest.head?

/-- Moves past the byte being looked at. -/
def eat : ReadM Unit :=
  modify fun c => match c.rest with
    | [] => c
    | _ :: r => { c with rest := r, index := c.index + 1 }

/-- The byte being looked at, moving past it. -/
def next : ReadM (Option UInt8) := do
  let b ← peek
  if b.isSome then eat
  return b

/-- Fails at the current offset. -/
def failHere (issue : ReadIssue) : ReadM α := do
  throw (.placed issue (← get).index)

/-- Fails one byte past the current offset (at most at the end of the text). -/
def failAhead (issue : ReadIssue) : ReadM α := do
  let c ← get
  throw (.placed issue (min (c.index + 1) c.total))

/-- Runs a step and returns its outcome as a value; the cursor stays where the step
    left it. -/
def attempt (x : ReadM α) : ReadM (Except Failure α) :=
  ExceptT.lift x.run

/-- Places a loose failure at the current offset. -/
def placeLoose (r : Except Failure α) : ReadM α := do
  match r with
  | .ok a => return a
  | .error (.loose issue) => failHere issue
  | .error e => throw e

/-- Runs a step and places its loose failure at the offset where it stopped. -/
def placing (x : ReadM α) : ReadM α := do
  placeLoose (← attempt x)

@[inline] def isDigit (b : UInt8) : Bool := 48 ≤ b && b ≤ 57

@[inline] def isBlankByte (b : UInt8) : Bool := b == 32 || b == 10 || b == 9 || b == 13

/-- Skips blanks for at most `fuel` bytes and looks at the byte after them. -/
def skipBlanksFor : Nat → ReadM (Option UInt8)
  | 0 => peek
  | fuel + 1 => do
    match ← peek with
    | some b => if isBlankByte b then eat; skipBlanksFor fuel else return some b
    | none => return none

/-- Skips blanks and looks at the byte after them. -/
def skipBlanks : ReadM (Option UInt8) := do
  skipBlanksFor (← get).rest.length

/-- Moves past digits for at most `fuel` bytes. -/
def skipDigitsFor : Nat → ReadM Unit
  | 0 => return
  | fuel + 1 => do
    match ← peek with
    | some b => if isDigit b then eat; skipDigitsFor fuel else return
    | none => return

/-- Moves past digits. -/
def skipDigits : ReadM Unit := do
  skipDigitsFor (← get).rest.length

/-- Reads the rest of a keyword whose first letter was read. -/
def ident : List UInt8 → ReadM Unit
  | [] => return
  | b :: rest => do
    match ← next with
    | none => failHere .eofWhileParsingValue
    | some c => if c == b then ident rest else failHere .expectedSomeIdent

/-- The largest 64-bit unsigned value. -/
def maxWord64 : Nat := Nat.pow 2 64 - 1

/-- Whether `acc · 10 + digit` would pass `limit`. -/
@[inline] def wouldOverflow (acc digit limit : Nat) : Bool :=
  acc ≥ limit / 10 && (acc > limit / 10 || digit > limit % 10)

/-- `x` with the sign the text gave it. -/
def signed (positive : Bool) (x : Binary64) : Binary64 :=
  if positive then x else x.negate

/-- The binary64 of `significand · 10^exponent`: the significand is rounded first,
    then multiplied or divided by one power of ten at a time, each rounded; a
    product that overflows is an error. -/
def fromParts (positive : Bool) (significand : Nat) (exponent : Int) : ReadM Binary64 :=
  go (Binary64.ofNat significand) exponent 8
where
  go (f : Binary64) (e : Int) : Nat → ReadM Binary64
    | 0 => return signed positive f
    | fuel + 1 =>
      if e.natAbs ≤ 308 then
        if 0 ≤ e then
          let g := Binary64.mul f (Binary64.powTen e.natAbs)
          if g.isInfinite then failHere .numberOutOfRange else return signed positive g
        else return signed positive (Binary64.div f (Binary64.powTen e.natAbs))
      else if f.isZero then return signed positive f
      else if 0 ≤ e then failHere .numberOutOfRange
      else go (Binary64.div f (Binary64.powTen 308)) (e + 308) fuel

/-- Reads an exponent after a huge one: zero, unless the value would be infinite. -/
def exponentOverflow (positive zeroSignificand positiveExp : Bool) : ReadM Binary64 := do
  if !zeroSignificand && positiveExp then failHere .numberOutOfRange
  skipDigits
  return signed positive Binary64.zero

/-- `a + b` held in the 32-bit signed range. -/
def addClamped (a b : Int) : Int :=
  max (-((Nat.pow 2 31 : Nat) : Int)) (min (((Nat.pow 2 31 : Nat) : Int) - 1) (a + b))

/-- Reads the digits of an exponent into `exp`. -/
def exponentDigits (positive : Bool) (significand : Nat) (positiveExp : Bool) (exp : Nat) :
    Nat → ReadM (Option Nat)
  | 0 => return some exp
  | fuel + 1 => do
    match ← peek with
    | some c =>
      if isDigit c then
        eat
        let d := (c - 48).toNat
        if wouldOverflow exp d (Nat.pow 2 31 - 1) then return none
        else exponentDigits positive significand positiveExp (exp * 10 + d) fuel
      else return some exp
    | none => return some exp

/-- Reads an exponent part starting at `e` or `E`. -/
def exponentPart (positive : Bool) (significand : Nat) (startExp : Int) : ReadM Binary64 := do
  eat
  let positiveExp ← do
    match ← peek with
    | some 43 => eat; pure true
    | some 45 => eat; pure false
    | _ => pure true
  match ← next with
  | none => failHere .eofWhileParsingValue
  | some c =>
    if !isDigit c then failHere .invalidNumber
    match ← exponentDigits positive significand positiveExp (c - 48).toNat (← get).rest.length with
    | none => exponentOverflow positive (significand == 0) positiveExp
    | some exp =>
      let finalExp := if positiveExp then addClamped startExp exp else addClamped startExp (-exp)
      fromParts positive significand finalExp

/-- After a significand too long for 64 bits: drops the further fraction digits. -/
def decimalOverflow (positive : Bool) (significand : Nat) (exponent : Int) : ReadM Binary64 := do
  skipDigits
  match ← peek with
  | some 101 | some 69 => exponentPart positive significand exponent
  | _ => fromParts positive significand exponent

/-- Reads fraction digits; `none` when the significand no longer fits in 64 bits. -/
def fractionDigits (significand : Nat) (after : Nat) :
    Nat → ReadM (Nat × Nat × Bool)
  | 0 => return (significand, after, false)
  | fuel + 1 => do
    match ← peek with
    | some c =>
      if isDigit c then
        let d := (c - 48).toNat
        if wouldOverflow significand d maxWord64 then return (significand, after, true)
        else
          eat
          fractionDigits (significand * 10 + d) (after + 1) fuel
      else return (significand, after, false)
    | none => return (significand, after, false)

/-- Reads a fraction part starting at `.`. -/
def fractionPart (positive : Bool) (significand : Nat) (before : Int) : ReadM Binary64 := do
  eat
  let (sig, after, overflowed) ← fractionDigits significand 0 (← get).rest.length
  let exponent := before - after
  if overflowed then decimalOverflow positive sig exponent
  else
    if after = 0 then
      match ← peek with
      | some _ => failAhead .invalidNumber
      | none => failAhead .eofWhileParsingValue
    match ← peek with
    | some 101 | some 69 => exponentPart positive sig exponent
    | _ => fromParts positive sig exponent

/-- The number after its integer digits. -/
def numberTail (positive : Bool) (significand : Nat) : ReadM Scanned := do
  match ← peek with
  | some 46 => return .float (← fractionPart positive significand 0)
  | some 101 | some 69 => return .float (← exponentPart positive significand 0)
  | _ =>
    if positive then return .unsigned significand
    else if 1 ≤ significand ∧ significand ≤ Nat.pow 2 63 then return .negative (-(significand : Int))
    else return .float (Binary64.ofNat significand).negate

/-- Counts integer digits beyond those that fit in 64 bits. -/
def longIntegerDigits (positive : Bool) (significand : Nat) (extra : Nat) : Nat → ReadM Binary64
  | 0 => fromParts positive significand extra
  | fuel + 1 => do
    match ← peek with
    | some c =>
      if isDigit c then eat; longIntegerDigits positive significand (extra + 1) fuel
      else if c == 46 then fractionPart positive significand extra
      else if c == 101 || c == 69 then exponentPart positive significand extra
      else fromParts positive significand extra
    | none => fromParts positive significand extra

/-- Reads integer digits after the first one. -/
def integerDigits (positive : Bool) (significand : Nat) : Nat → ReadM Scanned
  | 0 => numberTail positive significand
  | fuel + 1 => do
    match ← peek with
    | some c =>
      if isDigit c then
        let d := (c - 48).toNat
        if wouldOverflow significand d maxWord64 then
          return .float (← longIntegerDigits positive significand 0 (← get).rest.length)
        else
          eat
          integerDigits positive (significand * 10 + d) fuel
      else numberTail positive significand
    | none => numberTail positive significand

/-- Reads a number whose sign, if any, was read. -/
def number (positive : Bool) : ReadM Scanned := do
  match ← next with
  | none => failHere .eofWhileParsingValue
  | some b =>
    if b == 48 then
      match ← peek with
      | some d => if isDigit d then failAhead .invalidNumber else numberTail positive 0
      | none => numberTail positive 0
    else if isDigit b then integerDigits positive (b - 48).toNat (← get).rest.length
    else failHere .invalidNumber

/-- Moves past a number without computing it. -/
def skipNumber : ReadM Unit := do
  let first := (← next).getD 0
  if first == 48 then
    if let some d ← peek then
      if isDigit d then failAhead .invalidNumber
  else if isDigit first then skipDigits
  else failHere .invalidNumber
  let skipExponent : ReadM Unit := do
    eat
    match ← peek with
    | some 43 | some 45 => eat
    | _ => pure ()
    let d := (← next).getD 0
    if !isDigit d then failHere .invalidNumber
    skipDigits
  match ← peek with
  | some 46 =>
    eat
    match ← peek with
    | some d => if !isDigit d then failAhead .invalidNumber
    | none => failAhead .invalidNumber
    skipDigits
    match ← peek with
    | some 101 | some 69 => skipExponent
    | _ => pure ()
  | some 101 | some 69 => skipExponent
  | _ => pure ()

/-- The value of a hexadecimal digit. -/
def hexValue (b : UInt8) : Option Nat :=
  if 48 ≤ b && b ≤ 57 then some (b - 48).toNat
  else if 97 ≤ b && b ≤ 102 then some (b - 87).toNat
  else if 65 ≤ b && b ≤ 70 then some (b - 55).toNat
  else none

/-- Reads the four hexadecimal digits of a `\u` escape. -/
def hexEscape : ReadM Nat := do
  let c ← get
  match c.rest with
  | a :: b :: d :: e :: rest =>
    set { c with rest := rest, index := c.index + 4 }
    match hexValue a, hexValue b, hexValue d, hexValue e with
    | some w, some x, some y, some z => return ((w * 16 + x) * 16 + y) * 16 + z
    | _, _, _, _ => failHere .invalidEscape
  | _ =>
    set { c with rest := [], index := c.total }
    failHere .eofWhileParsingString

/-- The UTF-8 bytes of a code point, most significant first. -/
def codePointBytes (n : Nat) : List UInt8 :=
  String.utf8EncodeChar (Char.ofNat n)

/-- Reads the rest of a `\u` escape, with a second escape for a surrogate pair;
    returns the bytes of the character. -/
def unicodeEscape : ReadM (List UInt8) := do
  let n ← hexEscape
  if 0xDC00 ≤ n ∧ n ≤ 0xDFFF then failHere .loneLeadingSurrogate
  if n < 0xD800 ∨ n > 0xDBFF then return codePointBytes n
  match ← peek with
  | none => failHere .eofWhileParsingString
  | some 92 => eat
  | some _ => eat; failHere .unexpectedEndOfHexEscape
  match ← peek with
  | none => failHere .eofWhileParsingString
  | some 117 => eat
  | some _ => eat; failHere .unexpectedEndOfHexEscape
  let n2 ← hexEscape
  if n2 < 0xDC00 ∨ n2 > 0xDFFF then failHere .loneLeadingSurrogate
  return codePointBytes ((((n - 0xD800) <<< 10) ||| (n2 - 0xDC00)) + 0x10000)

/-- Reads an escape after its backslash; returns the bytes it stands for. -/
def escape : ReadM (List UInt8) := do
  match ← next with
  | none => failHere .eofWhileParsingString
  | some 34 => return [34]
  | some 92 => return [92]
  | some 47 => return [47]
  | some 98 => return [8]
  | some 102 => return [12]
  | some 110 => return [10]
  | some 114 => return [13]
  | some 116 => return [9]
  | some 117 => unicodeEscape
  | some _ => failHere .invalidEscape

/-- Reads string bytes up to the closing quote onto `acc` (reversed). -/
def stringBytes (acc : List UInt8) : Nat → ReadM (List UInt8)
  | 0 => failHere .eofWhileParsingString
  | fuel + 1 => do
    match ← peek with
    | none => failHere .eofWhileParsingString
    | some 34 => eat; return acc.reverse
    | some 92 =>
      eat
      let bytes ← escape
      stringBytes (bytes.reverse ++ acc) fuel
    | some b =>
      eat
      if b < 0x20 then failHere .controlCharacterInString
      stringBytes (b :: acc) fuel

/-- Reads a string whose opening quote was read. -/
def string : ReadM String := do
  let bytes ← stringBytes [] ((← get).rest.length + 1)
  return Text.decodeLossy bytes

/-- Moves past an escape after its backslash without decoding it. -/
def skipEscape : ReadM Unit := do
  match ← next with
  | none => failHere .eofWhileParsingString
  | some c =>
    if c == 34 || c == 92 || c == 47 || c == 98 || c == 102 || c == 110 || c == 114 || c == 116 then
      return
    else if c == 117 then discard hexEscape
    else failHere .invalidEscape

/-- Moves past string bytes up to the closing quote. -/
def skipStringFor : Nat → ReadM Unit
  | 0 => failHere .eofWhileParsingString
  | fuel + 1 => do
    match ← peek with
    | none => failHere .eofWhileParsingString
    | some 34 => eat
    | some 92 => eat; skipEscape; skipStringFor fuel
    | some b =>
      if b < 0x20 then failHere .controlCharacterInString
      eat
      skipStringFor fuel

/-- Moves past a string whose opening quote was read. -/
def skipString : ReadM Unit := do
  skipStringFor ((← get).rest.length + 1)

/-- Enters an array or object at its opening bracket, which is not yet read. -/
def enter : ReadM Unit := do
  let c ← get
  if c.depth ≤ 1 then failAhead .recursionLimitExceeded
  set { c with depth := c.depth - 1 }
  eat

/-- Leaves an array or object. -/
def leave : ReadM Unit :=
  modify fun c => { c with depth := c.depth + 1 }

/-- Reads the closing bracket of an array whose items were read. -/
def closeArray : ReadM Unit := do
  match ← skipBlanks with
  | some 93 => eat
  | some 44 =>
    eat
    match ← skipBlanks with
    | some 93 => failAhead .trailingComma
    | _ => failAhead .trailingCharacters
  | some _ => failAhead .trailingCharacters
  | none => failAhead .eofWhileParsingList

/-- Reads the closing brace of an object whose members were read. -/
def closeObject : ReadM Unit := do
  match ← skipBlanks with
  | some 125 => eat
  | some 44 => failAhead .trailingComma
  | some _ => failAhead .trailingCharacters
  | none => failAhead .eofWhileParsingObject

/-- Looks for the next array item: `true` when one follows, `false` at the closing
    bracket, which stays unread. -/
def nextItem (first : Bool) : ReadM Bool := do
  let b ← do
    match ← skipBlanks with
    | some 93 => return false
    | some 44 =>
      if first then pure (some 44)
      else
        eat
        skipBlanks
    | some b =>
      if first then pure (some b) else failAhead .expectedListCommaOrEnd
    | none => failAhead .eofWhileParsingList
  match b with
  | some 93 => failAhead .trailingComma
  | some _ => return true
  | none => failAhead .eofWhileParsingValue

/-- Looks for the next object key and reads it: `none` at the closing brace, which
    stays unread. -/
def nextKey (first : Bool) : ReadM (Option String) := do
  let b ← do
    match ← skipBlanks with
    | some 125 => return none
    | some 44 =>
      if first then pure (some 44)
      else
        eat
        skipBlanks
    | some b =>
      if first then pure (some b) else failAhead .expectedObjectCommaOrEnd
    | none => failAhead .eofWhileParsingObject
  match b with
  | some 34 => eat; return some (← string)
  | some 125 => failAhead .trailingComma
  | some _ => failAhead .keyMustBeAString
  | none => failAhead .eofWhileParsingValue

/-- Reads the colon between a key and its value. -/
def colon : ReadM Unit := do
  match ← skipBlanks with
  | some 58 => eat
  | some _ => failAhead .expectedColon
  | none => failAhead .eofWhileParsingObject

/-- The failure for a value of the wrong kind at the current byte: the token is read
    to describe it, and the failure is placed after the token. -/
def wrongKind (expected : String) : ReadM α := do
  let found ← do
    match ← peek with
    | some 110 => eat; ident [117, 108, 108]; pure Unexpected.null
    | some 116 => eat; ident [114, 117, 101]; pure (Unexpected.bool true)
    | some 102 => eat; ident [97, 108, 115, 101]; pure (Unexpected.bool false)
    | some 45 => eat; pure (← number false).unexpected
    | some 34 => eat; pure (Unexpected.string (← string))
    | some 91 => pure Unexpected.sequence
    | some 123 => pure Unexpected.map
    | some b => if isDigit b then pure (← number true).unexpected else failAhead .expectedSomeValue
    | none => failAhead .expectedSomeValue
  failHere (.invalidType found expected)

/-- Moves past any value, checking its syntax but not the range of its numbers or the
    pairing of its surrogate escapes, and with no limit on nesting. `stack` holds the
    brackets of the arrays and objects entered. -/
def skipValueFrom (stack : List UInt8) : Nat → ReadM Unit
  | 0 => failHere .eofWhileParsingValue
  | fuel + 1 => do
    -- read one value, or enter an array or object
    let entered ← do
      match ← skipBlanks with
      | none => failAhead .eofWhileParsingValue
      | some 110 => eat; ident [117, 108, 108]; pure none
      | some 116 => eat; ident [114, 117, 101]; pure none
      | some 102 => eat; ident [97, 108, 115, 101]; pure none
      | some 45 => eat; skipNumber; pure none
      | some 34 => eat; skipString; pure none
      | some 91 => eat; pure (some (91 : UInt8))
      | some 123 => eat; pure (some (123 : UInt8))
      | some b => if isDigit b then skipNumber; pure none else failAhead .expectedSomeValue
    match entered with
    | some frame => afterOpen frame stack fuel
    | none =>
      match stack with
      | [] => return
      | frame :: outer => afterValue frame outer fuel
where
  /-- After a value inside `frame`: a comma, or closing brackets. -/
  afterValue (frame : UInt8) (outer : List UInt8) : Nat → ReadM Unit
    | 0 => failHere .eofWhileParsingValue
    | fuel + 1 => do
      match ← skipBlanks with
      | some 44 => eat; beforeMember frame outer fuel
      | some 93 =>
        if frame == 91 then
          eat
          match outer with
          | [] => return
          | f :: o => afterValue f o fuel
        else failAhead .expectedObjectCommaOrEnd
      | some 125 =>
        if frame == 123 then
          eat
          match outer with
          | [] => return
          | f :: o => afterValue f o fuel
        else failAhead .expectedListCommaOrEnd
      | some _ =>
        failAhead (if frame == 91 then .expectedListCommaOrEnd else .expectedObjectCommaOrEnd)
      | none => failAhead (if frame == 91 then .eofWhileParsingList else .eofWhileParsingObject)
  /-- Right after an opening bracket: closing brackets, or the first member. -/
  afterOpen (frame : UInt8) (outer : List UInt8) : Nat → ReadM Unit
    | 0 => failHere .eofWhileParsingValue
    | fuel + 1 => do
      match ← skipBlanks with
      | some 93 =>
        if frame == 91 then
          eat
          match outer with
          | [] => return
          | f :: o => afterValue f o fuel
        else beforeMember frame outer fuel
      | some 125 =>
        if frame == 123 then
          eat
          match outer with
          | [] => return
          | f :: o => afterValue f o fuel
        else beforeMember frame outer fuel
      | some _ => beforeMember frame outer fuel
      | none => failAhead (if frame == 91 then .eofWhileParsingList else .eofWhileParsingObject)
  /-- Before a member of `frame`: for an object its key and colon, then the value. -/
  beforeMember (frame : UInt8) (outer : List UInt8) : Nat → ReadM Unit
    | 0 => failHere .eofWhileParsingValue
    | fuel + 1 => do
      if frame == 123 then
        match ← skipBlanks with
        | some 34 => eat
        | some _ => failAhead .keyMustBeAString
        | none => failAhead .eofWhileParsingObject
        skipString
        match ← skipBlanks with
        | some 58 => eat
        | some _ => failAhead .expectedColon
        | none => failAhead .eofWhileParsingObject
      skipValueFrom (frame :: outer) fuel

mutual

/-- Reads a value of the given shape. -/
def readAs : Nat → Shape → ReadM Value
  | 0, _ => failHere .eofWhileParsingValue
  | fuel + 1, .any => readAny fuel
  | fuel + 1, .skip => do skipValueFrom [] fuel; return .null
  | _, .text => placing do
    match ← skipBlanks with
    | none => failAhead .eofWhileParsingValue
    | some 34 => eat; return .string (← string)
    | some _ => wrongKind "a string"
  | _, .flag => placing do
    match ← skipBlanks with
    | none => failAhead .eofWhileParsingValue
    | some 116 => eat; ident [114, 117, 101]; return .bool true
    | some 102 => eat; ident [97, 108, 115, 101]; return .bool false
    | some _ => wrongKind "a boolean"
  | _, .natural name limit => placing do
    let scanned ← do
      match ← skipBlanks with
      | none => failAhead .eofWhileParsingValue
      | some 45 => eat; number false
      | some b => if isDigit b then number true else wrongKind name
    match scanned with
    | .unsigned n =>
      if n < limit then return .number (.int n) else throw (.loose (.invalidValue (.unsigned n) name))
    | .negative i => throw (.loose (.invalidValue (.signed i) name))
    | .float x => throw (.loose (.invalidType (.float x) name))
  | fuel + 1, .optional inner => do
    match ← skipBlanks with
    | some 110 => eat; ident [117, 108, 108]; return .null
    | _ => readAs fuel inner
  | fuel + 1, .sequence inner => placing do
    match ← skipBlanks with
    | none => failAhead .eofWhileParsingValue
    | some 91 =>
      enter
      let items ← attempt (readItems fuel inner true [])
      let closing ← attempt closeArray
      leave
      let items ← ExceptT.mk (pure items)
      ExceptT.mk (pure closing)
      return .array items
    | some _ => wrongKind "a sequence"
  | fuel + 1, .record name fields => placing do
    match ← skipBlanks with
    | none => failAhead .eofWhileParsingValue
    | some 91 =>
      enter
      let members ← attempt (readFieldsInOrder fuel name fields.length fields true 0 [])
      let closing ← attempt closeArray
      leave
      let members ← ExceptT.mk (pure members)
      ExceptT.mk (pure closing)
      return .object members
    | some 123 =>
      enter
      let members ← attempt (readFieldsByKey fuel fields true [])
      let closing ← attempt closeObject
      leave
      let members ← ExceptT.mk (pure members)
      ExceptT.mk (pure closing)
      return .object members
    | some _ => wrongKind ("struct " ++ name)

/-- Reads any value, keeping it. -/
def readAny : Nat → ReadM Value
  | 0 => failHere .eofWhileParsingValue
  | fuel + 1 => do
    match ← skipBlanks with
    | none => failAhead .eofWhileParsingValue
    | some 110 => eat; ident [117, 108, 108]; return .null
    | some 116 => eat; ident [114, 117, 101]; return .bool true
    | some 102 => eat; ident [97, 108, 115, 101]; return .bool false
    | some 45 => eat; return .number (← number false).toNumber
    | some 34 => eat; return .string (← string)
    | some 91 =>
      enter
      let items ← attempt (readItems fuel .any true [])
      let closing ← attempt closeArray
      leave
      let items ← ExceptT.mk (pure items)
      ExceptT.mk (pure closing)
      return .array items
    | some 123 =>
      enter
      let members ← attempt (readMembers fuel true [])
      let closing ← attempt closeObject
      leave
      let members ← ExceptT.mk (pure members)
      ExceptT.mk (pure closing)
      return .object members
    | some b =>
      if isDigit b then return .number (← number true).toNumber
      else failAhead .expectedSomeValue

/-- Reads array items of one shape onto `acc` (reversed), up to the closing bracket. -/
def readItems : Nat → Shape → Bool → List Value → ReadM (List Value)
  | 0, _, _, _ => failHere .eofWhileParsingValue
  | fuel + 1, shape, first, acc => do
    if ← nextItem first then
      let v ← readAs fuel shape
      readItems fuel shape false (v :: acc)
    else return acc.reverse

/-- Reads object members onto a key-sorted list, the last member with a key winning,
    up to the closing brace. -/
def readMembers : Nat → Bool → List (String × Value) → ReadM (List (String × Value))
  | 0, _, _ => failHere .eofWhileParsingValue
  | fuel + 1, first, acc => do
    match ← nextKey first with
    | none => return acc
    | some key =>
      colon
      let v ← readAny fuel
      readMembers fuel false (Value.insertMember key v acc)

/-- Reads the members of a record written as an object; `seen` holds the fields read
    so far. A repeated field is an error; unknown members are checked and dropped. -/
def readFieldsByKey : Nat → List (String × Presence × Shape) → Bool → List (String × Value) →
    ReadM (List (String × Value))
  | 0, _, _, _ => failHere .eofWhileParsingValue
  | fuel + 1, fields, first, seen => do
    match ← nextKey first with
    | none =>
      -- every field in declaration order: a missing required field is an error
      match fields.find? (fun (n, p, _) => p == .required && (seen.lookup n).isNone) with
      | some (n, _, _) => throw (.loose (.missingField n))
      | none => return fields.filterMap fun (n, _, _) => (seen.lookup n).map (n, ·)
    | some key =>
      match fields.find? (fun (n, _, _) => n == key) with
      | some (n, _, shape) =>
        if (seen.lookup n).isSome then throw (.loose (.duplicateField n))
        colon
        let v ← readAs fuel shape
        readFieldsByKey fuel fields false ((n, v) :: seen)
      | none =>
        colon
        skipValueFrom [] fuel
        readFieldsByKey fuel fields false seen

/-- Reads the fields of a record written as an array, in declaration order; a missing
    item is an error unless its field is defaulted. -/
def readFieldsInOrder : Nat → String → Nat → List (String × Presence × Shape) → Bool → Nat →
    List (String × Value) → ReadM (List (String × Value))
  | 0, _, _, _, _, _, _ => failHere .eofWhileParsingValue
  | _, _, _, [], _, _, acc => return acc.reverse
  | fuel + 1, name, count, (n, presence, shape) :: rest, first, i, acc => do
    if ← nextItem first then
      let v ← readAs fuel shape
      readFieldsInOrder fuel name count rest false (i + 1) ((n, v) :: acc)
    else if presence == .defaulted then
      readFieldsInOrder fuel name count rest first (i + 1) acc
    else
      let noun := if count == 1 then " element" else " elements"
      throw (.loose (.invalidLength i ("struct " ++ name ++ " with " ++ toString count ++ noun)))

end

end Reader

/-- Reads a whole text as a value of the given shape; only blanks may follow it. -/
def readText (shape : Shape) (text : String) : Except ReadError Value :=
  let bytes := Text.utf8 text
  let start : Cursor := { rest := bytes, index := 0, total := bytes.length, depth := 128 }
  let whole : ReadM Value := do
    let v ← Reader.readAs (2 * bytes.length + 64) shape
    if (← Reader.skipBlanks).isSome then Reader.failAhead .trailingCharacters
    return v
  match (whole.run.run start).1 with
  | .ok v => .ok v
  | .error (.placed issue i) =>
    let (line, column) := ReadError.positionOf bytes i
    .error { issue, line, column }
  | .error (.loose issue) => .error { issue }

/-- Reads a whole text as any JSON value. -/
def parse (text : String) : Except ReadError Value :=
  readText .any text

end ChatWire.Json
