import ChatWire.History.Uuid

namespace ChatWire.History

/-- Why a text is not an id. -/
inductive UuidError where
  /-- A character that has no place in an id, and its byte offset. -/
  | character (c : Char) (index : Nat)
  /-- A text of a length no form has. -/
  | wrongLength (count : Nat)
  /-- A hyphenated text with other than five groups. -/
  | groupCount (count : Nat)
  /-- A group of the wrong length. -/
  | groupLength (group length : Nat)
deriving DecidableEq, Inhabited

namespace UuidError

/-- The lengths of the five groups. -/
def groupWidths : List Nat := [8, 4, 4, 4, 12]

/-- The message of an error. -/
def message : UuidError → String
  | .character c index => "invalid character: found `" ++ c.toString ++ "` at " ++ toString index
  | .wrongLength count => "invalid length: found " ++ toString count
  | .groupCount count => "invalid group count: expected 5, found " ++ toString count
  | .groupLength group length =>
    "invalid group length in group " ++ toString group ++ ": expected " ++
      toString (groupWidths.getD group 0) ++ ", found " ++ toString length

end UuidError

namespace Uuid

/-- The value of a hex digit. -/
def hexValue (c : Char) : Option Nat :=
  if '0' ≤ c ∧ c ≤ '9' then some (c.toNat - '0'.toNat)
  else if 'a' ≤ c ∧ c ≤ 'f' then some (c.toNat - 'a'.toNat + 10)
  else if 'A' ≤ c ∧ c ≤ 'F' then some (c.toNat - 'A'.toNat + 10)
  else none

/-- The number written by hex digits, most significant first. -/
def ofHexDigits (cs : List Char) : Option Nat :=
  cs.foldlM (fun acc c => (hexValue c).map (acc * 16 + ·)) 0

/-- Reads 32 hex digits. -/
def ofSimple (cs : List Char) : Option Uuid :=
  if cs.length == 32 then (ofHexDigits cs).map (⟨·⟩) else none

/-- Reads the hyphenated form. -/
def ofHyphenated (cs : List Char) : Option Uuid :=
  if cs.length == 36 && [8, 13, 18, 23].all (fun i => cs[i]? == some '-') then
    ofSimple (cs.filter (· != '-'))
  else none

/-- Whether a text starts with `urn:uuid:`, in either case. -/
def hasUrnPrefix (s : String) : Bool :=
  (s.toList.take 9).map Char.toLower == "urn:uuid:".toList

/-- The text inside braces or after `urn:uuid:`, with the byte length of what was
    taken off in front; `none` for a bare text. -/
def unwrap (s : String) : Option (String × Nat) :=
  let cs := s.toList
  if cs.head? == some '{' && cs.getLast? == some '}' && cs.length ≥ 2 then
    some (String.ofList (cs.drop 1).dropLast, 1)
  else if hasUrnPrefix s then some ((s.drop 9).toString, 9)
  else none

/-- The byte length of the longest form. -/
def longestForm : Nat := 45

/-- The first character that is neither a hex digit nor `-`, with its byte offset. -/
def firstStray : List Char → Nat → Option (Char × Nat)
  | [], _ => none
  | c :: rest, offset =>
    if c == '-' || (hexValue c).isSome then firstStray rest (offset + c.utf8Size)
    else some (c, offset)

/-- The byte offsets of the hyphens. -/
def hyphenOffsets : List Char → Nat → List Nat
  | [], _ => []
  | c :: rest, offset =>
    let tail := hyphenOffsets rest (offset + c.utf8Size)
    if c == '-' then offset :: tail else tail

/-- Where each group starts in the hyphenated form. -/
def groupStarts : List Nat := [0, 9, 14, 19, 24]

/-- The first group whose closing hyphen is misplaced: its number and length. -/
def misplacedGroup : List Nat → List Nat → Nat → Option (Nat × Nat)
  | bound :: bounds, start :: next :: starts, group =>
    if bound + 1 != next then some (group, bound - start)
    else misplacedGroup bounds (next :: starts) (group + 1)
  | _, _, _ => none

/-- Why the characters of a text are no id: `offset` is the byte length taken off in
    front of them, `bare` tells that nothing was, and `size` is the byte length of the
    whole text. -/
def diagnoseBody (cs : List Char) (offset : Nat) (bare : Bool) (size : Nat) : UuidError :=
  match firstStray cs 0 with
  | some (c, index) => .character c (index + offset)
  | none =>
    let hyphens := hyphenOffsets cs 0
    if hyphens.isEmpty && bare then .wrongLength size
    else if hyphens.length != 4 then .groupCount (hyphens.length + 1)
    else match misplacedGroup hyphens groupStarts 0 with
      | some (group, length) => .groupLength group length
      | none => .groupLength 4 (size - 24)

/-- Why a text whose length fits no form fails to be an id, looked at without its
    braces or prefix. -/
def diagnose (s : String) : UuidError :=
  if s.utf8ByteSize > longestForm then .wrongLength s.utf8ByteSize else
  match unwrap s with
  | some (body, offset) => diagnoseBody body.toList offset false s.utf8ByteSize
  | none => diagnoseBody s.toList 0 true s.utf8ByteSize

/-- The text of the form a text's length asks for, without braces or prefix; `none`
    when its length fits no form. -/
def formText (s : String) : Option (List Char) :=
  let cs := s.toList
  match s.utf8ByteSize with
  | 32 | 36 => some cs
  | 38 => if cs.head? == some '{' && cs.getLast? == some '}' then some (cs.drop 1).dropLast else none
  | 45 => if hasUrnPrefix s then some (cs.drop 9) else none
  | _ => none

/-- Reads an id in any of its four forms. -/
def parse (s : String) : Except UuidError Uuid :=
  match formText s with
  | some body =>
    match (if s.utf8ByteSize == 32 then ofSimple body else ofHyphenated body) with
    | some u => .ok u
    | none => .error (diagnoseBody body 0 true (String.ofList body).utf8ByteSize)
  | none => .error (diagnose s)

end Uuid

end ChatWire.History
