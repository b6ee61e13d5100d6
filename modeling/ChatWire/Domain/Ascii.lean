import ChatWire.Text.Compose
import ChatWire.Domain.Mapping
import ChatWire.Domain.Direction
import ChatWire.Domain.Marks
import ChatWire.Domain.Joining
import ChatWire.Domain.Punycode
namespace ChatWire.Domain

open ChatWire.Text

/-- The full stop that separates labels. -/
def fullStop : Nat := 0x2E

/-- The prefix of a label in ASCII form, `xn--`. -/
def asciiFormPrefix : List Nat := [0x78, 0x6E, 0x2D, 0x2D]

/-- Maps every code point of a name; `none` when one is disallowed. -/
def mapName (ns : List Nat) : Option (List Nat) :=
  (ns.mapM fun n =>
    match status n with
    | .valid => some [n]
    | .mapped target => some target
    | .disallowed => none).map List.flatten

/-- Reads a label back from its ASCII form when it has one. -/
def readLabel (label : List Nat) : Option (List Nat) :=
  if label.take 4 == asciiFormPrefix then
    if label.any (0x80 ≤ ·) then none
    else
      match Punycode.decode ((label.drop 4).map Char.ofNat) with
      | some text =>
        if text.isEmpty || text.all (· < 0x80) || text.take 4 == asciiFormPrefix then none
        else some text
      | none => none
  else some label

/-- Whether a label may stand in a domain name, apart from the direction rule. -/
def isValidLabel (label : List Nat) : Bool :=
  match label with
  | [] => true
  | first :: _ =>
    composeText label == label && !isMark first &&
      label.all (fun n => status n == .valid) && joinersInContext label

/-- Writes a valid label in ASCII: as it is when it is ASCII, else as `xn--` and its
    Punycode. -/
def asciiLabel (label : List Nat) : Option (List Char) :=
  if label.all (· < 0x80) then some (label.map Char.ofNat)
  else (Punycode.encode label).map (['x', 'n', '-', '-'] ++ ·)

/-- The ASCII form of a domain name, or `none` when the name is invalid. -/
def toAscii (name : String) : Option String := do
  let mapped ← mapName (name.toList.map Char.toNat)
  let labels ← ((composeText mapped).splitOn fullStop).mapM readLabel
  let rightToLeft := labels.any fun label => label.any isRightToLeftish
  if !labels.all fun label => isValidLabel label && (!rightToLeft || keepsDirectionRule label) then
    none
  let ascii ← labels.mapM asciiLabel
  return String.ofList (['.'].intercalate ascii)

end ChatWire.Domain
