import ChatWire.Json.Shortest
import ChatWire.Json.Value

namespace ChatWire.Json

/-- The lowercase hexadecimal digit of a value below 16. -/
def hexDigit (n : Nat) : Char :=
  if n < 10 then Char.ofNat (48 + n) else Char.ofNat (87 + n)

/-- How one character is written inside a JSON string. -/
def escapeChar (c : Char) : List Char :=
  if c = '"' then ['\\', '"']
  else if c = '\\' then ['\\', '\\']
  else if c = '\n' then ['\\', 'n']
  else if c = '\r' then ['\\', 'r']
  else if c = '\t' then ['\\', 't']
  else if c.toNat = 0x08 then ['\\', 'b']
  else if c.toNat = 0x0C then ['\\', 'f']
  else if c.toNat < 0x20 then ['\\', 'u', '0', '0', hexDigit (c.toNat / 16), hexDigit (c.toNat % 16)]
  else [c]

/-- A string as a quoted JSON string. -/
def quote (s : String) : String :=
  String.ofList ('"' :: (s.toList.flatMap escapeChar ++ ['"']))

/-- `n` zero digits. -/
def zeros (n : Nat) : String :=
  String.ofList (List.replicate n '0')

/-- The text of a binary64 value; a value that is not finite has no JSON number and is
    written `null`. -/
def Binary64.jsonText (x : Binary64) : String :=
  if !x.isFinite then "null" else
  let sign := if x.isNegative then "-" else ""
  if x.isZero then sign ++ "0.0" else
  let d := x.shortest
  let digits := (Nat.toDigits 10 d.digits)
  let n : Int := digits.length
  let k := d.exponent
  let kk := n + k
  let body :=
    if 0 ≤ k ∧ kk ≤ 16 then
      String.ofList digits ++ zeros k.toNat ++ ".0"
    else if 0 < kk ∧ kk ≤ 16 then
      String.ofList (digits.take kk.toNat) ++ "." ++ String.ofList (digits.drop kk.toNat)
    else if -5 < kk ∧ kk ≤ 0 then
      "0." ++ zeros (-kk).toNat ++ String.ofList digits
    else
      let e := kk - 1
      let mantissa :=
        if digits.length > 1 then String.ofList (digits.take 1) ++ "." ++ String.ofList (digits.drop 1)
        else String.ofList digits
      mantissa ++ (if e > 0 then "e+" else "e-") ++ toString e.natAbs
  sign ++ body

/-- The text of a binary64 value as diagnostics show it: a finite value as in JSON
    text, and otherwise `NaN`, `inf` or `-inf`. -/
def Binary64.diagnosticText (x : Binary64) : String :=
  if x.isNaN then "NaN"
  else if x.isInfinite then (if x.isNegative then "-inf" else "inf")
  else x.jsonText

/-- The text of a binary64 value written out in full: its shortest decimal digits laid
    out positionally, never with an exponent, and with `.0` when no point would show;
    a value that is not finite is `NaN`, `inf` or `-inf`. -/
def Binary64.positionalText (x : Binary64) : String :=
  if x.isNaN then "NaN"
  else if x.isInfinite then (if x.isNegative then "-inf" else "inf") else
  let sign := if x.isNegative then "-" else ""
  if x.isZero then sign ++ "0.0" else
  let d := x.shortest
  let digits := Nat.toDigits 10 d.digits
  let k := d.exponent
  let kk : Int := digits.length + k
  let body :=
    if 0 ≤ k then String.ofList digits ++ zeros k.toNat ++ ".0"
    else if 0 < kk then
      String.ofList (digits.take kk.toNat) ++ "." ++ String.ofList (digits.drop kk.toNat)
    else "0." ++ zeros (-kk).toNat ++ String.ofList digits
  sign ++ body

/-- The text of a number. -/
def Number.jsonText : Number → String
  | .int i => toString i
  | .float x => x.jsonText

mutual

/-- The compact JSON text of a value. -/
def Value.render : Value → String
  | .null => "null"
  | .bool true => "true"
  | .bool false => "false"
  | .number n => n.jsonText
  | .string s => quote s
  | .array items => "[" ++ renderItems items ++ "]"
  | .object members => "\x7b" ++ renderMembers members ++ "\x7d"

/-- Array items separated by commas. -/
def renderItems : List Value → String
  | [] => ""
  | [v] => v.render
  | v :: rest => v.render ++ "," ++ renderItems rest

/-- Object members `"key":value` separated by commas. -/
def renderMembers : List (String × Value) → String
  | [] => ""
  | [(k, v)] => quote k ++ ":" ++ v.render
  | (k, v) :: rest => quote k ++ ":" ++ v.render ++ "," ++ renderMembers rest

end

end ChatWire.Json
