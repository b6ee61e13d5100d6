import ChatWire.Text.Extending

namespace ChatWire.Text

/-- Lowercase hexadecimal digits of a natural, without leading zeros. -/
def hexDigits (n : Nat) : List Char :=
  Nat.toDigits 16 n

/-- How one character is written inside a literal. -/
def literalChar (c : Char) : List Char :=
  let n := c.toNat
  if c = '\x00' then ['\\', '0']
  else if c = '\t' then ['\\', 't']
  else if c = '\r' then ['\\', 'r']
  else if c = '\n' then ['\\', 'n']
  else if c = '\\' then ['\\', '\\']
  else if c = '"' then ['\\', '"']
  else if isExtending c || !isPrintable c then ['\\', 'u', '\x7b'] ++ hexDigits n ++ ['\x7d']
  else [c]

/-- A string as a quoted literal. -/
def literal (s : String) : String :=
  String.ofList ('"' :: (s.toList.flatMap literalChar ++ ['"']))

end ChatWire.Text
