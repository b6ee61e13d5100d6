namespace ChatWire.Text

/-- The UTF-8 bytes of a string, character by character. -/
def utf8 (s : String) : List UInt8 :=
  s.toList.flatMap String.utf8EncodeChar

/-- Number of UTF-8 bytes of a string. -/
def utf8Length (s : String) : Nat :=
  (utf8 s).length

/-- A continuation byte has the bit pattern `10xxxxxx`. -/
@[inline] def isContinuation (b : UInt8) : Bool :=
  0x80 ≤ b && b ≤ 0xBF

/-- Whether the second byte of a three-byte sequence fits its lead byte: no
    overlong forms after `E0` and no surrogates after `ED`. -/
def secondOfThreeFits (lead b : UInt8) : Bool :=
  if lead = 0xE0 then 0xA0 ≤ b && b ≤ 0xBF
  else if lead = 0xED then 0x80 ≤ b && b ≤ 0x9F
  else isContinuation b

/-- Whether the second byte of a four-byte sequence fits its lead byte: no
    overlong forms after `F0` and nothing above `U+10FFFF` after `F4`. -/
def secondOfFourFits (lead b : UInt8) : Bool :=
  if lead = 0xF0 then 0x90 ≤ b && b ≤ 0xBF
  else if lead = 0xF4 then 0x80 ≤ b && b ≤ 0x8F
  else isContinuation b

/-- The character of a two-byte sequence. -/
def char2 (a b : UInt8) : Char :=
  Char.ofNat (((a.toNat &&& 0x1F) <<< 6) ||| (b.toNat &&& 0x3F))

/-- The character of a three-byte sequence. -/
def char3 (a b c : UInt8) : Char :=
  Char.ofNat (((a.toNat &&& 0x0F) <<< 12) ||| ((b.toNat &&& 0x3F) <<< 6) ||| (c.toNat &&& 0x3F))

/-- The character of a four-byte sequence. -/
def char4 (a b c d : UInt8) : Char :=
  Char.ofNat (((a.toNat &&& 0x07) <<< 18) ||| ((b.toNat &&& 0x3F) <<< 12) |||
    ((c.toNat &&& 0x3F) <<< 6) ||| (d.toNat &&& 0x3F))

/-- Reads bytes onto `acc`; an invalid or cut sequence becomes one `U+FFFD` and
    reading goes on at the first byte that did not fit. -/
def decodeLossyOnto (acc : String) : List UInt8 → String
  | [] => acc
  | b :: rest =>
    if b < 0x80 then decodeLossyOnto (acc.push (Char.ofNat b.toNat)) rest
    else if 0xC2 ≤ b && b ≤ 0xDF then
      match rest with
      | c :: rest' =>
        if isContinuation c then decodeLossyOnto (acc.push (char2 b c)) rest'
        else decodeLossyOnto (acc.push '�') (c :: rest')
      | [] => acc.push '�'
    else if 0xE0 ≤ b && b ≤ 0xEF then
      match rest with
      | c :: rest' =>
        if secondOfThreeFits b c then
          match rest' with
          | d :: rest'' =>
            if isContinuation d then decodeLossyOnto (acc.push (char3 b c d)) rest''
            else decodeLossyOnto (acc.push '�') (d :: rest'')
          | [] => acc.push '�'
        else decodeLossyOnto (acc.push '�') (c :: rest')
      | [] => acc.push '�'
    else if 0xF0 ≤ b && b ≤ 0xF4 then
      match rest with
      | c :: rest' =>
        if secondOfFourFits b c then
          match rest' with
          | d :: rest'' =>
            if isContinuation d then
              match rest'' with
              | e :: rest''' =>
                if isContinuation e then decodeLossyOnto (acc.push (char4 b c d e)) rest'''
                else decodeLossyOnto (acc.push '�') (e :: rest''')
              | [] => acc.push '�'
            else decodeLossyOnto (acc.push '�') (d :: rest'')
          | [] => acc.push '�'
        else decodeLossyOnto (acc.push '�') (c :: rest')
      | [] => acc.push '�'
    else decodeLossyOnto (acc.push '�') rest
termination_by bytes => bytes.length

/-- The text a byte list shows when each invalid or cut sequence is replaced by
    `U+FFFD`. -/
def decodeLossy (bytes : List UInt8) : String :=
  decodeLossyOnto "" bytes

end ChatWire.Text
