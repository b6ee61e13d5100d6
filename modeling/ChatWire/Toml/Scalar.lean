import ChatWire.Toml.Syntax
import ChatWire.Toml.Datetime

namespace ChatWire.Toml

open ChatWire.Json

namespace Scalar

/-- Fails at a span inside a piece, given by byte offsets from its start. -/
def failIn (p : Piece) (message : String) (a b : Nat) : Except TomlError α :=
  .error { message, span := some ⟨p.start + a, p.start + b⟩ }

/-- The value of a hex digit. -/
def hexValue (c : Char) : Option Nat :=
  if '0' ≤ c ∧ c ≤ '9' then some (c.toNat - 48)
  else if 'a' ≤ c ∧ c ≤ 'f' then some (c.toNat - 87)
  else if 'A' ≤ c ∧ c ≤ 'F' then some (c.toNat - 55)
  else none

/-- The escapes a basic string knows, as errors list them. -/
def escapesExpected : String :=
  "expected `b`, `e`, `f`, `n`, `r`, `\\`, `\"`, `x`, `u`, `U`"

/-- Whether a character may stand as it is in a one-line basic string. -/
def isBasicChar (c : Char) : Bool :=
  c == '\t' || (c.toNat ≥ 0x20 && c != '"' && c != '\\' && c.toNat != 0x7F)

/-- Whether a character may stand as it is in a one-line literal string. -/
def isLiteralChar (c : Char) : Bool :=
  c == '\t' || (c.toNat ≥ 0x20 && c != '\'' && c.toNat != 0x7F)

/-- Whether the characters at the front may stand as they are in a multi-line
    string whose one-line characters are `oneLine`, with its quote `q`. -/
def isMultiLineFront (oneLine : Char → Bool) (q : Char) : List Char → Bool
  | '\r' :: '\n' :: _ => true
  | c :: _ => oneLine c || c == q || c == '\n'
  | [] => false

/-- How a string is written: its error description, what it expects instead of a bad
    character, and which characters may stand as they are. -/
structure StringForm where
  description : String
  expectedInstead : String
  allowed : List Char → Bool
  escapes : Bool
  multiLine : Bool

/-- The one-line basic form. -/
def basicForm : StringForm :=
  ⟨"invalid basic string", "non-double-quote visible characters, `\\`",
    fun cs => (cs.head?.map isBasicChar).getD false, true, false⟩

/-- The multi-line basic form. -/
def mlBasicForm : StringForm :=
  ⟨"invalid multi-line basic string", "`\\`, characters", isMultiLineFront isBasicChar '"', true, true⟩

/-- The one-line literal form. -/
def literalForm : StringForm :=
  ⟨"invalid literal string", "non-single-quote visible characters",
    fun cs => (cs.head?.map isLiteralChar).getD false, false, false⟩

/-- The multi-line literal form. -/
def mlLiteralForm : StringForm :=
  ⟨"invalid multi-line literal string", "characters", isMultiLineFront isLiteralChar '\'', false, true⟩

/-- The characters of a run that may not stand in a string, up to an allowed
    character or a backslash. -/
def badRun (form : StringForm) : List Char → List Char
  | [] => []
  | c :: rest =>
    if form.allowed (c :: rest) || (form.escapes && c == '\\') then [] else c :: badRun form rest

/-- Reads the character of a `\x`, `\u` or `\U` escape with `n` hex digits, the
    digits starting at byte offset `at_`. -/
def hexEscape (p : Piece) (n : Nat) (cs : List Char) (at_ : Nat) :
    Except TomlError (Char × List Char × Nat) :=
  let digits := (cs.take n).takeWhile fun c => (hexValue c).isSome
  if digits.length < n then
    failIn p "too few unicode value digits, expected unicode hexadecimal value"
      (at_ + digits.length) (at_ + digits.length)
  else
    let v := digits.foldl (fun acc c => acc * 16 + (hexValue c).getD 0) 0
    if v > 0x10FFFF || (0xD800 ≤ v ∧ v ≤ 0xDFFF) then
      failIn p "invalid value, expected unicode hexadecimal value" at_ at_
    else .ok (Char.ofNat v, cs.drop n, at_ + n)

/-- Reads an escape after its backslash, the backslash ending at byte offset `at_`. -/
def escape (p : Piece) (cs : List Char) (at_ : Nat) : Except TomlError (Char × List Char × Nat) :=
  match cs with
  | 'b' :: rest => .ok ('\x08', rest, at_ + 1)
  | 'e' :: rest => .ok ('\x1b', rest, at_ + 1)
  | 'f' :: rest => .ok ('\x0c', rest, at_ + 1)
  | 'n' :: rest => .ok ('\n', rest, at_ + 1)
  | 'r' :: rest => .ok ('\r', rest, at_ + 1)
  | 't' :: rest => .ok ('\t', rest, at_ + 1)
  | '\\' :: rest => .ok ('\\', rest, at_ + 1)
  | '"' :: rest => .ok ('"', rest, at_ + 1)
  | 'x' :: rest => hexEscape p 2 rest (at_ + 1)
  | 'u' :: rest => hexEscape p 4 rest (at_ + 1)
  | 'U' :: rest => hexEscape p 8 rest (at_ + 1)
  | _ => failIn p ("missing escaped value, " ++ escapesExpected) at_ at_

/-- Whether a character is a blank inside a line. -/
def isBlank (c : Char) : Bool :=
  c == ' ' || c == '\t'

/-- Whether the characters start a line end. -/
def startsLineEnd : List Char → Bool
  | '\n' :: _ => true
  | '\r' :: '\n' :: _ => true
  | _ => false

/-- Reads the content of a string; `at_` is the byte offset of `cs` in the piece. The
    fuel bounds the steps. -/
def content (p : Piece) (form : StringForm) : Nat → List Char → Nat → List Char →
    Except TomlError (List Char)
  | 0, _, _, acc => .ok acc.reverse
  | _, [], _, acc => .ok acc.reverse
  | fuel + 1, c :: rest, at_, acc =>
    if form.escapes && c == '\\' then
      let blanks := rest.takeWhile isBlank
      let after := rest.drop blanks.length
      if form.multiLine && startsLineEnd after then
        let skipped := rest.takeWhile fun c => isBlank c || c == '\n' || c == '\r'
        content p form fuel (rest.drop skipped.length) (at_ + 1 + skipped.length) acc
      else if form.multiLine && !blanks.isEmpty then
        failIn p (form.description ++ ", expected newline") (at_ + 1 + blanks.length)
          (at_ + 1 + blanks.length)
      else
        match escape p rest (at_ + 1) with
        | .ok (ch, rest, at_) => content p form fuel rest at_ (ch :: acc)
        | .error e => .error e
    else if form.allowed (c :: rest) then
      content p form fuel rest (at_ + c.utf8Size) (c :: acc)
    else
      let run := badRun form (c :: rest)
      failIn p (form.description ++ ", expected " ++ form.expectedInstead) at_ (at_ + Token.byteLength run)

/-- Reads a string piece of a quoting. -/
def string (p : Piece) (q : Quoting) : Except TomlError String :=
  let (form, delimiter) : StringForm × List Char := match q with
    | .basic => (basicForm, ['"'])
    | .literal => (literalForm, ['\''])
    | .mlBasic => (mlBasicForm, ['"', '"', '"'])
    | .mlLiteral => (mlLiteralForm, ['\'', '\'', '\''])
  let n := delimiter.length
  let inner := p.text.drop n
  let size := Token.byteLength p.text
  let quoteText := String.ofList delimiter
  if !(delimiter.isSuffixOf inner) then
    failIn p (form.description ++ ", expected `" ++ quoteText ++ "`") size size
  else
    let body := inner.take (inner.length - n)
    let (body, at_) := match form.multiLine, body with
      | true, '\n' :: rest => (rest, n + 1)
      | true, '\r' :: '\n' :: rest => (rest, n + 2)
      | _, _ => (body, n)
    (content p form (body.length + 1) body at_ []).map String.ofList

/-- Whether a character may stand in a bare key. -/
def isKeyChar (c : Char) : Bool :=
  ('A' ≤ c ∧ c ≤ 'Z') || ('a' ≤ c ∧ c ≤ 'z') || ('0' ≤ c ∧ c ≤ '9') || c == '-' || c == '_'

/-- What bare keys may hold, as errors list it. -/
def keyExpected : String := ", expected letters, numbers, `-`, `_`"

/-- The first character that may not stand in a bare key, with its offset. -/
def strayInKey : List Char → Nat → Option (Char × Nat)
  | [], _ => none
  | c :: rest, at_ => if isKeyChar c then strayInKey rest (at_ + c.utf8Size) else some (c, at_)

/-- The text of a key. -/
def key (p : Piece) : Except TomlError String :=
  let size := Token.byteLength p.text
  match p.quoting with
  | none =>
    if p.text.isEmpty then failIn p ("unquoted keys cannot be empty" ++ keyExpected) 0 0
    else match strayInKey p.text 0 with
      | some (c, at_) => failIn p ("invalid unquoted key" ++ keyExpected) at_ (at_ + c.utf8Size)
      | none => .ok (String.ofList p.text)
  | some .mlBasic =>
    failIn p "keys cannot be multi-line basic strings, expected basic string, literal string" 0 size
  | some .mlLiteral =>
    failIn p "keys cannot be multi-line literal strings, expected basic string, literal string" 0 size
  | some q => string p q

/-- How a number is written: an integer in a radix, or a float. -/
inductive NumberForm where
  | integer (radix : Nat)
  | float
deriving DecidableEq

/-- Whether a character is a digit of a number form. -/
def isDigitOf : NumberForm → Char → Bool
  | .integer 16, c => (hexValue c).isSome
  | .integer 8, c => '0' ≤ c ∧ c ≤ '7'
  | .integer 2, c => c == '0' || c == '1'
  | _, c => c.isDigit

/-- The pieces of a text between underscores, each with its start offset. -/
def underscoreParts : List Char → Nat → List (List Char × Nat)
  | cs, at_ =>
    match cs.splitOn '_' with
    | [] => []
    | first :: rest =>
      let step := fun (acc : List (List Char × Nat) × Nat) (part : List Char) =>
        (acc.1 ++ [(part, acc.2)], acc.2 + part.length + 1)
      (rest.foldl step ([(first, at_)], at_ + first.length + 1)).1

/-- The message of a misplaced underscore. -/
def underscoreMessage : String := "`_` may only go between digits, expected nothing"

/-- Checks that every `_` of the digits `cs` (at byte offset `at_` of a piece of `size`
    bytes) stands between two digits. -/
def checkUnderscores (p : Piece) (form : NumberForm) (cs : List Char) (at_ size : Nat) :
    Except TomlError Unit := do
  if !cs.contains '_' then return
  if cs.head? == some '_' then failIn p underscoreMessage at_ (at_ + 1)
  let stop := at_ + cs.length
  if cs.length > 1 && cs.getLast? == some '_' then failIn p underscoreMessage (stop - 1) stop
  for (part, start) in underscoreParts cs at_ do
    if start > 0 && !((part.head?.map (isDigitOf form)).getD false) then
      failIn p underscoreMessage (start - 1) start
    let finish := start + part.length
    if part.length > 1 && finish < size && !((part.getLast?.map (isDigitOf form)).getD false) then
      failIn p underscoreMessage finish (finish + 1)

/-- Checks a run of digits and underscores at the front: it has a digit, and no
    leading zero unless `zeroPrefix`. Gives the rest and its offset. -/
def decimalRun (p : Piece) (cs : List Char) (at_ : Nat) (zeroPrefix : Bool) (invalid : String) :
    Except TomlError (List Char × Nat) :=
  let run := cs.takeWhile fun c => c.isDigit || c == '_'
  let digits := run.countP Char.isDigit
  if digits == 0 then failIn p (invalid ++ ", expected digits") at_ at_
  else if digits ≥ 2 && run.head? == some '0' && !zeroPrefix then
    failIn p "unexpected leading zero, expected nothing" at_ (at_ + 1)
  else .ok (cs.drop run.length, at_ + run.length)

/-- Checks the form of a float: integer part, optional fraction, optional exponent, and
    nothing after. -/
def checkFloat (p : Piece) (cs : List Char) (at_ size : Nat) : Except TomlError Unit := do
  let (cs, at_) ← decimalRun p cs at_ false "invalid mantissa"
  let (cs, at_) ← match cs with
    | '.' :: rest => decimalRun p rest (at_ + 1) true "invalid fraction"
    | _ => pure (cs, at_)
  let (cs, at_) ← match cs with
    | e :: rest =>
      if e == 'e' || e == 'E' then
        match rest with
        | s :: rest' =>
          if s == '+' || s == '-' then decimalRun p rest' (at_ + 2) true "invalid exponent"
          else decimalRun p rest (at_ + 1) true "invalid exponent"
        | [] => decimalRun p rest (at_ + 1) true "invalid exponent"
      else pure (cs, at_)
    | [] => pure (cs, at_)
  if !cs.isEmpty then failIn p "invalid float, expected nothing" at_ size

/-- Checks the front of a decimal integer: it starts with digits, without a leading
    zero. What follows them is left to the reading of the value, which fails on it. -/
def checkInteger (p : Piece) (cs : List Char) (at_ : Nat) : Except TomlError Unit := do
  discard (decimalRun p cs at_ false "invalid integer")

/-- The value of digits in a radix. -/
def digitsValue (radix : Nat) (cs : List Char) : Nat :=
  cs.foldl (fun acc c => acc * radix + (hexValue c).getD 0) 0

/-- The value of a decimal integer text without underscores: an optional sign, then
    digits only; `none` for anything else. -/
def decimalValue (cs : List Char) : Option Int :=
  let (negative, ds) := match cs with
    | '-' :: ds => (true, ds)
    | '+' :: ds => (false, ds)
    | ds => (false, ds)
  if ds.isEmpty || !ds.all Char.isDigit then none
  else
    let v : Int := digitsValue 10 ds
    some (if negative then -v else v)

/-- The node of a decimal integer text, sign included, underscores dropped. A text
    that is no integer once its underscores are gone has no value. -/
def decimalInteger (p : Piece) : Except TomlError Node := do
  let size := Token.byteLength p.text
  checkUnderscores p (.integer 10) p.text 0 size
  return .integer (decimalValue (p.text.filter (· != '_'))) ⟨p.start, p.stop⟩

/-- The node of a float text, sign included, underscores dropped. -/
def decimalFloat (p : Piece) : Except TomlError Node := do
  let size := Token.byteLength p.text
  checkUnderscores p .float p.text 0 size
  let cs := p.text.filter (· != '_')
  let (negative, body) := match cs with
    | '-' :: r => (true, r)
    | '+' :: r => (false, r)
    | r => (false, r)
  let intPart := body.takeWhile Char.isDigit
  let rest := body.drop intPart.length
  let (frac, rest) := match rest with
    | '.' :: r => let f := r.takeWhile Char.isDigit; (f, r.drop f.length)
    | r => ([], r)
  let expValue : Int := match rest with
    | _ :: '-' :: ds => -((digitsValue 10 ds : Nat) : Int)
    | _ :: '+' :: ds => digitsValue 10 ds
    | _ :: ds => digitsValue 10 ds
    | [] => 0
  let x := Binary64.ofDecimal (digitsValue 10 (intPart ++ frac)) (expValue - frac.length)
  if x.isInfinite then failIn p "floating-point number overflowed" 0 size
  return .float (if negative then x.negate else x) ⟨p.start, p.stop⟩

/-- The node of a date or time. -/
def datetime (p : Piece) : Except TomlError Node :=
  match checkDatetime p.text with
  | .ok () => .ok (.datetime (String.ofList p.text) ⟨p.start, p.stop⟩)
  | .error e => failIn p e.message 0 (Token.byteLength p.text)

/-- Whether the text after the leading digits of a number makes it a float: it holds
    a point or an exponent mark. -/
def isFloatTail (rest : List Char) : Bool :=
  rest.any fun c => c == '.' || c == 'e' || c == 'E'

/-- The error of a bare value that is no boolean, number, date or time: a string whose
    opening quote is missing when it ends in quotes, else a string without quotes. -/
def unquoted (p : Piece) : Except TomlError Node :=
  let closing := [['\'', '\'', '\''], ['"', '"', '"'], ['\''], ['"']]
  match closing.find? (·.isSuffixOf p.text) with
  | some q => failIn p ("missing opening quote, expected `" ++ String.ofList q ++ "`") 0 0
  | none => failIn p "string values must be quoted, expected literal string" 0 (Token.byteLength p.text)

/-- Reads a value that starts with digits (or `_`), at byte offset `at_`: a date or
    time, a float or a decimal integer. -/
def digitsFirst (p : Piece) (value : List Char) (at_ : Nat) : Except TomlError Node := do
  let size := Token.byteLength p.text
  let digits := value.takeWhile Char.isDigit
  let rest := value.drop digits.length
  match rest with
  | [] =>
    checkInteger p value at_
    decimalInteger p
  | c :: _ =>
    if c == '-' || c == ':' then datetime p
    else if rest.contains ' ' then unquoted p
    else if isFloatTail rest then
      checkFloat p value at_ size
      decimalFloat p
    else if c == '_' then
      checkInteger p value at_
      decimalInteger p
    else unquoted p

/-- Reads an integer in a radix after its prefix `0x`, `0o` or `0b`. -/
def radixInteger (p : Piece) (radix : Nat) (digits : List Char) (at_ : Nat) : Except TomlError Node := do
  let size := Token.byteLength p.text
  let description := match radix with
    | 16 => "invalid hexadecimal number"
    | 8 => "invalid octal number"
    | _ => "invalid binary number"
  if let some s := digits.head? then
    if s == '+' || s == '-' then failIn p "unexpected sign, expected nothing" at_ (at_ + 1)
  let mut offset := at_
  for c in digits do
    if !isDigitOf (.integer radix) c && c != '_' then failIn p description offset (offset + c.utf8Size)
    offset := offset + c.utf8Size
  checkUnderscores p (.integer radix) digits at_ size
  let ds := digits.filter (· != '_')
  return .integer (if ds.isEmpty then none else some (digitsValue radix ds)) ⟨p.start, p.stop⟩

/-- Reads a value whose (unsigned part) starts with `0`, at byte offset `at_`. -/
def zeroFirst (p : Piece) (value : List Char) (at_ : Nat) (signed : Bool) : Except TomlError Node := do
  match value with
  | [_] => decimalInteger p
  | _ :: r :: more =>
    let radix : Option (Nat × String) :=
      if r == 'x' || r == 'X' then some (16, "0x")
      else if r == 'o' || r == 'O' then some (8, "0o")
      else if r == 'b' || r == 'B' then some (2, "0b")
      else none
    match radix with
    | some (radix, prefix_) =>
      if signed then failIn p "integers with a radix cannot be signed, expected nothing" 0 1
      if r.isUpper then failIn p ("radix must be lowercase, expected `" ++ prefix_ ++ "`") at_ (at_ + 2)
      radixInteger p radix more (at_ + 2)
    | none =>
      if r == 'd' || r == 'D' then
        if signed then failIn p "integers with a radix cannot be signed, expected nothing" 0 1
        failIn p "redundant integer number prefix, expected nothing" at_ (at_ + 2)
      else if r == 'e' || r == 'E' || r == '.' then
        checkFloat p value at_ (Token.byteLength p.text)
        decimalFloat p
      else digitsFirst p value at_
  | [] => unquoted p

/-- Reads a symbol: the whole text must be the symbol. -/
def symbol (p : Piece) (sym : String) (description : String) (node : Node) : Except TomlError Node :=
  if p.text == sym.toList then .ok node
  else if p.text.contains ' ' then unquoted p
  else failIn p (description ++ ", expected `" ++ sym ++ "`") 0 (Token.byteLength p.text)

/-- Reads a signed value after its sign. -/
def afterSign (p : Piece) (value : List Char) : Except TomlError Node :=
  let size := Token.byteLength p.text
  let span : Span := ⟨p.start, p.stop⟩
  let negative := p.text.head? == some '-'
  match value with
  | [] => unquoted p
  | c :: _ =>
    if c == '+' || c == '-' then failIn p "redundant numeric sign, expected nothing" 1 2
    else if c == '_' || ('1' ≤ c ∧ c ≤ '9') then digitsFirst p value 1
    else if c == '0' then zeroFirst p value 1 true
    else if c == '.' then do
      checkFloat p p.text 0 size
      decimalFloat p
    else if c == 'i' || c == 'I' then
      if value == "inf".toList then
        .ok (.float (if negative then Binary64.infinity.negate else Binary64.infinity) span)
      else failIn p "invalid float, expected `inf`" 1 size
    else if c == 'n' || c == 'N' then
      if value == "nan".toList then .ok (.float Binary64.nan span)
      else failIn p "invalid float, expected `nan`" 1 size
    else unquoted p

/-- Reads a value written without quotes. -/
def bare (p : Piece) : Except TomlError Node :=
  let span : Span := ⟨p.start, p.stop⟩
  match p.text with
  | [] => unquoted p
  | c :: rest =>
    if c == '+' || c == '-' then afterSign p rest
    else if c == '_' || ('1' ≤ c ∧ c ≤ '9') then digitsFirst p p.text 0
    else if c == '0' then zeroFirst p p.text 0 false
    else if c == '.' then do
      checkFloat p p.text 0 (Token.byteLength p.text)
      decimalFloat p
    else if c == 't' || c == 'T' then symbol p "true" "invalid boolean" (.boolean true span)
    else if c == 'f' || c == 'F' then symbol p "false" "invalid boolean" (.boolean false span)
    else if c == 'i' || c == 'I' then symbol p "inf" "invalid float" (.float Binary64.infinity span)
    else if c == 'n' || c == 'N' then symbol p "nan" "invalid float" (.float Binary64.nan span)
    else unquoted p

end Scalar

/-- The node of a scalar piece. -/
def Piece.scalar (p : Piece) : Except TomlError Node :=
  match p.quoting with
  | some q => (Scalar.string p q).map fun s => .string s ⟨p.start, p.stop⟩
  | none => Scalar.bare p

/-- The text of a key piece. -/
def Piece.key (p : Piece) : Except TomlError String :=
  Scalar.key p

end ChatWire.Toml
