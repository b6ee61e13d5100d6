import ChatWire.Text.Utf8
import ChatWire.Domain.Ascii

namespace ChatWire.Provider

/-- A web address, by its parts in normal form. -/
structure Url where
  scheme : String
  username : String := ""
  password : String := ""
  host : Option String := none
  port : Option Nat := none
  /-- The path as it is written, with its leading slash when it has segments. -/
  path : String := ""
  query : Option String := none
  fragment : Option String := none
deriving Inhabited, DecidableEq

namespace Url

/-- An uppercase hex digit of a value below 16. -/
def upperHex (n : Nat) : Char :=
  if n < 10 then Char.ofNat (48 + n) else Char.ofNat (55 + n)

/-- The `%XX` escape of a byte. -/
def escapeByte (b : UInt8) : String :=
  String.ofList ['%', upperHex (b.toNat / 16), upperHex (b.toNat % 16)]

/-- A character, escaped when it is in the given set. -/
def encodeChar (inSet : Char → Bool) (c : Char) : String :=
  if inSet c then String.join ((Text.utf8 c.toString).map escapeByte) else c.toString

/-- Characters, each escaped when it is in the given set. -/
def encode (inSet : Char → Bool) (cs : List Char) : String :=
  String.join (cs.map (encodeChar inSet))

/-- Controls, `DEL` and everything outside ASCII. -/
def controlSet (c : Char) : Bool :=
  c.toNat < 0x20 || c.toNat > 0x7E

/-- What a fragment escapes. -/
def fragmentSet (c : Char) : Bool :=
  controlSet c || c == ' ' || c == '"' || c == '<' || c == '>' || c == '`'

/-- What a query escapes. -/
def querySet (c : Char) : Bool :=
  controlSet c || c == ' ' || c == '"' || c == '#' || c == '<' || c == '>'

/-- What a query escapes in the schemes with a default port: also `'`. -/
def specialQuerySet (c : Char) : Bool :=
  querySet c || c == '\''

/-- What a path segment escapes. -/
def pathSet (c : Char) : Bool :=
  querySet c || c == '?' || c == '`' || c == '{' || c == '}'

/-- What a user name or password escapes. -/
def userinfoSet (c : Char) : Bool :=
  pathSet c || c == '/' || c == ':' || c == ';' || c == '=' || c == '@' ||
    ('[' ≤ c && c ≤ '^') || c == '|'

/-- The value of a digit in a radix up to 16. -/
def digitValue (radix : Nat) (c : Char) : Option Nat :=
  let v :=
    if '0' ≤ c && c ≤ '9' then some (c.toNat - '0'.toNat)
    else if 'a' ≤ c && c ≤ 'f' then some (c.toNat - 'a'.toNat + 10)
    else if 'A' ≤ c && c ≤ 'F' then some (c.toNat - 'A'.toNat + 10)
    else none
  v.bind fun d => if d < radix then some d else none

/-- The number written by digits in a radix; an empty list is zero. -/
def readDigits (radix : Nat) (cs : List Char) : Option Nat :=
  cs.foldlM (fun acc c => (digitValue radix c).map (acc * radix + ·)) 0

/-- Whether a character is an ASCII digit. -/
def isDigit (c : Char) : Bool :=
  '0' ≤ c && c ≤ '9'

/-- Whether a character may not stand in any host. -/
def forbiddenInHost (c : Char) : Bool :=
  c.toNat == 0 || c == '\t' || c == '\n' || c == '\r' || c == ' ' || c == '#' || c == '/' ||
    c == ':' || c == '<' || c == '>' || c == '?' || c == '@' || c == '[' || c == '\\' ||
    c == ']' || c == '^' || c == '|'

/-- Whether a character may not stand in a domain. -/
def forbiddenInDomain (c : Char) : Bool :=
  forbiddenInHost c || c.toNat < 0x20 || c == '%' || c.toNat == 0x7F

/-- One number of a numeric host: hex after `0x`, octal after a leading `0`, else
    decimal. -/
def readHostNumber (part : List Char) : Option Nat :=
  match part with
  | [] => none
  | '0' :: x :: rest => if x == 'x' || x == 'X' then readDigits 16 rest else readDigits 8 (x :: rest)
  | cs => readDigits 10 cs

/-- The dot-separated parts of a domain, without one empty part at the end. -/
def hostParts (domain : List Char) : List (List Char) :=
  let parts := domain.splitOn '.'
  if parts.length > 1 && parts.getLast? == some [] then parts.dropLast else parts

/-- Whether a domain is meant as a number: its last part is a number. -/
def endsInNumber (domain : List Char) : Bool :=
  match (hostParts domain).getLast? with
  | some last => (!last.isEmpty && last.all isDigit) || (readHostNumber last).isSome
  | none => false

/-- Reads a numeric host: up to four numbers, every one but the last below 256, the
    last filling the bytes that remain. -/
def readIpv4 (domain : List Char) : Option Nat := do
  let parts := hostParts domain
  if parts.length > 4 then none
  let numbers ← parts.mapM readHostNumber
  let last ← numbers.getLast?
  let front := numbers.dropLast
  if front.any (· > 255) then none
  if last ≥ Nat.pow 256 (5 - numbers.length) then none
  let high := front.zipIdx.foldl (fun acc (n, i) => acc + n * Nat.pow 256 (3 - i)) 0
  return high + last

/-- A numeric host as four decimal numbers. -/
def ipv4Text (n : Nat) : String :=
  ".".intercalate ([3, 2, 1, 0].map fun i => toString (n / Nat.pow 256 i % 256))

/-- Reads up to four hex digits of an IPv6 piece: the value, how many were read, and
    the rest. -/
def hexPiece : Nat → Nat → List Char → Nat × Nat × List Char
  | value, length, c :: rest =>
    if length < 4 then
      match digitValue 16 c with
      | some d => hexPiece (value * 16 + d) (length + 1) rest
      | none => (value, length, c :: rest)
    else (value, length, c :: rest)
  | value, length, [] => (value, length, [])

/-- Reads a decimal number of the dotted tail of an IPv6 address: no leading zero,
    at most 255. -/
def dottedNumber : Option Nat → List Char → Option (Nat × List Char)
  | acc, c :: rest =>
    if isDigit c then
      let d := c.toNat - '0'.toNat
      match acc with
      | none => dottedNumber (some d) rest
      | some 0 => none
      | some v => if v * 10 + d > 255 then none else dottedNumber (some (v * 10 + d)) rest
    else acc.map (·, c :: rest)
  | acc, [] => acc.map (·, [])

/-- Reads the four numbers of a dotted tail into two pieces. -/
def dottedTail (cs : List Char) : Option (Nat × Nat) := do
  let (a, cs) ← dottedNumber none cs
  let cs ← match cs with | '.' :: r => some r | _ => none
  let (b, cs) ← dottedNumber none cs
  let cs ← match cs with | '.' :: r => some r | _ => none
  let (c, cs) ← dottedNumber none cs
  let cs ← match cs with | '.' :: r => some r | _ => none
  let (d, cs) ← dottedNumber none cs
  if !cs.isEmpty then none
  return (a * 256 + b, c * 256 + d)

/-- Reads the pieces of an IPv6 address after an optional leading `::`: the pieces
    before and after the place of a `::`, if there is one. A `::` stands for at least
    one zero piece, so at most seven others may go with it. The fuel is the length of
    the text. -/
def ipv6Pieces : Nat → List Char → List Nat → Option (List Nat) → Option (List Nat × Option (List Nat))
  | 0, _, _, _ => none
  | _ + 1, [], front, back => some (front, back)
  | fuel + 1, cs, front, back =>
    let count := front.length + (match back with | some b => b.length + 1 | none => 0)
    if count ≥ 8 then none else
    match cs with
    | ':' :: rest =>
      if back.isSome then none else ipv6Pieces fuel rest front (some [])
    | _ =>
      let (value, length, rest) := hexPiece 0 0 cs
      let add := fun (pieces : List Nat) (front : List Nat) (back : Option (List Nat)) =>
        match back with
        | some b => (front, some (b ++ pieces))
        | none => (front ++ pieces, none)
      match rest with
      | '.' :: _ =>
        if length == 0 || count > 6 then none else
        match dottedTail cs with
        | some (hi, lo) => some (add [hi, lo] front back)
        | none => none
      | ':' :: [] => none
      | ':' :: more =>
        let (front, back) := add [value] front back
        ipv6Pieces fuel more front back
      | [] => some (add [value] front back)
      | _ :: _ => none

/-- Reads an IPv6 address into its eight pieces. -/
def readIpv6 (cs : List Char) : Option (List Nat) := do
  let (cs, back) ← match cs with
    | ':' :: ':' :: rest => some (rest, some [])
    | ':' :: _ => none
    | _ => some (cs, none)
  let (front, back) ← ipv6Pieces (cs.length + 1) cs [] back
  match back with
  | some b =>
    if front.length + b.length > 7 then none
    else some (front ++ List.replicate (8 - front.length - b.length) 0 ++ b)
  | none => if front.length == 8 then some front else none

/-- The longest run of at least two zero pieces, the first of equal ones: where it
    starts and how long it is. -/
def zeroRun (pieces : List Nat) : Option (Nat × Nat) :=
  let step := fun (acc : Option (Nat × Nat) × Nat × Nat) (pi : Nat × Nat) =>
    let (best, start, len) := acc
    let (p, i) := pi
    if p == 0 then
      let start := if len == 0 then i else start
      let len := len + 1
      let best := match best with
        | some (_, l) => if len > l then some (start, len) else best
        | none => some (start, len)
      (best, start, len)
    else (best, start, 0)
  match (pieces.zipIdx.foldl step (none, 0, 0)).1 with
  | some (s, l) => if l ≥ 2 then some (s, l) else none
  | none => none

/-- The lowercase hex text of a piece. -/
def pieceText (n : Nat) : String :=
  String.ofList ((Nat.toDigits 16 n).map Char.toLower)

/-- An IPv6 address in brackets, with its longest zero run compressed. -/
def ipv6Text (pieces : List Nat) : String :=
  let body := match zeroRun pieces with
    | some (s, l) =>
      ":".intercalate ((pieces.take s).map pieceText) ++ "::" ++
        ":".intercalate ((pieces.drop (s + l)).map pieceText)
    | none => ":".intercalate (pieces.map pieceText)
  "[" ++ body ++ "]"

/-- The bytes `%XX` escapes stand for, other bytes kept. -/
def percentDecode : List UInt8 → List UInt8
  | 37 :: a :: b :: rest =>
    match digitValue 16 (Char.ofNat a.toNat), digitValue 16 (Char.ofNat b.toNat) with
    | some x, some y => (x * 16 + y).toUInt8 :: percentDecode rest
    | _, _ => 37 :: percentDecode (a :: b :: rest)
  | b :: rest => b :: percentDecode rest
  | [] => []

/-- ASCII lowercase. -/
def lowerChar (c : Char) : Char :=
  if 'A' ≤ c && c ≤ 'Z' then Char.ofNat (c.toNat + 32) else c

/-- Reads a host. A bracketed host is an IPv6 address. In a scheme with a default
    port or `file` the host is a domain: its escapes are decoded, the bytes must be
    UTF-8, the name is put in its ASCII form, it may hold no forbidden character, and
    one that ends in a number is a numeric host. Elsewhere the host is kept as
    written, escaping controls. -/
def readHost (special : Bool) (cs : List Char) : Option String :=
  match cs with
  | '[' :: rest =>
    if rest.getLast? != some ']' then none
    else (readIpv6 rest.dropLast).map ipv6Text
  | _ =>
    if !special then
      if cs.any fun c => forbiddenInHost c then none else some (encode controlSet cs)
    else
      let bytes := percentDecode (Text.utf8 (String.ofList cs))
      match String.fromUTF8? (ByteArray.mk bytes.toArray) with
      | none => none
      | some name =>
        match Domain.toAscii name with
        | none => none
        | some ascii =>
          let domain := ascii.toList
          if domain.isEmpty || domain.any forbiddenInDomain then none
          else if endsInNumber domain then (readIpv4 domain).map ipv4Text
          else some (String.ofList domain)

/-- The default port of a scheme, for the schemes that have one. -/
def defaultPort : String → Option Nat
  | "http" => some 80
  | "https" => some 443
  | "ws" => some 80
  | "wss" => some 443
  | "ftp" => some 21
  | _ => none

/-- Whether a scheme has hierarchical hosts by the standard. -/
def isSpecial (scheme : String) : Bool :=
  (defaultPort scheme).isSome || scheme == "file"

/-- The text cut at the first character that satisfies `p`: the part before it, and
    the part after it if there is one. -/
def cutAt (p : Char → Bool) (cs : List Char) : List Char × Option (List Char) :=
  let before := cs.takeWhile (fun c => !p c)
  match cs.drop before.length with
  | _ :: after => (before, some after)
  | [] => (before, none)

/-- Reads the scheme: a letter, then letters, digits, `+`, `-` and `.`, then `:`. -/
def readScheme (cs : List Char) : Option (String × List Char) :=
  match cs with
  | c :: _ =>
    if !c.isAlpha then none else
    let name := cs.takeWhile fun c => c.isAlphanum || c == '+' || c == '-' || c == '.'
    match cs.drop name.length with
    | ':' :: rest => some (String.ofList (name.map lowerChar), rest)
    | _ => none
  | [] => none

/-- Whether a segment is `.`, written plainly or escaped. -/
def isSingleDot (s : List Char) : Bool :=
  let t := (String.ofList (s.map lowerChar))
  t == "." || t == "%2e"

/-- Whether a segment is `..`, written plainly or escaped. -/
def isDoubleDot (s : List Char) : Bool :=
  let t := (String.ofList (s.map lowerChar))
  t == ".." || t == ".%2e" || t == "%2e." || t == "%2e%2e"

/-- Whether two characters open a drive letter: an ASCII letter, then `:` or `|`. -/
def opensDrive (a b : Char) : Bool :=
  (('a' ≤ a && a ≤ 'z') || ('A' ≤ a && a ≤ 'Z')) && (b == ':' || b == '|')

/-- Whether a segment is a drive letter. -/
def isDriveLetter : List Char → Bool
  | [a, b] => opensDrive a b
  | _ => false

/-- Whether a segment is a drive letter written with `:`. -/
def isNormalDriveLetter : List Char → Bool
  | [a, b] => opensDrive a b && b == ':'
  | _ => false

/-- Whether a text starts with a drive letter that ends with it or at a separator. -/
def startsWithDrive : List Char → Bool
  | a :: b :: rest =>
    opensDrive a b &&
      match rest with
      | [] => true
      | c :: _ => c == '/' || c == '\\' || c == '?' || c == '#'
  | _ => false

/-- The place of the last `/` of a path. -/
def lastSlash (path : List Char) : Option Nat :=
  (path.zipIdx.filter fun (c, _) => c == '/').getLast?.map Prod.snd

/-- Whether the slash that ends a path goes away with a `..` after it: only when a
    segment stands before it and that segment is no drive letter. -/
def trailingSlashRemovable (path : List Char) : Bool :=
  match lastSlash path.dropLast with
  | some i => !startsWithDrive (path.drop (i + 1))
  | none => false

/-- Takes the last segment off a path; in a `file` address a drive letter stays. -/
def popSegment (file : Bool) (path : List Char) : List Char :=
  match lastSlash path with
  | some i => if file && isNormalDriveLetter (path.drop (i + 1)) then path else path.take (i + 1)
  | none => path

/-- The path one segment shorter, as a `..` makes it. -/
def shorten (file : Bool) (path : List Char) : List Char :=
  if path.isEmpty || (file && isNormalDriveLetter path) then path else popSegment file path

/-- A path being read: the path written so far, from its first slash, and whether the
    address keeps its host (a `file` address whose path starts with a drive letter
    loses it). -/
structure PathRead where
  path : List Char := ['/']
  keepsHost : Bool := true

/-- Adds a segment, written with its escapes, to a path; `slash` tells whether a
    separator followed it. A `..` takes the segment before it away unless that is a
    drive letter, and `.` adds nothing; either leaves the path ending in a slash. The
    first segment of a `file` path that is a drive letter is written with `:`. -/
def PathRead.add (file : Bool) (st : PathRead) (seg : List Char) (slash : Bool) : PathRead :=
  let sep := if slash then ['/'] else []
  if isDoubleDot seg then
    let p := st.path
    let p := if p.getLast? == some '/' && trailingSlashRemovable p then p.dropLast else p
    let p := shorten file p
    { st with path := if slash && p.getLast? != some '/' then p ++ ['/'] else p }
  else if isSingleDot seg then
    { st with path := if st.path.getLast? != some '/' then st.path ++ ['/'] else st.path }
  else if file && st.path.length == 1 && isDriveLetter seg then
    { path := st.path ++ seg.take 1 ++ [':'] ++ sep, keepsHost := false }
  else { st with path := st.path ++ seg ++ sep }

/-- Reads the segments of a path that follow its first slash. -/
def readSegments (special file : Bool) (cs : List Char) : PathRead :=
  let segs := cs.splitOnP fun c => c == '/' || (special && c == '\\')
  (segs.zipIdx.foldl (fun st (seg, i) =>
    st.add file (encode pathSet seg).toList (i + 1 < segs.length)) {})

/-- The path after a host, from the text after it (which starts with a separator
    unless it is empty): a special address always has a path. -/
def pathAfterHost (special : Bool) (cs : List Char) : String :=
  let sep := fun c => c == '/' || (special && c == '\\')
  match cs with
  | c :: rest =>
    if sep c then String.ofList (readSegments special false rest).path
    else if special then "/" else ""
  | [] => if special then "/" else ""

/-- Splits the text after the host into path, query and fragment. -/
def splitTail (cs : List Char) : List Char × Option (List Char) × Option (List Char) :=
  let (beforeHash, fragment) := cutAt (· == '#') cs
  let (path, query) := cutAt (· == '?') beforeHash
  (path, query, fragment)

/-- Reads the port after the host: digits only, at most 65535; an empty port and the
    scheme's default port are left out. -/
def readPort (scheme : String) (cs : List Char) : Option (Option Nat) :=
  if cs.isEmpty then some none
  else if !cs.all isDigit then none
  else
    let n := (readDigits 10 cs).getD 0
    if n > 65535 then none
    else if defaultPort scheme == some n then some none
    else some (some n)

/-- Reads the part after `//`: credentials, host, port and the rest. The credentials
    end at the last `@`; a user name and password that are both empty are left out,
    and an `@` that opens the authority right before the path leaves no host. -/
def readAuthority (scheme : String) (special : Bool) (cs : List Char) : Option Url := do
  let stop := fun c => c == '/' || c == '?' || c == '#' || (special && c == '\\')
  let authority := cs.takeWhile fun c => !stop c
  let tail := cs.drop authority.length
  let ats := authority.zipIdx.filterMap fun (c, i) => if c == '@' then some i else none
  if ats.getLast? == some 0 && authority.length == 1 && tail.head?.any stop then none
  let (credentials, hostPort) := match ats.getLast? with
    | some i => (authority.take i, authority.drop (i + 1))
    | none => ([], authority)
  let (user, pass) := cutAt (· == ':') credentials
  let username := encode userinfoSet user
  let password := encode userinfoSet (pass.getD [])
  let bracketed := hostPort.head? == some '['
  let hostLength := if bracketed then
      (hostPort.takeWhile (· != ']')).length + (if hostPort.contains ']' then 1 else 0)
    else (hostPort.takeWhile (· != ':')).length
  let hostChars := hostPort.take hostLength
  let portPart := hostPort.drop hostLength
  let portChars ← match portPart with
    | ':' :: p => some p
    | [] => some []
    | _ => none
  if !(username.isEmpty && password.isEmpty) && hostChars.isEmpty then none
  let host ← if hostChars.isEmpty then (if special then none else some "") else readHost special hostChars
  let port ← readPort scheme portChars
  if hostChars.isEmpty && !portChars.isEmpty then none
  let (path, query, fragment) := splitTail tail
  let querySetOf := if special then specialQuerySet else querySet
  return { scheme, username, password, host := some host, port,
           path := pathAfterHost special path,
           query := query.map (encode querySetOf), fragment := fragment.map (encode fragmentSet) }

/-- Reads a `file` address: an optional host after `//`, `localhost` meaning none,
    and a path. A drive letter in place of the host starts the path, and a path that
    starts with a drive letter takes the host away. -/
def readFile (rest : List Char) : Option Url :=
  let slash := fun c => c == '/' || c == '\\'
  match rest with
  | a :: b :: more =>
    if slash a && slash b then
      let hostChars := more.takeWhile fun c => !(slash c || c == '?' || c == '#')
      if isDriveLetter hostChars then build "" more
      else
        let tail := more.drop hostChars.length
        let host := if hostChars.isEmpty then some "" else readHost true hostChars
        host.map fun h =>
          let h := if h == "localhost" then "" else h
          match tail with
          | c :: after => if slash c then build h after else build h tail
          | [] => build h []
    else noHost (a :: b :: more)
  | _ => noHost rest
where
  build (host : String) (cs : List Char) : Url :=
    let (path, query, fragment) := splitTail cs
    let read := readSegments true true path
    { scheme := "file", host := some (if read.keepsHost then host else ""),
      path := String.ofList read.path, query := query.map (encode specialQuerySet),
      fragment := fragment.map (encode fragmentSet) }
  noHost (cs : List Char) : Option Url :=
    match cs with
    | c :: after => some (if slash c then build "" after else build "" cs)
    | [] => some (build "" [])
  slash (c : Char) : Bool := c == '/' || c == '\\'

/-- Reads an address of a scheme without hierarchical hosts: an authority after
    `//`, a path that starts with `/`, or an opaque path. -/
def readOther (scheme : String) (rest : List Char) : Option Url :=
  match rest with
  | '/' :: '/' :: more => readAuthority scheme false more
  | _ =>
    let (path, query, fragment) := splitTail rest
    let pathText := match path with
      | '/' :: after => String.ofList (readSegments false false after).path
      | _ => encode controlSet path
    some { scheme, path := pathText, query := query.map (encode querySet),
           fragment := fragment.map (encode fragmentSet) }

/-- Reads an address. Blanks and controls around it are ignored, tabs and line
    breaks inside it are dropped. -/
def parse (text : String) : Option Url := do
  let cs := text.toList
  let cs := ((cs.dropWhile (·.toNat ≤ 0x20)).reverse.dropWhile (·.toNat ≤ 0x20)).reverse
  let cs := cs.filter fun c => c != '\t' && c != '\n' && c != '\r'
  let (scheme, rest) ← readScheme cs
  if scheme == "file" then readFile rest
  else if isSpecial scheme then
    readAuthority scheme true (rest.dropWhile fun c => c == '/' || c == '\\')
  else readOther scheme rest

/-- The text of an address. -/
def text (u : Url) : String :=
  let authority := match u.host with
    | some h =>
      let credentials :=
        if u.username.isEmpty && u.password.isEmpty then ""
        else u.username ++ (if u.password.isEmpty then "" else ":" ++ u.password) ++ "@"
      "//" ++ credentials ++ h ++ (match u.port with | some p => ":" ++ toString p | none => "")
    | none => if u.path.startsWith "//" then "/." else ""
  u.scheme ++ ":" ++ authority ++ u.path ++
    (match u.query with | some q => "?" ++ q | none => "") ++
    (match u.fragment with | some f => "#" ++ f | none => "")

end Url

end ChatWire.Provider
