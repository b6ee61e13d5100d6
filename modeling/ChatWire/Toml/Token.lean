namespace ChatWire.Toml

/-- The kinds of tokens. -/
inductive TokenKind where
  | dot
  | equals
  | comma
  | leftBracket
  | rightBracket
  | leftBrace
  | rightBrace
  | whitespace
  | comment
  | newline
  | literalString
  | basicString
  | mlLiteralString
  | mlBasicString
  | atom
  | eof
deriving DecidableEq, Inhabited

/-- A token: its kind, where it starts and ends (byte offsets), and its text. -/
structure Token where
  kind : TokenKind
  start : Nat
  stop : Nat
  text : List Char
deriving Inhabited

namespace Token

/-- The number of UTF-8 bytes of some characters. -/
def byteLength (cs : List Char) : Nat :=
  cs.foldl (fun n c => n + c.utf8Size) 0

/-- Whether a character starts a token of its own, so that it ends an atom. -/
def endsAtom (c : Char) : Bool :=
  c == '.' || c == '=' || c == ',' || c == '[' || c == ']' || c == '{' || c == '}' ||
    c == ' ' || c == '\t' || c == '#' || c == '\r' || c == '\n'

/-- The body of a basic string after its opening quote: up to and including the
    closing quote, or up to a line end or the end of the text. -/
def basicBody : List Char → List Char
  | [] => []
  | '"' :: _ => ['"']
  | '\n' :: _ => []
  | '\\' :: c :: rest =>
    if c == '\\' || c == '"' then '\\' :: c :: basicBody rest else '\\' :: basicBody (c :: rest)
  | c :: rest => c :: basicBody rest

/-- The body of a literal string after its opening quote. -/
def literalBody : List Char → List Char
  | [] => []
  | '\'' :: _ => ['\'']
  | '\n' :: _ => []
  | c :: rest => c :: literalBody rest

/-- Up to `n` more copies of a quote at the front. -/
def extraQuotes (q : Char) (n : Nat) (cs : List Char) : List Char :=
  (cs.take n).takeWhile (· == q)

/-- The body of a multi-line basic string after its opening delimiter: up to and
    including the closing delimiter and up to two more quotes. -/
def mlBasicBody : List Char → List Char
  | [] => []
  | '"' :: '"' :: '"' :: rest => ['"', '"', '"'] ++ extraQuotes '"' 2 rest
  | '\\' :: c :: rest =>
    if c == '\\' || c == '"' then '\\' :: c :: mlBasicBody rest else '\\' :: mlBasicBody (c :: rest)
  | c :: rest => c :: mlBasicBody rest

/-- The body of a multi-line literal string after its opening delimiter. -/
def mlLiteralBody : List Char → List Char
  | [] => []
  | '\'' :: '\'' :: '\'' :: rest => ['\'', '\'', '\''] ++ extraQuotes '\'' 2 rest
  | c :: rest => c :: mlLiteralBody rest

/-- The kind and text of the token at the front of a non-empty text. -/
def front (cs : List Char) : TokenKind × List Char :=
  match cs with
  | '.' :: _ => (.dot, ['.'])
  | '=' :: _ => (.equals, ['='])
  | ',' :: _ => (.comma, [','])
  | '[' :: _ => (.leftBracket, ['['])
  | ']' :: _ => (.rightBracket, [']'])
  | '{' :: _ => (.leftBrace, ['{'])
  | '}' :: _ => (.rightBrace, ['}'])
  | '\r' :: '\n' :: _ => (.newline, ['\r', '\n'])
  | '\r' :: _ => (.newline, ['\r'])
  | '\n' :: _ => (.newline, ['\n'])
  | '#' :: rest => (.comment, '#' :: rest.takeWhile fun c => c != '\r' && c != '\n')
  | '"' :: '"' :: '"' :: rest => (.mlBasicString, ['"', '"', '"'] ++ mlBasicBody rest)
  | '"' :: rest => (.basicString, '"' :: basicBody rest)
  | '\'' :: '\'' :: '\'' :: rest => (.mlLiteralString, ['\'', '\'', '\''] ++ mlLiteralBody rest)
  | '\'' :: rest => (.literalString, '\'' :: literalBody rest)
  | c :: rest =>
    if c == ' ' || c == '\t' then (.whitespace, cs.takeWhile fun c => c == ' ' || c == '\t')
    else (.atom, c :: rest.takeWhile fun c => !endsAtom c)
  | [] => (.eof, [])

/-- Cuts a text into tokens from a byte offset, ending with the end-of-text token. The
    fuel bounds the number of tokens. -/
def scanFrom : Nat → List Char → Nat → List Token
  | 0, _, pos => [⟨.eof, pos, pos, []⟩]
  | _, [], pos => [⟨.eof, pos, pos, []⟩]
  | fuel + 1, cs, pos =>
    let (kind, text) := front cs
    let stop := pos + byteLength text
    ⟨kind, pos, stop, text⟩ :: scanFrom fuel (cs.drop text.length) stop

/-- The tokens of a text, after a byte order mark at its start. -/
def scan (text : String) : List Token :=
  match text.toList with
  | '\uFEFF' :: rest => scanFrom (rest.length + 1) rest 3
  | cs => scanFrom (cs.length + 1) cs 0

end Token

end ChatWire.Toml
