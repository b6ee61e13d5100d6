import ChatWire.Toml.Document

namespace ChatWire.Toml

/-- How a key or string is quoted. -/
inductive Quoting where
  | basic
  | literal
  | mlBasic
  | mlLiteral
deriving DecidableEq, Inhabited

/-- A key or scalar as written: its text, where it stands (byte offsets) and how it is
    quoted, if it is. -/
structure Piece where
  text : List Char
  start : Nat
  stop : Nat
  quoting : Option Quoting := none
deriving Inhabited

/-- A value as written. -/
inductive ValueSyntax where
  | scalar (piece : Piece)
  | array (items : List ValueSyntax) (start stop : Nat)
  | inlineTable (entries : List (List Piece × ValueSyntax)) (start stop : Nat)
deriving Inhabited

/-- An expression of a document. -/
inductive Expression where
  /-- A table header, `array` for `[[...]]`, with its keys and span. -/
  | header (array : Bool) (keys : List Piece) (start stop : Nat)
  | keyValue (keys : List Piece) (value : ValueSyntax)
deriving Inhabited

/-- The tokens left and where the last token that is not layout ended. -/
structure Reader where
  rest : List Token
  lastEnd : Nat := 0

/-- Reading steps. -/
abbrev SyntaxM := ExceptT TomlError (StateM Reader)

namespace Syntax

/-- Whether a token kind is layout: blanks, comments, line ends or the end. -/
def isLayout : TokenKind → Bool
  | .whitespace | .comment | .newline | .eof => true
  | _ => false

/-- How a string token is quoted; `none` for other tokens. -/
def quotingOf : TokenKind → Option Quoting
  | .basicString => some .basic
  | .literalString => some .literal
  | .mlBasicString => some .mlBasic
  | .mlLiteralString => some .mlLiteral
  | _ => none

/-- Whether a token can be a key: a string or an atom. -/
def isKeyToken (k : TokenKind) : Bool :=
  k == .atom || (quotingOf k).isSome

/-- The piece a key or string token stands for. -/
def pieceOf (t : Token) : Piece :=
  { text := t.text, start := t.start, stop := t.stop, quoting := quotingOf t.kind }

/-- An empty piece at an offset, for a missing key or value. -/
def missing (at_ : Nat) : Piece :=
  { text := [], start := at_, stop := at_ }

/-- Fails with a message at a span. -/
def failAt (message : String) (start stop : Nat) : SyntaxM α :=
  throw { message, span := some ⟨start, stop⟩ }

/-- The next token, left in place. -/
def peek : SyntaxM (Option Token) := do
  return (← get).rest.head?

/-- The token after the next one, left in place. -/
def peekSecond : SyntaxM (Option Token) := do
  return (← get).rest.tail.head?

/-- Takes the next token. -/
def next : SyntaxM (Option Token) := do
  let r ← get
  match r.rest with
  | [] => return none
  | t :: rest =>
    set { rest, lastEnd := if isLayout t.kind then r.lastEnd else t.stop : Reader }
    return some t

/-- Takes the next token if it is of a kind. -/
def nextIf (k : TokenKind) : SyntaxM (Option Token) := do
  match ← peek with
  | some t => if t.kind == k then next else return none
  | none => return none

/-- Skips blanks. -/
def optWhitespace : SyntaxM Unit := do
  discard (nextIf .whitespace)

/-- Checks a line end: a carriage return must be followed by a line feed. -/
def checkNewline (t : Token) : SyntaxM Unit :=
  if t.text == ['\r'] then
    failAt "carriage return must be followed by newline, expected newline" t.stop t.stop
  else return

/-- Whether a character may stand in a comment: tabs, printable ASCII, and every
    character outside ASCII. -/
def isCommentChar (c : Char) : Bool :=
  c == '\t' || (0x20 ≤ c.toNat && c.toNat ≤ 0x7E) || c.toNat ≥ 0x80

/-- The first character of a comment that may not stand there, and its offset. -/
def strayInComment : List Char → Nat → Option (Char × Nat)
  | [], _ => none
  | c :: rest, at_ => if isCommentChar c then strayInComment rest (at_ + c.utf8Size) else some (c, at_)

/-- Reads a comment and the line end after it. -/
def onComment (t : Token) : SyntaxM Unit := do
  if let some (c, at_) := strayInComment (t.text.drop 1) (t.start + 1) then
    failAt "invalid comment character, expected printable characters" at_ (at_ + c.utf8Size)
  match ← next with
  | some n =>
    if n.kind == .newline then checkNewline n
    else if n.kind == .eof then return
    else failAt "unexpected content between comment and newline, expected newline" n.start n.start
  | none => return

/-- Skips the rest of a line. -/
def ignoreToNewline : Nat → SyntaxM Unit
  | 0 => return
  | fuel + 1 => do
    match ← next with
    | some t =>
      if t.kind == .newline then checkNewline t
      else if t.kind == .eof then return
      else ignoreToNewline fuel
    | none => return

/-- Reads the end of an expression: blanks, then a comment, a line end or the end. -/
def expressionEnd : Nat → SyntaxM Unit
  | 0 => return
  | fuel + 1 => do
    match ← next with
    | some t =>
      match t.kind with
      | .whitespace => expressionEnd fuel
      | .comment => onComment t
      | .newline => checkNewline t
      | .eof => return
      | _ => failAt "unexpected key or value, expected newline, `#`" t.start t.start
    | none => return

/-- Reads the keys after a first key: each after a dot, blanks allowed around the
    dots. A key missing after a dot is an empty piece, and then the keys are not
    whole. -/
def dottedKeys : Nat → SyntaxM (List Piece × Bool)
  | 0 => return ([], true)
  | fuel + 1 => do
    optWhitespace
    match ← nextIf .dot with
    | none => return ([], true)
    | some _ => afterDot fuel
where
  /-- The key after a dot. -/
  afterDot : Nat → SyntaxM (List Piece × Bool)
    | 0 => return ([], false)
    | fuel + 1 => do
      match ← peek with
      | none => return ([], false)
      | some t =>
        if t.kind == .whitespace then discard next; afterDot fuel
        else if t.kind == .dot then
          discard next
          let (rest, whole) ← afterDot fuel
          return (missing t.start :: rest, whole)
        else if isKeyToken t.kind then
          discard next
          let (rest, whole) ← dottedKeys fuel
          return (pieceOf t :: rest, whole)
        else return ([missing t.start], false)

/-- Reads the key of a table header. -/
def headerKey : Nat → SyntaxM (List Piece × Bool)
  | 0 => return ([], false)
  | fuel + 1 => do
    match ← peek with
    | none => return ([], false)
    | some t =>
      if t.kind == .whitespace then discard next; headerKey fuel
      else if t.kind == .dot then
        discard next
        let (rest, whole) ← headerKey fuel
        return (missing t.start :: rest, whole)
      else if isKeyToken t.kind then
        discard next
        let (rest, whole) ← dottedKeys fuel
        return (pieceOf t :: rest, whole)
      else return ([missing t.start], false)

/-- Extends a bare scalar with what follows it directly: atoms and dots, and blanks
    that stand before an atom. -/
def mergeAtoms : Nat → Piece → SyntaxM Piece
  | 0, p => return p
  | fuel + 1, p => do
    match ← peek, ← peekSecond with
    | some t, second =>
      if t.kind == .atom || t.kind == .dot then
        discard next
        mergeAtoms fuel { p with text := p.text ++ t.text, stop := t.stop }
      else if t.kind == .whitespace && (second.map (·.kind == .atom)).getD false then
        discard next
        match ← next with
        | some a => mergeAtoms fuel { p with text := p.text ++ t.text ++ a.text, stop := a.stop }
        | none => return p
      else return p
    | none, _ => return p

/-- Reads a scalar from its first token. -/
def scalar (t : Token) (fuel : Nat) : SyntaxM ValueSyntax := do
  if (quotingOf t.kind).isSome then return .scalar (pieceOf t)
  return .scalar (← mergeAtoms fuel (pieceOf t))

/-- How deep arrays and inline tables may nest. -/
def maxDepth : Nat := 80

/-- Fails at the opening of an array or inline table that would nest too deep. -/
def checkDepth (open_ : Token) (depth : Nat) : SyntaxM Unit :=
  if depth ≥ maxDepth then
    failAt "cannot recurse further; max recursion depth met" open_.start open_.stop
  else return

/-- What an inline table waits for. -/
inductive Awaiting where
  | key
  | equals (keys : List Piece)
  | value (keys : List Piece)
  | comma

/-- How errors name what an inline table waits for. -/
def Awaiting.expected : Awaiting → String
  | .key => "key"
  | .equals _ => "`=`"
  | .value _ => "value"
  | .comma => "`,`"

mutual

/-- Reads a value inside `depth` arrays and inline tables. -/
def value (depth : Nat) : Nat → SyntaxM ValueSyntax
  | 0 => return .scalar (missing 0)
  | fuel + 1 => do
    match ← peek with
    | none => return .scalar (missing (← get).lastEnd)
    | some t =>
      match t.kind with
      | .comment | .comma | .newline | .eof | .whitespace => return .scalar (missing t.start)
      | .equals => failAt "extra `=`, expected nothing" t.start t.stop
      | .leftBrace => discard next; inlineTable t depth fuel
      | .rightBrace => failAt "missing inline table opening, expected `\x7b`" t.start t.start
      | .leftBracket => discard next; array t depth fuel
      | .rightBracket => failAt "missing array opening, expected `[`" t.start t.start
      | _ => discard next; scalar t fuel

/-- Reads the items of an array after its opening bracket, inside `depth` arrays and
    inline tables. -/
def array (open_ : Token) (depth : Nat) (fuel : Nat) : SyntaxM ValueSyntax := do
  checkDepth open_ depth
  items fuel true []
where
  /-- Reads items, `needsValue` telling whether a value may come next. -/
  items : Nat → Bool → List ValueSyntax → SyntaxM ValueSyntax
    | 0, _, _ => failAt "unclosed array, expected `]`" open_.stop open_.stop
    | fuel + 1, needsValue, acc => do
      match ← next with
      | none => let e := (← get).lastEnd; failAt "unclosed array, expected `]`" e e
      | some t =>
        match t.kind with
        | .comment => onComment t; items fuel needsValue acc
        | .whitespace => items fuel needsValue acc
        | .newline => checkNewline t; items fuel needsValue acc
        | .eof => let e := (← get).lastEnd; failAt "unclosed array, expected `]`" e e
        | .comma =>
          if needsValue then failAt "extra comma in array, expected value" t.start t.stop
          else items fuel true acc
        | .equals => failAt "unexpected `=` in array, expected value, `]`" t.start t.stop
        | .rightBracket => return .array acc.reverse open_.start t.stop
        | .rightBrace => failAt "missing inline table opening, expected `\x7b`" t.start t.start
        | .leftBrace =>
          if !needsValue then failAt "missing comma between array elements, expected `,`" t.start t.start
          let v ← inlineTable t (depth + 1) fuel
          items fuel false (v :: acc)
        | .leftBracket =>
          if !needsValue then failAt "missing comma between array elements, expected `,`" t.start t.start
          let v ← array t (depth + 1) fuel
          items fuel false (v :: acc)
        | _ =>
          if !needsValue then failAt "missing comma between array elements, expected `,`" t.start t.start
          let v ← scalar t fuel
          items fuel false (v :: acc)

/-- Reads the entries of an inline table after its opening brace, inside `depth`
    arrays and inline tables. -/
def inlineTable (open_ : Token) (depth : Nat) (fuel : Nat) : SyntaxM ValueSyntax := do
  checkDepth open_ depth
  entries fuel .key []
where
  /-- Reads entries, knowing what comes next. -/
  entries : Nat → Awaiting → List (List Piece × ValueSyntax) → SyntaxM ValueSyntax
    | 0, _, _ => failAt "unclosed inline table, expected `\x7d`" open_.stop open_.stop
    | fuel + 1, state, acc => do
      match ← next with
      | none => let e := (← get).lastEnd; failAt "unclosed inline table, expected `\x7d`" e e
      | some t =>
        let unexpected (what : String) : SyntaxM ValueSyntax :=
          failAt (what ++ ", expected " ++ state.expected) t.start t.start
        match t.kind with
        | .comment => onComment t; entries fuel state acc
        | .newline => checkNewline t; entries fuel state acc
        | .whitespace => entries fuel state acc
        | .eof => let e := (← get).lastEnd; failAt "unclosed inline table, expected `\x7d`" e e
        | .comma =>
          match state with
          | .comma => entries fuel .key acc
          | _ => unexpected "extra comma in inline table"
        | .equals =>
          match state with
          | .key => entries fuel (.value [missing t.start]) acc
          | .equals keys => entries fuel (.value keys) acc
          | _ => unexpected "extra assignment between key-value pairs"
        | .rightBrace =>
          match state with
          | .equals _ => unexpected "missing assignment between key-value pairs"
          | .value keys =>
            let absent := { missing t.start with quoting := some .literal }
            return .inlineTable (acc ++ [(keys, .scalar absent)]) open_.start t.stop
          | _ => return .inlineTable acc open_.start t.stop
        | .leftBrace =>
          match state with
          | .value keys =>
            let v ← inlineTable t (depth + 1) fuel
            entries fuel .comma (acc ++ [(keys, v)])
          | .equals _ => unexpected "missing assignment between key-value pairs"
          | _ => unexpected "missing key for inline table element"
        | .leftBracket =>
          match state with
          | .value keys =>
            let v ← array t (depth + 1) fuel
            entries fuel .comma (acc ++ [(keys, v)])
          | .equals _ => unexpected "missing assignment between key-value pairs"
          | _ => unexpected "missing key for inline table element"
        | .rightBracket => unexpected "invalid inline table element"
        | kind =>
          match state with
          | .key =>
            if kind == .dot then
              let (more, _) ← dottedKeys.afterDot fuel
              entries fuel (.equals (missing t.start :: more)) acc
            else
              let (more, _) ← dottedKeys fuel
              entries fuel (.equals (pieceOf t :: more)) acc
          | .value keys =>
            let v ← scalar t fuel
            entries fuel .comma (acc ++ [(keys, v)])
          | .equals _ => unexpected "missing assignment between key-value pairs"
          | .comma => unexpected "missing comma between key-value pairs"

end

/-- Reads the rest of a key/value pair after its keys. -/
def keyValueAfterKeys (keys : List Piece) (fuel : Nat) : SyntaxM (Option Expression) := do
  optWhitespace
  match ← peek with
  | some t =>
    if t.kind == .equals then
      discard next
      optWhitespace
      let v ← value 0 fuel
      expressionEnd fuel
      return some (.keyValue keys v)
    else failAt "missing value for key, expected `=`" t.start t.start
  | none => return none

/-- Reads a table header after its opening bracket. -/
def header (open_ : Token) (fuel : Nat) : SyntaxM (Option Expression) := do
  let isArray := (← nextIf .leftBracket).isSome
  optWhitespace
  let (keys, whole) ← headerKey fuel
  optWhitespace
  match ← nextIf .rightBracket with
  | some close =>
    if isArray then
      match ← nextIf .rightBracket with
      | some close2 =>
        expressionEnd fuel
        return some (.header true keys open_.start close2.stop)
      | none => failAt "unclosed array table, expected `]`" close.stop close.stop
    else
      expressionEnd fuel
      return some (.header false keys open_.start close.stop)
  | none =>
    if whole then
      let e := (← get).lastEnd
      if isArray then failAt "unclosed array table, expected `]]`" e e
      else failAt "unclosed table, expected `]`" e e
    else
      ignoreToNewline fuel
      return some (.header isArray keys open_.start (← get).lastEnd)

/-- Reads the expressions of a document. -/
def expressions : Nat → SyntaxM (List Expression)
  | 0 => return []
  | fuel + 1 => do
    match ← next with
    | none => return []
    | some t =>
      let more (e : Option Expression) : SyntaxM (List Expression) := do
        let rest ← expressions fuel
        return e.toList ++ rest
      match t.kind with
      | .eof => return []
      | .whitespace => expressions fuel
      | .newline => checkNewline t; expressions fuel
      | .comment => onComment t; expressions fuel
      | .leftBracket => more (← header t fuel)
      | .rightBracket => failAt "missing table open, expected `[`" t.start t.start
      | .equals =>
        optWhitespace
        let v ← value 0 fuel
        expressionEnd fuel
        more (some (.keyValue [missing t.start] v))
      | .dot =>
        let (keys, _) ← dottedKeys.afterDot fuel
        more (← keyValueAfterKeys (missing t.start :: keys) fuel)
      | .comma | .leftBrace | .rightBrace =>
        failAt "invalid key-value pair, expected key" t.start t.start
      | _ =>
        let (keys, _) ← dottedKeys fuel
        more (← keyValueAfterKeys (pieceOf t :: keys) fuel)

end Syntax

/-- The expressions of a TOML text, or the first error of arrangement. -/
def Expression.parseAll (text : String) : Except TomlError (List Expression) :=
  let tokens := Token.scan text
  (((Syntax.expressions (tokens.length + 1)).run).run { rest := tokens }).1

end ChatWire.Toml
