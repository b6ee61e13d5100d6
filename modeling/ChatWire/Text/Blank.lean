namespace ChatWire.Text

/-- The Unicode `White_Space` property: the ASCII blanks `\t \n \x0b \x0c \r` and
    space, next line `U+0085`, no-break space, ogham space mark, the spaces
    `U+2000`–`U+200A`, the line and paragraph separators, narrow no-break space,
    medium mathematical space and ideographic space. -/
def isBlank (c : Char) : Bool :=
  let n := c.toNat
  (0x09 ≤ n && n ≤ 0x0D) || n == 0x20 || n == 0x85 || n == 0xA0 || n == 0x1680 ||
    (0x2000 ≤ n && n ≤ 0x200A) || n == 0x2028 || n == 0x2029 || n == 0x202F ||
    n == 0x205F || n == 0x3000

/-- The text without its trailing blanks. -/
def trimEnd (s : String) : String :=
  String.ofList (s.toList.reverse.dropWhile isBlank).reverse

/-- The text without its leading and trailing blanks. -/
def trim (s : String) : String :=
  String.ofList ((s.toList.dropWhile isBlank).reverse.dropWhile isBlank).reverse

/-- Whether the text holds only blanks. -/
def isBlankText (s : String) : Bool :=
  s.toList.all isBlank

/-- Splits characters at blanks, dropping empty pieces; `cur` is the word being read. -/
def wordsOf (cur : List Char) : List Char → List (List Char)
  | [] => if cur.isEmpty then [] else [cur.reverse]
  | c :: rest =>
    if isBlank c then
      if cur.isEmpty then wordsOf [] rest else cur.reverse :: wordsOf [] rest
    else wordsOf (c :: cur) rest

/-- The words of a text: maximal runs of characters that are not blank. -/
def words (s : String) : List String :=
  (wordsOf [] s.toList).map String.ofList

/-- Splits characters after each `\n`, keeping the `\n`; the last piece has none. -/
def splitAfterNewline (cur : List Char) : List Char → List (List Char)
  | [] => if cur.isEmpty then [] else [cur.reverse]
  | c :: rest =>
    if c = '\n' then (c :: cur).reverse :: splitAfterNewline [] rest
    else splitAfterNewline (c :: cur) rest

/-- A line without its ending: a final `\n`, and then a final `\r` before it. -/
def stripLineEnding (line : List Char) : List Char :=
  match line.reverse with
  | '\n' :: '\r' :: body => body.reverse
  | '\n' :: body => body.reverse
  | _ => line

/-- The lines of a text. A line ends at `\n` or `\r\n`; the last line needs no
    ending, and an empty text has no lines. -/
def lines (s : String) : List String :=
  (splitAfterNewline [] s.toList).map (fun l => String.ofList (stripLineEnding l))

end ChatWire.Text
