import ChatWire.Text.Blank

namespace ChatWire.Provider

/-- Splits a text into lines at `\n`, `\r\n` and `\r`; the text after the last line
    end is returned separately. -/
def sseLines (cs : List Char) (current : List Char) (acc : List String) : List String × String :=
  match cs with
  | [] => (acc.reverse, String.ofList current.reverse)
  | '\r' :: '\n' :: rest | '\r' :: rest | '\n' :: rest =>
    sseLines rest [] (String.ofList current.reverse :: acc)
  | c :: rest => sseLines rest (c :: current) acc

/-- The field name and value of a line. -/
def sseField (line : String) : String × String :=
  match line.splitOn ":" with
  | [name] => (name, "")
  | name :: rest =>
    let value := ":".intercalate rest
    (name, if value.startsWith " " then (value.drop 1).toString else value)
  | [] => ("", "")

/-- The data of each complete event, from the lines of a stream. -/
def sseData (lines : List String) (data : Option String) : List String :=
  match lines with
  | [] => []
  | line :: rest =>
    if line.isEmpty then (data.getD "") :: sseData rest none
    else if line.startsWith ":" then sseData rest data
    else
      let (name, value) := sseField line
      if name == "data" then
        sseData rest (some (match data with
          | some d => d ++ "\n" ++ value
          | none => value))
      else sseData rest data

/-- The data of the complete events of a stream's text. -/
def sseEvents (text : String) : List String :=
  sseData (sseLines text.toList [] []).1 none

end ChatWire.Provider
