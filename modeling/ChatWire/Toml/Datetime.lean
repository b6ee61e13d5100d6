namespace ChatWire.Toml

/-- The parts of a date or time text. -/
inductive DatetimePart where
  | digits (cs : List Char)
  | dash
  | colon
  | dot
  | timeMark
  | space
  | zulu
  | plus
  | other
deriving DecidableEq, Inhabited

/-- Why a text is not a date or time: what was being read, and what was expected. -/
structure DatetimeError where
  what : String
  expected : Option String := none
deriving DecidableEq, Inhabited

namespace DatetimeError

/-- The message of an error. -/
def message (e : DatetimeError) : String :=
  match e.expected with
  | none => "invalid " ++ e.what
  | some x => "invalid " ++ e.what ++ ", expected " ++ x

end DatetimeError

namespace Datetime

/-- The part a character other than a digit stands for. -/
def partOf (c : Char) : DatetimePart :=
  if c == '-' then .dash else if c == ':' then .colon else if c == '.' then .dot
  else if c == 'T' || c == 't' then .timeMark else if c == ' ' then .space
  else if c == 'Z' || c == 'z' then .zulu else if c == '+' then .plus else .other

/-- Cuts a text into parts: runs of digits, and single other characters. -/
def parts (cs : List Char) : List DatetimePart :=
  cs.foldr (fun c acc =>
    if c.isDigit then
      match acc with
      | .digits ds :: rest => .digits (c :: ds) :: rest
      | _ => .digits [c] :: acc
    else partOf c :: acc) []

/-- The value of a run of digits. -/
def value (cs : List Char) : Nat :=
  cs.foldl (fun n c => n * 10 + (c.toNat - '0'.toNat)) 0

/-- Steps of checking. -/
abbrev CheckM := ExceptT DatetimeError (StateM (List DatetimePart))

/-- Fails with what was being read and what was expected. -/
def failWith (what : String) (expected : Option String) : CheckM α :=
  throw { what, expected }

/-- The next part, left in place. -/
def peek : CheckM (Option DatetimePart) := do
  return (← get).head?

/-- Takes the next part. -/
def take : CheckM (Option DatetimePart) := do
  let ps ← get
  set ps.tail
  return ps.head?

/-- Takes a run of digits, failing with what and expected otherwise. -/
def digitsOr (what : String) (expected : String) : CheckM (List Char) := do
  match ← take with
  | some (.digits cs) => return cs
  | _ => failWith what (some expected)

/-- Takes a part of a kind, failing with what and expected otherwise. -/
def expect (p : DatetimePart) (what : String) (expected : String) : CheckM Unit := do
  if (← take) != some p then failWith what (some expected)

/-- Whether a year is a leap year. -/
def isLeapYear (year : Nat) : Bool :=
  year % 4 == 0 && (year % 100 != 0 || year % 400 == 0)

/-- Checks the month and day of a date after its year and dash. -/
def date (year : List Char) : CheckM Unit := do
  let what := "date"
  let month ← digitsOr what "month"
  expect .dash what "`-` (MM-DD)"
  let day ← digitsOr what "day"
  if year.length != 4 then failWith what (some "a four-digit year (YYYY)")
  if month.length != 2 then failWith what (some "a two-digit month (MM)")
  if day.length != 2 then failWith what (some "a two-digit day (DD)")
  let m := value month
  let d := value day
  if m < 1 || m > 12 then failWith what (some "month between 01 and 12")
  let (most, expected) :=
    if m == 2 then
      if isLeapYear (value year) then (29, "day between 01 and 29") else (28, "day between 01 and 28")
    else if m == 4 || m == 6 || m == 9 || m == 11 then (30, "day between 01 and 30")
    else (31, "day between 01 and 31")
  if d < 1 || d > most then failWith what (some expected)

/-- Checks a time: hour, minute, and optionally second and fraction. -/
def time : CheckM Unit := do
  let what := "time"
  let hour ← digitsOr what "hour"
  expect .colon what "`:` (HH:MM)"
  let minute ← digitsOr what "minute"
  let second ←
    if (← peek) == some .colon then
      discard take
      pure (some (← digitsOr what "second"))
    else pure none
  if second.isSome && (← peek) == some .dot then
    discard take
    discard (digitsOr what "nanosecond")
  if hour.length != 2 then failWith what (some "a two-digit hour (HH)")
  if minute.length != 2 then failWith what (some "a two-digit minute (MM)")
  if let some s := second then
    if s.length != 2 then failWith what (some "a two-digit second (SS)")
  if value hour > 23 then failWith what (some "hour between 00 and 23")
  if value minute > 59 then failWith what (some "minute between 00 and 59")
  if (second.map value).getD 0 > 60 then failWith what (some "second between 00 and 60")

/-- Checks an offset, if one follows. -/
def offset : CheckM Unit := do
  let what := "offset"
  match ← peek with
  | none => return
  | some .zulu => discard take
  | some .plus | some .dash =>
    discard take
    let hours ← digitsOr what "hour"
    expect .colon what "`:` (HH:MM)"
    let minutes ← digitsOr what "minute"
    if hours.length != 2 then failWith what (some "a two-digit hour (HH)")
    if minutes.length != 2 then failWith what (some "a two-digit minute (MM)")
    if value hours > 23 then failWith what (some "hours between 00 and 23")
    if value minutes > 59 then failWith what (some "minutes between 00 and 59")
  | some _ => failWith what (some "`Z`, +OFFSET, -OFFSET")

/-- Checks a whole date or time text. -/
def whole : CheckM Unit := do
  let start ← get
  let first ← digitsOr "datetime" "year or hour"
  match ← take with
  | some .dash =>
    date first
    match ← take with
    | none => return
    | some .timeMark | some .space =>
      time
      offset
    | some _ => failWith "date-time" (some "`T` between date and time")
  | some .colon =>
    set start
    time
  | _ => failWith "datetime" (some "`-` (YYYY-MM) or `:` (HH:MM)")
  if !(← get).isEmpty then failWith "datetime" none

end Datetime

/-- Checks a date or time text. -/
def checkDatetime (text : List Char) : Except DatetimeError Unit :=
  (Datetime.whole.run.run (Datetime.parts text)).1

end ChatWire.Toml
