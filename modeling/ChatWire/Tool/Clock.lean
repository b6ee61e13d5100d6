import ChatWire.Text.Blank

namespace ChatWire.Tool

/-- An instant in UTC. -/
structure Instant where
  /-- Whole seconds since 1970-01-01T00:00:00 UTC. -/
  seconds : Int
  /-- Nanoseconds into the second, below `10^9`. -/
  nanos : Nat := 0
deriving DecidableEq, Inhabited

/-- The calendar fields of an instant. -/
structure Civil where
  year : Int
  month : Nat
  day : Nat
  hour : Nat
  minute : Nat
  second : Nat
  nanos : Nat
  /-- Days since Sunday, 0 to 6. -/
  weekdayFromSunday : Nat
  /-- Day of the year, from 1. -/
  ordinal : Nat
deriving Inhabited

/-- Whether a year has 366 days. -/
def isLeapYear (y : Int) : Bool :=
  y % 4 == 0 && (y % 100 != 0 || y % 400 == 0)

/-- The year, month and day of a day counted from 1970-01-01. -/
def civilOfDays (days : Int) : Int × Nat × Nat :=
  let z := days + 719468
  let era := z / 146097
  let doe := z - era * 146097
  let yoe := (doe - doe / 1460 + doe / 36524 - doe / 146096) / 365
  let doy := doe - (365 * yoe + yoe / 4 - yoe / 100)
  let mp := (5 * doy + 2) / 153
  let d := doy - (153 * mp + 2) / 5 + 1
  let m := if mp < 10 then mp + 3 else mp - 9
  let y := yoe + era * 400 + (if m ≤ 2 then 1 else 0)
  (y, m.toNat, d.toNat)

/-- Days before the first of each month in a year that is not a leap year. -/
def daysBeforeMonth : List Nat := [0, 31, 59, 90, 120, 151, 181, 212, 243, 273, 304, 334]

/-- The day of the year of a date, from 1. -/
def ordinalOf (y : Int) (m d : Nat) : Nat :=
  daysBeforeMonth.getD (m - 1) 0 + d + (if m > 2 && isLeapYear y then 1 else 0)

/-- The calendar fields of an instant. -/
def Instant.civil (t : Instant) : Civil :=
  let days := t.seconds / 86400
  let secs := (t.seconds % 86400).toNat
  let (year, month, day) := civilOfDays days
  { year, month, day, hour := secs / 3600, minute := secs / 60 % 60, second := secs % 60,
    nanos := t.nanos % 1000000000, weekdayFromSunday := ((days + 4) % 7).toNat,
    ordinal := ordinalOf year month day }

namespace Civil

/-- Days since Monday, 0 to 6. -/
def weekdayFromMonday (c : Civil) : Nat :=
  (c.weekdayFromSunday + 6) % 7

/-- The number of ISO weeks of a year: 53 when it starts on a Thursday, or on a
    Wednesday in a leap year. -/
def isoWeeksIn (year : Int) (jan1FromMonday : Nat) : Nat :=
  if jan1FromMonday == 3 || (jan1FromMonday == 2 && isLeapYear year) then 53 else 52

/-- The ISO week-numbering year and week. -/
def isoWeek (c : Civil) : Int × Nat :=
  let wd := c.weekdayFromMonday
  let jan1 := (wd + 7 * 53 - (c.ordinal - 1) % 7) % 7
  let week : Int := ((c.ordinal : Int) - (wd + 1 : Nat) + 10) / 7
  if week < 1 then
    let prevDays := if isLeapYear (c.year - 1) then 366 else 365
    let prevJan1 := (jan1 + 7 * 53 - prevDays % 7) % 7
    (c.year - 1, isoWeeksIn (c.year - 1) prevJan1)
  else if week.toNat > isoWeeksIn c.year jan1 then (c.year + 1, 1)
  else (c.year, week.toNat)

/-- The hour on a 12-hour clock. -/
def hour12 (c : Civil) : Nat :=
  if c.hour % 12 == 0 then 12 else c.hour % 12

end Civil

/-- How a numeric field is padded to its width. -/
inductive Pad where
  | none
  | zero
  | space
deriving DecidableEq, Inhabited

/-- A numeric field of a date. -/
inductive Field where
  | year | yearDiv100 | yearMod100 | isoYear | isoYearDiv100 | isoYearMod100 | quarter
  | month | day | weekFromSunday | weekFromMonday | isoWeek | weekdayFromSunday
  | weekdayFromMonday | ordinal | hour | hour12 | minute | second | nanosecond | timestamp
deriving DecidableEq, Inhabited

/-- A written piece of a date that is not a plain number. -/
inductive Piece where
  | shortMonth | longMonth | shortWeekday | longWeekday | lowerAmPm | upperAmPm
  | zoneName | offset | offsetColon | offsetDoubleColon | offsetTripleColon | rfc3339
  /-- The fraction of the second with a dot, as many digits as it needs (0, 3, 6 or 9). -/
  | fraction
  /-- The fraction with a dot and a fixed number of digits. -/
  | fractionDot (digits : Nat)
  /-- The fraction with a fixed number of digits and no dot. -/
  | fractionDigits (digits : Nat)
deriving DecidableEq, Inhabited

/-- One item of a time format. -/
inductive FormatItem where
  | literal (text : String)
  | numeric (field : Field) (pad : Pad)
  | piece (piece : Piece)
  | error
deriving DecidableEq, Inhabited

namespace FormatItem

/-- A zero-padded field. -/
def zero (f : Field) : FormatItem := .numeric f .zero

/-- A space-padded field. -/
def space (f : Field) : FormatItem := .numeric f .space

/-- An unpadded field. -/
def plain (f : Field) : FormatItem := .numeric f .none

end FormatItem

open FormatItem in
/-- The items a specifier letter stands for. -/
def specItems : Char → List FormatItem
  | 'A' => [.piece .longWeekday]
  | 'B' => [.piece .longMonth]
  | 'C' => [zero .yearDiv100]
  | 'D' => [zero .month, .literal "/", zero .day, .literal "/", zero .yearMod100]
  | 'F' => [zero .year, .literal "-", zero .month, .literal "-", zero .day]
  | 'G' => [zero .isoYear]
  | 'H' => [zero .hour]
  | 'I' => [zero .hour12]
  | 'M' => [zero .minute]
  | 'P' => [.piece .lowerAmPm]
  | 'R' => [zero .hour, .literal ":", zero .minute]
  | 'S' => [zero .second]
  | 'T' => [zero .hour, .literal ":", zero .minute, .literal ":", zero .second]
  | 'U' => [zero .weekFromSunday]
  | 'V' => [zero .isoWeek]
  | 'W' => [zero .weekFromMonday]
  | 'X' => [zero .hour, .literal ":", zero .minute, .literal ":", zero .second]
  | 'Y' => [zero .year]
  | 'Z' => [.piece .zoneName]
  | 'a' => [.piece .shortWeekday]
  | 'b' | 'h' => [.piece .shortMonth]
  | 'c' => [.piece .shortWeekday, .literal " ", .piece .shortMonth, .literal " ", space .day,
      .literal " ", zero .hour, .literal ":", zero .minute, .literal ":", zero .second,
      .literal " ", zero .year]
  | 'd' => [zero .day]
  | 'e' => [space .day]
  | 'f' => [zero .nanosecond]
  | 'g' => [zero .isoYearMod100]
  | 'j' => [zero .ordinal]
  | 'k' => [space .hour]
  | 'l' => [space .hour12]
  | 'm' => [zero .month]
  | 'n' => [.literal "\n"]
  | 'p' => [.piece .upperAmPm]
  | 'q' => [plain .quarter]
  | 'r' => [zero .hour12, .literal ":", zero .minute, .literal ":", zero .second, .literal " ",
      .piece .upperAmPm]
  | 's' => [plain .timestamp]
  | 't' => [.literal "\t"]
  | 'u' => [plain .weekdayFromMonday]
  | 'v' => [space .day, .literal "-", .piece .shortMonth, .literal "-", zero .year]
  | 'w' => [plain .weekdayFromSunday]
  | 'x' => [zero .month, .literal "/", zero .day, .literal "/", zero .yearMod100]
  | 'y' => [zero .yearMod100]
  | 'z' => [.piece .offset]
  | '+' => [.piece .rfc3339]
  | '%' => [.literal "%"]
  | _ => [.error]

/-- Applies a padding override: allowed only on a single numeric field. -/
def overridePad (pad : Option Pad) (items : List FormatItem) : List FormatItem :=
  match pad, items with
  | none, _ => items
  | some p, [.numeric f _] => [.numeric f p]
  | some _, _ => [.error]

/-- Reads a specifier after its `%`; returns its items and the characters after it. -/
def readSpec (cs : List Char) : List FormatItem × List Char :=
  -- an optional padding override or alternate form comes first
  let (pad, alternate, cs) := match cs with
    | '-' :: rest => (some Pad.none, false, rest)
    | '0' :: rest => (some Pad.zero, false, rest)
    | '_' :: rest => (some Pad.space, false, rest)
    | '#' :: rest => (none, true, rest)
    | _ => (none, false, cs)
  match cs with
  | [] => ([.error], [])
  | c :: rest =>
    if alternate && c != 'z' then ([.error], rest)
    else if alternate then (overridePad pad [.error], rest)
    else match c with
    | ':' =>
      match rest with
      | ':' :: ':' :: 'z' :: r => (overridePad pad [.piece .offsetTripleColon], r)
      | ':' :: 'z' :: r => (overridePad pad [.piece .offsetDoubleColon], r)
      | 'z' :: r => (overridePad pad [.piece .offsetColon], r)
      | _ => (overridePad pad [.error], rest)
    | '.' =>
      match rest with
      | [] => ([.error], [])
      | '3' :: r | '6' :: r | '9' :: r =>
        let digits := (rest.head?.getD '0').toNat - 48
        match r with
        | [] => ([.error], [])
        | 'f' :: r' => (overridePad pad [.piece (.fractionDot digits)], r')
        | _ :: r' => (overridePad pad [.error], r')
      | 'f' :: r => (overridePad pad [.piece .fraction], r)
      | _ :: r => (overridePad pad [.error], r)
    | '3' | '6' | '9' =>
      match rest with
      | [] => ([.error], [])
      | 'f' :: r => (overridePad pad [.piece (.fractionDigits (c.toNat - 48))], r)
      | _ :: r => (overridePad pad [.error], r)
    | _ => (overridePad pad (specItems c), rest)

/-- Reads a time format into items, with at most `fuel` steps. -/
def parseFormatFrom : Nat → List Char → List FormatItem
  | 0, _ => []
  | _, [] => []
  | fuel + 1, '%' :: rest =>
    let (items, rest) := readSpec rest
    items ++ parseFormatFrom fuel rest
  | fuel + 1, c :: rest =>
    -- a run of blanks, or a run of other characters up to a blank or `%`
    let run := if Text.isBlank c then (c :: rest).takeWhile Text.isBlank
      else c :: rest.takeWhile (fun d => !Text.isBlank d && d != '%')
    .literal (String.ofList run) :: parseFormatFrom fuel ((c :: rest).drop run.length)

/-- The items of a time format. -/
def parseFormat (format : String) : List FormatItem :=
  parseFormatFrom (format.length + 1) format.toList

/-- Whether a time format can be written. -/
def isValidFormat (format : String) : Bool :=
  !(parseFormat format).contains .error

/-- `n` as decimal digits, left-padded with `fill` to `width` characters. -/
def padded (fill : Char) (width : Nat) (n : Nat) : String :=
  let s := toString n
  String.ofList (List.replicate (width - s.length) fill) ++ s

/-- An integer written with a padding and a width. -/
def padInt (pad : Pad) (width : Nat) (v : Int) (forceSign : Bool) : String :=
  let sign := if v < 0 then "-" else if forceSign then "+" else ""
  let digits := toString v.natAbs
  let total := sign.length + digits.length
  match pad with
  | .none => sign ++ digits
  | .zero => sign ++ String.ofList (List.replicate (width - total) '0') ++ digits
  | .space => String.ofList (List.replicate (width - total) ' ') ++ sign ++ digits

/-- The width and value of a numeric field. -/
def fieldValue (t : Instant) (c : Civil) : Field → Nat × Int
  | .year => (4, c.year)
  | .yearDiv100 => (2, c.year / 100)
  | .yearMod100 => (2, c.year % 100)
  | .isoYear => (4, c.isoWeek.1)
  | .isoYearDiv100 => (2, c.isoWeek.1 / 100)
  | .isoYearMod100 => (2, c.isoWeek.1 % 100)
  | .quarter => (1, (c.month - 1) / 3 + 1)
  | .month => (2, c.month)
  | .day => (2, c.day)
  | .weekFromSunday => (2, (c.ordinal + 6 - c.weekdayFromSunday) / 7)
  | .weekFromMonday => (2, (c.ordinal + 6 - c.weekdayFromMonday) / 7)
  | .isoWeek => (2, c.isoWeek.2)
  | .weekdayFromSunday => (1, c.weekdayFromSunday)
  | .weekdayFromMonday => (1, c.weekdayFromMonday + 1)
  | .ordinal => (3, c.ordinal)
  | .hour => (2, c.hour)
  | .hour12 => (2, c.hour12)
  | .minute => (2, c.minute)
  | .second => (2, c.second)
  | .nanosecond => (9, c.nanos)
  | .timestamp => (1, t.seconds)

/-- The month names. -/
def monthNames : List String :=
  ["January", "February", "March", "April", "May", "June", "July", "August", "September",
    "October", "November", "December"]

/-- The weekday names, from Sunday. -/
def weekdayNames : List String :=
  ["Sunday", "Monday", "Tuesday", "Wednesday", "Thursday", "Friday", "Saturday"]

/-- The fraction of a second with a dot and as many digits as it needs. -/
def autoFraction (nanos : Nat) : String :=
  if nanos == 0 then ""
  else if nanos % 1000000 == 0 then "." ++ padded '0' 3 (nanos / 1000000)
  else if nanos % 1000 == 0 then "." ++ padded '0' 6 (nanos / 1000)
  else "." ++ padded '0' 9 nanos

/-- The fraction of a second with a fixed number of digits (3, 6 or 9). -/
def fixedFraction (digits nanos : Nat) : String :=
  padded '0' digits (nanos / Nat.pow 10 (9 - digits))

/-- The RFC 3339 text of an instant in UTC, with as many fraction digits as it needs. -/
def Instant.rfc3339 (t : Instant) : String :=
  let c := t.civil
  padInt .zero 4 c.year (c.year < 0 || c.year > 9999) ++ "-" ++ padded '0' 2 c.month ++ "-" ++
    padded '0' 2 c.day ++ "T" ++ padded '0' 2 c.hour ++ ":" ++ padded '0' 2 c.minute ++ ":" ++
    padded '0' 2 c.second ++ autoFraction c.nanos ++ "+00:00"

/-- The text of a piece. -/
def pieceText (t : Instant) (c : Civil) : Piece → String
  | .shortMonth => ((monthNames.getD (c.month - 1) "").take 3).toString
  | .longMonth => monthNames.getD (c.month - 1) ""
  | .shortWeekday => ((weekdayNames.getD c.weekdayFromSunday "").take 3).toString
  | .longWeekday => weekdayNames.getD c.weekdayFromSunday ""
  | .lowerAmPm => if c.hour < 12 then "am" else "pm"
  | .upperAmPm => if c.hour < 12 then "AM" else "PM"
  | .zoneName => "UTC"
  | .offset => "+0000"
  | .offsetColon => "+00:00"
  | .offsetDoubleColon => "+00:00:00"
  | .offsetTripleColon => "+00"
  | .rfc3339 => t.rfc3339
  | .fraction => autoFraction c.nanos
  | .fractionDot digits => "." ++ fixedFraction digits c.nanos
  | .fractionDigits digits => fixedFraction digits c.nanos

/-- The text of format items for an instant; `none` when an item is an error. -/
def renderItems (t : Instant) : List FormatItem → Option String
  | [] => some ""
  | item :: rest => do
    let c := t.civil
    let head ← match item with
      | .literal s => some s
      | .piece p => some (pieceText t c p)
      | .numeric f pad =>
        let (width, v) := fieldValue t c f
        let signed := (f == .year || f == .isoYear) && (v < 0 || v > 9999)
        some (padInt pad (if signed then width + 1 else width) v signed)
      | .error => none
    let tail ← renderItems t rest
    return head ++ tail

/-- An instant written in a time format; `none` when the format is invalid. -/
def formatTime (t : Instant) (format : String) : Option String :=
  renderItems t (parseFormat format)

end ChatWire.Tool
