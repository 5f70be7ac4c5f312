/-
Points in time with the offset they were given in, and their RFC 3339 text. The reader accepts any
octet between date and time and keeps nine places of a fraction; a leap second is read as the last
nanosecond before it, and only where one can be inserted.
-/
import TenantSearch.Text.Octets
import TenantSearch.Time.Calendar

namespace TenantSearch

/-- A date and a time of day at an offset from UTC, in seconds. -/
structure Timestamp where
  date : Calendar.Day
  hour : Nat
  minute : Nat
  second : Nat
  nano : Nat
  offset : Int
deriving DecidableEq

namespace Timestamp

/-! ## Faults -/

inductive Part where
  | year
  | month
  | day
  | separator
  | hour
  | minute
  | second
  | subsecond
  | offsetHour
  | offsetMinute
deriving DecidableEq

def Part.name : Part → String
  | .year => "year"
  | .month => "month"
  | .day => "day"
  | .separator => "separator"
  | .hour => "hour"
  | .minute => "minute"
  | .second => "second"
  | .subsecond => "subsecond"
  | .offsetHour => "offset hour"
  | .offsetMinute => "offset minute"

/-- Why a text is no timestamp. -/
inductive ReadError where
  | unreadable (part : Part)
  | badLiteral
  | trailingText
  | outOfRange (part : Part)
deriving DecidableEq

def ReadError.message : ReadError → String
  | .unreadable part => "the '" ++ part.name ++ "' component could not be parsed"
  | .badLiteral => "a character literal was not valid"
  | .trailingText => "unexpected trailing characters; the end of input was expected"
  | .outOfRange part => part.name ++ " was not in range"

/-- Why a timestamp has no RFC 3339 text. -/
inductive WriteError where
  | year
  | offsetHour
  | offsetSecond
deriving DecidableEq

def WriteError.message : WriteError → String
  | .year => "The year component cannot be formatted into the requested format."
  | .offsetHour => "The offset_hour component cannot be formatted into the requested format."
  | .offsetSecond => "The offset_second component cannot be formatted into the requested format."

/-! ## Reading -/

/-- Exactly `n` digits. -/
def readDigits (part : Part) : Nat → Nat → Octets → Except ReadError (Nat × Octets)
  | 0, acc, s => .ok (acc, s)
  | _ + 1, _, [] => .error (.unreadable part)
  | n + 1, acc, b :: s =>
    if Octets.isDigit b then readDigits part n (acc * 10 + Octets.digit b) s
    else .error (.unreadable part)

/-- A month, of which none has the number zero. -/
def readMonth (s : Octets) : Except ReadError (Nat × Octets) := do
  let (month, s) ← readDigits .month 2 0 s
  if month = 0 then .error (.unreadable .month) else .ok (month, s)

def readLiteral (literal : UInt8) : Octets → Except ReadError Octets
  | b :: s => if b = literal then .ok s else .error .badLiteral
  | [] => .error .badLiteral

/-- The first nine digits of a fraction as nanoseconds. -/
def nanos (digits : Octets) : Nat :=
  let kept := digits.take 9
  kept.foldl (fun acc b => acc * 10 + Octets.digit b) 0 * Nat.pow 10 (9 - kept.length)

/-- An optional fraction of a second. -/
def readFraction : Octets → Except ReadError (Nat × Octets)
  | 46 :: s =>
    match s.takeWhile Octets.isDigit with
    | [] => .error (.unreadable .subsecond)
    | digits => .ok (nanos digits, s.dropWhile Octets.isDigit)
  | s => .ok (0, s)

/-- The letter of UTC, or a sign with hours and minutes. -/
def readOffset : Octets → Except ReadError (Int × Octets)
  | [] => .error (.unreadable .offsetHour)
  | b :: s =>
    if b = 90 ∨ b = 122 then .ok (0, s)
    else if b = 43 ∨ b = 45 then do
      let (hours, s) ← readDigits .offsetHour 2 0 s
      if 23 < hours then .error (.unreadable .offsetHour)
      else do
        let s ← readLiteral 58 s
        let (minutes, s) ← readDigits .offsetMinute 2 0 s
        if 59 < minutes then .error (.outOfRange .offsetMinute)
        else
          let seconds : Int := hours * 3600 + minutes * 60
          .ok (if b = 45 then -seconds else seconds, s)
    else .error (.unreadable .offsetHour)

/-- The minute in UTC: the day's number, and the minutes since its start. -/
def utcMinute (t : Timestamp) : Int × Int :=
  let minutes : Int := t.hour * 60 + t.minute - t.offset / 60
  (t.date.number + minutes / 1440, minutes % 1440)

/-- Whether a leap second may follow: the last second of a month in UTC. -/
def endsMonth (t : Timestamp) : Bool :=
  let (number, minute) := t.utcMinute
  let day := Calendar.Day.ofNumber number
  minute = 1439 && day.year ≤ 9999 && day.day = Calendar.daysInMonth day.year day.month

/-- Checks the ranges of what was read, and stands for a leap second by the nanosecond before. -/
def check (t : Timestamp) : Except ReadError Timestamp :=
  if 12 < t.date.month then .error (.outOfRange .month)
  else if t.date.day = 0 ∨ Calendar.daysInMonth t.date.year t.date.month < t.date.day then
    .error (.outOfRange .day)
  else if 23 < t.hour then .error (.outOfRange .hour)
  else if 59 < t.minute then .error (.outOfRange .minute)
  else if 60 < t.second then .error (.outOfRange .second)
  else if t.second = 60 then
    let stand := { t with second := 59, nano := 999999999 }
    if stand.endsMonth then .ok stand else .error (.outOfRange .second)
  else .ok t

/-- The timestamp that a text denotes. -/
def ofOctets (s : Octets) : Except ReadError Timestamp := do
  let (year, s) ← readDigits .year 4 0 s
  let s ← readLiteral 45 s
  let (month, s) ← readMonth s
  let s ← readLiteral 45 s
  let (day, s) ← readDigits .day 2 0 s
  let s ← match s with
    | [] => .error (.unreadable .separator)
    | _ :: s => .ok s
  let (hour, s) ← readDigits .hour 2 0 s
  let s ← readLiteral 58 s
  let (minute, s) ← readDigits .minute 2 0 s
  let s ← readLiteral 58 s
  let (second, s) ← readDigits .second 2 0 s
  let (nano, s) ← readFraction s
  let (offset, s) ← readOffset s
  if s ≠ [] then .error .trailingText
  else check ⟨⟨year, month, day⟩, hour, minute, second, nano, offset⟩

def ofText (s : String) : Except ReadError Timestamp := ofOctets (Octets.ofString s)

/-- The timestamp of a number of seconds since the start of 1970, at an offset. -/
def ofUnix (seconds offset : Int) : Timestamp :=
  let here := seconds + offset
  let time := (here % 86400).toNat
  ⟨Calendar.Day.ofNumber (here / 86400), time / 3600, time / 60 % 60, time % 60, 0, offset⟩

/-! ## Text -/

/-- At least `width` digits, filled up with zeros. -/
def padded (width n : Nat) : String :=
  let digits := (toString n).toList
  String.ofList (List.replicate (width - digits.length) '0' ++ digits)

/-- The fraction of a second, without zeros at its end. -/
def fractionText (nano : Nat) : String :=
  if nano = 0 then ""
  else
    let digits := (padded 9 nano).toList
    "." ++ String.ofList (digits.reverse.dropWhile (· == '0')).reverse

def offsetText (offset : Int) : String :=
  if offset = 0 then "Z"
  else
    let minutes := offset.natAbs / 60
    (if offset < 0 then "-" else "+") ++ padded 2 (minutes / 60) ++ ":" ++ padded 2 (minutes % 60)

/-- The RFC 3339 text, which has four digits for the year and no seconds in an offset. -/
def text (t : Timestamp) : Except WriteError String :=
  if t.date.year < 0 ∨ 9999 < t.date.year then .error .year
  else if 23 < t.offset.natAbs / 3600 then .error .offsetHour
  else if t.offset.natAbs % 60 ≠ 0 then .error .offsetSecond
  else .ok (padded 4 t.date.year.toNat ++ "-" ++ padded 2 t.date.month ++ "-" ++
    padded 2 t.date.day ++ "T" ++ padded 2 t.hour ++ ":" ++ padded 2 t.minute ++ ":" ++
    padded 2 t.second ++ fractionText t.nano ++ offsetText t.offset)

end Timestamp

end TenantSearch
