/-!
# Calendar values

Dates and points in time, as a configuration file can hold them.

Each has two texts. The plain one is the international form, most significant part first; the second names the
parts one by one and is the form in which a value appears inside a list. A point in time may carry its offset
from universal time, which is less than a day either way.

## Main definitions

* `Date`, `Moment`: A day, and a point in time.
* `Date.isValid`, `Moment.isValid`: Whether they exist in the calendar.
* `Moment.isSame`: Whether two points in time are the same.
* `Date.text`, `Moment.text`: The international form.
* `Date.parts`, `Moment.parts`: The form part by part.
-/

namespace CodeBehind

/-- A day of the calendar. -/
structure Date where
  year : Nat
  month : Nat
  day : Nat
  deriving DecidableEq, Repr

/-- A point in time, with its offset from universal time in seconds if it has one. -/
structure Moment where
  date : Date
  hour : Nat
  minute : Nat
  second : Nat
  microsecond : Nat
  offset : Option Int
  deriving DecidableEq, Repr

namespace Calendar

/-- A number with at least `width` digits. -/
def padded (width n : Nat) : String :=
  let digits := Nat.toDigits 10 n
  String.ofList (List.replicate (width - digits.length) '0' ++ digits)

/-- Whether a year has a day more. -/
def isLeap (year : Nat) : Bool :=
  year % 4 = 0 && (year % 100 ≠ 0 || year % 400 = 0)

/-- The number of days in a month. -/
def daysIn (year month : Nat) : Nat :=
  if month = 2 then (if isLeap year then 29 else 28)
  else if month = 4 || month = 6 || month = 9 || month = 11 then 30
  else 31

/-- The seconds of a day. -/
def daySeconds : Int := 86400

/-- An offset from universal time, with its seconds only if there are any. -/
def offsetText (offset : Int) : String :=
  let n := offset.natAbs
  let seconds := if n % 60 = 0 then "" else ":" ++ padded 2 (n % 60)
  (if offset < 0 then "-" else "+") ++ padded 2 (n / 3600) ++ ":" ++ padded 2 (n / 60 % 60) ++ seconds

/-- An offset from universal time part by part; a negative one counts from the day before. -/
def offsetParts (offset : Int) : String :=
  if offset = 0 then "datetime.timezone.utc"
  else
    let seconds := toString (offset % daySeconds)
    let days := if offset < 0 then "days=-1, " else ""
    "datetime.timezone(datetime.timedelta(" ++ days ++ "seconds=" ++ seconds ++ "))"

end Calendar

namespace Date

/-- Whether a day exists. -/
def isValid (d : Date) : Bool :=
  1 ≤ d.year && d.year ≤ 9999 && 1 ≤ d.month && d.month ≤ 12 && 1 ≤ d.day &&
    d.day ≤ Calendar.daysIn d.year d.month

/-- A day in the international form. -/
def text (d : Date) : String :=
  Calendar.padded 4 d.year ++ "-" ++ Calendar.padded 2 d.month ++ "-" ++ Calendar.padded 2 d.day

/-- The number of a day, counted from the first one of all. -/
def number (d : Date) : Nat :=
  let years := d.year - 1
  let months := (List.range d.month).drop 1
  months.foldl (fun days month => days + Calendar.daysIn d.year month)
    (365 * years + years / 4 - years / 100 + years / 400 + d.day)

/-- A day part by part. -/
def parts (d : Date) : String :=
  "datetime.date(" ++ ", ".intercalate (([d.year, d.month, d.day] : List Nat).map toString) ++ ")"

end Date

namespace Moment

/-- Whether a point in time exists. -/
def isValid (m : Moment) : Bool :=
  let offsetFits := match m.offset with
    | none => true
    | some offset => -Calendar.daySeconds < offset && offset < Calendar.daySeconds
  m.date.isValid && m.hour < 24 && m.minute < 60 && m.second < 60 && offsetFits

/-- The seconds from the beginning of the first day to a point in time, as its own clock counts them. -/
def clock (m : Moment) : Int :=
  86400 * m.date.number + 3600 * m.hour + 60 * m.minute + m.second

/-- Whether two points in time are the same: those with an offset are compared by universal time, and they are
    never the same as one without. -/
def isSame (a b : Moment) : Bool :=
  a.microsecond == b.microsecond && match a.offset, b.offset with
    | none, none => a.clock == b.clock
    | some offset, some other => a.clock - offset == b.clock - other
    | _, _ => false

/-- A point in time in the international form, with a fraction only if there is one. -/
def text (m : Moment) : String :=
  let fraction := if m.microsecond = 0 then "" else "." ++ Calendar.padded 6 m.microsecond
  let offset := match m.offset with
    | none => ""
    | some offset => Calendar.offsetText offset
  m.date.text ++ " " ++ Calendar.padded 2 m.hour ++ ":" ++ Calendar.padded 2 m.minute ++ ":" ++
    Calendar.padded 2 m.second ++ fraction ++ offset

/-- A point in time part by part; the seconds are left out if they and the fraction are zero. -/
def parts (m : Moment) : String :=
  let day : List Nat := [m.date.year, m.date.month, m.date.day, m.hour, m.minute]
  let rest : List Nat :=
    if m.microsecond ≠ 0 then [m.second, m.microsecond] else if m.second ≠ 0 then [m.second] else []
  let offset := match m.offset with
    | none => ""
    | some offset => ", tzinfo=" ++ Calendar.offsetParts offset
  "datetime.datetime(" ++ ", ".intercalate ((day ++ rest).map toString) ++ offset ++ ")"

end Moment

end CodeBehind
