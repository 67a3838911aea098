import Stencil.Text.Quoted
import Stencil.Text.Decimal

/-!
# `Stencil.Calendar` — dates and times of day

The proleptic Gregorian calendar from year 1 to year 9999.

## Contents
- **`Date`**, **`Zone`** and **`DateTime`**, which may have a zone.
- **`CalendarFault`**, why there is no such date or time, with its message.
- **`Date.make`**, **`Zone.make`** and **`DateTime.make`**, which check what they are given;
  **`DateTime.nextSecond`**.
- **`DateTime.instant`**: date-times with zones are the same if they are the same instant.
- **`toText`** and **`toQuoted`**, the texts by themselves and inside of lists.
-/

namespace Stencil

/-- A day of the calendar. -/
structure Date where
  year : Nat
  month : Nat
  day : Nat
deriving DecidableEq, Repr

/-- A zone. -/
structure Zone where
  /-- How many seconds its clocks are ahead of universal time. -/
  ahead : Int
  /-- How it is written. -/
  name : Text
deriving DecidableEq, Repr

/-- A day with a time of day, maybe that of a zone. -/
structure DateTime where
  date : Date
  hour : Nat
  minute : Nat
  second : Nat
  microsecond : Nat
  zone? : Option Zone
deriving DecidableEq, Repr

/-! ## Faults -/

/-- The number of seconds of a day. -/
def secondsOfDay : Nat := 86400

/-- A length of time, given in seconds, as whole days and the seconds left. -/
def durationText (seconds : Int) : Text :=
  let days := seconds / secondsOfDay
  let rest := seconds % secondsOfDay
  let pieces :=
    (if days = 0 then [] else [Text.of "days=" ++ Text.ofInt days]) ++
      if rest = 0 then [] else [Text.of "seconds=" ++ Text.ofInt rest]
  appliedTo (Text.of "datetime.timedelta") (if pieces = [] then [['0']] else pieces)

/-- Why there is no such date or time. -/
inductive CalendarFault where
  | year (n : Nat)
  | month
  | day
  | hour
  | minute
  | second
  /-- The clocks of a zone are ahead or behind by a day or more. -/
  | zone (ahead : Int)
  /-- The second after the last one of the calendar. -/
  | overflow
deriving DecidableEq, Repr

/-- What is said of a fault. -/
def CalendarFault.message : CalendarFault → Text
  | .year n => Text.of "year " ++ Text.ofNat n ++ Text.of " is out of range"
  | .month => Text.of "month must be in 1..12"
  | .day => Text.of "day is out of range for month"
  | .hour => Text.of "hour must be in 0..23"
  | .minute => Text.of "minute must be in 0..59"
  | .second => Text.of "second must be in 0..59"
  | .zone ahead =>
    Text.of "offset must be a timedelta strictly between -timedelta(hours=24) and " ++
      Text.of "timedelta(hours=24), not " ++ durationText ahead ++ ['.']
  | .overflow => Text.of "date value out of range"

/-! ## Dates -/

namespace Date

/-- Whether a year has a leap day. -/
def isLeap (year : Nat) : Bool :=
  year % 4 = 0 && (year % 100 ≠ 0 || year % 400 = 0)

/-- The number of days of a month. -/
def daysIn (year month : Nat) : Nat :=
  if month = 2 then if isLeap year then 29 else 28
  else if month = 4 ∨ month = 6 ∨ month = 9 ∨ month = 11 then 30
  else 31

/-- The last year of the calendar. -/
def lastYear : Nat := 9999

/-- The day of the given numbers, if there is one. -/
def make (year month day : Nat) : Except CalendarFault Date :=
  if year < 1 ∨ lastYear < year then .error (.year year)
  else if month < 1 ∨ 12 < month then .error .month
  else if day < 1 ∨ daysIn year month < day then .error .day
  else .ok ⟨year, month, day⟩

/-- The day after. -/
def next (d : Date) : Date :=
  if d.day < daysIn d.year d.month then { d with day := d.day + 1 }
  else if d.month < 12 then ⟨d.year, d.month + 1, 1⟩
  else ⟨d.year + 1, 1, 1⟩

/-- The number of days of the years before a year. -/
def daysBefore (year : Nat) : Nat :=
  let whole := year - 1
  365 * whole + whole / 4 - whole / 100 + whole / 400

/-- The number of a day, the first day of the calendar being the first. -/
def dayNumber (d : Date) : Nat :=
  (List.range (d.month - 1)).foldl (fun days month => days + daysIn d.year (month + 1))
    (daysBefore d.year + d.day)

/-- Year, month and day with hyphens between them. -/
def toText (d : Date) : Text :=
  Text.padded 4 d.year ++ ['-'] ++ Text.padded 2 d.month ++ ['-'] ++ Text.padded 2 d.day

/-- The date inside of a list. -/
def toQuoted (d : Date) : Text :=
  appliedTo (Text.of "datetime.date") ([d.year, d.month, d.day].map Text.ofNat)

end Date

/-! ## Zones -/

namespace Zone

/-- The zone of clocks that are ahead by so many seconds, less than a day. -/
def make (ahead : Int) (name : Text) : Except CalendarFault Zone :=
  if secondsOfDay ≤ ahead.natAbs then .error (.zone ahead) else .ok ⟨ahead, name⟩

/-- Hours and minutes with a sign. -/
def toText (zone : Zone) : Text :=
  let minutes := zone.ahead.natAbs / 60
  (if zone.ahead < 0 then '-' else '+') ::
    Text.padded 2 (minutes / 60) ++ [':'] ++ Text.padded 2 (minutes % 60)

/-- The zone inside of a list. -/
def toQuoted (zone : Zone) : Text :=
  appliedTo (Text.of "datetime.timezone") [durationText zone.ahead, zone.name.quoted]

end Zone

/-! ## Date-times -/

namespace DateTime

/-- The given time of a day, if there is such a time. -/
def make (date : Date) (hour minute second microsecond : Nat) (zone? : Option Zone) :
    Except CalendarFault DateTime :=
  if 23 < hour then .error .hour
  else if 59 < minute then .error .minute
  else if 59 < second then .error .second
  else .ok ⟨date, hour, minute, second, microsecond, zone?⟩

/-- The number of seconds since the day began. -/
def ofDay (t : DateTime) : Nat :=
  (t.hour * 60 + t.minute) * 60 + t.second

/-- One second later. -/
def nextSecond (t : DateTime) : Except CalendarFault DateTime :=
  let seconds := (t.ofDay + 1) % secondsOfDay
  let date := if seconds = 0 then t.date.next else t.date
  if Date.lastYear < date.year then .error .overflow
  else .ok { t with
    date, hour := seconds / 3600, minute := seconds / 60 % 60, second := seconds % 60 }

/-- The instant of a time, in microseconds; without a zone, as if it were universal time. -/
def instant (t : DateTime) : Int :=
  let ahead := (t.zone?.map Zone.ahead).getD 0
  ((t.date.dayNumber * secondsOfDay + t.ofDay : Nat) - ahead) * 1000000 + t.microsecond

/-- Whether two times are the same: times with a zone are compared by their instants, and are never the
same as times without one. -/
def same (a b : DateTime) : Bool :=
  a.zone?.isSome == b.zone?.isSome && a.instant == b.instant

/-- Date and time with a space between them, then the zone, if there is one. -/
def toText (t : DateTime) : Text :=
  t.date.toText ++ [' '] ++ Text.padded 2 t.hour ++ [':'] ++ Text.padded 2 t.minute ++ [':'] ++
    Text.padded 2 t.second ++
    (if t.microsecond = 0 then [] else '.' :: Text.padded 6 t.microsecond) ++
    (t.zone?.map Zone.toText).getD []

/-- The time inside of a list; zero seconds are left out. -/
def toQuoted (t : DateTime) : Text :=
  let numbers := [t.date.year, t.date.month, t.date.day, t.hour, t.minute] ++
    if t.microsecond ≠ 0 then [t.second, t.microsecond] else if t.second ≠ 0 then [t.second] else []
  appliedTo (Text.of "datetime.datetime")
    (numbers.map Text.ofNat ++ t.zone?.toList.map fun zone => Text.of "tzinfo=" ++ zone.toQuoted)

end DateTime

end Stencil
