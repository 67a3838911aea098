import Stencil.Number.Literal
import Stencil.Value

/-!
# `Stencil.Yaml.Timestamp` — dates and times in documents

## Contents
- **`Timestamp`** and **`readTimestamp?`**, dates and times as they are written.
- **`Timestamp.value`**, the date or the date-time, or why there is none.
-/

namespace Stencil.Yaml

/-! ## Reading -/

/-- A time of day as it is written. -/
structure Timestamp.Time where
  hour : Nat
  minute : Nat
  second : Nat
  /-- The digits after the point. -/
  fraction : Text
  /-- How many seconds the zone is ahead of universal time, and how it is written, if there is one. -/
  zone : Option (Int × Text)
deriving DecidableEq, Repr

/-- A date, maybe with a time, as it is written. -/
structure Timestamp where
  year : Nat
  month : Nat
  day : Nat
  time : Option Timestamp.Time
deriving DecidableEq, Repr

/-- A number of at least and at most so many digits. -/
def digitsBetween? (least most : Nat) (s : Text) : Option (Nat × Text) :=
  let digits := (s.take most).takeWhile isDecimalDigit
  if digits.length < least then none
  else (readDigits? 10 digits).map fun n => (n, s.drop digits.length)

/-- What follows a character. -/
def after? (c : Char) : Text → Option Text
  | x :: rest => if x = c then some rest else none
  | [] => none

/-- Whether a character is a space or a tab. -/
def isSpaceOrTab (c : Char) : Bool :=
  c = ' ' || c = '\t'

/-- How many seconds a zone is ahead of universal time: none for a letter, or hours and maybe minutes with
a sign. -/
def zoneAhead? : Text → Option Int
  | ['Z'] => some 0
  | sign :: rest =>
    if sign = '-' ∨ sign = '+' then do
      let (hours, rest) ← digitsBetween? 1 2 rest
      let minutes ←
        if rest = [] then some 0
        else
          match ← digitsBetween? 2 2 (← after? ':' rest) with
          | (minutes, []) => some minutes
          | _ => none
      let seconds : Int := (hours * 60 + minutes : Nat) * 60
      return if sign = '-' then -seconds else seconds
    else none
  | [] => none

/-- The zone at the end of a time, if there is one. -/
def readZone? (s : Text) : Option (Option (Int × Text)) :=
  if s = [] then some none
  else
    let name := s.dropWhile isSpaceOrTab
    (zoneAhead? name).map fun ahead => some (ahead, name)

/-- What follows the mark between a date and a time: a letter, or white space. -/
def afterDate? : Text → Option Text
  | 'T' :: rest => some rest
  | 't' :: rest => some rest
  | c :: rest => if isSpaceOrTab c then some (rest.dropWhile isSpaceOrTab) else none
  | [] => none

/-- The time after a date. -/
def readTime? (s : Text) : Option Timestamp.Time := do
  let (hour, s) ← digitsBetween? 1 2 (← afterDate? s)
  let (minute, s) ← digitsBetween? 2 2 (← after? ':' s)
  let (second, s) ← digitsBetween? 2 2 (← after? ':' s)
  let (fraction, s) :=
    match s with
    | '.' :: rest => (rest.takeWhile isDecimalDigit, rest.dropWhile isDecimalDigit)
    | _ => ([], s)
  let zone ← readZone? s
  return ⟨hour, minute, second, fraction, zone⟩

/-- A text without the line break at its end, if one is there. -/
def withoutFinalBreak (s : Text) : Text :=
  if s.getLast? = some '\n' then s.dropLast else s

/-- A date, maybe with a time; a line break at the end does not count. -/
def readTimestamp? (s : Text) : Option Timestamp := do
  let (year, s) ← digitsBetween? 4 4 (withoutFinalBreak s)
  let (month, s) ← digitsBetween? 1 2 (← after? '-' s)
  let (day, s) ← digitsBetween? 1 2 (← after? '-' s)
  if s = [] then return ⟨year, month, day, none⟩
  else
    let time ← readTime? s
    return ⟨year, month, day, some time⟩

/-! ## Values -/

/-- The microseconds of a fraction, the seventh digit rounded. -/
def microseconds (fraction : Text) : Nat :=
  let digits := fraction.take 6
  let whole := (readDigits? 10 (digits ++ List.replicate (6 - digits.length) '0')).getD 0
  match fraction[6]? with
  | some c => if '4' < c then whole + 1 else whole
  | none => whole

/-- The date or the time that is written.  Of several faults that of the zone is told. -/
def Timestamp.value (t : Timestamp) : Except CalendarFault Scalar := do
  match t.time with
  | none => return .date (← Date.make t.year t.month t.day)
  | some time =>
    let zone? ← time.zone.mapM fun (ahead, name) => Zone.make ahead name
    let date ← Date.make t.year t.month t.day
    let micro := microseconds time.fraction
    let moment ← DateTime.make date time.hour time.minute time.second (micro % 1000000) zone?
    -- a fraction that rounds up to a whole second carries into it
    return .dateTime (← if micro < 1000000 then pure moment else moment.nextSecond)

end Stencil.Yaml
