/-! This file defines dates and times of the proleptic Gregorian calendar, and their texts. -/

namespace HalfPrecision

/-- Why a date or time does not exist. -/
inductive CalendarRefusal where
  | year (number : Nat)
  | month
  | day
  | hour
  | minute
  | second
  /-- An offset of a day or more, given in minutes. -/
  | offset (minutes : Int)
deriving DecidableEq

/-- The text of a span of seconds, as whole days that may be negative and the seconds of a day. -/
def spanText (seconds : Int) : String :=
  let days := seconds / 86400
  let rest := seconds % 86400
  let parts := (if days = 0 then [] else ["days=" ++ toString days]) ++
    (if rest = 0 then [] else ["seconds=" ++ toString rest])
  "datetime.timedelta(" ++ (if parts.isEmpty then "0" else ", ".intercalate parts) ++ ")"

def CalendarRefusal.message : CalendarRefusal → String
  | .year number => "year " ++ toString number ++ " is out of range"
  | .month => "month must be in 1..12"
  | .day => "day is out of range for month"
  | .hour => "hour must be in 0..23"
  | .minute => "minute must be in 0..59"
  | .second => "second must be in 0..59"
  | .offset minutes =>
    "offset must be a timedelta strictly between -timedelta(hours=24) and timedelta(hours=24), not " ++
      spanText (60 * minutes) ++ "."

/-- A day of the calendar. -/
structure Date where
  year : Nat
  month : Nat
  day : Nat
deriving DecidableEq

/-- A time of day, on a clock that may have an offset in minutes. -/
structure DateTime where
  date : Date
  hour : Nat
  minute : Nat
  second : Nat
  microsecond : Nat
  offset : Option Int
deriving DecidableEq

namespace Date

def isLeapYear (year : Nat) : Bool :=
  year % 4 == 0 && (year % 100 != 0 || year % 400 == 0)

def daysInMonth (year month : Nat) : Nat :=
  if month = 2 then if isLeapYear year then 29 else 28
  else if month = 4 ∨ month = 6 ∨ month = 9 ∨ month = 11 then 30
  else 31

/-- The date with the given parts, if it exists. -/
def ofParts (year month day : Nat) : Except CalendarRefusal Date :=
  if year < 1 ∨ 9999 < year then .error (.year year)
  else if month < 1 ∨ 12 < month then .error .month
  else if day < 1 ∨ daysInMonth year month < day then .error .day
  else .ok ⟨year, month, day⟩

/-- The count of days before a date since the start of year 1. -/
def dayNumber (date : Date) : Nat :=
  let years := date.year - 1
  let months := (List.range (date.month - 1)).foldl (fun days month => days + daysInMonth date.year (month + 1)) 0
  years * 365 + years / 4 - years / 100 + years / 400 + months + date.day - 1

def parts (date : Date) : List Nat := [date.year, date.month, date.day]

def text (date : Date) : String :=
  "datetime.date(" ++ ", ".intercalate (date.parts.map toString) ++ ")"

end Date

namespace DateTime

/-- The time with the given parts, if it exists. -/
def ofParts (year month day hour minute second microsecond : Nat) (offset : Option Int) :
    Except CalendarRefusal DateTime := do
  match offset with
  | some minutes => if 1440 ≤ minutes.natAbs then throw (.offset minutes)
  | none => pure ()
  let date ← Date.ofParts year month day
  if 23 < hour then throw .hour
  if 59 < minute then throw .minute
  if 59 < second then throw .second
  return ⟨date, hour, minute, second, microsecond, offset⟩

/-- The microseconds since the start of year 1 on a clock without offset. -/
def instant (time : DateTime) : Int :=
  let minutes : Int := (time.date.dayNumber * 24 + time.hour) * 60 + time.minute - time.offset.getD 0
  (minutes * 60 + time.second) * 1000000 + time.microsecond

/-- Whether two times are equal. Times with an offset are equal at the same instant, and differ from those without. -/
def sameTime (first second : DateTime) : Bool :=
  first.offset.isSome == second.offset.isSome && first.instant == second.instant

/-- The parts of the time that are written. Seconds and microseconds are left out at the end if they are zero. -/
def parts (time : DateTime) : List Nat :=
  time.date.parts ++ [time.hour, time.minute] ++
    (if time.second = 0 ∧ time.microsecond = 0 then []
    else if time.microsecond = 0 then [time.second]
    else [time.second, time.microsecond])

def offsetText (minutes : Int) : String :=
  if minutes = 0 then "datetime.timezone.utc" else "datetime.timezone(" ++ spanText (60 * minutes) ++ ")"

def text (time : DateTime) : String :=
  "datetime.datetime(" ++ ", ".intercalate (time.parts.map toString) ++
    (match time.offset with
    | some minutes => ", tzinfo=" ++ offsetText minutes
    | none => "") ++ ")"

end DateTime

end HalfPrecision
