/-!
# Dates and times

Calendar dates, times of day to the microsecond, and both together with or without an offset from
universal time.
-/

namespace CallAudit

structure Date where
  year : Nat
  month : Nat
  day : Nat
deriving DecidableEq, Repr

structure TimeOfDay where
  hour : Nat
  minute : Nat
  second : Nat
  microsecond : Nat
deriving DecidableEq, Repr

/-- A date, a time of day, or both; an offset is in minutes, positive to the east. -/
inductive Moment where
  | date (date : Date)
  | time (time : TimeOfDay)
  | dateTime (date : Date) (time : TimeOfDay) (offset : Option Int)
deriving DecidableEq, Repr

/-- A number with zeros before it up to a width. -/
def padded (width n : Nat) : String :=
  let digits := Nat.toDigits 10 n
  String.ofList (List.replicate (width - digits.length) '0' ++ digits)

def isLeapYear (year : Nat) : Bool :=
  year % 4 == 0 && (year % 100 != 0 || year % 400 == 0)

def daysInMonth (year month : Nat) : Nat :=
  if month == 2 then (if isLeapYear year then 29 else 28)
  else if month == 4 || month == 6 || month == 9 || month == 11 then 30
  else 31

def Date.isValid (d : Date) : Bool :=
  1 ≤ d.year && 1 ≤ d.month && d.month ≤ 12 && 1 ≤ d.day && d.day ≤ daysInMonth d.year d.month

/-- Year, month and day joined by hyphens. -/
def Date.iso (d : Date) : String := s!"{padded 4 d.year}-{padded 2 d.month}-{padded 2 d.day}"

/-- Hour, minute and second joined by colons, with six decimals unless they are zero. -/
def TimeOfDay.iso (t : TimeOfDay) : String :=
  let whole := s!"{padded 2 t.hour}:{padded 2 t.minute}:{padded 2 t.second}"
  if t.microsecond = 0 then whole else s!"{whole}.{padded 6 t.microsecond}"

/-- An offset as a sign, hours and minutes. -/
def offsetIso (minutes : Int) : String :=
  let size := minutes.natAbs
  let sign := if minutes < 0 then "-" else "+"
  s!"{sign}{padded 2 (size / 60)}:{padded 2 (size % 60)}"

/-- The ISO text of a moment, with the given text between a date and a time. -/
def Moment.iso (between : String) : Moment → String
  | .date d => d.iso
  | .time t => t.iso
  | .dateTime d t offset => d.iso ++ between ++ t.iso ++ (offset.map offsetIso).getD ""

/-- The parts of a time that a constructor call lists: zeros at the end are left out. -/
def TimeOfDay.parts (t : TimeOfDay) : List Nat :=
  if t.microsecond ≠ 0 then [t.hour, t.minute, t.second, t.microsecond]
  else if t.second ≠ 0 then [t.hour, t.minute, t.second]
  else [t.hour, t.minute]

def commaSeparated (parts : List String) : String := ", ".intercalate parts

/-- An offset as a length of time; one to the west is a day back and the rest of that day ahead. -/
def offsetConstructor (minutes : Int) : String :=
  if minutes = 0 then "datetime.timezone.utc"
  else if minutes < 0 then
    s!"datetime.timezone(datetime.timedelta(days=-1, seconds={86400 - minutes.natAbs * 60}))"
  else s!"datetime.timezone(datetime.timedelta(seconds={minutes.natAbs * 60}))"

/-- A moment as the constructor call that makes it. -/
def Moment.constructor : Moment → String
  | .date d => s!"datetime.date({commaSeparated ([d.year, d.month, d.day].map padded0)})"
  | .time t => s!"datetime.time({commaSeparated (t.parts.map padded0)})"
  | .dateTime d t offset =>
    let parts := ([d.year, d.month, d.day] ++ t.parts).map padded0
    let zone := offset.toList.map fun minutes => "tzinfo=" ++ offsetConstructor minutes
    s!"datetime.datetime({commaSeparated (parts ++ zone)})"
where
  padded0 (n : Nat) : String := padded 1 n

end CallAudit
