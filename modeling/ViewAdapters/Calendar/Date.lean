/-!
# Dates of the Gregorian calendar

The calendar runs from the first of January of year 1 to the last day of year
9999, and days are numbered from 1 in it.
-/

namespace ViewAdapters.Calendar

def isLeap (year : Nat) : Bool := year % 4 == 0 && (year % 100 != 0 || year % 400 == 0)

/-- The lengths of the months of a year, January first. -/
def monthLengths (leap : Bool) : List Nat :=
  [31, if leap then 29 else 28, 31, 30, 31, 30, 31, 31, 30, 31, 30, 31]

def daysInMonth (year month : Nat) : Nat :=
  (monthLengths (isLeap year)).getD (month - 1) 0

structure Date where
  year : Nat
  month : Nat
  day : Nat
  deriving DecidableEq, Repr

/-- What keeps parts of a moment from being in the calendar. -/
inductive Fault where
  | year (year : Int)
  | month
  | day
  | hour
  | minute
  | second
  deriving DecidableEq, Repr

def Fault.message : Fault → String
  | .year y => "year " ++ toString y ++ " is out of range"
  | .month => "month must be in 1..12"
  | .day => "day is out of range for month"
  | .hour => "hour must be in 0..23"
  | .minute => "minute must be in 0..59"
  | .second => "second must be in 0..59"

/-- A date of the calendar; of several faults the largest unit is named. -/
def Date.check (year month day : Nat) : Except Fault Date :=
  if year < 1 || 9999 < year then .error (.year year)
  else if month < 1 || 12 < month then .error .month
  else if day < 1 || daysInMonth year month < day then .error .day
  else .ok ⟨year, month, day⟩

/-- The days of the years before a year. -/
def daysBeforeYear (year : Nat) : Nat :=
  let y := year - 1
  y * 365 + y / 4 - y / 100 + y / 400

def daysBeforeMonth (year month : Nat) : Nat :=
  ((monthLengths (isLeap year)).take (month - 1)).foldl (· + ·) 0

/-- The number of a date, the first of January of year 1 being 1. -/
def Date.number (d : Date) : Nat :=
  daysBeforeYear d.year + daysBeforeMonth d.year d.month + d.day

/-- The month and day at a distance from the start of the first listed month. -/
def monthDay (month rest : Nat) : List Nat → Nat × Nat
  | [] => (month, rest + 1)
  | length :: lengths => if rest < length then (month, rest + 1)
    else monthDay (month + 1) (rest - length) lengths

/-- The date with a number: cycles of 400, 100, 4 and 1 years, then months. -/
def Date.ofNumber (number : Nat) : Date :=
  let n := number - 1
  let c400 := n / 146097
  let r400 := n % 146097
  let c100 := min (r400 / 36524) 3
  let r100 := r400 - c100 * 36524
  let c4 := r100 / 1461
  let r4 := r100 % 1461
  let c1 := min (r4 / 365) 3
  let year := c400 * 400 + c100 * 100 + c4 * 4 + c1 + 1
  let (month, day) := monthDay 1 (r4 - c1 * 365) (monthLengths (isLeap year))
  ⟨year, month, day⟩

/-- The days from Monday to a numbered day's weekday. -/
def weekday (number : Nat) : Nat := (number + 6) % 7

end ViewAdapters.Calendar
