import ViewAdapters.Calendar.Date

/-!
# Moments with a time of day

A date with a time of day, to the microsecond, and possibly an offset from
UTC. Its text and its place in the calendar's seconds.
-/

namespace ViewAdapters.Calendar

/-- A signed span of time in microseconds. -/
abbrev Span := Int

def Span.day : Span := 86400000000

/-- Decimal digits of a number, with zeros in front up to a width. -/
def padded (width n : Nat) : String :=
  let digits := Nat.toDigits 10 n
  String.ofList (List.replicate (width - digits.length) '0' ++ digits)

/-- A span by its whole days, seconds and microseconds, the last two never negative. -/
def Span.literal (s : Span) : String :=
  let days := Int.fdiv s Span.day
  let rest := (Int.fmod s Span.day).toNat
  let parts := [("days", days), ("seconds", ((rest / 1000000 : Nat) : Int)),
    ("microseconds", ((rest % 1000000 : Nat) : Int))].filter fun p => p.2 ≠ 0
  "datetime.timedelta(" ++
    (if parts.isEmpty then "0"
      else ", ".intercalate (parts.map fun p => p.1 ++ "=" ++ toString p.2)) ++ ")"

/-- An offset as hours, minutes and, where it has them, seconds and microseconds. -/
def Span.offsetText (s : Span) : String :=
  let n := s.natAbs
  let seconds := n / 1000000
  (if s < 0 then "-" else "+") ++ padded 2 (seconds / 3600) ++ ":" ++
    padded 2 (seconds / 60 % 60) ++
    (if n % 60000000 = 0 then "" else ":" ++ padded 2 (seconds % 60)) ++
    (if n % 1000000 = 0 then "" else "." ++ padded 6 (n % 1000000))

structure DateTime where
  date : Date
  hour : Nat
  minute : Nat
  second : Nat
  microsecond : Nat
  offset : Option Span
  deriving DecidableEq, Repr

/-- A moment whose date is in the calendar and whose time is of a day. -/
def DateTime.check (year month day hour minute second microsecond : Nat)
    (offset : Option Span) : Except Fault DateTime := do
  let date ← Date.check year month day
  if 23 < hour then throw .hour
  if 59 < minute then throw .minute
  if 59 < second then throw .second
  return { date, hour, minute, second, microsecond, offset }

/-- Whether a span can be an offset from UTC: less than a day either way. -/
def Span.isOffset (s : Span) : Bool := decide (-Span.day < s) && decide (s < Span.day)

def Date.text (d : Date) : String :=
  padded 4 d.year ++ "-" ++ padded 2 d.month ++ "-" ++ padded 2 d.day

def DateTime.text (t : DateTime) : String :=
  t.date.text ++ " " ++ padded 2 t.hour ++ ":" ++ padded 2 t.minute ++ ":" ++ padded 2 t.second ++
    (if t.microsecond = 0 then "" else "." ++ padded 6 t.microsecond) ++
    (match t.offset with
      | none => ""
      | some s => s.offsetText)

def Date.literal (d : Date) : String :=
  "datetime.date(" ++ toString d.year ++ ", " ++ toString d.month ++ ", " ++
    toString d.day ++ ")"

/-- An offset as the zone that has it. -/
def Span.zoneLiteral (s : Span) : String :=
  if s = 0 then "datetime.timezone.utc" else "datetime.timezone(" ++ s.literal ++ ")"

/-- The parts of a moment in order; seconds and microseconds only where they are not zero. -/
def DateTime.literal (t : DateTime) : String :=
  let shown :=
    if t.microsecond ≠ 0 then [t.hour, t.minute, t.second, t.microsecond]
    else if t.second ≠ 0 then [t.hour, t.minute, t.second]
    else [t.hour, t.minute]
  "datetime.datetime(" ++
    ", ".intercalate (([t.date.year, t.date.month, t.date.day] ++ shown).map toString) ++
    (match t.offset with
      | none => ""
      | some s => ", tzinfo=" ++ s.zoneLiteral) ++ ")"

end ViewAdapters.Calendar
