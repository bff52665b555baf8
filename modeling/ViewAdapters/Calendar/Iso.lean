import ViewAdapters.Calendar.DateTime
import ViewAdapters.Decimal.Power
import ViewAdapters.Text.Utf8

/-!
# Moments in ISO 8601 text

Reads a calendar date or a week date, with or without hyphens, then any one
character and a time of day with or without colons, then an optional offset.
Positions count bytes of UTF-8, so the separating character may be of any
length. A surrogate has no bytes and may only stand where the separating character does.

* `readIso` is the whole reader; a moment without an offset keeps none.
-/

namespace ViewAdapters.Calendar

/-- Why a text is no moment. -/
inductive IsoFault where
  | malformed (text : String)
  | offset (span : Span)
  | calendar (fault : Fault)
  deriving DecidableEq, Repr

/-- An offset of a day or more. -/
def offsetMessage (s : Span) : String :=
  "offset must be a timedelta strictly between -timedelta(hours=24) and " ++
    "timedelta(hours=24), not " ++ s.literal ++ "."

def IsoFault.message : IsoFault → String
  | .malformed text => "Invalid isoformat string: " ++ Text.quoted text
  | .offset span => offsetMessage span
  | .calendar fault => fault.message

/-- The number that exactly `count` ASCII digits denote, and what follows them. -/
def takeDigits : (count : Nat) → (sofar : Nat) → List UInt8 → Option (Nat × List UInt8)
  | 0, n, bs => some (n, bs)
  | _ + 1, _, [] => none
  | count + 1, n, b :: bs =>
    if 48 ≤ b && b ≤ 57 then takeDigits count (n * 10 + (b.toNat - 48)) bs else none

def isDigitByte (b : UInt8) : Bool := 48 ≤ b && b ≤ 57

def hyphen : UInt8 := 45
def colon : UInt8 := 58
def letterW : UInt8 := 87

/-- The date part of a text as it is written. -/
inductive DateForm where
  | monthly (year month day : Nat)
  | weekly (year week day : Nat)
  deriving DecidableEq, Repr

/-- Drops one byte that must be a hyphen where hyphens are used. -/
def dropHyphen (used : Bool) : List UInt8 → Option (List UInt8)
  | b :: bs => if used then (if b == hyphen then some bs else none) else some (b :: bs)
  | [] => if used then none else some []

/-- How many bytes the date takes; a week date may end before its day. -/
def dateLength (bs : List UInt8) : Option Nat :=
  let at? (i : Nat) : UInt8 := bs.getD i 0
  let length := bs.length
  if length < 7 then none
  else if length = 7 then some 7
  else if at? 4 == hyphen then
    if at? 5 == letterW then
      if 8 < length && at? 8 == hyphen then
        if length = 9 then none
        else if 10 < length && isDigitByte (at? 10) then some 8
        else some 10
      else some 8
    else some 10
  else if at? 4 == letterW then
    let stop := 7 + ((bs.drop 7).takeWhile isDigitByte).length
    if stop < 9 then some stop else if stop % 2 = 0 then some 7 else some 8
  else some 8

/-- Reads the date that takes the first `length` bytes. -/
def readDateForm (length : Nat) (bs : List UInt8) : Option DateForm := do
  let (year, rest) ← takeDigits 4 0 bs
  let used := rest.head? == some hyphen
  let rest := if used then rest.drop 1 else rest
  if rest.head? == some letterW then
    let (week, rest) ← takeDigits 2 0 (rest.drop 1)
    if bs.length - rest.length < length then
      let (day, _) ← takeDigits 1 0 (← dropHyphen used rest)
      return .weekly year week day
    else return .weekly year week 1
  else
    let (month, rest) ← takeDigits 2 0 rest
    let (day, rest) ← takeDigits 2 0 (← dropHyphen used rest)
    if bs.length - rest.length = length then return .monthly year month day else none

/-- Whether an ISO year has 53 weeks: it starts on a Thursday, or on a Wednesday in a leap year. -/
def hasWeek53 (year : Nat) : Bool :=
  let first := weekday (daysBeforeYear year + 1)
  first == 3 || (first == 2 && isLeap year)

/-- The number of the Monday that starts the first week of an ISO year. -/
def firstMonday (year : Nat) : Nat :=
  let first := daysBeforeYear year + 1
  let days := weekday first
  if 3 < days then first + 7 - days else first - days

/-- The year, month and day that a date part denotes; `none` for a week or
weekday that does not exist. The weeks of the year before the calendar have no
month. -/
def DateForm.parts : DateForm → Option (Nat × Nat × Nat)
  | .monthly year month day => some (year, month, day)
  | .weekly year week day =>
    if week = 0 || 53 < week || (week = 53 && (year = 0 || !hasWeek53 year)) then none
    else if day = 0 || 7 < day then none
    else if year = 0 then some (1, 0, 0)
    else
      let d := Date.ofNumber (firstMonday year + (week - 1) * 7 + day - 1)
      some (d.year, d.month, d.day)

/-- Hours, minutes and seconds as far as they are written, the microseconds,
and whether nothing follows them. -/
structure Clock where
  fields : List Nat
  microsecond : Nat
  complete : Bool
  deriving DecidableEq, Repr

/-- The fraction of a second: up to six digits count and more are skipped. -/
def readFraction (bs : List UInt8) : Option Clock := do
  let count := min bs.length 6
  let (n, rest) ← takeDigits count 0 bs
  let rest := rest.dropWhile isDigitByte
  return ⟨[], n * tenTo (6 - count), rest.headD 0 == 0⟩

def Clock.withField (n : Nat) (c : Clock) : Clock := { c with fields := n :: c.fields }

/-- Reads up to `left` fields of two digits and then a fraction. The byte after
the hour decides whether colons are used, and a decimal mark ends the fields. -/
def readFields : (left : Nat) → (separated : Bool) → List UInt8 → Option Clock
  | 0, _, bs => readFraction bs
  | left + 1, separated, bs => do
    let (n, rest) ← takeDigits 2 0 bs
    match rest with
    | [] => return ⟨[n], 0, true⟩
    | [b] => return ⟨[n], 0, b == 0⟩
    | b :: more =>
      let separated := if left = 2 then b == colon else separated
      if separated && b == colon then return (← readFields left separated more).withField n
      else if b == 46 || b == 44 then return (← readFraction more).withField n
      else if separated then none
      else return (← readFields left false (b :: more)).withField n

def readClock (bs : List UInt8) : Option Clock := readFields 3 false bs

def Clock.seconds (c : Clock) : Nat :=
  c.fields.getD 0 0 * 3600 + c.fields.getD 1 0 * 60 + c.fields.getD 2 0

/-- A time of day and its offset. An offset below one second counts as none from UTC. -/
def readTime (bs : List UInt8) : Option (Clock × Option Span) := do
  let starts (b : UInt8) : Bool := b == 43 || b == hyphen || b == 90
  let clock ← readClock (bs.takeWhile fun b => !starts b)
  match bs.dropWhile fun b => !starts b with
  | [] => if clock.complete then return (clock, none) else none
  | b :: rest =>
    if b == 90 then if rest.headD 0 == 0 then return (clock, some 0) else none
    else
      let zone ← readClock rest
      if !zone.complete then none
      let size : Int := if zone.seconds = 0 then 0 else zone.seconds * 1000000 + zone.microsecond
      return (clock, some (if b == hyphen then -size else size))

/-- Where the character between date and time can stand. -/
def separatorPlaces : List Nat := [7, 8, 10]

/-- The code points with a letter in place of a surrogate between date and time. -/
def withSeparator (ns : List Nat) : List Nat :=
  match separatorPlaces.find? fun i => Text.isSurrogate (ns.getD i 0) with
  | some i => ns.set i 'T'.toNat
  | none => ns

/-- The bytes that a moment is read from. -/
def isoBytes (text : String) : Option (List UInt8) :=
  (Text.encode (Text.ofCodePoints (withSeparator (Text.codePoints text.toList)))).toOption.map
    ByteArray.toList

/-- The moment that a text denotes. -/
def readIso (text : String) : Except IsoFault DateTime :=
  let read : Option ((Nat × Nat × Nat) × Clock × Option Span) := do
    let bs ← isoBytes text
    let length ← dateLength bs
    let parts ← (← readDateForm length bs).parts
    if bs.length ≤ length then return (parts, ⟨[], 0, true⟩, none)
    let lead := bs.getD length 0
    let width := if lead < 0x80 then 1 else if lead < 0xE0 then 2 else if lead < 0xF0 then 3 else 4
    let (clock, offset) ← readTime (bs.drop (length + width))
    return (parts, clock, offset)
  match read with
  | none => .error (.malformed text)
  | some ((year, month, day), clock, offset) =>
    match offset.filter fun s => !s.isOffset with
    | some s => .error (.offset s)
    | none =>
      (DateTime.check year month day (clock.fields.getD 0 0) (clock.fields.getD 1 0)
        (clock.fields.getD 2 0) clock.microsecond offset).mapError .calendar

end ViewAdapters.Calendar
