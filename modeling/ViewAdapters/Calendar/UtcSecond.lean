import ViewAdapters.Calendar.DateTime

/-!
# Seconds of the UTC calendar

A generation time is one second between the first of year 1 and the last of
year 9999, given by its distance from the start of 1970.

* `UtcSecond.ofSinceEpoch?_eq_some_iff`: the seconds of the calendar are an interval.
-/

namespace ViewAdapters.Calendar

/-- The number of the first of January 1970. -/
def epochDay : Nat := 719163

def firstSecond : Int := -62135596800

def lastSecond : Int := 253402300799

structure UtcSecond where
  sinceEpoch : Int
  first_le : firstSecond ≤ sinceEpoch
  le_last : sinceEpoch ≤ lastSecond
  deriving DecidableEq, Repr

def UtcSecond.ofSinceEpoch? (n : Int) : Option UtcSecond :=
  if h : firstSecond ≤ n ∧ n ≤ lastSecond then some ⟨n, h.1, h.2⟩ else none

theorem UtcSecond.ofSinceEpoch?_eq_some_iff {n : Int} {t : UtcSecond} :
    ofSinceEpoch? n = some t ↔ t.sinceEpoch = n := by
  unfold ofSinceEpoch?
  constructor
  · intro h
    split at h
    · cases h; rfl
    · contradiction
  · rintro rfl
    simp [t.first_le, t.le_last]

/-- The microseconds from the start of 1970 to a moment, read in UTC if it has no offset. -/
def DateTime.sinceEpoch (t : DateTime) : Int :=
  (((t.date.number : Int) - epochDay) * 86400 + t.hour * 3600 + t.minute * 60 + t.second) * 1000000
    + t.microsecond - t.offset.getD 0

/-- The second that a moment lies in, unless its offset moves it out of the calendar. -/
def UtcSecond.ofDateTime? (t : DateTime) : Option UtcSecond :=
  ofSinceEpoch? (Int.fdiv t.sinceEpoch 1000000)

def UtcSecond.date (t : UtcSecond) : Date :=
  Date.ofNumber (Int.fdiv t.sinceEpoch 86400 + epochDay).toNat

/-- The seconds since midnight. -/
def UtcSecond.ofDay (t : UtcSecond) : Nat := (Int.fmod t.sinceEpoch 86400).toNat

def UtcSecond.clockText (t : UtcSecond) : String :=
  padded 2 (t.ofDay / 3600) ++ ":" ++ padded 2 (t.ofDay / 60 % 60) ++ ":" ++ padded 2 (t.ofDay % 60)

/-- The text in a header, whose year is not padded. -/
def UtcSecond.headerText (t : UtcSecond) : String :=
  toString t.date.year ++ "-" ++ padded 2 t.date.month ++ "-" ++ padded 2 t.date.day ++ "T" ++
    t.clockText ++ "Z"

/-- The text with a year of four digits and the offset of UTC. -/
def UtcSecond.isoText (t : UtcSecond) : String :=
  t.date.text ++ "T" ++ t.clockText ++ "+00:00"

end ViewAdapters.Calendar
