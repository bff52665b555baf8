import ViewAdapters.Calendar.UtcSecond
import ViewAdapters.Text.Integer
import ViewAdapters.Text.Quoted

/-!
# Generation times

The one time that all adapters of a backend carry: a given moment, or the
seconds since 1970 in a text, or else the present.

* `generationTime_given`: a given moment is used whatever the text says.
-/

namespace ViewAdapters

/-- Why there is no generation time. -/
inductive TimeFault where
  /-- The offset of a given moment moves it out of the calendar. -/
  | outOfCalendar
  /-- The text is no integer, or denotes a second outside the calendar. -/
  | badEpoch (text : String)
  /-- The seconds are more than a clock of 64 bits counts. -/
  | beyondClock
  /-- The year of the seconds is more than a calendar with 32 bits for years holds. -/
  | beyondYears
  deriving DecidableEq, Repr

def TimeFault.message : TimeFault → String
  | .outOfCalendar => "date value out of range"
  | .badEpoch text => "SOURCE_DATE_EPOCH must be an integer, got '" ++ text ++ "'"
  | .beyondClock => "timestamp out of range for platform time_t"
  | .beyondYears => "[Errno 75] Value too large for defined data type"

/-- The first and last second that 64 bits can count. -/
def clockSeconds : Int × Int := (-9223372036854775808, 9223372036854775807)

/-- The first and last second whose year, counted from 1900, has 32 bits. -/
def clockYears : Int × Int := (-67768040609740800, 67768036191676799)

/-- The time that a text of seconds since 1970 denotes. -/
def timeOfEpoch (text : String) : Except TimeFault Calendar.UtcSecond :=
  match Text.readInteger? text with
  | none => .error (.badEpoch text)
  | some n =>
    if n < clockSeconds.1 || clockSeconds.2 < n then .error .beyondClock
    else if n < clockYears.1 || clockYears.2 < n then .error .beyondYears
    else
      match Calendar.UtcSecond.ofSinceEpoch? n with
      | some time => .ok time
      | none => .error (.badEpoch text)

/-- The generation time from a given moment and a text of seconds; an empty text counts as none. -/
def generationTime (given : Option Calendar.DateTime) (epoch : Option String)
    (present : Calendar.UtcSecond) : Except TimeFault Calendar.UtcSecond :=
  match given with
  | some moment => (Calendar.UtcSecond.ofDateTime? moment).elim (.error .outOfCalendar) .ok
  | none =>
    match epoch.filter fun s => !s.isEmpty with
    | some text => timeOfEpoch text
    | none => .ok present

theorem generationTime_given (moment : Calendar.DateTime) (epoch : Option String)
    (present : Calendar.UtcSecond) :
    generationTime (some moment) epoch present =
      (Calendar.UtcSecond.ofDateTime? moment).elim (.error .outOfCalendar) .ok := rfl

end ViewAdapters
