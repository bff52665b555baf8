/-!
# Meanings of date values

What a date or time value means, whatever type stores it.

* `DateSemantics.ofName?_name`: every meaning is found by its name.
-/

namespace ViewAdapters

inductive DateSemantics where
  | localDateTime
  | utcInstant
  | dateOnly
  | timeOnly
  | duration
  | zonedDateTime
  deriving DecidableEq, Repr

namespace DateSemantics

def all : List DateSemantics :=
  [.localDateTime, .utcInstant, .dateOnly, .timeOnly, .duration, .zonedDateTime]

def name : DateSemantics → String
  | .localDateTime => "local_date_time"
  | .utcInstant => "utc_instant"
  | .dateOnly => "date_only"
  | .timeOnly => "time_only"
  | .duration => "duration"
  | .zonedDateTime => "zoned_date_time"

def ofName? (s : String) : Option DateSemantics := all.find? fun d => d.name == s

theorem ofName?_name (d : DateSemantics) : ofName? d.name = some d := by
  cases d <;> decide

end DateSemantics
end ViewAdapters
