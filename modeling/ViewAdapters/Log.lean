import ViewAdapters.Model.Platform

/-!
# Log records

What a run reports on its way, in order, with the part of the program that
reports it.
-/

namespace ViewAdapters

inductive LogLevel where
  | debug
  | info
  | warning
  | error
  deriving DecidableEq, Repr

def LogLevel.name : LogLevel → String
  | .debug => "DEBUG"
  | .info => "INFO"
  | .warning => "WARNING"
  | .error => "ERROR"

/-- The part of the program that reports something. -/
inductive LogSource where
  | emission
  | backend (platform : Platform)
  | command
  deriving DecidableEq, Repr

def LogSource.name : LogSource → String
  | .emission => "adaptergen.driver"
  | .backend platform => "adaptergen.backends." ++ platform.name
  | .command => "adaptergen.cli"

structure LogRecord where
  level : LogLevel
  source : LogSource
  message : String
  deriving DecidableEq, Repr

abbrev Log := List LogRecord

namespace LogRecord

/-- The line of a record. -/
def text (r : LogRecord) : String := r.level.name ++ " " ++ r.message

/-- The line of a record on a console. -/
def consoleText (r : LogRecord) : String := "[adaptergen] " ++ r.text

/-- The line of a record in a log file, after its time. -/
def fileText (r : LogRecord) : String :=
  r.level.name ++ " " ++ r.source.name ++ ": " ++ r.message

end LogRecord

/-- The records that are shown; details are left out unless they are asked for. -/
def Log.visible (isVerbose : Bool) (log : Log) : Log :=
  log.filter fun r => isVerbose || r.level != .debug

end ViewAdapters
