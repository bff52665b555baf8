/-!
# Switches

What can be given by name on the command line: to the program itself, which is
followed by a command, and to each of its commands.
-/

namespace ViewAdapters.CommandLine

inductive Command where
  | generate
  | stats
  deriving DecidableEq, Repr

def Command.name : Command → String
  | .generate => "generate"
  | .stats => "stats"

def Command.all : List Command := [.generate, .stats]

inductive Switch where
  | help
  | verbose
  | logFile
  | platform
  | output
  | config
  | workers
  | timestamp
  | summary
  | dryRun
  deriving DecidableEq, Repr

namespace Switch

def names : Switch → List String
  | .help => ["-h", "--help"]
  | .verbose => ["-v", "--verbose"]
  | .logFile => ["--log-file"]
  | .platform => ["-p", "--platform"]
  | .output => ["-o", "--output"]
  | .config => ["-c", "--config"]
  | .workers => ["--workers"]
  | .timestamp => ["--timestamp"]
  | .summary => ["--summary-json"]
  | .dryRun => ["--dry-run"]

def takesValue : Switch → Bool
  | .help | .verbose | .dryRun => false
  | _ => true

/-- All names of a switch. -/
def label (s : Switch) : String := "/".intercalate s.names

end Switch

/-- Where something is given: to the program itself or to a command. -/
inductive Level where
  | program
  | command (c : Command)
  deriving DecidableEq, Repr

namespace Level

def programName : String := "adaptergen"

def name : Level → String
  | .program => programName
  | .command c => programName ++ " " ++ c.name

def switches : Level → List Switch
  | .program => [.help, .verbose, .logFile]
  | .command .generate =>
    [.help, .verbose, .platform, .output, .config, .workers, .timestamp, .summary, .dryRun]
  | .command .stats => [.help, .verbose]

/-- The name of what has to be given without a switch. -/
def operandName : Level → String
  | .program => "command"
  | .command _ => "metadata"

/-- The names of the switches with the switches that they stand for. -/
def namedSwitches (l : Level) : List (String × Switch) :=
  l.switches.flatMap fun s => s.names.map fun n => (n, s)

def switch? (l : Level) (name : String) : Option Switch := l.namedSwitches.lookup name

end Level
end ViewAdapters.CommandLine
