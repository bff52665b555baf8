import ViewAdapters.CommandLine.Reading

/-!
# Requests

What a command line asks for. An empty text counts as left out, except for a
platform, which has to be known.
-/

namespace ViewAdapters.CommandLine

structure GenerateRequest where
  metadata : String
  platforms : List String
  output : Option String
  config : Option String
  workers : Option Int
  /-- Whether the number of workers is given as an empty list of values. -/
  isWorkersEmpty : Bool
  timestamp : Option String
  summary : Option String
  isDryRun : Bool
  deriving DecidableEq, Repr

inductive Task where
  | generate (request : GenerateRequest)
  | stats (metadata : String)
  deriving DecidableEq, Repr

structure Request where
  isVerbose : Bool
  logFile : Option String
  task : Task
  deriving DecidableEq, Repr

/-- What the arguments of a command ask for. -/
def taskOf (c : Command) (r : Reading) (metadata : String) : Task :=
  match c with
  | .stats => .stats metadata
  | .generate => .generate {
      metadata
      platforms := r.values .platform
      output := r.value? .output
      config := r.value? .config
      workers := (r.value? .workers).bind Text.readInteger?
      isWorkersEmpty := (r.values .workers).getLast? == some ""
      timestamp := r.value? .timestamp
      summary := r.value? .summary
      isDryRun := r.has .dryRun }

def readCommand (name : String) : Except Stop Command :=
  match Command.all.find? fun c => c.name = name with
  | some c => .ok c
  | none => .error (.fault .program (.badCommand name))

/-- The request of a command line. -/
def Request.parse (texts : List String) : Except Stop Request := do
  let (outer, name) ← readLevel .program texts
  let command ← readCommand name
  let (inner, metadata) ← readLevel (.command command) outer.rest
  let unknown := outer.unknown ++ inner.unknown
  if !unknown.isEmpty then throw (.fault .program (.unknown unknown))
  return {
    isVerbose := outer.has .verbose || inner.has .verbose
    logFile := outer.value? .logFile
    task := taskOf command inner metadata }

end ViewAdapters.CommandLine
