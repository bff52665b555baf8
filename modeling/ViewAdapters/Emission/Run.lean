import ViewAdapters.Emission.Plan
import ViewAdapters.Files.Operation

/-!
# Runs

A run prepares the output directory of every requested platform, which takes
away the adapters of earlier runs, and then generates and writes the planned
adapters one after the other. A pair that fails does not stop the others; where
its text has no bytes, it leaves the file that was opened for it empty.
-/

namespace ViewAdapters.Emission

/-- Why a run does not come to its end. -/
inductive RunFault where
  | noViewModels
  | platforms (error : PlatformError)
  | noBackend (platforms : List Platform)
  | workers
  | files (fault : FileFault)
  deriving DecidableEq, Repr

def RunFault.message : RunFault → String
  | .noViewModels => "No view-models were provided; nothing to generate"
  | .platforms error => error.message
  | .noBackend ps => "No backend registered for: " ++ ", ".intercalate (ps.map Platform.name)
  | .workers => "workers must be at least 1"
  | .files fault => fault.message

/-- What some part of a run leaves: the files, the log and a value or a fault. -/
structure Progress (α : Type) where
  files : Files
  log : Log
  result : Except FileFault α

/-- Removes files from a directory in order, up to the first that cannot be removed. -/
def removeStale (directory : Path) (files : Files) : List String → Progress Unit
  | [] => ⟨files, [], .ok ()⟩
  | name :: rest =>
    let path := directory.join ⟨"", [name]⟩
    match files.remove path with
    | .error fault => ⟨files, [], .error fault⟩
    | .ok files =>
      let later := removeStale directory files rest
      { later with
        log := ⟨.debug, .emission, "Removed stale adapter " ++ path.text⟩ :: later.log }

/-- The output directory of an emitter. -/
def Emitter.path (e : Emitter) (root : Path) : Path := root.child e.directory

/-- Makes the output directory of an emitter and removes the adapters in it. -/
def prepare (calls : Option Nat) (root : Path) (files : Files) (e : Emitter) : Progress Unit :=
  match files.makeDirectories calls (e.path root) with
  | (files, some fault) => ⟨files, [], .error fault⟩
  | (files, none) =>
    removeStale (e.path root) files (files.namesWithEnding (e.path root) e.platform.fileEnding)

/-- Prepares the directories of emitters in order, up to the first that cannot be prepared. -/
def prepareAll (calls : Option Nat) (root : Path) (files : Files) : List Emitter → Progress Unit
  | [] => ⟨files, [], .ok ()⟩
  | e :: rest =>
    let first := prepare calls root files e
    match first.result with
    | .error fault => { first with result := .error fault }
    | .ok () =>
      let later := prepareAll calls root first.files rest
      { later with log := first.log ++ later.log }

/-- The settings of a run. -/
structure Settings where
  root : Path
  /-- How many missing directories may lead to one that is made. -/
  calls : Option Nat
  emitters : List Emitter
  /-- How many jobs may run at the same time. -/
  workers : Nat
  isDryRun : Bool
  one_le_workers : 1 ≤ workers

/-- Settings with a number of workers that has to be positive. -/
def Settings.make (root : Path) (calls : Option Nat) (emitters : List Emitter) (workers : Int)
    (isDryRun : Bool) : Except RunFault Settings :=
  if h : 1 ≤ workers then
    .ok ⟨root, calls, emitters, workers.toNat, isDryRun, by omega⟩
  else .error .workers

/-- The emitter of a platform: of several the last one. -/
def Settings.emitter? (s : Settings) (platform : Platform) : Option Emitter :=
  s.emitters.reverse.find? fun e => e.platform = platform

/-- What a job leaves: the files, the log and its outcome. -/
structure JobEnd where
  files : Files
  log : Log
  outcome : Outcome

def jobFailure (p : Pair) (files : Files) (log : Log) (error : String) : JobEnd where
  files := files
  log := log ++ [⟨.error, .emission,
    "Failed to generate " ++ p.2.platform.name ++ " adapter for " ++ p.1.name ++ ": " ++ error⟩]
  outcome := ⟨p.1.name, p.2.platform, .failed error⟩

def diagnosticMessage (v : ViewModel) (d : Diagnostic) : String := v.name ++ ": " ++ d.text

/-- Writes an adapter's text; a dry run writes nothing. -/
def writeAdapter (isDryRun : Bool) (files : Files) (path : Path) (text : String) :
    Files × Option WriteFault :=
  if isDryRun then (files, none) else files.writeText path text

/-- Where the adapter of a pair is written. -/
def Pair.path (p : Pair) (root : Path) : Path := (p.2.path root).child p.fileName

/-- The details that a backend reports of an adapter. -/
def detailLog (p : Pair) (adapter : Generated) : Log :=
  adapter.diagnostics.map fun d =>
    ⟨.debug, .backend p.2.platform, diagnosticMessage p.1 d⟩

def successLog (p : Pair) (path : Path) (adapter : Generated) : Log :=
  adapter.diagnostics.map (fun d => ⟨.warning, .emission, diagnosticMessage p.1 d⟩) ++
    [⟨.info, .emission, p.1.name ++ " -> " ++ path.text⟩]

/-- Writes the adapter of a pair. -/
def writeJob (s : Settings) (files : Files) (p : Pair) (adapter : Generated) : JobEnd :=
  match writeAdapter s.isDryRun files (p.path s.root) adapter.text with
  | (files, some fault) => jobFailure p files (detailLog p adapter) fault.message
  | (files, none) =>
    { files
      log := detailLog p adapter ++ successLog p (p.path s.root) adapter
      outcome := ⟨p.1.name, p.2.platform, .generated (p.path s.root) adapter.diagnostics⟩ }

/-- Generates the adapter of a pair and writes it. -/
def runJob (s : Settings) (files : Files) (p : Pair) : JobEnd :=
  match p.2.generate p.1 with
  | .error error => jobFailure p files [] error
  | .ok adapter => writeJob s files p adapter

/-- What the jobs of a run leave. -/
structure JobsEnd where
  files : Files
  log : Log
  outcomes : List Outcome

/-- What becomes of an emitter once a run has reported something. -/
abbrev Revision := Log → Emitter → Emitter

/-- Settles the slots of a plan in order: jobs are run, the others have their outcome already.
The emitter of a job is revised after what was reported before, which starts with `before`. -/
def runJobs (revise : Revision) (s : Settings) (before : Log) (files : Files) :
    List (Pair × Slot) → JobsEnd
  | [] => ⟨files, [], []⟩
  | (p, slot) :: rest =>
    match slot with
    | .job =>
      let first := runJob s files (p.1, revise before p.2)
      let later := runJobs revise s (before ++ first.log) first.files rest
      ⟨later.files, first.log ++ later.log, first.outcome :: later.outcomes⟩
    | .excluded =>
      let later := runJobs revise s before files rest
      { later with outcomes := ⟨p.1.name, p.2.platform, .skipped⟩ :: later.outcomes }
    | .taken fileName owner =>
      let later := runJobs revise s before files rest
      { later with
        outcomes := ⟨p.1.name, p.2.platform, .failed (takenMessage fileName owner)⟩ ::
          later.outcomes }

/-- The emitters of the requested platforms, in the order of the request. -/
def requested (s : Settings) (vs : List ViewModel) (request : List Selector) :
    Except RunFault (List Emitter) := do
  if vs.isEmpty then throw .noViewModels
  let platforms ← (Selector.select request).mapError .platforms
  let missing := platforms.filter fun p => (s.emitter? p).isNone
  if !missing.isEmpty then throw (.noBackend missing)
  return platforms.filterMap s.emitter?

/-- What a run leaves: the files, the log and a summary or a fault. -/
structure RunEnd where
  files : Files
  log : Log
  result : Except RunFault Summary

def startMessage (emitters : List Emitter) (vs : List ViewModel) : String :=
  "Generating adapters for " ++ toString vs.length ++ " view-model(s) on " ++
    ", ".intercalate (emitters.map fun e => e.platform.name)

/-- Runs the planned jobs in prepared directories. -/
def finish (revise : Revision) (s : Settings) (emitters : List Emitter) (vs : List ViewModel)
    (files : Files) (log : Log) : RunEnd :=
  let slots := plan [] (pairs emitters vs)
  let planned := log ++ slots.flatMap fun x => slotLog x.1 x.2
  let jobs := runJobs revise s planned files slots
  let summary : Summary := ⟨vs.length, emitters.map (·.platform), jobs.outcomes, s.isDryRun⟩
  { files := jobs.files
    log := planned ++ jobs.log ++ [⟨.info, .emission, summary.report⟩]
    result := .ok summary }

/-- Generates the adapters of view-models on the requested platforms by emitters that are
revised on the way. -/
def runRevising (revise : Revision) (s : Settings) (files : Files) (vs : List ViewModel)
    (request : List Selector) : RunEnd :=
  match requested s vs request with
  | .error fault => ⟨files, [], .error fault⟩
  | .ok emitters =>
    let start : Log := [⟨.info, .emission, startMessage emitters vs⟩]
    if s.isDryRun then finish revise s emitters vs files start
    else
      let prepared := prepareAll s.calls s.root files emitters
      match prepared.result with
      | .error fault => ⟨prepared.files, start ++ prepared.log, .error (.files fault)⟩
      | .ok () => finish revise s emitters vs prepared.files (start ++ prepared.log)

/-- Generates the adapters of view-models on the requested platforms. -/
def run (s : Settings) (files : Files) (vs : List ViewModel) (request : List Selector) : RunEnd :=
  runRevising (fun _ e => e) s files vs request

end ViewAdapters.Emission
