import ViewAdapters.Adapter.Discovery
import ViewAdapters.CommandLine.Help
import ViewAdapters.CommandLine.Request
import ViewAdapters.Configuration
import ViewAdapters.Emission.Run
import ViewAdapters.Metadata.Loading
import ViewAdapters.Report
import ViewAdapters.Yaml.Document

/-!
# Sessions

What a command line does to the files and what it says, given the files, the
home directory and the time that it is run with. Generating prepares
everything that can be refused before it changes a file. What makes a value of
the text of a document, what makes a text with the templates of a user, and how
deep calls can be nested are given by an environment.

No plugins are installed in a session, and a log or a message that cannot be
written out as text is left out.
-/

namespace ViewAdapters.CommandLine

/-- What a session relies on. -/
structure Environment (ε δ : Type) where
  reader : Document.Reader ε
  renderer : Renderer δ
  limits : Limits

namespace Environment

/-- Documents of YAML, simple templates and the usual limits. -/
def standard : Environment Yaml.ScalarFault UserTemplate.Fault where
  reader := Yaml.reader
  renderer := UserTemplate.renderer
  limits := .standard

end Environment

structure Session where
  files : Files
  home : Path
  /-- The text of seconds since 1970 to use as the generation time. -/
  epoch : Option String
  present : Calendar.UtcSecond
  /-- What the lines of a log file start with. -/
  logTime : String

/-- Without plugins no factory has faults of its own. -/
instance instToStringEmpty : ToString Empty := ⟨Empty.elim⟩

/-- A failure that ends a session without a message of its own. -/
inductive Escape (ε : Type) where
  | file (fault : FileFault)
  | encoding (fault : Text.Utf8Fault)
  /-- The reader of documents has failed. -/
  | reader (failure : ε)
  | tooDeep (fault : DepthFault)
  | time (fault : TimeFault)
  | discovery (fault : DiscoveryFault Empty)
  /-- An integer of a document is to be a text and has none. -/
  | numeral (fault : Text.NumeralFault)
  /-- The number of workers is an empty list of values. -/
  | emptyWorkers
  deriving DecidableEq, Repr

def Escape.message {ε : Type} [ToString ε] : Escape ε → String
  | .file fault => fault.message
  | .encoding fault => fault.message
  | .reader failure => toString failure
  | .tooDeep fault => fault.message
  | .time fault => fault.message
  | .discovery fault => fault.message
  | .numeral fault => fault.message
  | .emptyWorkers => "'<' not supported between instances of 'list' and 'int'"

inductive Ending (ε : Type) where
  | exited (status : Nat)
  | escaped (failure : Escape ε)
  deriving DecidableEq, Repr

/-- How a session ends and what it says at its end. -/
structure Exit (ε : Type) where
  ending : Ending ε
  output : String
  errors : String
  deriving DecidableEq, Repr

namespace Exit

variable {ε : Type}

def success (output : String) : Exit ε := ⟨.exited 0, output, ""⟩

def failure (message : String) : Exit ε := ⟨.exited 1, "", message ++ "\n"⟩

def escape (failure : Escape ε) : Exit ε := ⟨.escaped failure, "", ""⟩

def misuse (l : Level) (fault : Fault) : Exit ε := ⟨.exited 2, "", l.faultText fault⟩

/-- The end of a generation that does not come about. -/
def generationFailure (message : String) : Exit ε :=
  failure ("adaptergen generate failed: " ++ message ++
    "\nRun with --verbose for more details.")

def ofStop : Stop → Exit ε
  | .help l => success l.helpText
  | .fault l fault => misuse l fault

def ofStored : Document.StoredFault ε → Exit ε
  | .file f => escape (.file f)
  | .encoding f => escape (.encoding f)
  | .malformed name complaint => failure (Document.malformedMessage name complaint)
  | .reader f => escape (.reader f)

def ofConfiguration : Configuration.LoadFault ε → Exit ε
  | .document fault => ofStored fault
  | .settings (.numeral fault) => escape (.numeral fault)
  | .settings fault => failure fault.message

def ofMetadata : Metadata.LoadFault ε → Exit ε
  | .notFound path => failure (Metadata.notFoundMessage path)
  | .document fault => ofStored fault
  | .metadata (.numeral fault) => escape (.numeral fault)
  | .metadata (.tooDeep fault) => escape (.tooDeep fault)
  | .metadata error => failure error.message

def ofDiscovery (fault : DiscoveryFault Empty) : Exit ε :=
  match fault with
  | .unloadable .. | .factory (.time (.badEpoch _)) => generationFailure fault.message
  | .factory (.time f) => escape (.time f)
  | .noFactory _ | .noBackend _ => escape (.discovery fault)
  | .unknown _ => failure fault.message

def ofRun (fault : Emission.RunFault) : Exit ε :=
  match fault with
  | .files (.refused reason path) => escape (.file (.refused reason path))
  | .files .tooDeep => generationFailure fault.message
  | _ => failure fault.message

end Exit

/-! ## Log files -/

/-- An open log file with what it held when it was opened. -/
structure LogFile where
  path : Path
  start : ByteArray

/-- Opens a log file, which is made if it is not there. -/
def LogFile.open (files : Files) (text : String) : Except FileFault (Files × LogFile) := do
  let path := files.absolute (.ofString text)
  let files ← files.append path ByteArray.empty
  return (files, ⟨path, ← files.read path⟩)

/-- The lines of a log in a log file. A record whose text has no bytes is left out. -/
def logText (time : String) (log : Log) : String :=
  let lines := log.map fun r => time ++ " " ++ r.fileText ++ "\n"
  String.join (lines.filter fun line => (Text.encode line).isOk)

/-- Writes a log to a log file. A file that was taken away or replaced since it was
opened is left alone. -/
def LogFile.write (f : LogFile) (time : String) (files : Files) (log : Log) : Files :=
  match files.read f.path with
  | .ok content =>
    if Entry.file content = Entry.file f.start then
      (files.append f.path (Files.storedBytes (logText time log))).toOption.getD files
    else files
  | .error _ => files

/-- The lines of a log on a console. -/
def consoleText (log : Log) : String := String.join (log.map fun r => r.consoleText ++ "\n")

/-! ## Tasks -/

/-- What a task leaves: the files, what it reports on its way and its end. -/
structure TaskEnd (ε : Type) where
  files : Files
  log : Log
  exit : Exit ε

/-- The templates below a directory by their names, with slashes between directories. -/
def templatesIn (files : Files) (directory : Path) : UserTemplate.Templates :=
  match files.locate directory with
  | .error _ => []
  | .ok root => files.tree.entries.filterMap fun (place, e) =>
    match e with
    | .file content =>
      if root.isPrefixOf place && root ≠ place then
        some ("/".intercalate (place.drop root.length), Text.decodeUtf8 content)
      else none
    | .directory => none

/-- Everything that a generation needs. -/
structure Prepared where
  viewModels : List ViewModel
  settings : Emission.Settings
  platforms : List Selector
  /-- The backends as they are with other files. -/
  backendsWith : Files → List Backend

def readTimestamp (text : String) : Except Fault Calendar.DateTime :=
  (Calendar.readIso text).mapError fun _ => .badTimestamp text

/-- The platforms of a request, or else the configured ones, or else all. -/
def platformsOf (r : GenerateRequest) (c : Configuration) : List Selector :=
  let names :=
    if !r.platforms.isEmpty then r.platforms
    else if !c.platforms.isEmpty then c.platforms
    else [Selector.everyPlatform]
  names.map Selector.named

/-- The output directory of a request, or else the configured one, or else a standard one. -/
def outputOf (files : Files) (r : GenerateRequest) (c : Configuration) : Path :=
  match r.output with
  | some text => .ofString text
  | none => c.output.getD (files.workingPath.child "generated")

/-- The number of workers of a request, or else the configured one, or else one. -/
def workersOf (r : GenerateRequest) (c : Configuration) : Int := r.workers.getD (c.workers.getD 1)

def backendsOf (s : Session) (c : Configuration) (given : Option Calendar.DateTime)
    (files : Files) : Except (DiscoveryFault Empty) (List Backend) :=
  discoverBackends id {
    namespaces := c.namespaces
    templates := c.templates.elim [] (templatesIn files)
    given
    epoch := s.epoch
    present := s.present
    directories := c.directories
    package := c.settings.android.package } ([] : List (Plugin Empty Backend)) none

/-- Writes the summary of a run to a file in a directory that is made if it is not there. -/
def writeSummary (files : Files) (calls : Option Nat) (path : Path) (summary : Summary) :
    Files × Option FileFault :=
  match files.makeDirectories calls path.parent with
  | (files, some fault) => (files, some fault)
  | (files, none) =>
    match files.write path summary.json.document.toUTF8 with
    | .ok files => (files, none)
    | .error fault => (files, some fault)

def reportText (summary : Summary) : String :=
  "Generated adapters for " ++ toString summary.viewModels ++ " view-model(s) (" ++
    ", ".intercalate (summary.generated.map fun g => g.1.name ++ ": " ++ toString g.2) ++ ")" ++
    (if summary.isDryRun then " (dry-run)" else "") ++ "\n" ++
  toString (summary.count .clean) ++ " clean, " ++
    toString (summary.count .diagnostics) ++ " with diagnostics, " ++
    toString summary.failures.length ++ " failed\n"

/-- The end of a run: the report, and a failure if an adapter has failed. -/
def exitOf {ε : Type} (summary : Summary) : Exit ε :=
  let failed := summary.failures.map fun o => o.viewModel ++ " [" ++ o.platform.name ++ "]"
  if summary.hasFailures then
    { Exit.failure ("Adapter generation failed for: " ++ ", ".intercalate failed) with
      output := reportText summary }
  else .success (reportText summary)

/-- Writes the summary if it is asked for. -/
def conclude (files : Files) (calls : Option Nat) (r : GenerateRequest) (summary : Summary) :
    Files × Option FileFault :=
  match r.summary with
  | none => (files, none)
  | some text => writeSummary files calls (.ofString text) summary

/-- The end of a run whose summary was written or could not be. -/
def exitAfter {ε : Type} (summary : Summary) : Option FileFault → Exit ε
  | none => exitOf summary
  | some fault => .escape (.file fault)

section Environment

variable {ε δ : Type} [ToString δ] (env : Environment ε δ)

/-- Prepares a generation. -/
def prepare (s : Session) (r : GenerateRequest) : Except (Exit ε) Prepared := do
  let given ← (r.timestamp.mapM readTimestamp).mapError (.misuse .program)
  let configPath := r.config.elim s.files.workingPath .ofString
  let c ← (Configuration.load env.reader s.files s.home configPath).mapError .ofConfiguration
  let viewModels ← (Metadata.load env.reader env.limits s.files s.home
    (.ofString r.metadata)).mapError .ofMetadata
  let backends ← (backendsOf s c given s.files).mapError .ofDiscovery
  if r.isWorkersEmpty then throw (.escape .emptyWorkers)
  let settings ← (Emission.Settings.make (outputOf s.files r c) env.limits.directories
    (backends.map (Emission.Emitter.ofBackendBy env.renderer)) (workersOf r c)
    r.isDryRun).mapError .ofRun
  return {
    viewModels, settings, platforms := platformsOf r c
    backendsWith := fun files => (backendsOf s c given files).toOption.getD [] }

/-- An emitter with the templates that there are once a log is written to the log file. -/
def Prepared.revise (p : Prepared) (files : Log → Files) : Emission.Revision := fun log e =>
  ((p.backendsWith (files log)).find? fun b => b.platform = e.platform).elim e
    (.ofBackendBy env.renderer)

/-- Generates adapters; `keep` writes the log of the run to the log file. -/
def generate (s : Session) (r : GenerateRequest) (keep : Files → Log → Files) : TaskEnd ε :=
  match prepare env s r with
  | .error exit => ⟨s.files, [], exit⟩
  | .ok p =>
    let done := Emission.runRevising (p.revise env (keep s.files)) p.settings s.files p.viewModels
      p.platforms
    let files := keep done.files done.log
    match done.result with
    | .error fault => ⟨files, done.log, .ofRun fault⟩
    | .ok summary =>
      let (files, fault) := conclude files env.limits.directories r summary
      ⟨files, done.log, exitAfter summary fault⟩

/-- Reports the usage of attributes. -/
def stats (s : Session) (metadata : String) (keep : Files → Log → Files) : TaskEnd ε :=
  match Metadata.load env.reader env.limits s.files s.home (.ofString metadata) with
  | .error fault => ⟨s.files, [], .ofMetadata fault⟩
  | .ok viewModels =>
    let usage := Usage.ofAll viewModels
    let log : Log := usage.report.map fun line => ⟨.info, .command, line⟩
    ⟨keep s.files log, log, .success usage.json.document⟩

def perform (s : Session) (task : Task) (keep : Files → Log → Files) : TaskEnd ε :=
  match task with
  | .generate r => generate env s r keep
  | .stats metadata => stats env s metadata keep

/-! ## Running a command line -/

/-- What a session leaves: the files, and its end with all that it said. -/
structure Finish (ε : Type) where
  files : Files
  exit : Exit ε

/-- Opens the log file of a request, if there is one. -/
def openLog (files : Files) : Option String → Except FileFault (Files × Option LogFile)
  | none => .ok (files, none)
  | some text => do
    let (files, log) ← LogFile.open files text
    return (files, some log)

def run (s : Session) (arguments : List String) : Finish ε :=
  match Request.parse arguments with
  | .error stop => ⟨s.files, .ofStop stop⟩
  | .ok request =>
    match openLog s.files request.logFile with
    | .error fault => ⟨s.files, .escape (.file fault)⟩
    | .ok (files, logFile) =>
      let keep (files : Files) (log : Log) : Files :=
        logFile.elim files fun f => f.write s.logTime files (log.visible request.isVerbose)
      let done := perform env { s with files } request.task keep
      let console := consoleText (done.log.visible request.isVerbose)
      ⟨done.files, { done.exit with errors := console ++ done.exit.errors }⟩

end Environment
end ViewAdapters.CommandLine
