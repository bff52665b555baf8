import ViewAdapters.CommandLine.Session

/-!
# Reach

The paths that a session reads and writes. What files hold there, what leads
there and what directories there contain decides all that a session does.
-/

namespace ViewAdapters.CommandLine

def Task.metadata : Task → String
  | .generate r => r.metadata
  | .stats metadata => metadata

/-- A path given by its text, from the home directory if it says so. -/
def fromHome (home : Path) (text : String) : List Path :=
  (Path.expandHome home (.ofString text)).toOption.toList

/-- The paths of the configuration of a task, which is a file or in a directory. -/
def configPaths (files : Files) (home : Path) : Task → List Path
  | .stats _ => []
  | .generate r =>
    (r.config.elim [files.workingPath] (fromHome home)).flatMap fun p =>
      [p, p.child Configuration.fileName]

/-- The paths that a session reads before anything else. -/
def Request.sources (files : Files) (home : Path) (r : Request) : List Path :=
  fromHome home r.task.metadata ++ configPaths files home r.task ++
    (r.logFile.map fun text => files.absolute (.ofString text)).toList

section Environment

variable {ε δ : Type} [ToString δ] (env : Environment ε δ)

/-- The paths of a prepared generation: the output directories, the templates and the summary. -/
def targetsOf (s : Session) (r : GenerateRequest) : List Path :=
  match prepare env s r, Configuration.load env.reader s.files s.home
      (r.config.elim s.files.workingPath .ofString) with
  | .ok p, .ok c =>
    (p.settings.emitters.map fun e => e.path p.settings.root) ++ c.templates.toList ++
      (r.summary.map Path.ofString).toList
  | _, _ => []

/-- The paths that a session gets to after it has read its sources. -/
def Request.targets (s : Session) (r : Request) : List Path :=
  match r.task with
  | .generate g => targetsOf env s g
  | .stats _ => []

end Environment

/-- The places that lead to a path, and its own. -/
def placesTo (files : Files) (p : Path) : List Place :=
  let parts := (files.workingPath.join p).parts
  (List.range (parts.length + 1)).map fun n => Path.collapse (parts.take n)

end ViewAdapters.CommandLine
