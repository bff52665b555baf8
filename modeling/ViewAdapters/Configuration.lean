import ViewAdapters.Document.Stored
import ViewAdapters.Files.Home
import ViewAdapters.Target.Namespace

/-!
# Configurations

The settings of a directory are kept in a file of a fixed name. Settings that
are left out have defaults, and a file that is not there leaves out all of them.

* `ofValue_void`: a document that counts as nothing leaves out everything.
-/

namespace ViewAdapters

open Document (Value Entries)

/-- What is configured for one platform. -/
structure PlatformSettings where
  directory : Option String
  namespaces : NamespaceTable
  package : Option String
  deriving DecidableEq, Repr

structure Configuration where
  /-- The directory of the configuration, which its paths start from. -/
  root : Path
  output : Option Path
  platforms : List String
  workers : Option Int
  templates : Option Path
  settings : PerPlatform PlatformSettings
  deriving DecidableEq, Repr

namespace Configuration

def fileName : String := ".adaptergen.yml"

/-- What is wrong with the settings of a file. -/
inductive Fault where
  | notMapping
  | workers
  | settings (platform : Platform)
  | namespaces (platform : Platform)
  | replacement (platform : Platform) (source : String)
  /-- A setting is to be the text of an integer that has none. -/
  | numeral (fault : Text.NumeralFault)
  deriving DecidableEq, Repr

def namespacesKey : String := "namespace_remap"

def Fault.message : Fault → String
  | .notMapping => fileName ++ " must contain a mapping at the root"
  | .workers => "'workers' must be a positive integer"
  | .settings platform => "'" ++ platform.name ++ "' must be a mapping"
  | .namespaces platform =>
    "'" ++ platform.name ++ "." ++ namespacesKey ++ "' must be a mapping"
  | .replacement platform source =>
    "'" ++ platform.name ++ "." ++ namespacesKey ++ "." ++ source ++ "' must be a string"
  | .numeral fault => fault.message

abbrev Result := Except Fault

/-! ## Reading settings -/

/-- A text, as far as its integers have one. -/
def ofShown {α : Type} : Text.Shown α → Result α
  | .ok text => .ok text
  | .error fault => .error (.numeral fault)

/-- What replaces a namespace; null stands for the empty text. -/
def replacementOf : Value → Result (Option String)
  | .null => .ok (some "")
  | v => ofShown v.asText

def readNamespaces (platform : Platform) (table : NamespaceTable) :
    Entries → Result NamespaceTable
  | [] => .ok table
  | (source, target) :: rest => do
    let target ← replacementOf target
    let source ← ofShown source.display
    match target with
    | none => throw (.replacement platform source)
    | some text => readNamespaces platform (table.set source text) rest

/-- A mapping that may be left out. -/
def optionalMapping (fault : Fault) (v : Value) : Result Entries :=
  match v.unrolled with
  | .null => .ok []
  | .mapping entries => .ok entries
  | _ => .error fault

def readSettings (platform : Platform) (v : Value) : Result PlatformSettings := do
  let entries ← optionalMapping (.settings platform) v
  let replacements ← optionalMapping (.namespaces platform) (Value.field entries namespacesKey)
  let namespaces ← readNamespaces platform [] replacements
  let directory ← ofShown (Value.field entries "output_dir").asText
  let package ← ofShown (Value.field entries "package").asText
  return { directory, namespaces, package }

def readWorkers : Value → Result (Option Int)
  | .null => .ok none
  | v =>
    match v.asInteger with
    | some n => if 1 ≤ n then .ok (some n) else .error .workers
    | none => .error .workers

/-- Names of platforms: a text or the texts in a list. -/
def readPlatforms (v : Value) : List String :=
  match v.unrolled with
  | .text s => [s]
  | .list items => items.filterMap fun
    | .text s => some s
    | _ => none
  | _ => []

/-- A path from a directory, given by a text that is not empty. -/
def readPath (root : Path) (v : Value) : Result (Option Path) := do
  let text ← ofShown v.asText
  return (text.filter fun s => !s.isEmpty).map root.child

def readEntries (root : Path) (entries : Entries) : Result Configuration := do
  let output ← readPath root (Value.field entries "output")
  let templates ← readPath root (Value.field entries "templates_dir")
  let workers ← readWorkers (Value.field entries "workers")
  let android ← readSettings .android (Value.field entries Platform.android.name)
  let ios ← readSettings .ios (Value.field entries Platform.ios.name)
  return {
    root
    output
    platforms := readPlatforms (Value.field entries "platforms")
    workers
    templates
    settings := ⟨android, ios⟩ }

/-- Settings of which all are left out. -/
def standard (root : Path) : Configuration where
  root := root
  output := none
  platforms := []
  workers := none
  templates := none
  settings := .ofFun fun _ => ⟨none, [], none⟩

/-- The configuration in the document of a directory. -/
def ofValue (root : Path) (document : Value) : Result Configuration :=
  if document.isVoid then .ok (standard root)
  else
    match document.unrolled with
    | .mapping entries => readEntries root entries
    | _ => .error .notMapping

theorem ofValue_void {document : Value} (h : document.isVoid = true) (root : Path) :
    ofValue root document = .ok (standard root) := by
  simp [ofValue, h]

/-! ## Loading files -/

/-- Why a configuration cannot be loaded. -/
inductive LoadFault (ε : Type) where
  | document (fault : Document.StoredFault ε)
  | settings (fault : Fault)
  deriving DecidableEq, Repr

def LoadFault.message {ε : Type} [ToString ε] : LoadFault ε → String
  | .document fault => fault.message
  | .settings fault => fault.message

section Loading

variable {ε : Type}

def ofFiles {α : Type} (x : Except FileFault α) : Except (LoadFault ε) α :=
  x.mapError fun fault => .document (.file fault)

theorem ofFiles_ok {α : Type} (a : α) : ofFiles (.ok a) = (.ok a : Except (LoadFault ε) α) := rfl

/-- A path from the root without double dots and with a single slash in front. -/
def resolve (files : Files) (path : Path) : Except FileFault Path :=
  match Files.textFault? path.text with
  | some fault => .error fault
  | none => .ok { files.absolute path with root := Path.separator }

/-- The file of the configuration that a path to it or to its directory leads to. -/
def fileOf (files : Files) (home path : Path) : Except FileFault Path := do
  let path ← Path.expandHome home path
  if ← files.isDirectory path then resolve files (path.child fileName) else resolve files path

/-- The configuration that a path to a file or its directory leads to. -/
def load (reader : Document.Reader ε) (files : Files) (home path : Path) :
    Except (LoadFault ε) Configuration := do
  let file ← ofFiles (fileOf files home path)
  match ← ofFiles (files.find? file) with
  | none => return standard file.parent
  | some _ =>
    let document ← (Document.load reader files file).mapError .document
    (ofValue file.parent document).mapError .settings

end Loading

/-! ## What is configured -/

/-- The directories of platforms, as far as they are configured. -/
def directories (c : Configuration) : List (String × String) :=
  Platform.all.filterMap fun p =>
    ((c.settings.get p).directory.filter fun s => !s.isEmpty).map fun d => (p.name, d)

/-- The replaced namespaces of platforms, as far as they are configured. -/
def namespaceTables (c : Configuration) : List (Platform × NamespaceTable) :=
  (Platform.all.map fun p => (p, (c.settings.get p).namespaces)).filter fun e => !e.2.isEmpty

/-- The standard namespaces overridden and extended by the configured ones. -/
def namespaces (c : Configuration) : NamespaceMap :=
  .ofFun fun p => (NamespaceMap.standard.get p).setAll (c.settings.get p).namespaces

end Configuration
end ViewAdapters
