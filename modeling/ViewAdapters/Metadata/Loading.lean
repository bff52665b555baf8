import ViewAdapters.Document.Stored
import ViewAdapters.Files.Home
import ViewAdapters.Metadata.Reader

/-!
# Loading of metadata documents

Reads the view-models of a document in a file.
-/

namespace ViewAdapters.Metadata

/-- Why the view-models of a file cannot be loaded. -/
inductive LoadFault (ε : Type) where
  | notFound (path : Path)
  | document (fault : Document.StoredFault ε)
  | metadata (error : Error)
  deriving DecidableEq, Repr

/-- What is said of a document that is not there. -/
def notFoundMessage (path : Path) : String := "Metadata document not found: " ++ path.text

def LoadFault.message {ε : Type} [ToString ε] : LoadFault ε → String
  | .notFound path => notFoundMessage path
  | .document fault => fault.message
  | .metadata error => error.message

variable {ε : Type}

def ofFiles {α : Type} (x : Except FileFault α) : Except (LoadFault ε) α :=
  x.mapError fun fault => .document (.file fault)

/-- The view-models of the document that a path leads to. -/
def load (reader : Document.Reader ε) (limits : Limits) (files : Files) (home path : Path) :
    Except (LoadFault ε) (List ViewModel) := do
  let path ← ofFiles (Path.expandHome home path)
  match ← ofFiles (files.find? path) with
  | none => throw (.notFound path)
  | some _ =>
    let document ← (Document.load reader files path).mapError .document
    (readViewModelsWithin limits document).mapError .metadata

end ViewAdapters.Metadata
