import ViewAdapters.Document.Value
import ViewAdapters.Files.Operation
import ViewAdapters.Text.Blank
import ViewAdapters.Text.Utf8

/-!
# Documents in files

A document is a file of UTF-8 text, which a reader makes a value of. What the
reader refuses is told with the name of the file, and its other failures are
passed on. A file of blanks alone is a document without anything in it.
-/

namespace ViewAdapters.Document

/-- Why a reader makes no value of a text. -/
inductive ReadFault (ε : Type) where
  /-- The text breaks a rule of the format. -/
  | malformed (complaint : String)
  | other (failure : ε)
  deriving DecidableEq, Repr

/-- What makes the value of a document of its text. -/
abbrev Reader (ε : Type) := String → Except (ReadFault ε) Value

/-- Why a file holds no document. -/
inductive StoredFault (ε : Type) where
  | file (fault : FileFault)
  | encoding (fault : Text.Utf8Fault)
  /-- The text of the file of this name breaks a rule of the format. -/
  | malformed (name complaint : String)
  /-- The reader has failed in another way. -/
  | reader (failure : ε)
  deriving DecidableEq, Repr

/-- What is said of a file whose text breaks a rule of the format. -/
def malformedMessage (name complaint : String) : String :=
  "Failed to parse " ++ name ++ ": " ++ complaint

def StoredFault.message {ε : Type} [ToString ε] : StoredFault ε → String
  | .file fault => fault.message
  | .encoding fault => fault.message
  | .malformed name complaint => malformedMessage name complaint
  | .reader failure => toString failure

section Reading

variable {ε : Type} (reader : Reader ε)

/-- The document in the text of the file of a name. -/
def ofText (name text : String) : Except (StoredFault ε) Value :=
  if text.toList.all Text.isBlank then .ok (.mapping [])
  else
    (reader text).mapError fun
      | .malformed complaint => .malformed name complaint
      | .other failure => .reader failure

/-- The document in a file. -/
def load (files : Files) (path : Path) : Except (StoredFault ε) Value := do
  let bytes ← (files.read path).mapError .file
  let text ← (Text.readText bytes).mapError .encoding
  ofText reader path.name text

end Reading
end ViewAdapters.Document
