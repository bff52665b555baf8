import ViewAdapters.Limits
import ViewAdapters.Metadata.TypeText
import ViewAdapters.Model.DateSemantics
import ViewAdapters.Model.Platform
import ViewAdapters.Text.Integer

/-!
# Errors of metadata documents

An error names the place of the first offender in the document and says what
is wrong there.

* `Place.text_step`: a place inside another starts with the other's text.
* `Error.text_of_place`: the message of a fault starts with the text of its place.
-/

namespace ViewAdapters.Metadata

/-- One step from a value into it. -/
inductive Step where
  | item (index : Nat)
  | key (name : String)
  deriving DecidableEq, Repr

/-- A place in the list of view-models: the steps that lead to it. -/
abbrev Place := List Step

/-- The key of the view-models in a document. -/
def viewModelsKey : String := "view_models"

def Step.text : Step → String
  | .item index => "[" ++ toString index ++ "]"
  | .key name => "." ++ name

namespace Place

def text (place : Place) : String := viewModelsKey ++ String.join (place.map Step.text)

def item (place : Place) (index : Nat) : Place := place ++ [.item index]

def key (place : Place) (name : String) : Place := place ++ [.key name]

theorem text_step (place more : Place) :
    text (place ++ more) = text place ++ String.join (more.map Step.text) := by
  simp [text, String.append_assoc]

end Place

/-- What is wrong at a place of a document. -/
inductive Fault where
  | notMapping
  | notList
  | missing
  | type (error : TypeText.Error)
  | notCollection
  | dateSemantics (text : String)
  | platform (error : PlatformError)
  /-- A name of a platform is to be the text of an integer that has none. -/
  | numeral (fault : Text.NumeralFault)
  deriving DecidableEq, Repr

/-- What a message says after the place. -/
def Fault.complaint : Fault → String
  | .notMapping => " must be a mapping"
  | .notList => " must be a list"
  | .missing => " is required"
  | .type error => ": " ++ error.message
  | .notCollection => ": observable_collection requires a collection type"
  | .dateSemantics text => ": unknown date semantics '" ++ text ++ "' (expected one of " ++
      ", ".intercalate (DateSemantics.all.map DateSemantics.name) ++ ")"
  | .platform error => ": " ++ error.message
  | .numeral fault => ": " ++ fault.message

/-- Why a document is no list of view-models. -/
inductive Error where
  /-- The document is neither a mapping nor a list. -/
  | document
  /-- The view-models of the document are no list. -/
  | viewModels
  /-- A field is to be the text of an integer that has none. -/
  | numeral (fault : Text.NumeralFault)
  /-- Something in the document is nested deeper than calls can be. -/
  | tooDeep (fault : DepthFault)
  | fault (place : Place) (fault : Fault)
  deriving DecidableEq, Repr

def Error.message : Error → String
  | .document => "Metadata document must be a mapping or a list of view-models"
  | .viewModels => "'" ++ viewModelsKey ++ "' must be a list"
  | .numeral f => f.message
  | .tooDeep f => f.message
  | .fault place f => place.text ++ f.complaint

theorem Error.text_of_place (place more : Place) (f : Fault) :
    (Error.fault (place ++ more) f).message =
      place.text ++ (String.join (more.map Step.text) ++ f.complaint) := by
  rw [Error.message, Place.text_step, String.append_assoc]

end ViewAdapters.Metadata
