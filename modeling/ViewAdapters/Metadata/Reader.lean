import ViewAdapters.Metadata.Field
import ViewAdapters.Model.ViewModel

/-!
# View-models of a document

Builds view-models from a decoded document, which is a mapping with a list of
them or that list itself. The first fault, in the order in which the fields
are listed here, ends the reading. Calls can only be nested so deep, so what is
nested deeper in a document ends it as well.

* `parseType_cases`: the limits only tell whether the text of a type is read.
* `readViewModelsWithin_list`: a bare list is read item by item.
-/

namespace ViewAdapters.Metadata

open Document (Value Entries)

/-- An underscore in front of every ASCII capital but the first character. -/
def splitWords : List Char → List Char
  | [] => []
  | c :: r => c :: r.flatMap fun d => if d.isUpper then ['_', d] else [d]

/-- Single underscores for pairs of them, from left to right. -/
def joinUnderscores : List Char → List Char
  | '_' :: '_' :: r => '_' :: joinUnderscores r
  | c :: r => c :: joinUnderscores r
  | [] => []

/-- The short names of meanings. -/
def dateSemanticsAliases : List (String × DateSemantics) :=
  [("utc", .utcInstant), ("instant", .utcInstant), ("local", .localDateTime)]

/-- The meaning that a text names in any style of joining words. -/
def dateSemantics? (text : String) : Option DateSemantics :=
  let words := Text.lowerAfter [] (splitWords (Text.trimChars text.toList))
  let name := String.ofList (joinUnderscores (words.map fun c => if c = '-' then '_' else c))
  (dateSemanticsAliases.lookup name).or (DateSemantics.ofName? name)

def readDateSemantics (place : Place) (v : Value) : Except Error (Option DateSemantics) := do
  match ← readText v with
  | none => return none
  | some text =>
    match dateSemantics? text with
    | some semantics => return some semantics
    | none => throw (.fault place (.dateSemantics text))

/-- The reading of a type's text, unless it has more layers than calls can be nested. -/
def parseType (limits : Limits) (text : String) :
    Option (Except TypeText.Error TypeText.Reading) :=
  match limits.types with
  | none => some (TypeText.parse text)
  | some calls => TypeText.parseWithin calls text.toList

/-- Either a text is read as it is without limits, or it has more layers than there can be. -/
theorem parseType_cases (limits : Limits) (text : String) :
    parseType limits text = some (TypeText.parse text) ∨
      parseType limits text = none ∧
        ∃ calls, limits.types = some calls ∧ calls < TypeText.layers text.toList := by
  unfold parseType
  cases hTypes : limits.types with
  | none => exact .inl rfl
  | some calls =>
    dsimp only
    rw [TypeText.parseWithin_eq]
    by_cases hEnough : TypeText.layers text.toList ≤ calls
    · exact .inl (if_pos hEnough)
    · exact .inr ⟨if_neg hEnough, calls, rfl, Nat.lt_of_not_le hEnough⟩

section Reading

variable (limits : Limits)

def readType (place : Place) (text : String) : Except Error TypeText.Reading :=
  match parseType limits text with
  | none => .error (.tooDeep .call)
  | some (.ok reading) => .ok reading
  | some (.error error) => .error (.fault place (.type error))

variable {limits} in
theorem parse_of_readType {place : Place} {text : String} {reading : TypeText.Reading}
    (h : readType limits place text = .ok reading) : TypeText.parse text = .ok reading := by
  unfold readType at h
  split at h
  · cases h
  · rename_i found hParse
    cases h
    rcases parseType_cases limits text with hSome | ⟨hNone, -⟩
    · exact Option.some.inj (hSome.symm.trans hParse)
    · cases hNone.symm.trans hParse
  · cases h

/-- The override of a type, if it names a type for some platform. -/
def readOverride (place : Place) (v : Value) : Except Error (Option TypeOverride) := do
  match ← optionalMapping place v with
  | none => return none
  | some entries =>
    let android ← readText (Value.field entries Platform.android.name)
    let ios ← readText (Value.field entries Platform.ios.name)
    return if android.isNone && ios.isNone then none else some ⟨android, ios⟩

/-- Adds the platforms that a list names. -/
def readExcluded (place : Place) : Exclusion → List Value → Except Error Exclusion
  | excluded, [] => .ok excluded
  | excluded, item :: items =>
    match item.displayWithin limits.values with
    | .error .tooDeep => .error (.tooDeep .display)
    | .error (.numeral fault) => .error (.fault place (.numeral fault))
    | .ok text =>
      match Platform.ofText text with
      | .ok platform => readExcluded place (excluded.set platform true) items
      | .error error => .error (.fault place (.platform error))

/-- The platforms listed as excluded and those declared not to be available. -/
def readExclusion (place : Place) (entries : Entries) : Except Error Exclusion := do
  let listPlace := place.key "excluded_platforms"
  let items ← optionalList listPlace (Value.field entries "excluded_platforms")
  let listed ← readExcluded limits listPlace Exclusion.none items
  match ← optionalMapping (place.key "available") (Value.field entries "available") with
  | none => return listed
  | some available =>
    return .ofFun fun p =>
      listed.get p || asTruth (Value.field available p.name) == some false

/-- The note of a member that is marked for custom work without a text. -/
def defaultWarning : String := "Custom implementation needed"

def readWarning (entries : Entries) : Except Error (Option String) :=
  match Value.field entries "warning" with
  | .bool true => .ok (some defaultWarning)
  | v => readText v

def readValidation (place : Place) (v : Value) : Except Error (Option Validation) := do
  match ← optionalMapping place v with
  | none => return none
  | some entries =>
    return some {
      validateOnSet := (asTruth (Value.field entries "validate_on_set")).getD true
      validator := ← readText (Value.field entries "validator_method") }

def readBatching (place : Place) (v : Value) : Except Error (Option Batching) := do
  match ← optionalMapping place v with
  | none => return none
  | some entries =>
    return some {
      isSupported := isTrue (Value.field entries "supports_batching")
      size := (Value.field entries "batch_size").asInteger }

def readThreading (place : Place) (v : Value) : Except Error (Option Threading) := do
  match ← optionalMapping place v with
  | none => return none
  | some entries =>
    return some {
      requiresMain := isTrue (Value.field entries "requires_main_thread")
      requiresBackground := isTrue (Value.field entries "requires_background_thread") }

def readBehavior (place : Place) (v : Value) : Except Error (Option CommandBehavior) := do
  match ← optionalMapping place v with
  | none => return none
  | some entries =>
    return some {
      requiresMain := isTrue (Value.field entries "requires_main_thread")
      exposesCanExecute := isTrue (Value.field entries "expose_can_execute") }

/-- The element type of a property whose type was read: that of a collection
which is observable by its type or by declaration. -/
def elementOf (place : Place) (reading : TypeText.Reading) (isDeclared : Bool) :
    Except Error (Option Descriptor) :=
  if reading.2 || isDeclared then
    match reading.1 with
    | .collection element => .ok (some element)
    | _ => .error (.fault place .notCollection)
  else .ok none

def readProperty (place : Place) (v : Value) : Except Error Property := do
  let entries ← requireMapping place v
  let name ← requireText (place.key "name") (Value.field entries "name")
  let typeText ← requireText (place.key "type") (Value.field entries "type")
  let reading ← readType limits (place.key "type") typeText
  let element ← elementOf place reading (isTrue (Value.field entries "observable_collection"))
  let validation ← readValidation (place.key "validation") (Value.field entries "validation")
  let batching ← readBatching (place.key "collection_behavior")
    (Value.field entries "collection_behavior")
  let typeOverride ← readOverride (place.key "type_override") (Value.field entries "type_override")
  let dateSemantics ← readDateSemantics (place.key "date_semantics")
    (Value.field entries "date_semantics")
  let excluded ← readExclusion limits place entries
  let warning ← readWarning entries
  return {
    name, type := reading.1, isReadOnly := isTrue (Value.field entries "read_only"), element,
    typeOverride, dateSemantics, validation, batching, excluded, warning }

/-- The type of a command's parameter; an empty text means that there is none. -/
def readParameter (place : Place) (v : Value) : Except Error (Option Descriptor) := do
  match ← readFilledText v with
  | none => return none
  | some text => return some (← readType limits place text).1

def readCommand (place : Place) (v : Value) : Except Error Command := do
  let entries ← requireMapping place v
  let name ← requireText (place.key "name") (Value.field entries "name")
  let parameter ← readParameter limits (place.key "parameter_type")
    (Value.field entries "parameter_type")
  let threading ← readThreading (place.key "threading") (Value.field entries "threading")
  let behavior ← readBehavior (place.key "command_behavior")
    (Value.field entries "command_behavior")
  let excluded ← readExclusion limits place entries
  let warning ← readWarning entries
  return {
    name, isAsync := isTrue (Value.field entries "async"), parameter, threading, behavior,
    excluded, warning }

/-- A text that is not empty, or else another one. -/
def textOr (v : Value) (otherwise : String) : Except Error String :=
  (readFilledText v).map fun text => text.getD otherwise

def readViewModel (place : Place) (v : Value) : Except Error ViewModel := do
  let entries ← requireMapping place v
  let name ← requireText (place.key "name") (Value.field entries "name")
  let propertyItems ← optionalList (place.key "properties") (Value.field entries "properties")
  let properties ← readEach (place.key "properties") (readProperty limits) 0 propertyItems
  let commandItems ← optionalList (place.key "commands") (Value.field entries "commands")
  let commands ← readEach (place.key "commands") (readCommand limits) 0 commandItems
  let qualifiedName ← textOr (Value.field entries "fully_qualified_name") name
  let originModule ← textOr (Value.field entries "origin_module") ViewModel.unknownModule
  let excluded ← readExclusion limits place entries
  return { name, qualifiedName, originModule, properties, commands, excluded }

/-- The list of view-models in a document. A mapping without one has none. -/
def viewModelItems (document : Value) : Except Error (List Value) :=
  match document.unrolled with
  | .null => .ok []
  | .list items => .ok items
  | .mapping entries =>
    match entries.find? fun e => Value.isText viewModelsKey e.1 with
    | none => .ok []
    | some e =>
      match e.2.unrolled with
      | .list items => .ok items
      | _ => .error .viewModels
  | _ => .error .document

/-- The view-models of a document, as far as it is nested no deeper than the limits. -/
def readViewModelsWithin (document : Value) : Except Error (List ViewModel) := do
  readEach [] (readViewModel limits) 0 (← viewModelItems document)

theorem readViewModelsWithin_list (items : List Value) :
    readViewModelsWithin limits (.list items) = readEach [] (readViewModel limits) 0 items := rfl

end Reading

/-- The view-models of a document, however deep it is nested. -/
def readViewModels (document : Value) : Except Error (List ViewModel) :=
  readViewModelsWithin .unbounded document

end ViewAdapters.Metadata
