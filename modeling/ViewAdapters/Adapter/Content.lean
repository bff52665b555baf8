import ViewAdapters.Adapter.View
import ViewAdapters.Calendar.UtcSecond

/-!
# Content of adapters

Everything that the text of an adapter is made of: the names, the imports and
the views of the members that are not excluded.

* `Assembly.propertyPart_name`: the view of a property has the property's name.
-/

namespace ViewAdapters

structure Content where
  platform : Platform
  viewModel : ViewModel
  /-- The type that the adapter wraps. -/
  sourceType : String
  time : Calendar.UtcSecond
  package : String
  imports : ImportSet
  properties : List PropertyView
  commands : List CommandView
  deriving DecidableEq, Repr

namespace Content

def adapterName (c : Content) : String := c.viewModel.adapterName

def twoWayProperties (c : Content) : List PropertyView := c.properties.filter (·.isTwoWay)

def collections (c : Content) : List PropertyView := c.properties.filter (·.isObservable)

/-- The names of the properties with an override or a meaning of dates. -/
def customMembers (c : Content) : List String :=
  (c.properties.filter (·.isCustom)).map (·.name)

/-- The names of the members with a warning, properties first. -/
def warnedMembers (c : Content) : List String :=
  (c.properties.filter (·.warning.isSome)).map (·.name) ++
    (c.commands.filter (·.warning.isSome)).map (·.name)

end Content

/-- The imports that the structure of a Kotlin adapter requires. -/
def kotlinImports (properties : List PropertyView) (commands : List CommandView) : List String :=
  let isTwoWay := properties.any (·.isTwoWay)
  let isMainSync := commands.any fun c => !c.isAsync && c.dispatch == .main
  ["androidx.lifecycle.ViewModel", "javax.inject.Inject"] ++
    (if properties.isEmpty then []
      else ["kotlinx.coroutines.flow.MutableStateFlow", "kotlinx.coroutines.flow.StateFlow",
        "kotlinx.coroutines.flow.asStateFlow"]) ++
    (if isTwoWay then
        ["kotlinx.coroutines.flow.drop", "kotlinx.coroutines.flow.launchIn",
          "kotlinx.coroutines.flow.onEach"]
      else []) ++
    (if isTwoWay || isMainSync then ["androidx.lifecycle.viewModelScope"] else []) ++
    (if isMainSync then ["kotlinx.coroutines.launch"] else []) ++
    (if commands.any (·.isAsync) then ["kotlinx.coroutines.withContext"] else [])

/-- The imports that the structure of an adapter requires whatever types occur in it. -/
def structuralImports (platform : Platform) (properties : List PropertyView)
    (commands : List CommandView) : List String :=
  match platform with
  | .android => kotlinImports properties commands
  | .ios => ["Combine"]

/-- The content of an adapter with its needs and findings. -/
structure Assembly where
  content : Content
  capabilities : CapabilitySet
  diagnostics : DiagnosticLog

namespace Assembly

/-- Why the content of an adapter cannot be put together. -/
inductive Fault where
  | type (fault : Target.Fault)
  /-- The size of batches has no text. -/
  | numeral (fault : Text.NumeralFault)
  deriving DecidableEq, Repr

def ofType {α : Type} : Except Target.Fault α → Except Fault α
  | .ok a => .ok a
  | .error fault => .error (.type fault)

def ofShown {α : Type} : Text.Shown α → Except Fault α
  | .ok a => .ok a
  | .error fault => .error (.numeral fault)

/-- The view of a property with its resolved type and its findings. -/
abbrev PropertyPart := PropertyView × Target.Resolution

/-- The view of a command with the resolved type of its parameter and its findings. -/
abbrev CommandPart := CommandView × Option Target.Resolved × List Diagnostic

/-- The type of the elements of an observable collection, which its view resolves once more. -/
def viewedElement (t : Target) (p : Property) : Except Target.Fault (Option Target.Resolution) :=
  if p.isObservable then (t.elementType p).map some else .ok none

/-- A property with its resolved type and its findings. -/
def propertyPart (t : Target) (p : Property) : Except Fault PropertyPart := do
  let r ← ofType (t.propertyType p)
  let element ← ofType (viewedElement t p)
  let view ← ofShown (PropertyView.of t.platform p r.1.name (element.map (·.1.name)))
  return (view, r.1, r.2 ++ (element.map (·.2)).getD [])

/-- A command with the resolved type of its parameter and its findings. -/
def commandPart (t : Target) (c : Command) : Except Fault CommandPart := do
  let r ← ofType (t.parameterType c)
  return (.of c (r.map (·.1.name)), r.map (·.1),
    (r.map (·.2)).getD [] ++ (c.dispatchFinding t.platform).toList)

/-- Puts the content of a view-model's adapter together from its members. -/
def ofParts (t : Target) (package : String) (time : Calendar.UtcSecond) (v : ViewModel)
    (properties : List PropertyPart) (commands : List CommandPart) : Assembly :=
  let source := t.reference v.qualifiedName
  let needs := Target.merge
    (properties.map (fun p => some p.2.1) ++ commands.map (·.2.1) ++ [some source])
  let propertyViews := properties.map (·.1)
  let commandViews := commands.map (·.1)
  let isDispatching := commandViews.any (·.dispatch != .inline)
  { content := {
      platform := t.platform, viewModel := v, sourceType := source.name, time, package
      imports := (needs.imports.insertAll
        (if isDispatching then [Target.dispatchImport t.platform] else [])).insertAll
        (structuralImports t.platform propertyViews commandViews)
      properties := propertyViews, commands := commandViews }
    capabilities := needs.capabilities.insertAll
      (if isDispatching then [.threadDispatch] else [])
    diagnostics := .ofList (properties.flatMap (·.2.2) ++ commands.flatMap (·.2.2)) }

/-- Puts the content of a view-model's adapter together. -/
def make (t : Target) (package : String) (time : Calendar.UtcSecond) (v : ViewModel) :
    Except Fault Assembly := do
  let properties ← (v.propertiesFor t.platform).mapM (propertyPart t)
  let commands ← (v.commandsFor t.platform).mapM (commandPart t)
  return ofParts t package time v properties commands

theorem propertyPart_name {t : Target} {p : Property} {part : PropertyPart}
    (h : propertyPart t p = .ok part) : part.1.name = p.name := by
  unfold propertyPart at h
  cases hType : t.propertyType p <;> simp only [hType, ofType, bind, Except.bind] at h
  · cases h
  · cases hElement : viewedElement t p <;> simp only [hElement] at h
    · cases h
    · rename_i r element
      cases hView : PropertyView.of t.platform p r.1.name (element.map (·.1.name)) <;>
        simp only [hView, ofShown] at h <;> cases h
      exact PropertyView.of_name hView

end Assembly
end ViewAdapters
