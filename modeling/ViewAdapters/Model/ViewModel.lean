import ViewAdapters.Model.DateSemantics
import ViewAdapters.Model.Descriptor
import ViewAdapters.Model.Platform

/-!
# View-models and their members

What an adapter is generated from: a view-model with its properties and
commands. A property is an observable collection exactly if it has an element
type, so the type holds no property that is only half of one.

* `Property.withElement_ok_iff`: a declared flag and element type must agree.
* `ViewModel.mem_propertiesFor`: a platform has the properties not excluded for it.
-/

namespace ViewAdapters

/-- Target type names; a platform without one keeps the default mapping. -/
abbrev TypeOverride := PerPlatform (Option String)

structure Validation where
  validateOnSet : Bool
  validator : Option String
  deriving DecidableEq, Repr

def Validation.default : Validation := ⟨true, none⟩

structure Batching where
  isSupported : Bool
  size : Option Int
  deriving DecidableEq, Repr

def Batching.default : Batching := ⟨false, none⟩

structure Threading where
  requiresMain : Bool
  requiresBackground : Bool
  deriving DecidableEq, Repr

def Threading.default : Threading := ⟨false, false⟩

structure CommandBehavior where
  requiresMain : Bool
  exposesCanExecute : Bool
  deriving DecidableEq, Repr

def CommandBehavior.default : CommandBehavior := ⟨false, false⟩

structure Property where
  name : String
  type : Descriptor
  isReadOnly : Bool
  /-- The element type of an observable collection; no other property has one. -/
  element : Option Descriptor
  typeOverride : Option TypeOverride
  dateSemantics : Option DateSemantics
  validation : Option Validation
  batching : Option Batching
  excluded : Exclusion
  warning : Option String
  deriving DecidableEq, Repr

structure Command where
  name : String
  isAsync : Bool
  parameter : Option Descriptor
  threading : Option Threading
  behavior : Option CommandBehavior
  excluded : Exclusion
  warning : Option String
  deriving DecidableEq, Repr

structure ViewModel where
  name : String
  qualifiedName : String
  originModule : String
  properties : List Property
  commands : List Command
  excluded : Exclusion
  deriving DecidableEq, Repr

/-- The module of a view-model that names none. -/
def ViewModel.unknownModule : String := "Unknown"

namespace Property

def isObservable (p : Property) : Bool := p.element.isSome

/-- The target type name that a property sets for a platform; an empty one counts as none. -/
def overrideFor (p : Property) (platform : Platform) : Option String :=
  (p.typeOverride.bind (·.get platform)).filter fun s => !s.isEmpty

end Property

/-- Why a property is neither an observable collection nor a plain property. -/
inductive ElementError where
  | missing (property : String)
  | unexpected (property : String)
  deriving DecidableEq, Repr

def ElementError.message : ElementError → String
  | .missing property => "Observable collection '" ++ property ++ "' requires an element type"
  | .unexpected property => "Property '" ++ property ++
      "' has an element type but is not an observable collection"

/-- The property with a declared flag and element type. -/
def Property.withElement (p : Property) (isObservable : Bool) (element : Option Descriptor) :
    Except ElementError Property :=
  if isObservable && element.isNone then .error (.missing p.name)
  else if !isObservable && element.isSome then .error (.unexpected p.name)
  else .ok { p with element }

theorem Property.withElement_ok_iff {p q : Property} {isObservable : Bool}
    {element : Option Descriptor} :
    p.withElement isObservable element = .ok q ↔
      isObservable = element.isSome ∧ q = { p with element } := by
  unfold Property.withElement
  cases isObservable <;> cases element <;> simp [eq_comm]

namespace Command

def requiresMain (c : Command) : Bool :=
  (c.threading.any (·.requiresMain)) || c.behavior.any (·.requiresMain)

def requiresBackground (c : Command) : Bool := c.threading.any (·.requiresBackground)

def exposesCanExecute (c : Command) : Bool := c.behavior.any (·.exposesCanExecute)

end Command

namespace ViewModel

/-- The ending of a view-model's name that its adapter's name replaces. -/
def nameEnding : List Char := "ViewModel".toList

/-- The name of the adapter of a view-model with a name. -/
def adapterNameOf (name : String) : String :=
  String.ofList ((Text.stem? nameEnding name.toList).getD name.toList) ++ "Adapter"

def adapterName (v : ViewModel) : String := adapterNameOf v.name

def propertiesFor (v : ViewModel) (platform : Platform) : List Property :=
  v.properties.filter fun p => !p.excluded.get platform

def commandsFor (v : ViewModel) (platform : Platform) : List Command :=
  v.commands.filter fun c => !c.excluded.get platform

theorem mem_propertiesFor {v : ViewModel} {platform : Platform} {p : Property} :
    p ∈ v.propertiesFor platform ↔ p ∈ v.properties ∧ p.excluded.get platform = false := by
  simp [propertiesFor]

theorem mem_commandsFor {v : ViewModel} {platform : Platform} {c : Command} :
    c ∈ v.commandsFor platform ↔ c ∈ v.commands ∧ c.excluded.get platform = false := by
  simp [commandsFor]

end ViewModel
end ViewAdapters
