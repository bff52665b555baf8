import ViewAdapters.Diagnostic
import ViewAdapters.Model.ViewModel
import ViewAdapters.Target.Namespace

/-!
# Resolution of types

The target types of descriptors, properties and command parameters, together
with the findings that arise on the way.

* `Target.resolve_layers`: a resolved type is the resolved leaf inside its layers.
-/

namespace ViewAdapters.Target

/-- Why a type cannot be resolved. -/
inductive Fault where
  | unsupported (literal : String)
  | notObservable (property : String)
  deriving DecidableEq, Repr

def Fault.message : Fault → String
  | .unsupported literal => "Unsupported type descriptor: " ++ literal
  | .notObservable property => "Property '" ++ property ++ "' is not an observable collection"

/-- A target type and the findings of its resolution. -/
abbrev Resolution := Resolved × List Diagnostic

/-- The finding that a scalar of a member has no mapping. -/
def unmapped (platform : Platform) (member kind : String) : Diagnostic where
  code := Diagnostic.unmappedTypeCode
  member := member
  message := "no " ++ platform.name ++ " mapping for type '" ++ kind ++ "'; using " ++ fallbackType
  platform := platform.name

/-- The type that a scalar kind, in any case, is mapped to. -/
def scalar? (platform : Platform) (kind : String) : Option String :=
  (scalars platform).lookup (Text.lower kind)

/-- The target type of a scalar: the one for its meaning as a date, if it has one,
else the one for its kind, else the fallback. -/
def resolveScalar (platform : Platform) (semantics : Option DateSemantics) (member kind : String) :
    Resolution :=
  match semantics with
  | some semantics => (named platform (dateType platform semantics), [])
  | none =>
    match scalar? platform kind with
    | some name => (named platform name, [])
    | none => (.plain fallbackType, [unmapped platform member kind])

/-- The name of a type inside a layer. -/
def layerName (platform : Platform) (name : String) : Descriptor.Layer → String
  | .nullable => optionalOf name
  | .collection => listOf platform name

def Resolution.inLayer (platform : Platform) (layer : Descriptor.Layer) (r : Resolution) :
    Resolution :=
  (r.1.wrap (layerName platform r.1.name layer), r.2)

/-- The target type of a member's descriptor. -/
def resolve (t : Target) (semantics : Option DateSemantics) (member : String) :
    Descriptor → Except Fault Resolution
  | .nullable d => (t.resolve semantics member d).map (Resolution.inLayer t.platform .nullable)
  | .collection d => (t.resolve semantics member d).map (Resolution.inLayer t.platform .collection)
  | .reference qualifiedName => .ok (t.reference qualifiedName, [])
  | .primitive kind => .ok (resolveScalar t.platform semantics member kind)
  | .foreign literal => .error (.unsupported literal)

/-- The target type of a descriptor of a property, which an override replaces. -/
def resolveWithin (t : Target) (p : Property) (d : Descriptor) : Except Fault Resolution :=
  match p.overrideFor t.platform with
  | some name => .ok (named t.platform name, [])
  | none => t.resolve p.dateSemantics p.name d

/-- The target type of the elements of an observable collection. -/
def elementType (t : Target) (p : Property) : Except Fault Resolution :=
  match p.element with
  | none => .error (.notObservable p.name)
  | some element => t.resolveWithin p element

/-- The target type of a property; an observable collection is a list of its elements. -/
def propertyType (t : Target) (p : Property) : Except Fault Resolution :=
  match p.element with
  | none => t.resolveWithin p p.type
  | some element =>
    (t.resolveWithin p element).map (Resolution.inLayer t.platform .collection)

/-- The target type of a command's parameter, if it has one. -/
def parameterType (t : Target) (c : Command) : Except Fault (Option Resolution) :=
  match c.parameter with
  | none => .ok none
  | some d => (t.resolve none c.name d).map some

theorem resolve_layers (t : Target) (semantics : Option DateSemantics) (member : String)
    (d : Descriptor) :
    t.resolve semantics member d =
      (t.resolve semantics member d.leaf).map fun r =>
        d.layers.foldr (Resolution.inLayer t.platform) r := by
  induction d with
  | nullable d ih =>
    rw [resolve, ih]
    cases h : t.resolve semantics member d.leaf <;>
      simp [Descriptor.leaf, Descriptor.layers, h, Except.map]
  | collection d ih =>
    rw [resolve, ih]
    cases h : t.resolve semantics member d.leaf <;>
      simp [Descriptor.leaf, Descriptor.layers, h, Except.map]
  | _ => simp [resolve, Descriptor.leaf, Descriptor.layers, Except.map]

end ViewAdapters.Target
