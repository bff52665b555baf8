import ViewAdapters.Adapter.Dispatch
import ViewAdapters.Target.Conversion
import ViewAdapters.Text.Casing
import ViewAdapters.Text.Integer

/-!
# Views of members

What the text of an adapter shows of a property or a command after its types
are resolved and its expressions are built.

* `PropertyView.of_name`: a view keeps the name of its property.
* `PropertyView.batchNoteOf_eq_ok`: a note on batches fails only for a size without a text.
-/

namespace ViewAdapters

/-- What happens after a value was written back to the source. -/
inductive AfterWrite where
  | nothing
  /-- A method of the source validates the value. -/
  | call (validator : String)
  /-- The source validates the value by itself. -/
  | bySource
  deriving DecidableEq, Repr

namespace AfterWrite

/-- What a note says about a validation by the source. -/
def noteText : String := "Validation runs in the source view-model setter."

/-- The method that is called. -/
def validator? : AfterWrite → Option String
  | .call validator => some validator
  | _ => none

/-- The note on the validation. -/
def note? : AfterWrite → Option String
  | .bySource => some noteText
  | _ => none

end AfterWrite

structure PropertyView where
  name : String
  identifier : String
  typeName : String
  /-- The type of the elements of an observable collection; no other property has one. -/
  elementTypeName : Option String
  isReadOnly : Bool
  /-- The first value. -/
  seed : String
  /-- The value after a change of the source. -/
  refresh : String
  toSource : String
  afterWrite : AfterWrite
  batchNote : Option String
  /-- Whether an override or a meaning of dates applies. -/
  isCustom : Bool
  declaredWarning : Option String
  deriving DecidableEq, Repr

structure CommandView where
  name : String
  identifier : String
  isAsync : Bool
  dispatch : Dispatch
  /-- The name and type of the parameter. -/
  declaredParameter : Option (String × String)
  exposesCanExecute : Bool
  declaredWarning : Option String
  deriving DecidableEq, Repr

/-- The part of a text that is shown; an empty one is not. -/
def shown (s : Option String) : Option String := s.filter fun t => !t.isEmpty

/-- The member of the source, as it is reached in the constructor or in a listener. -/
def sourceAccess (platform : Platform) (isInListener : Bool) (member : String) : String :=
  (match platform, isInListener with
    | .ios, true => "self.source."
    | _, _ => "source.") ++ member

/-- A list with the present elements of a collection. -/
def snapshot : Platform → String → String
  | .android, expression => expression ++ ".toList()"
  | .ios, expression => "Array(" ++ expression ++ ")"

/-- The size of batches that a note tells; a size of zero is not told. -/
def Batching.toldSize (b : Batching) : Option Int := b.size.filter (· ≠ 0)

namespace PropertyView

/-- The expression of a property's target value. Converted elements already form a new list. -/
def currentValue (platform : Platform) (p : Property) (isInListener : Bool) : String :=
  let access := sourceAccess platform isInListener p.name
  if p.isObservable then
    match Target.convertElements platform p access with
    | some e => e.text platform
    | none => snapshot platform access
  else (Target.toTargetExpr platform p access).text platform

def isTwoWayProperty (p : Property) : Bool := !p.isReadOnly && !p.isObservable

def afterWriteOf (p : Property) : AfterWrite :=
  match p.validation with
  | none => .nothing
  | some v =>
    if isTwoWayProperty p && v.validateOnSet then
      match shown v.validator with
      | some validator => .call validator
      | none => .bySource
    else .nothing

/-- A note on batches. -/
def batchNoteOf (p : Property) : Text.Shown (Option String) :=
  match p.batching with
  | some b =>
    if b.isSupported then
      match b.toldSize with
      | some n => (Text.numeral? n).map fun s =>
          some ("Element changes may arrive in batches of " ++ s ++ ".")
      | none => .ok (some "Element changes may arrive in batches.")
    else .ok none
  | none => .ok none

theorem batchNoteOf_eq_ok (p : Property) :
    (∃ note, batchNoteOf p = .ok note) ↔
      ∀ b, p.batching = some b → b.isSupported = true → ∀ n, b.toldSize = some n →
        n.natAbs < Text.numeralBound := by
  unfold batchNoteOf Text.numeral?
  cases p.batching with
  | none => simp
  | some b =>
    by_cases hSupported : b.isSupported
    · cases hSize : b.toldSize with
      | none => simp [hSupported, hSize]
      | some n => by_cases hBound : n.natAbs < Text.numeralBound <;>
          simp [hSupported, hSize, hBound, Except.map]
    · simp [hSupported]

/-- The expression of a source value in the handler of a new target value. -/
def newValueName : String := "newValue"

/-- The view of a property with its resolved types. -/
def of (platform : Platform) (p : Property) (typeName : String)
    (elementTypeName : Option String) : Text.Shown PropertyView :=
  (batchNoteOf p).map fun batchNote => {
    name := p.name
    identifier := Text.decapitalize p.name
    typeName
    elementTypeName
    isReadOnly := p.isReadOnly
    seed := currentValue platform p false
    refresh := currentValue platform p true
    toSource := (Target.toSourceExpr platform p newValueName).text platform
    afterWrite := afterWriteOf p
    batchNote
    isCustom := (p.overrideFor platform).isSome || p.dateSemantics.isSome
    declaredWarning := p.warning }

def isObservable (v : PropertyView) : Bool := v.elementTypeName.isSome

/-- Whether changes are written back to the source. -/
def isTwoWay (v : PropertyView) : Bool := !v.isReadOnly && !v.isObservable

/-- The warning that is shown. -/
def warning (v : PropertyView) : Option String := shown v.declaredWarning

/-- The name of the function that sets a property. -/
def setter (v : PropertyView) : String := "update" ++ Text.capitalize v.identifier

theorem of_name {platform : Platform} {p : Property} {typeName : String}
    {elementTypeName : Option String} {v : PropertyView}
    (h : of platform p typeName elementTypeName = .ok v) : v.name = p.name := by
  unfold of at h
  cases hNote : batchNoteOf p <;> simp [hNote, Except.map] at h
  rw [← h]

end PropertyView

namespace CommandView

/-- The ending of a command's name that its identifier leaves out. -/
def nameEnding : List Char := "Command".toList

def identifierOf (name : String) : String :=
  Text.decapitalize (String.ofList ((Text.stem? nameEnding name.toList).getD name.toList))

/-- The name of a parameter: that of its type, if the source program defines it. -/
def parameterName (d : Option Descriptor) : String :=
  match d.map Descriptor.withoutNullable with
  | some (.reference qualifiedName) => Text.decapitalize (Descriptor.simpleName qualifiedName)
  | _ => "value"

def of (c : Command) (typeName : Option String) : CommandView where
  name := c.name
  identifier := identifierOf c.name
  isAsync := c.isAsync
  dispatch := c.dispatch
  declaredParameter := typeName.map fun t => (parameterName c.parameter, t)
  exposesCanExecute := c.exposesCanExecute
  declaredWarning := c.warning

/-- The name and type of the parameter, if there is a type to show. -/
def parameter (v : CommandView) : Option (String × String) :=
  v.declaredParameter.filter fun p => !p.2.isEmpty

/-- The argument of the call of the command. -/
def argument (v : CommandView) : String := (v.parameter.map (·.1)).getD ""

/-- The warning that is shown. -/
def warning (v : CommandView) : Option String := shown v.declaredWarning

/-- The name of the accessor that tells whether the command can run. -/
def canName (v : CommandView) : String := "can" ++ Text.capitalize v.identifier

end CommandView
end ViewAdapters
