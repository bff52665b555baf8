import ViewAdapters.Model.ViewModel

/-!
# Usage of attributes

How many view-models and members use each kind of attribute.

* `Usage.ofAll_append`: the usage of two lists is the sum of their usages.
-/

namespace ViewAdapters

/-- The kinds of attributes that change how a member is generated. -/
inductive AttributeKind where
  | typeOverride
  | dateSemantics
  | validation
  | collectionBehavior
  | threading
  | commandBehavior
  | platformExclusion
  | warning
  deriving DecidableEq, Repr

namespace AttributeKind

def all : List AttributeKind := [.typeOverride, .dateSemantics, .validation, .collectionBehavior,
  .threading, .commandBehavior, .platformExclusion, .warning]

def name : AttributeKind → String
  | .typeOverride => "type_override"
  | .dateSemantics => "date_semantics"
  | .validation => "validation"
  | .collectionBehavior => "collection_behavior"
  | .threading => "threading"
  | .commandBehavior => "command_behavior"
  | .platformExclusion => "platform_exclusion"
  | .warning => "warning"

end AttributeKind

def Exclusion.isAny (e : Exclusion) : Bool := e.android || e.ios

/-- The kinds for which a flag is set. -/
def kindsOf (flags : List (AttributeKind × Bool)) : List AttributeKind :=
  (flags.filter (·.2)).map (·.1)

/-- The kinds of attributes that a property has; an empty warning is none. -/
def Property.attributeKinds (p : Property) : List AttributeKind := kindsOf [
  (.typeOverride, p.typeOverride.isSome), (.dateSemantics, p.dateSemantics.isSome),
  (.validation, p.validation.isSome), (.collectionBehavior, p.batching.isSome),
  (.platformExclusion, p.excluded.isAny), (.warning, p.warning.any fun s => !s.isEmpty)]

def Command.attributeKinds (c : Command) : List AttributeKind := kindsOf [
  (.threading, c.threading.isSome), (.commandBehavior, c.behavior.isSome),
  (.platformExclusion, c.excluded.isAny), (.warning, c.warning.any fun s => !s.isEmpty)]

/-- The kinds that the members of a view-model have, once for each member. -/
def ViewModel.attributeKinds (v : ViewModel) : List AttributeKind :=
  v.properties.flatMap (·.attributeKinds) ++ v.commands.flatMap (·.attributeKinds)

structure Usage where
  viewModels : Nat
  viewModelsWithAttributes : Nat
  properties : Nat
  commands : Nat
  /-- How many members have an attribute of a kind. -/
  members : AttributeKind → Nat

namespace Usage

def zero : Usage := ⟨0, 0, 0, 0, fun _ => 0⟩

def add (u w : Usage) : Usage where
  viewModels := u.viewModels + w.viewModels
  viewModelsWithAttributes := u.viewModelsWithAttributes + w.viewModelsWithAttributes
  properties := u.properties + w.properties
  commands := u.commands + w.commands
  members := fun kind => u.members kind + w.members kind

/-- Adds the usage of one more view-model. -/
def count (u : Usage) (v : ViewModel) : Usage where
  viewModels := u.viewModels + 1
  viewModelsWithAttributes := u.viewModelsWithAttributes +
    (if v.excluded.isAny || !v.attributeKinds.isEmpty then 1 else 0)
  properties := u.properties + v.properties.length
  commands := u.commands + v.commands.length
  members := fun kind => u.members kind + v.attributeKinds.count kind

def ofAll (vs : List ViewModel) : Usage := vs.foldl count zero

/-- The lines of a report: the totals, then each kind that occurs. -/
def report (u : Usage) : List String :=
  (toString u.viewModelsWithAttributes ++ " of " ++ toString u.viewModels ++
    " view-model(s) use behavior attributes (" ++ toString u.properties ++ " properties, " ++
    toString u.commands ++ " commands)") ::
  (AttributeKind.all.filter (u.members · ≠ 0)).map fun kind =>
    "  " ++ kind.name ++ ": " ++ toString (u.members kind) ++ " member(s)"

theorem add_count (u w : Usage) (v : ViewModel) : (u.add w).count v = u.add (w.count v) := by
  simp [add, count, Nat.add_assoc]

theorem foldl_count_add (u w : Usage) (vs : List ViewModel) :
    vs.foldl count (u.add w) = u.add (vs.foldl count w) := by
  induction vs generalizing w with
  | nil => rfl
  | cons v r ih => rw [List.foldl_cons, List.foldl_cons, add_count, ih]

theorem ofAll_append (vs ws : List ViewModel) :
    ofAll (vs ++ ws) = (ofAll vs).add (ofAll ws) := by
  have h : ofAll vs = (ofAll vs).add zero := by simp [add, zero]
  rw [ofAll, List.foldl_append]
  change ws.foldl count (ofAll vs) = _
  rw [h, foldl_count_add, ← h]
  rfl

end Usage
end ViewAdapters
