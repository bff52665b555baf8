import ViewAdapters.Text.Segments

/-!
# Type descriptors

The type of a member, before it is mapped to a platform: layers of nullable
and collection around a leaf.

* `Descriptor.leaf_layers`: a descriptor is its layers around its leaf.
-/

namespace ViewAdapters

inductive Descriptor where
  /-- A built-in scalar, by its kind. -/
  | primitive (kind : String)
  | nullable (inner : Descriptor)
  | collection (element : Descriptor)
  /-- A type of the source program, by its qualified name. -/
  | reference (qualifiedName : String)
  /-- Something that is no type, by its written form. -/
  | foreign (literal : String)
  deriving DecidableEq, Repr

namespace Descriptor

/-- The innermost part of a descriptor. -/
def leaf : Descriptor → Descriptor
  | .nullable d => d.leaf
  | .collection d => d.leaf
  | d => d

inductive Layer where
  | nullable
  | collection
  deriving DecidableEq, Repr

def Layer.wrap : Layer → Descriptor → Descriptor
  | .nullable => .nullable
  | .collection => .collection

/-- The layers around the leaf, outermost first. -/
def layers : Descriptor → List Layer
  | .nullable d => .nullable :: d.layers
  | .collection d => .collection :: d.layers
  | _ => []

theorem leaf_layers (d : Descriptor) : d.layers.foldr Layer.wrap d.leaf = d := by
  induction d with
  | nullable d ih => simp [layers, leaf, Layer.wrap, ih]
  | collection d ih => simp [layers, leaf, Layer.wrap, ih]
  | _ => rfl

/-- The descriptor inside its outermost nullable layers. -/
def withoutNullable : Descriptor → Descriptor
  | .nullable d => d.withoutNullable
  | d => d

/-- Whether the descriptor is a type all through. -/
def isType (d : Descriptor) : Bool :=
  match d.leaf with
  | .foreign _ => false
  | _ => true

/-- The last segment of a qualified name. -/
def simpleName (qualifiedName : String) : String := Text.lastSegment qualifiedName

end Descriptor
end ViewAdapters
