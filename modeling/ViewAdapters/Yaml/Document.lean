import ViewAdapters.Document.SetOrder
import ViewAdapters.Document.Stored
import ViewAdapters.Yaml.Graph.OfTokens
import ViewAdapters.Yaml.Object

/-!
# Values of YAML documents

The objects of a document form a graph, which is unfolded from its root: a
node is read at all places where it stands, and where it stands inside itself
the value names it.
-/

namespace ViewAdapters.Yaml

open Document (Value)

/-- The values of the nodes that are read and stand in no collection that holds itself. -/
abbrev Known := Array (Option Value)

namespace Building

/-- The value of a scalar. -/
def scalar (b : Building) (id : NodeId) : Value :=
  match b.object? id with
  | some (.scalar v) => v
  | _ => .null

/-- A collection with the collections around it that its content names. If there are any,
itself or others, the collection holds itself. -/
def close (id : NodeId) (content : Value) (named : List NodeId) : Value × List NodeId :=
  if named.isEmpty then (content, [])
  else (.cyclic id content, named.filter fun other => other ≠ id)

/-- The values of nodes one after the other, with all collections that they name. -/
def valuesWith (value : NodeId → StateM Known (Value × List NodeId)) (ids : List NodeId) :
    StateM Known (List Value × List NodeId) := do
  let parts ← ids.mapM value
  return (parts.map Prod.fst, parts.flatMap Prod.snd)

/-- The value of a node inside collections, and those of them that the value names. -/
def valueIn (b : Building) : (fuel : Nat) → (inside : List NodeId) → NodeId →
    StateM Known (Value × List NodeId)
  | 0, _, _ => return (.null, [])
  | fuel + 1, inside, id => do
    if id ∈ inside then return (.again id, [id])
    match (← get).getD id none with
    | some v => return (v, [])
    | none =>
      let (content, named) ← match b.object? id with
        | none => pure (.null, [])
        | some (.scalar v) => pure (v, [])
        | some (.set items) => pure (.set (Document.SetOrder.ordered (items.map b.scalar)), [])
        | some (.list items) => do
          let (vs, named) ← valuesWith (b.valueIn fuel (id :: inside)) items
          pure (.list vs, named)
        | some (.pairs items) => do
          let (keys, named) ← valuesWith (b.valueIn fuel (id :: inside)) (items.map Prod.fst)
          let (vs, more) ← valuesWith (b.valueIn fuel (id :: inside)) (items.map Prod.snd)
          pure (.list ((keys.zip vs).map fun e => .pair e.1 e.2), named ++ more)
        | some (.mapping entries) => do
          let (vs, named) ← valuesWith (b.valueIn fuel (id :: inside)) (entries.map Prod.snd)
          pure (.mapping ((entries.map fun e => b.scalar e.1).zip vs), named)
      let (v, named) := close id content named
      if named.isEmpty then modify fun known => known.setIfInBounds id (some v)
      return (v, named)

/-- The value of a node, unfolded as deep as there are nodes. -/
def value (b : Building) (id : NodeId) : Value :=
  ((b.valueIn (b.objects.size + 1) [] id).run (Array.replicate b.objects.size none)).1.1

end Building

/-- The value of the document in a text; a text without one is null. -/
def read (s : String) : Except Fault Value := do
  match ← Graph.ofText? s with
  | none => return .null
  | some (g, root) =>
    let ((), b) ← (Build.all root).run (Building.start g)
    return b.value root

/-- The reader of YAML documents. -/
def reader : Document.Reader ScalarFault := fun s =>
  (read s).mapError fun
    | .malformed complaint line => .malformed (Fault.malformed complaint line).message
    | .scalar fault => .other fault

end ViewAdapters.Yaml
