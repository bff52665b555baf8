import ViewAdapters.Yaml.Cursor
import ViewAdapters.Yaml.Graph

/-!
# Merge keys

A mapping can take over entries of others by merge keys. They stand in front of
its own entries, so that its own ones win, and of several mappings in a list the
first one wins. Taking over also happens to the mappings that are taken over,
and a mapping that takes over itself has its entries twice.
-/

namespace ViewAdapters.Yaml

/-- A step that changes the graph or finds a fault. -/
abbrev Change := StateT Graph (Except Fault)

def malformed {α : Type} (complaint : String) : Except Fault α :=
  .error (.malformed complaint 0)

namespace Merge

/-- The value of the first merge key, and the entries without it. -/
def firstMerge (g : Graph) : List (NodeId × NodeId) → Option (NodeId × List (NodeId × NodeId))
  | [] => none
  | e :: r =>
    if g.tag e.1 = .merge then some (e.2, r)
    else (firstMerge g r).map fun m => (m.1, e :: m.2)

/-- A key that stands for a default value is a text where it is a key of entries. -/
def textKeys (g : Graph) (entries : List (NodeId × NodeId)) : Graph :=
  entries.foldl (fun g e => if g.tag e.1 = .value then g.setTag e.1 .str else g) g

/-- Whether a node is a mapping. -/
def isMapping (g : Graph) (id : NodeId) : Bool :=
  match g.content id with
  | .mapping _ => true
  | _ => false

/-- The entries of a mapping that is taken over, once those that it takes over itself stand
in front of its own ones. -/
def takenFromOne (flatten : NodeId → Change Unit) (id : NodeId) :
    Change (List (NodeId × NodeId)) := do
  if !isMapping (← get) id then malformed "expected a mapping to take over"
  modify fun g => textKeys g (g.entries id)
  flatten id
  return (← get).entries id

/-- The entries that a merge key with a value takes over. -/
def takenFrom (flatten : NodeId → Change Unit) (value : NodeId) :
    Change (List (NodeId × NodeId)) := do
  match (← get).content value with
  | .mapping _ => takenFromOne flatten value
  | .sequence items =>
    let lists ← items.mapM (takenFromOne flatten)
    return lists.reverse.flatten
  | .scalar _ => malformed "expected a mapping to take over"

/-- Puts the entries that a mapping takes over in front of its own ones; `taken` are those
of the merge keys so far. Every merge key uses up some fuel. -/
def flattenWith : (fuel : Nat) → (taken : List (NodeId × NodeId)) → NodeId → Change Unit
  | 0, _, _ => return ()
  | fuel + 1, taken, id => do
    match firstMerge (← get) ((← get).entries id) with
    | none => modify fun g => g.setContent id (.mapping (taken ++ g.entries id))
    | some (value, rest) =>
      modify fun g => g.setContent id (.mapping rest)
      let more ← takenFrom (flattenWith fuel []) value
      flattenWith fuel (taken ++ more) id

/-- Resolves the merge keys of a mapping. -/
def flatten (id : NodeId) : Change Unit := do
  modify fun g => textKeys g (g.entries id)
  flattenWith ((← get).entryCount + 1) [] id

end Merge
end ViewAdapters.Yaml
