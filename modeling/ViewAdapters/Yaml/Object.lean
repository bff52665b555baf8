import ViewAdapters.Document.Value
import ViewAdapters.Yaml.Graph.Merge
import ViewAdapters.Yaml.Scalar

/-!
# Objects of YAML documents

What the nodes of a document are by their tags. A collection is made without
its content, which it gets later: collections are filled in the order in which
they were made. So a fault of a scalar is found before those of the collections
next to it, and a collection may hold itself.
-/

namespace ViewAdapters.Yaml

open Document (Value)

inductive Object where
  | scalar (v : Value)
  | list (items : List NodeId)
  | pairs (items : List (NodeId × NodeId))
  | set (items : List NodeId)
  | mapping (entries : List (NodeId × NodeId))
  deriving Repr

structure Building where
  graph : Graph
  /-- The objects of the nodes, as far as they are made. -/
  objects : Array (Option Object)
  /-- The collections that are not filled yet, last one first. -/
  empty : List NodeId

namespace Building

def start (g : Graph) : Building := ⟨g, Array.replicate g.size none, []⟩

def object? (b : Building) (id : NodeId) : Option Object := b.objects.getD id none

def isMade (b : Building) (id : NodeId) : Bool := (b.object? id).isSome

def put (b : Building) (id : NodeId) (o : Object) : Building :=
  { b with objects := b.objects.setIfInBounds id (some o) }

end Building

/-- A step of making objects. -/
abbrev Build := StateT Building (Except Fault)

namespace Build

/-! ## Scalars -/

/-- The text of a scalar; a mapping has the text of its default value. -/
def textOf (g : Graph) (id : NodeId) : (fuel : Nat) → Except Fault String
  | 0 => .error (.scalar .endless)
  | fuel + 1 =>
    match g.content id with
    | .scalar s => .ok s
    | .sequence _ => malformed "expected a scalar"
    | .mapping entries =>
      match entries.find? fun e => g.tag e.1 = .value with
      | some e => textOf g e.2 fuel
      | none => malformed "expected a scalar"

/-- The text of a node, which may be that of a default value. -/
def Graph.text (g : Graph) (id : NodeId) : Except Fault String := textOf g id (g.size + 1)

def bytesOfText (s : String) : Except Fault (List UInt8) :=
  if s.toList.all fun c => c.toNat < 128 then
    (bytesOf? 0 0 0 s.toList).elim (malformed "bad padding of bytes") .ok
  else malformed "bytes with characters beyond ASCII"

/-- The moment of a text, which has to stand in a scalar itself. -/
def momentOf (content : Content) (text : String) : ScalarResult Value :=
  match content with
  | .scalar _ => (readMoment text).map fun
    | .inl d => .date d
    | .inr t => .moment t
  | _ => .error .momentOfCollection

/-- The value of a node that is no collection by its tag. -/
def scalarOf (g : Graph) (id : NodeId) : Except Fault Value := do
  let read (f : String → ScalarResult Value) : Except Fault Value := do
    (f (← Graph.text g id)).mapError .scalar
  match g.tag id with
  | .null => read fun _ => .ok .null
  | .bool => read fun s => (readTruth s).map .bool
  | .int => read fun s => (readInteger s).map .int
  | .float => read fun s => (readFloat s).map .float
  | .binary => return .bytes (← bytesOfText (← Graph.text g id))
  | .timestamp => read (momentOf (g.content id))
  | .str => read fun s => .ok (.text s)
  | _ => malformed "a tag without a meaning"

/-! ## Collections -/

/-- What a collection is before it is filled. -/
def emptyCollection? : Tag → Option Object
  | .seq => some (.list [])
  | .omap | .pairs => some (.pairs [])
  | .set => some (.set [])
  | .map => some (.mapping [])
  | _ => none

/-- Makes the object of a node, if it is not made yet. -/
def make (id : NodeId) : Build Unit := do
  let b ← get
  if b.isMade id then return ()
  match emptyCollection? (b.graph.tag id) with
  | some o => set { b.put id o with empty := id :: b.empty }
  | none => set (b.put id (.scalar (← scalarOf b.graph id)))

/-- The value of a key, which must not be a collection. -/
def keyValue (id : NodeId) : Build Value := do
  match (← get).object? id with
  | some (.scalar v) => return v
  | _ => malformed "a key that can change"

/-- Whether a node is the number that is none under its own name. All of them are one object. -/
def isNamedNaN (g : Graph) (id : NodeId) : Bool :=
  g.tag id = .float &&
    match Graph.text g id with
    | .ok s => isNaNName s
    | .error _ => false

/-- Whether two nodes are the same key. A number that is none is only itself. -/
def isSameKey (b : Building) (first second : NodeId) : Bool :=
  first = second || (isNamedNaN b.graph first && isNamedNaN b.graph second) ||
    match b.object? first, b.object? second with
    | some (.scalar v), some (.scalar w) => v.sameKey w
    | _, _ => false

/-- Sets a key: a key that is there keeps its place and its node. -/
def insert (b : Building) (key value : NodeId) :
    List (NodeId × NodeId) → List (NodeId × NodeId)
  | [] => [(key, value)]
  | e :: r => if isSameKey b e.1 key then (e.1, value) :: r else e :: insert b key value r

/-- Makes the objects of a mapping's entries in order. -/
def entriesOf (id : NodeId) : Build (List (NodeId × NodeId)) := do
  let b ← get
  let ((), graph) ← (Merge.flatten id).run b.graph
  set { b with graph }
  (graph.entries id).foldlM (fun entries e => do
    make e.1
    let _ ← keyValue e.1
    make e.2
    return insert (← get) e.1 e.2 entries) []

/-- Makes the objects of pairs, each of which is a mapping with one entry. -/
def pairsOf (items : List NodeId) : Build (List (NodeId × NodeId)) :=
  items.mapM fun item => do
    match (← get).graph.entries item with
    | [e] =>
      make e.1
      make e.2
      return e
    | _ => malformed "expected a mapping with one entry"

/-- The content of a collection. -/
def contentOf (id : NodeId) : Build Object := do
  let g := (← get).graph
  match g.tag id, g.content id with
  | .seq, .sequence items =>
    items.forM make
    return .list items
  | .omap, .sequence items | .pairs, .sequence items => return .pairs (← pairsOf items)
  | .map, .mapping _ => return .mapping (← entriesOf id)
  | .set, .mapping _ => return .set ((← entriesOf id).map Prod.fst)
  | _, _ => malformed "a collection of another kind"

def fill (id : NodeId) : Build Unit := do
  let o ← contentOf id
  modify fun b => b.put id o

/-- Fills all collections, and those that are made on the way after them. -/
def fillAll : (fuel : Nat) → Build Unit
  | 0 => return ()
  | fuel + 1 => do
    let ids := (← get).empty
    if ids.isEmpty then return ()
    modify fun b => { b with empty := [] }
    ids.reverse.forM fill
    fillAll fuel

/-- Makes the object of a root and of all that it holds. -/
def all (root : NodeId) : Build Unit := do
  make root
  fillAll ((← get).graph.size + 1)

end Build
end ViewAdapters.Yaml
