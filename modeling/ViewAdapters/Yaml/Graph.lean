import ViewAdapters.Yaml.Tag

/-!
# Graphs of YAML

A document is a graph of nodes with a tag at every node. By aliases a node
stands at several places, and a collection can even stand inside itself, so
nodes are known by their numbers.
-/

namespace ViewAdapters.Yaml

abbrev NodeId := Nat

inductive Content where
  | scalar (text : String)
  | sequence (items : List NodeId)
  | mapping (entries : List (NodeId × NodeId))
  deriving DecidableEq, Repr

structure Node where
  tag : Tag
  content : Content
  deriving DecidableEq, Repr

/-- A node that was left out. -/
def Node.empty : Node := ⟨.null, .scalar ""⟩

structure Graph where
  nodes : Array Node
  deriving Repr

namespace Graph

def empty : Graph := ⟨#[]⟩

def size (g : Graph) : Nat := g.nodes.size

def node (g : Graph) (id : NodeId) : Node := g.nodes.getD id .empty

def tag (g : Graph) (id : NodeId) : Tag := (g.node id).tag

def content (g : Graph) (id : NodeId) : Content := (g.node id).content

/-- The entries of a mapping; other nodes have none. -/
def entries (g : Graph) (id : NodeId) : List (NodeId × NodeId) :=
  match g.content id with
  | .mapping entries => entries
  | _ => []

/-- The graph with one more node, and its number. -/
def add (g : Graph) (n : Node) : Graph × NodeId := (⟨g.nodes.push n⟩, g.size)

def replace (g : Graph) (id : NodeId) (n : Node) : Graph := ⟨g.nodes.setIfInBounds id n⟩

def setTag (g : Graph) (id : NodeId) (tag : Tag) : Graph :=
  g.replace id { g.node id with tag }

def setContent (g : Graph) (id : NodeId) (content : Content) : Graph :=
  g.replace id { g.node id with content }

/-- How many entries all mappings have. -/
def entryCount (g : Graph) : Nat :=
  g.nodes.foldl (fun n node =>
    match node.content with
    | .mapping entries => n + entries.length
    | _ => n) 0

end Graph
end ViewAdapters.Yaml
