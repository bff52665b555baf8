import ViewAdapters.Yaml.Graph
import ViewAdapters.Yaml.TokenList

/-!
# Graphs from tokens

Reads the nodes of a document from its tokens. A collection is in the graph
before the nodes inside of it, so that an alias inside of it finds it.

* `Read.node` and the readers of collections follow the grammar of YAML 1.1.
-/

namespace ViewAdapters.Yaml

/-- What stands for tag handles unless a directive says otherwise. -/
def standardHandles : List (String × String) := [("!", "!"), ("!!", Tag.standardFront)]

structure Reading where
  tokens : Tokens
  handles : List (String × String)
  anchors : List (String × NodeId)
  graph : Graph

/-- A step of reading nodes from tokens. -/
abbrev Read := StateT Reading (Except Fault)

namespace Read

def fail {α : Type} (complaint : String) : Read α := throw (.malformed complaint 0)

/-- The next token. Behind the last one there is the fault of the text, if it has one. -/
def next : Read Token := do
  match (← get).tokens with
  | ⟨t :: _, _⟩ => return t
  | ⟨[], some fault⟩ => throw fault
  | ⟨[], none⟩ => return .streamEnd

def skip : Read Unit :=
  modify fun r => { r with tokens := { r.tokens with ready := r.tokens.ready.drop 1 } }

def isNext (p : Token → Bool) : Read Bool := do return p (← next)

def anchor? : Read (Option String) := do
  match ← next with
  | .anchor name =>
    skip
    return some name
  | _ => return none

/-- The handle and the suffix of a tag. -/
def tag? : Read (Option (Option String × String)) := do
  match ← next with
  | .tag handle suffix =>
    skip
    return some (handle, suffix)
  | _ => return none

/-- The tag that a handle and a suffix stand for. -/
def tagOf (t : Option String × String) : Read String := do
  match t.1 with
  | none => return t.2
  | some handle =>
    match (← get).handles.lookup handle with
    | some front => return front ++ t.2
    | none => fail "undefined tag handle"

/-- The anchor and the tag in front of a node, in either order. -/
def properties : Read (Option String × Option String) := do
  match ← anchor? with
  | some name => return (some name, ← (← tag?).mapM tagOf)
  | none =>
    match ← tag? with
    | some t =>
      let anchor ← anchor?
      return (anchor, some (← tagOf t))
    | none => return (none, none)

/-- The node of an anchor. -/
def aliased (name : String) : Read NodeId := do
  match (← get).anchors.lookup name with
  | some id => return id
  | none => fail "undefined alias"

/-- Adds a node to the graph. -/
def add (n : Node) : Read NodeId := do
  let (graph, id) := (← get).graph.add n
  modify fun r => { r with graph }
  return id

/-- Adds a node with an anchor, which no other node may have. -/
def addAnchored (anchor : Option String) (n : Node) : Read NodeId := do
  match anchor with
  | none => add n
  | some name =>
    if ((← get).anchors.lookup name).isSome then fail "anchor defined twice"
    let id ← add n
    modify fun r => { r with anchors := (name, id) :: r.anchors }
    return id

/-- Adds a collection, which gets its content once that is read. -/
def collection (anchor : Option String) (tag : Tag) (start : Content) (content : Read Content) :
    Read NodeId := do
  let id ← addAnchored anchor ⟨tag, start⟩
  let content ← content
  modify fun r => { r with graph := r.graph.setContent id content }
  return id

/-- The tag that is no tag: it leaves the type of a node open. -/
def openTag : String := "!"

/-- The tag of a collection. -/
def collectionTag (tag : Option String) (standard : Tag) : Tag :=
  match tag.filter (· ≠ openTag) with
  | some t => Tag.ofText t
  | none => standard

/-- The tag of a scalar: the type of a plain one is read off its text. -/
def scalarTag (tag : Option String) (text : String) (isPlain : Bool) : Tag :=
  match tag with
  | some t => if t = openTag then Tag.ofPlain text else Tag.ofText t
  | none => if isPlain then Tag.ofPlain text else .str

def isKey : Token → Bool
  | .key => true
  | _ => false

def endsBlockItem : Token → Bool
  | .blockEntry | .blockEnd => true
  | _ => false

def endsIndentlessItem : Token → Bool
  | .blockEntry | .key | .value | .blockEnd => true
  | _ => false

def endsBlockValue : Token → Bool
  | .key | .value | .blockEnd => true
  | _ => false

/-- Whether a token ends an item of a flow collection that ends with another one. -/
def endsFlowItem (closing t : Token) : Bool := t = .flowEntry || t = closing

/-- A node that has nothing but an anchor or a tag. -/
def emptyNode (anchor tag : Option String) : Read NodeId :=
  if anchor.isNone && tag.isNone then fail "expected a node"
  else addAnchored anchor ⟨scalarTag tag "" true, .scalar ""⟩

/-- A sequence whose items are read by a reader. -/
def sequence (anchor tag : Option String) (items : Read (List NodeId)) : Read NodeId :=
  collection anchor (collectionTag tag .seq) (.sequence []) do return .sequence (← items)

/-- A mapping whose entries are read by a reader. -/
def mapping (anchor tag : Option String) (entries : Read (List (NodeId × NodeId))) :
    Read NodeId :=
  collection anchor (collectionTag tag .map) (.mapping []) do return .mapping (← entries)

/-- The separator between items of a flow collection, which the first one does not need. -/
def separator (isFirst : Bool) : Read Unit := do
  if !isFirst then
    match ← next with
    | .flowEntry => skip
    | _ => fail "expected a comma or the end of a collection"

mutual

/-- A node. Block collections may start it only where they are allowed, and a sequence
without indentation only as the key or value of a mapping. -/
def node (isBlock isIndentless : Bool) : (fuel : Nat) → Read NodeId
  | 0 => fail "nested too deeply"
  | fuel + 1 => do
    match ← next with
    | .alias name =>
      skip
      aliased name
    | _ =>
      let (anchor, tag) ← properties
      match ← next with
      | .scalar text isPlain =>
        skip
        addAnchored anchor ⟨scalarTag tag text isPlain, .scalar text⟩
      | .flowSequenceStart =>
        skip
        sequence anchor tag (flowItems true fuel)
      | .flowMappingStart =>
        skip
        mapping anchor tag (flowEntries true fuel)
      | .blockEntry =>
        if isIndentless then sequence anchor tag (indentlessItems fuel)
        else emptyNode anchor tag
      | .blockSequenceStart =>
        if isBlock then
          skip
          sequence anchor tag (blockItems fuel)
        else emptyNode anchor tag
      | .blockMappingStart =>
        if isBlock then
          skip
          mapping anchor tag (blockEntries fuel)
        else emptyNode anchor tag
      | _ => emptyNode anchor tag

/-- A node, or an empty one where a token shows that there is none. -/
def nodeUnless (isMissing : Token → Bool) (isBlock isIndentless : Bool) :
    (fuel : Nat) → Read NodeId
  | 0 => fail "nested too deeply"
  | fuel + 1 => do
    if ← isNext isMissing then add .empty
    else node isBlock isIndentless fuel

def blockItems : (fuel : Nat) → Read (List NodeId)
  | 0 => fail "nested too deeply"
  | fuel + 1 => do
    match ← next with
    | .blockEntry =>
      skip
      let item ← nodeUnless endsBlockItem true false fuel
      return item :: (← blockItems fuel)
    | .blockEnd =>
      skip
      return []
    | _ => fail "expected an item or the end of a block"

def indentlessItems : (fuel : Nat) → Read (List NodeId)
  | 0 => fail "nested too deeply"
  | fuel + 1 => do
    match ← next with
    | .blockEntry =>
      skip
      let item ← nodeUnless endsIndentlessItem true false fuel
      return item :: (← indentlessItems fuel)
    | _ => return []

def blockEntries : (fuel : Nat) → Read (List (NodeId × NodeId))
  | 0 => fail "nested too deeply"
  | fuel + 1 => do
    match ← next with
    | .key =>
      skip
      let key ← nodeUnless endsBlockValue true true fuel
      let value ← blockValue fuel
      return (key, value) :: (← blockEntries fuel)
    | .blockEnd =>
      skip
      return []
    | _ => fail "expected a key or the end of a block"

def blockValue : (fuel : Nat) → Read NodeId
  | 0 => fail "nested too deeply"
  | fuel + 1 => do
    match ← next with
    | .value =>
      skip
      nodeUnless endsBlockValue true true fuel
    | _ => add .empty

def flowItems (isFirst : Bool) : (fuel : Nat) → Read (List NodeId)
  | 0 => fail "nested too deeply"
  | fuel + 1 => do
    if (← next) = .flowSequenceEnd then
      skip
      return []
    separator isFirst
    if (← next) = .flowSequenceEnd then
      skip
      return []
    let item ← if ← isNext isKey then do
        skip
        mapping none none do return [← flowEntry .flowSequenceEnd fuel]
      else node false false fuel
    return item :: (← flowItems false fuel)

/-- The key and value of an entry of a flow collection whose key is marked. -/
def flowEntry (closing : Token) : (fuel : Nat) → Read (NodeId × NodeId)
  | 0 => fail "nested too deeply"
  | fuel + 1 => do
    let key ← nodeUnless (fun t => t = .value || endsFlowItem closing t) false false fuel
    let value ← flowValue closing fuel
    return (key, value)

def flowValue (closing : Token) : (fuel : Nat) → Read NodeId
  | 0 => fail "nested too deeply"
  | fuel + 1 => do
    match ← next with
    | .value =>
      skip
      nodeUnless (endsFlowItem closing) false false fuel
    | _ => add .empty

def flowEntries (isFirst : Bool) : (fuel : Nat) → Read (List (NodeId × NodeId))
  | 0 => fail "nested too deeply"
  | fuel + 1 => do
    if (← next) = .flowMappingEnd then
      skip
      return []
    separator isFirst
    if (← next) = .flowMappingEnd then
      skip
      return []
    let entry ← if ← isNext isKey then do
        skip
        flowEntry .flowMappingEnd fuel
      else do
        let key ← node false false fuel
        pure (key, ← add .empty)
    return entry :: (← flowEntries false fuel)

end

/-- Moves behind the ends of documents. -/
def skipDocumentEnds : (fuel : Nat) → Read Unit
  | 0 => return ()
  | fuel + 1 => do
    if (← next) = .documentEnd then
      skip
      skipDocumentEnds fuel

/-- The directives in front of a document: whether there are any, whether one gives a
version, and the handles that they define. -/
def directives (hasVersion : Bool) (handles : List (String × String)) :
    (fuel : Nat) → Read (List (String × String))
  | 0 => return handles
  | fuel + 1 => do
    match ← next with
    | .directive d =>
      skip
      match d with
      | .version major _ =>
        if hasVersion then fail "version given twice"
        if major ≠ 1 then fail "unsupported version"
        directives true handles fuel
      | .tag handle front =>
        if (handles.lookup handle).isSome then fail "tag handle defined twice"
        directives hasVersion ((handle, front) :: handles) fuel
      | .other => directives hasVersion handles fuel
    | _ => return handles

def endsDocument : Token → Bool
  | .directive _ | .documentStart | .documentEnd | .streamEnd => true
  | _ => false

def startsExplicitly : Token → Bool
  | .directive _ | .documentStart | .streamEnd => true
  | _ => false

/-- The root of the only document of a text; `none` if there is none. -/
def document (fuel : Nat) : Read (Option NodeId) := do
  let root ← if ← isNext startsExplicitly then explicit else do
    pure (some (← node true false fuel))
  if root.isSome then skipDocumentEnds fuel
  if (← next) = .streamEnd then return root
  let _ ← directives false [] fuel
  fail "expected a single document"
where
  explicit : Read (Option NodeId) := do
    if (← next) = .streamEnd then return none
    let handles ← directives false [] fuel
    modify fun r => { r with handles := handles ++ standardHandles }
    if (← next) ≠ .documentStart then fail "expected the start of a document"
    skip
    return some (← nodeUnless endsDocument true false fuel)

end Read

/-- The graph of a text and its root; `none` if it holds no document. -/
def Graph.ofText? (s : String) : Except Fault (Option (Graph × NodeId)) := do
  let ts := Tokens.ofText s
  let (root, r) ← (Read.document (4 * ts.ready.length + 8)).run ⟨ts, standardHandles, [], .empty⟩
  return root.map fun id => (r.graph, id)

end ViewAdapters.Yaml
