import ClassHarvest.Yaml.Tag
import ClassHarvest.Yaml.Token

/-!
# Nodes

A document is a graph of nodes: scalars, sequences and mappings, each with a tag.  An alias leads to a
node that stands elsewhere, perhaps around the alias itself; so nodes have numbers.
-/

namespace ClassHarvest.Yaml

/-- The number of a node. -/
abbrev NodeId := Nat

/-- What a node holds. -/
inductive Body where
  /-- A scalar. -/
  | scalar (text : Text)
  /-- A sequence. -/
  | sequence (items : List NodeId)
  /-- A mapping: keys with their values. -/
  | mapping (pairs : List (NodeId × NodeId))
deriving DecidableEq, Repr

/-- A node. -/
structure Node where
  /-- Its tag. -/
  tag : Tag
  /-- What it holds. -/
  body : Body
deriving DecidableEq, Repr

/-- A node that holds nothing. -/
def Node.empty : Node := ⟨.null, .scalar []⟩

instance : Inhabited Node := ⟨Node.empty⟩

/-- Nodes by their numbers, and the one that stands for all. -/
structure Graph where
  /-- The nodes. -/
  nodes : Array Node
  /-- The number of the outermost node. -/
  root : NodeId
deriving Repr

/-- The node with a number. -/
def Graph.node (graph : Graph) (id : NodeId) : Node :=
  graph.nodes.getD id Node.empty

/-! ## From tokens to nodes -/

/-- What is known while nodes are made. -/
structure Composer where
  /-- The tokens that are left. -/
  tokens : List Token
  /-- The nodes so far. -/
  nodes : Array Node := #[]
  /-- The nodes that have names. -/
  anchors : List (Text × NodeId) := []
  /-- What the handles of tags stand for. -/
  handles : List (Text × Text) := []

/-- A step of the making of nodes. -/
abbrev Compose := StateT Composer (Except LoadError)

namespace Compose

/-- The next token. -/
def peek : Compose Token := do
  match (← get).tokens with
  | [] => return .streamEnd
  | .broken error :: _ => throw error
  | token :: _ => return token

/-- Go past a token. -/
def pass : Compose Unit :=
  modify fun s => { s with tokens := s.tokens.drop 1 }

/-- Refuse the document. -/
def fail {α : Type} : Compose α :=
  throw .malformed

/-- Add a node. -/
def add (node : Node) : Compose NodeId := do
  let id := (← get).nodes.size
  modify fun s => { s with nodes := s.nodes.push node }
  return id

/-- Replace a node. -/
def replace (id : NodeId) (node : Node) : Compose Unit :=
  modify fun s => { s with nodes := s.nodes.setIfInBounds id node }

/-- A node that holds nothing. -/
def addEmpty : Compose NodeId :=
  add Node.empty

/-- The name and the tag in front of a node. -/
structure Properties where
  /-- The name under which the node may stand again. -/
  anchor : Option Text := none
  /-- The tag as it is written. -/
  tag : Option (Option Text × Text) := none

/-- Read the name and the tag in front of a node, in either order. -/
def properties : Compose Properties := do
  match ← peek with
  | .anchor name =>
    pass
    match ← peek with
    | .tag handle suffix =>
      pass
      return ⟨some name, some (handle, suffix)⟩
    | _ => return ⟨some name, none⟩
  | .tag handle suffix =>
    pass
    match ← peek with
    | .anchor name =>
      pass
      return ⟨some name, some (handle, suffix)⟩
    | _ => return ⟨none, some (handle, suffix)⟩
  | _ => return {}

/-- The text of a tag, its handle replaced by what that stands for. -/
def tagText? (tag : Option (Option Text × Text)) : Compose (Option Text) := do
  match tag with
  | none => return none
  | some (none, suffix) => return some suffix
  | some (some handle, suffix) =>
    match (← get).handles.lookup handle with
    | some start => return some (start ++ suffix)
    | none => fail

/-- The tag that leaves the kind of a value to its form. -/
def openTag : Text := "!"

/-- The tag of a scalar.  Only a plain scalar has one by its form, unless an open tag asks for that. -/
def scalarTag (tag : Option Text) (plain : Bool) (text : Text) : Tag :=
  match tag with
  | none => if plain then .ofForm text else .str
  | some tag => if tag = openTag then .ofForm text else .ofText tag

/-- The tag of a sequence or a mapping. -/
def collectionTag (tag : Option Text) (usual : Tag) : Tag :=
  match tag with
  | none => usual
  | some tag => if tag = openTag then usual else .ofText tag

/-- Give a node a name. -/
def name (anchor : Option Text) (id : NodeId) : Compose Unit :=
  match anchor with
  | none => return
  | some name => modify fun s => { s with anchors := (name, id) :: s.anchors }

/-- Whether a token ends an entry of a mapping in block style that holds nothing. -/
def endsBlockEntry : Token → Bool
  | .key | .value | .blockEnd => true
  | _ => false

/-- Which nodes may stand in a place. -/
inductive Place where
  /-- Nodes in block style. -/
  | block
  /-- Nodes in block style, and sequences that are not indented. -/
  | entry
  /-- Nodes in flow style only. -/
  | flow
deriving DecidableEq, Repr

mutual

/-- The node in a place. -/
def node (place : Place) : Nat → Compose NodeId
  | 0 => fail
  | bound + 1 => do
    match ← peek with
    | .aliasName name =>
      pass
      match (← get).anchors.lookup name with
      | some id => return id
      | none => fail
    | _ => pure ()
    let properties ← properties
    let tag ← tagText? properties.tag
    if let some name := properties.anchor then
      if ((← get).anchors.lookup name).isSome then fail
    let token ← peek
    let collection (usual : Tag) (body : Compose Body) : Compose NodeId := do
      let tag := collectionTag tag usual
      let id ← add ⟨tag, .scalar []⟩
      name properties.anchor id
      replace id ⟨tag, ← body⟩
      return id
    let scalar (node : Node) : Compose NodeId := do
      let id ← add node
      name properties.anchor id
      return id
    match token with
    | .blockEntry =>
      if place = .entry then
        collection .seq (return .sequence (← entries bound))
      else if properties.anchor.isSome || tag.isSome then
        scalar ⟨scalarTag tag true [], .scalar []⟩
      else fail
    | .scalar text plain =>
      pass
      scalar ⟨scalarTag tag plain text, .scalar text⟩
    | .flowSequence =>
      pass
      collection .seq (return .sequence (← flowItems true bound))
    | .flowMapping =>
      pass
      collection .map (return .mapping (← flowPairs true bound))
    | .blockSequence =>
      if place ≠ .flow then
        pass
        collection .seq (return .sequence (← items bound))
      else if properties.anchor.isSome || tag.isSome then
        scalar ⟨scalarTag tag true [], .scalar []⟩
      else fail
    | .blockMapping =>
      if place ≠ .flow then
        pass
        collection .map (return .mapping (← pairs bound))
      else if properties.anchor.isSome || tag.isSome then
        scalar ⟨scalarTag tag true [], .scalar []⟩
      else fail
    | _ =>
      if properties.anchor.isSome || tag.isSome then
        scalar ⟨scalarTag tag true [], .scalar []⟩
      else fail

/-- The items of a sequence in block style. -/
def items : Nat → Compose (List NodeId)
  | 0 => fail
  | bound + 1 => do
    match ← peek with
    | .blockEntry =>
      pass
      let id ← match ← peek with
        | .blockEntry | .blockEnd => addEmpty
        | _ => node .block bound
      return id :: (← items bound)
    | .blockEnd =>
      pass
      return []
    | _ => fail

/-- The items of a sequence that is not indented. -/
def entries : Nat → Compose (List NodeId)
  | 0 => fail
  | bound + 1 => do
    match ← peek with
    | .blockEntry =>
      pass
      let next ← peek
      let id ←
        if next = .blockEntry || endsBlockEntry next then addEmpty
        else node .block bound
      return id :: (← entries bound)
    | _ => return []

/-- The pairs of a mapping in block style. -/
def pairs : Nat → Compose (List (NodeId × NodeId))
  | 0 => fail
  | bound + 1 => do
    match ← peek with
    | .blockEnd =>
      pass
      return []
    | .key =>
      pass
      let key ← if endsBlockEntry (← peek) then addEmpty else node .entry bound
      let value ← blockValue bound
      return (key, value) :: (← pairs bound)
    | _ => fail

/-- The value of a pair of a mapping in block style. -/
def blockValue : Nat → Compose NodeId
  | 0 => fail
  | bound + 1 => do
    match ← peek with
    | .value =>
      pass
      if endsBlockEntry (← peek) then addEmpty else node .entry bound
    | _ => addEmpty

/-- The items of a sequence in brackets. -/
def flowItems (first : Bool) : Nat → Compose (List NodeId)
  | 0 => fail
  | bound + 1 => do
    if (← peek) = .flowSequenceEnd then
      pass
      return []
    if !first then
      if (← peek) = .flowEntry then pass else fail
    match ← peek with
    | .flowSequenceEnd =>
      pass
      return []
    | .key =>
      pass
      -- A single pair makes a mapping.
      let id ← add ⟨.map, .mapping []⟩
      let key ← match ← peek with
        | .value | .flowEntry | .flowSequenceEnd => addEmpty
        | _ => node .flow bound
      let value ← match ← peek with
        | .value =>
          pass
          match ← peek with
          | .flowEntry | .flowSequenceEnd => addEmpty
          | _ => node .flow bound
        | _ => addEmpty
      replace id ⟨.map, .mapping [(key, value)]⟩
      return id :: (← flowItems false bound)
    | _ =>
      let id ← node .flow bound
      return id :: (← flowItems false bound)

/-- The pairs of a mapping in braces. -/
def flowPairs (first : Bool) : Nat → Compose (List (NodeId × NodeId))
  | 0 => fail
  | bound + 1 => do
    if (← peek) = .flowMappingEnd then
      pass
      return []
    if !first then
      if (← peek) = .flowEntry then pass else fail
    match ← peek with
    | .flowMappingEnd =>
      pass
      return []
    | .key =>
      pass
      let key ← match ← peek with
        | .value | .flowEntry | .flowMappingEnd => addEmpty
        | _ => node .flow bound
      let value ← match ← peek with
        | .value =>
          pass
          match ← peek with
          | .flowEntry | .flowMappingEnd => addEmpty
          | _ => node .flow bound
        | _ => addEmpty
      return (key, value) :: (← flowPairs false bound)
    | _ =>
      let key ← node .flow bound
      let value ← addEmpty
      return (key, value) :: (← flowPairs false bound)

end

/-! ## Documents -/

/-- What the handles of tags stand for in every document. -/
def usualHandles : List (Text × Text) := [("!", "!"), ("!!", Tag.coreStart)]

/-- Read the directives in front of a document. -/
def directives (versionSeen : Bool) : Nat → Compose Unit
  | 0 => fail
  | bound + 1 => do
    match ← peek with
    | .directive (.version major _) =>
      if versionSeen || major ≠ 1 then fail
      pass
      directives true bound
    | .directive (.tag handle start) =>
      if ((← get).handles.lookup handle).isSome then fail
      pass
      modify fun s => { s with handles := s.handles ++ [(handle, start)] }
      directives versionSeen bound
    | .directive .other =>
      pass
      directives versionSeen bound
    | _ => modify fun s => { s with handles := s.handles ++ usualHandles }

/-- Go past marks of the end of a document. -/
def documentEnds : Nat → Compose Unit
  | 0 => return
  | bound + 1 => do
    if (← peek) = .documentEnd then
      pass
      documentEnds bound

/-- Whether a token begins or ends a document. -/
def isOutside : Token → Bool
  | .directive _ | .documentStart | .documentEnd | .streamEnd => true
  | _ => false

/-- The outermost node of the only document, if there is one. -/
def document : Compose (Option NodeId) := do
  let bound := 4 * (← get).tokens.length + 4
  let root ←
    if isOutside (← peek) then do
      documentEnds bound
      if (← peek) = .streamEnd then pure none
      else do
        directives false bound
        if (← peek) ≠ .documentStart then fail
        pass
        if isOutside (← peek) then pure (some (← addEmpty))
        else pure (some (← node .block bound))
    else do
      modify fun s => { s with handles := usualHandles }
      pure (some (← node .block bound))
  if root.isSome then
    documentEnds bound
    if (← peek) ≠ .streamEnd then fail
  return root

end Compose

/-- The graph of the nodes of a text, if it holds a document. -/
def Graph.ofText (t : Text) : Except LoadError (Option Graph) := do
  let (root, s) ← (Compose.document.run { tokens := tokens t } : Except LoadError _)
  return root.map fun root => ⟨s.nodes, root⟩

end ClassHarvest.Yaml
