import RecordGraph.Statement

/-!
# Property graphs

A graph has nodes, one for each label and urn, and a list of edges in the order in which
they were created. Statements change it and read it by the meaning of their operations: a
pattern whose node is missing matches nothing.
-/

namespace RecordGraph

/-- A node by its label and its urn. -/
structure NodeRef where
  label : String
  urn : String
deriving DecidableEq, Repr

/-- Nodes are ordered by label, then by urn. -/
instance : Ord NodeRef where
  compare a b := (compare a.label b.label).then (compare a.urn b.urn)

structure Edge where
  source : NodeRef
  destination : NodeRef
  relationship : String
  properties : PropertyMap

structure Graph where
  nodes : SortedMap NodeRef PropertyMap
  edges : List Edge

namespace Edge

/-- Whether a node is an end of the edge. -/
def touches (e : Edge) (node : NodeRef) : Bool := e.source = node || e.destination = node

/-- Whether the edge leads from one node to another under a label. -/
def connects (e : Edge) (source destination : NodeRef) (relationship : String) : Bool :=
  e.source = source && e.destination = destination && e.relationship = relationship

/-- Whether every field has the value asked for. -/
def satisfies (e : Edge) (criteria : List (String × PropertyValue)) : Bool :=
  criteria.all fun (field, value) =>
    match SortedMap.get? e.properties field with
    | some v => v.equal value
    | none => false

/-- Whether an edge has a label and the ends that are given. -/
def within (e : Edge) (source destination : Option NodeRef) (relationship : String) : Bool :=
  e.relationship = relationship && source.all (e.source = ·)
    && destination.all (e.destination = ·)

/-- The edge with more properties; they replace those of the same name. -/
def extend (e : Edge) (extra : PropertyMap) : Edge :=
  { e with properties := SortedMap.merge e.properties extra }

end Edge

namespace Graph

def empty : Graph := ⟨[], []⟩

/-- The properties of a node. -/
def node? (g : Graph) (node : NodeRef) : Option PropertyMap := SortedMap.get? g.nodes node

def hasNode (g : Graph) (node : NodeRef) : Bool := SortedMap.contains g.nodes node

/-- The properties that a node is created with. -/
def placeholder (node : NodeRef) : PropertyMap := [(Param.urn, .str node.urn)]

/-- Creates the node unless it is there. -/
def mergeNode (g : Graph) (node : NodeRef) : Graph :=
  if g.hasNode node then g
  else { g with nodes := SortedMap.insert g.nodes node (placeholder node) }

/-- Creates the node unless it is there, and adds properties to it. -/
def upsertNode (g : Graph) (node : NodeRef) (extra : PropertyMap) : Graph :=
  let present := (g.node? node).getD (placeholder node)
  { g with nodes := SortedMap.insert g.nodes node (SortedMap.merge present extra) }

/-- Deletes the node and all its edges. -/
def deleteNode (g : Graph) (node : NodeRef) : Graph :=
  if g.hasNode node then
    ⟨SortedMap.erase g.nodes node, g.edges.filter (!·.touches node)⟩
  else g

/-- Adds properties to the edge between two nodes, which is created unless it is there.
Without both nodes nothing happens. -/
def upsertEdge (g : Graph) (source destination : NodeRef) (relationship : String)
    (extra : PropertyMap) : Graph :=
  if g.hasNode source && g.hasNode destination then
    if g.edges.any (·.connects source destination relationship) then
      { g with edges := g.edges.map fun e =>
          if e.connects source destination relationship then e.extend extra else e }
    else { g with edges := g.edges ++ [⟨source, destination, relationship, extra⟩] }
  else g

/-- Deletes the edges between two nodes that satisfy the criteria. -/
def deleteEdges (g : Graph) (source destination : NodeRef) (relationship : String)
    (criteria : List (String × PropertyValue)) : Graph :=
  { g with edges := g.edges.filter fun e =>
      !(e.connects source destination relationship && e.satisfies criteria) }

/-- Deletes all edges of a label with the ends that are given. -/
def removeEdges (g : Graph) (source destination : Option NodeRef) (relationship : String) :
    Graph :=
  { g with edges := g.edges.filter (!·.within source destination relationship) }

end Graph

namespace Statement

/-- The node whose urn is a parameter. -/
def nodeParam (s : Statement) (label param : String) : Except StatementError NodeRef :=
  (s.textParam param).map fun urn => ⟨label, urn⟩

/-- The node whose urn is a parameter, where a label is given. -/
def nodeParam? (s : Statement) (label : Option String) (param : String) :
    Except StatementError (Option NodeRef) :=
  match label with
  | some label => (s.nodeParam label param).map some
  | none => .ok none

/-- The fields of a filter with the values that they must have. -/
def criteria (s : Statement) :
    List String → Except StatementError (List (String × PropertyValue))
  | [] => .ok []
  | field :: rest => do
      let value ← s.param (Param.filter field)
      let others ← s.criteria rest
      return (field, value) :: others

end Statement

namespace Graph

/-- Carries out a statement. A read changes nothing. -/
def apply (g : Graph) (s : Statement) : Except StatementError Graph :=
  match s.operation with
  | .upsertNode label => do
      let node ← s.nodeParam label Param.urn
      let extra ← s.mapParam Param.properties
      return g.upsertNode node extra
  | .mergeNode label => do
      let node ← s.nodeParam label Param.urn
      return g.mergeNode node
  | .deleteNode label => do
      let node ← s.nodeParam label Param.urn
      return g.deleteNode node
  | .upsertEdge sourceLabel destinationLabel relationship => do
      let source ← s.nodeParam sourceLabel Param.source
      let destination ← s.nodeParam destinationLabel Param.destination
      let extra ← s.mapParam Param.properties
      return g.upsertEdge source destination relationship extra
  | .deleteEdge sourceLabel destinationLabel relationship filter => do
      let source ← s.nodeParam sourceLabel Param.source
      let destination ← s.nodeParam destinationLabel Param.destination
      let criteria ← s.criteria filter
      return g.deleteEdges source destination relationship criteria
  | .removeEdges _ sourceLabel destinationLabel relationship => do
      let source ← s.nodeParam? sourceLabel Param.source
      let destination ← s.nodeParam? destinationLabel Param.destination
      return g.removeEdges source destination relationship
  | .matchNodes _ | .matchEdges .. | .matchEdgesFromSource .. => .ok g

/-- Carries out statements one after another. -/
def applyAll (g : Graph) : List Statement → Except StatementError Graph
  | [] => .ok g
  | s :: rest => do
      let g ← g.apply s
      g.applyAll rest

/-- The properties of everything that a read matches. -/
def read (g : Graph) (s : Statement) : Except StatementError (List PropertyMap) :=
  match s.operation with
  | .matchNodes label => do
      let node ← s.nodeParam label Param.urn
      return (g.node? node).toList
  | .matchEdges sourceLabel destinationLabel relationship => do
      let source ← s.nodeParam sourceLabel Param.source
      let destination ← s.nodeParam destinationLabel Param.destination
      return (g.edges.filter (·.connects source destination relationship)).map Edge.properties
  | .matchEdgesFromSource sourceLabel relationship => do
      let source ← s.nodeParam sourceLabel Param.source
      return (g.edges.filter fun e => e.source = source && e.relationship = relationship).map
        Edge.properties
  | op => .error (.notRead op)

end Graph

end RecordGraph
