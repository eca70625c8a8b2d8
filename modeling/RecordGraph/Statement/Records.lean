import RecordGraph.Graph.Error

/-!
# Statements for records

Every way to write or read records, as statements. Labels come from the registry or, after a
check, from the relationship; all data goes into parameters.
-/

namespace RecordGraph.Statement

variable (registry : Registry)

def urnValue (u : Urn) : PropertyValue := .str u.text

/-- The parameters of a statement about one node. -/
def nodeParams (name : String) (u : Urn) : PropertyMap := [(name, urnValue u)]

/-- The parameters of a statement about an edge. -/
def endParams (r : Relationship) : PropertyMap :=
  SortedMap.insert (nodeParams Param.source r.source) Param.destination (urnValue r.destination)

/-- The properties of a record. -/
def propertiesOf (properties : Except PropertyError Properties) :
    Except GraphError PropertyMap := (properties.map Properties.map).mapError .properties

/-- A label for an edge, which must be an identifier. -/
def checkedLabel (label : String) : Except GraphError String :=
  if Identifier.isValid label then .ok label
  else .error (.schema ⟨label, .relationshipLabel⟩)

/-- Writes an entity. Properties that the record does not have are left alone, and the urn
is not written twice. -/
def upsertNode (e : Entity) : Except GraphError Statement := do
  let properties ← propertiesOf e.properties
  return ofOperation (.upsertNode (registry.labelFor e.urn))
    (SortedMap.insert (nodeParams Param.urn e.urn) Param.properties
      (.map (SortedMap.erase properties Param.urn)))

/-- Deletes an entity with all its edges. -/
def deleteNode (u : Urn) : Statement :=
  ofOperation (.deleteNode (registry.labelFor u)) (nodeParams Param.urn u)

/-- Makes sure that there is a node for a urn. -/
def mergeNode (u : Urn) : Statement :=
  ofOperation (.mergeNode (registry.labelFor u)) (nodeParams Param.urn u)

/-- Writes a relationship between nodes that are there. -/
def upsertEdge (r : Relationship) : Except GraphError Statement := do
  let label ← checkedLabel r.label
  let properties ← propertiesOf r.properties
  return ofOperation
    (.upsertEdge (registry.labelFor r.source) (registry.labelFor r.destination) label)
    (SortedMap.insert (endParams r) Param.properties (.map properties))

/-- The distinct filter fields of a relationship in increasing order. -/
def declaredFields (r : Relationship) : List String :=
  SortedMap.keys (SortedMap.ofList (r.filterFields.map fun field => (field, ())))

/-- The declared fields that the relationship has, with their values. -/
def filterValues (label : String) (properties : PropertyMap) :
    List String → Except GraphError (List (String × PropertyValue))
  | [] => .ok []
  | field :: rest =>
      if Identifier.isValid field then do
        let others ← filterValues label properties rest
        return match SortedMap.get? properties field with
          | some v => (field, v) :: others
          | none => others
      else .error (.schema ⟨label, .filterField field⟩)

/-- Deletes the edges between the ends of a relationship that agree with it in every filter
field it has. -/
def deleteEdge (r : Relationship) : Except GraphError Statement := do
  let label ← checkedLabel r.label
  let properties ← propertiesOf r.properties
  let found ← filterValues label properties (declaredFields r)
  return ofOperation
    (.deleteEdge (registry.labelFor r.source) (registry.labelFor r.destination) label
      (found.map Prod.fst))
    (SortedMap.merge (endParams r) (found.map fun (field, v) => (Param.filter field, v)))

/-- Fails unless all relationships have the urn of the first at an end. -/
def checkShared (field : EdgeEnd) (expected : Urn) (rs : List Relationship) :
    Except GraphError Unit :=
  match rs.find? fun r => field.urn r ≠ expected with
  | some r => .error (.inconsistent field expected (field.urn r))
  | none => .ok ()

/-- The statement that clears the edges which a batch replaces, if it replaces any. The
label is that of the first relationship. -/
def removal (policy : RemovalPolicy) (rs : List Relationship) :
    Except GraphError (Option Statement) :=
  match policy, rs with
  | .none, _ | _, [] => .ok none
  | policy, first :: rest => do
      let label ← checkedLabel first.label
      if policy.sharesSource then checkShared .source first.source (first :: rest)
      if policy.sharesDestination then
        checkShared .destination first.destination (first :: rest)
      let sourceLabel :=
        if policy.sharesSource then some (registry.labelFor first.source) else none
      let destinationLabel :=
        if policy.sharesDestination then some (registry.labelFor first.destination) else none
      let source := if policy.sharesSource then nodeParams Param.source first.source else []
      let destination :=
        if policy.sharesDestination then nodeParams Param.destination first.destination else []
      return some (ofOperation (.removeEdges policy sourceLabel destinationLabel label)
        (SortedMap.merge source destination))

/-- Writes relationships after making sure that their ends are there. -/
def upsertEdges : List Relationship → Except GraphError (List Statement)
  | [] => .ok []
  | r :: rest => do
      let edge ← upsertEdge registry r
      let others ← upsertEdges rest
      return mergeNode registry r.source :: mergeNode registry r.destination :: edge :: others

/-- Writes a batch of relationships: first the removal, then each of them. -/
def addRelationships (policy : RemovalPolicy) (rs : List Relationship) :
    Except GraphError (List Statement) := do
  let cleared ← removal registry policy rs
  let written ← upsertEdges registry rs
  return cleared.toList ++ written

/-- Writes a batch of entities. -/
def upsertNodes : List Entity → Except GraphError (List Statement)
  | [] => .ok []
  | e :: rest => do
      let node ← upsertNode registry e
      let others ← upsertNodes rest
      return node :: others

/-- Deletes the edges of a batch of relationships. -/
def deleteEdges : List Relationship → Except GraphError (List Statement)
  | [] => .ok []
  | r :: rest => do
      let edge ← deleteEdge registry r
      let others ← deleteEdges rest
      return edge :: others

/-- Reads the nodes for a urn. -/
def matchNodes (u : Urn) : Statement :=
  ofOperation (.matchNodes (registry.labelFor u)) (nodeParams Param.urn u)

/-- Reads the edges between the ends of a relationship that have its label. -/
def matchEdges (r : Relationship) : Except GraphError Statement := do
  let label ← checkedLabel r.label
  return ofOperation
    (.matchEdges (registry.labelFor r.source) (registry.labelFor r.destination) label)
    (endParams r)

/-- Reads the edges of a label that leave a node. -/
def matchEdgesFromSource (source : Urn) (label : String) : Except GraphError Statement := do
  let label ← checkedLabel label
  return ofOperation (.matchEdgesFromSource (registry.labelFor source) label)
    (nodeParams Param.source source)

end RecordGraph.Statement
