import RecordGraph.Urn
import RecordGraph.Property.Map

/-!
# Records

An entity becomes one node and a relationship one edge. The records that arrive as JSON carry
a plain property map; a record of another kind computes its properties and may fail to.
-/

namespace RecordGraph

/-- A record that becomes a node. -/
structure Entity where
  urn : Urn
  properties : Except PropertyError Properties

/-- A record that becomes an edge. -/
structure Relationship where
  label : String
  source : Urn
  destination : Urn
  properties : Except PropertyError Properties
  /-- The properties that tell this edge from others with its ends and label. -/
  filterFields : List String

/-- An entity with the properties given. -/
structure EntityRecord where
  urn : Urn
  properties : Properties

/-- A relationship with the properties given. -/
structure RelationshipRecord where
  label : String
  source : Urn
  destination : Urn
  properties : Properties
  filterFields : List String

/-- The node label of an entity type. -/
structure Descriptor where
  entityType : String
  label : String
deriving DecidableEq, Repr

/-- Which edges a batch of relationships replaces. -/
inductive RemovalPolicy
  | none
  /-- Those with the batch's label that leave the shared source. -/
  | allFromSource
  /-- Those with the batch's label that enter the shared destination. -/
  | allToDestination
  /-- Those with the batch's label from the shared source to the shared destination. -/
  | allFromSourceToDestination
deriving DecidableEq, Repr, Inhabited

/-- A urn stands in data as its text. -/
def Urn.toJson (u : Urn) : Json := .str u.text

namespace EntityRecord

def entity (r : EntityRecord) : Entity := ⟨r.urn, .ok r.properties⟩

def toJson (r : EntityRecord) : Json :=
  .obj [("urn", r.urn.toJson), ("properties", r.properties.map.toJson)]

end EntityRecord

namespace RelationshipRecord

def relationship (r : RelationshipRecord) : Relationship :=
  ⟨r.label, r.source, r.destination, .ok r.properties, r.filterFields⟩

def toJson (r : RelationshipRecord) : Json :=
  .obj [("label", .str r.label), ("source", r.source.toJson),
    ("destination", r.destination.toJson), ("properties", r.properties.map.toJson),
    ("filter_fields", .arr (r.filterFields.map .str))]

end RelationshipRecord

def Descriptor.toJson (d : Descriptor) : Json :=
  .obj [("entity_type", .str d.entityType), ("label", .str d.label)]

namespace RemovalPolicy

/-- The policies in the order in which messages list them. -/
def all : List RemovalPolicy :=
  [none, allFromSource, allToDestination, allFromSourceToDestination]

/-- The name in data. -/
def name : RemovalPolicy → String
  | none => "none"
  | allFromSource => "remove_all_from_source"
  | allToDestination => "remove_all_to_destination"
  | allFromSourceToDestination => "remove_all_from_source_to_destination"

/-- The name in messages. -/
def title : RemovalPolicy → String
  | none => "None"
  | allFromSource => "RemoveAllFromSource"
  | allToDestination => "RemoveAllToDestination"
  | allFromSourceToDestination => "RemoveAllFromSourceToDestination"

/-- Whether a batch must have one source. -/
def sharesSource : RemovalPolicy → Bool
  | allFromSource | allFromSourceToDestination => true
  | _ => false

/-- Whether a batch must have one destination. -/
def sharesDestination : RemovalPolicy → Bool
  | allToDestination | allFromSourceToDestination => true
  | _ => false

def toJson (p : RemovalPolicy) : Json := .str p.name

end RemovalPolicy

end RecordGraph
