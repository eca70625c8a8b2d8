import RecordGraph.Batch
import RecordGraph.Writer

/-!
# Applying record batches

The entities of a batch are written first and its relationships after them, each half in a
transaction of its own.
-/

namespace RecordGraph.Batch

/-- Which half of a batch failed. -/
inductive ApplyError
  | entities (e : GraphError)
  | relationships (e : GraphError)
deriving DecidableEq, Repr

namespace ApplyError

def cause : ApplyError → GraphError
  | entities e | relationships e => e

def message : ApplyError → String
  | entities _ => "Failed to add entities"
  | relationships _ => "Failed to add relationships"

end ApplyError

/-- Writes a batch. -/
def apply (b : Batch) (w : Writer σ) (s : Scene σ ν) : Except ApplyError Unit × Scene σ ν :=
  match w.addEntities (b.entities.map EntityRecord.entity) s with
  | (.error e, s) => (.error (.entities e), s)
  | (.ok (), s) =>
      match w.addRelationships b.policy
          (b.relationships.map RelationshipRecord.relationship) s with
      | (.error e, s) => (.error (.relationships e), s)
      | (.ok (), s) =>
          let applied : LogEvent :=
            .recordsApplied b.entities.length b.relationships.length b.policy
          (.ok (), { s with world := s.world.note applied })

end RecordGraph.Batch
