import RecordGraph.Decode.Records

/-!
# Record batches

A batch file holds entities and relationships in one JSON object, with the policy for the
relationships. Any other field in it is an error.
-/

namespace RecordGraph

/-- The records of a batch file. -/
structure Batch where
  entities : List EntityRecord
  relationships : List RelationshipRecord
  policy : RemovalPolicy

def Batch.decode : Decoder Batch :=
  .record (.counted "RecordBatch" 3) true
    (.optional "entities" (.list EntityRecord.decode) [] <|
      .optional "relationships" (.list RelationshipRecord.decode) [] <|
      .optional "removal_policy" RemovalPolicy.decode .none .nil)
    fun (entities, relationships, policy, _) => .ok ⟨entities, relationships, policy⟩

end RecordGraph
