import RecordGraph.Registry
import RecordGraph.Store
import RecordGraph.Validation

/-!
# Errors of graph operations

The reasons for which a write or a read of records fails.
-/

namespace RecordGraph

/-- An end of a relationship. -/
inductive EdgeEnd
  | source
  | destination
deriving DecidableEq, Repr

def EdgeEnd.name : EdgeEnd → String
  | source => "source"
  | destination => "destination"

/-- The urn at an end of a relationship. -/
def EdgeEnd.urn (r : Relationship) : EdgeEnd → Urn
  | source => r.source
  | destination => r.destination

/-- Why a write or a read fails. -/
inductive GraphError
  | configuration (e : RegistryError)
  | schema (v : Violation)
  /-- The records of a batch differ in the end that the policy wants shared. -/
  | inconsistent (field : EdgeEnd) (expected found : Urn)
  /-- Every attempt failed, the last one with the given failure. -/
  | retryLimit (attempts : UInt32) (last : StoreError)
  | store (e : StoreError)
  | properties (e : PropertyError)
deriving DecidableEq, Repr

def GraphError.message : GraphError → String
  | configuration e => "Configuration error: " ++ e.message
  | schema v => "Schema violation: " ++ v.message
  | inconsistent field expected found =>
      "Records have different " ++ field.name ++ ": expected " ++ expected.text ++ ", found "
        ++ found.text
  | retryLimit attempts last =>
      "Failed to execute graph write transaction after " ++ toString attempts.toNat
        ++ " attempts: " ++ last.message
  | store e => "Graph store error: " ++ e.message
  | properties e => e.message

end RecordGraph
