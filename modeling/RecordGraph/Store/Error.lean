/-!
# Failures of stores
-/

namespace RecordGraph

/-- How a store fails. Only a transient failure is worth another attempt. -/
inductive StoreError
  | transient (text : String)
  | fatal (text : String)
deriving DecidableEq, Repr

namespace StoreError

def isTransient : StoreError → Bool
  | transient _ => true
  | fatal _ => false

def message : StoreError → String
  | transient text => "transient failure: " ++ text
  | fatal text => text

end StoreError

end RecordGraph
