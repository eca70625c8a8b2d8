import RecordGraph.Store.Error

/-!
# Failures of a server or of the way to it

A connection that is lost and the failures that a server itself calls transient are worth
another attempt. The server reports a terminated transaction under a transient code that
does not mean that, so the code is corrected first.
-/

namespace RecordGraph.Bolt

/-- Why a call to a server fails. -/
inductive Failure
  /-- The connection was lost or could not be made. -/
  | lost
  /-- The connection is in no state to be used. -/
  | disconnected
  /-- The server refused, with a code and a message. -/
  | refused (code message : String)
  /-- Anything else, in words. -/
  | other (text : String)
deriving DecidableEq, Repr

namespace Failure

/-- The code that a code of the server stands for. -/
def corrected (code : String) : String :=
  if code = "Neo.TransientError.Transaction.Terminated" then
    "Neo.ClientError.Transaction.Terminated"
  else if code = "Neo.TransientError.Transaction.LockClientStopped" then
    "Neo.ClientError.Transaction.LockClientStopped"
  else code

/-- A refusal with the code and the message of a server. -/
def ofServer (code message : String) : Failure := refused (corrected code) message

/-- Whether a code says that another attempt may succeed. -/
def isRetryable (code : String) : Bool :=
  match code.splitOn "." with
  | _ :: "TransientError" :: _
  | _ :: "ClientError" :: "Cluster" :: "NotALeader" :: _
  | _ :: "ClientError" :: "General" :: "ForbiddenOnReadOnlyDatabase" :: _
  | _ :: "ClientError" :: "Security" :: "AuthorizationExpired" :: _ => true
  | _ => false

def isTransient : Failure → Bool
  | lost | disconnected => true
  | refused code _ => isRetryable code
  | other _ => false

def message : Failure → String
  | lost => "an IO error occurred"
  | disconnected => "connection error"
  | refused code message => "Neo4j error `" ++ code ++ "`: " ++ message
  | other text => text

/-- The failure of a store that a failure of a server is. -/
def storeError (f : Failure) : StoreError :=
  if f.isTransient then .transient f.message else .fatal f.message

end Failure

end RecordGraph.Bolt
