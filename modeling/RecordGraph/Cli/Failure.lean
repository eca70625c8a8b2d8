import RecordGraph.Batch.Apply
import RecordGraph.Bolt.Address
import RecordGraph.Files
import RecordGraph.Settings.Convert

/-!
# Failures of the program

A failure is reported with the chain of its causes, the outermost first.
-/

namespace RecordGraph

/-- The message of an error and those of its causes. -/
def GraphError.chain (e : GraphError) : List String :=
  match e with
  | .schema v => [e.message, v.message]
  | .retryLimit _ last => [e.message, last.message]
  | .store reason => [e.message, reason.message]
  | .properties reason => e.message :: reason.cause?.toList
  | .configuration _ | .inconsistent .. => [e.message]

namespace Cli

/-- Why the program fails. -/
inductive Failure
  | settings (e : Settings.LoadError)
  | registry (e : RegistryError)
  | connection (e : Bolt.ConnectError)
  | unreadable (file : String) (fault : FileFault)
  | invalidBatch (file : String) (e : DecodeError)
  | apply (e : Batch.ApplyError)
  | graph (e : GraphError)
  | noNode (urn : Urn)

namespace Failure

/-- The message of a failure and those of its causes. -/
def chain : Failure → List String
  | settings e => ["Configuration error: " ++ e.message, e.message]
  | registry e => (GraphError.configuration e).chain
  | connection e => [e.message]
  | unreadable file fault => ["Failed to read " ++ file, fault.message]
  | invalidBatch file e => ["Invalid record batch " ++ file, e.message]
  | apply e => e.message :: e.cause.chain
  | graph e => e.chain
  | noNode urn => ["No node found for " ++ urn.text]

/-- The text with all lines after the first moved in by a number of blanks. -/
def hanging (blanks : Nat) (text : String) : String :=
  ("\n" ++ String.ofList (List.replicate blanks ' ')).intercalate (text.splitOn "\n")

/-- Causes with their numbers in the chain. -/
def numbered : Nat → List String → List String
  | _, [] => []
  | n, cause :: rest =>
      let number := toString n
      let margin := String.ofList (List.replicate (5 - number.length) ' ')
      (margin ++ number ++ ": " ++ hanging 7 cause ++ "\n") :: numbered (n + 1) rest

/-- The report of a chain of messages. A single cause has no number. -/
def reportOf : List String → String
  | [] => ""
  | [message] => "Error: " ++ message ++ "\n"
  | [message, cause] =>
      "Error: " ++ message ++ "\n\nCaused by:\n    " ++ hanging 4 cause ++ "\n"
  | message :: causes =>
      "Error: " ++ message ++ "\n\nCaused by:\n" ++ String.join (numbered 0 causes)

def report (f : Failure) : String := reportOf f.chain

end Failure

end Cli

end RecordGraph
