import RecordGraph.Event
import RecordGraph.Statement
import RecordGraph.Store.Error

/-!
# The log

Everything that is worth a line in the log, with the level, the place, the words and the
fields of the line.
-/

namespace RecordGraph

inductive LogLevel
  | debug
  | info
  | warn
  | error
deriving DecidableEq, Repr

def LogLevel.name : LogLevel → String
  | debug => "DEBUG"
  | info => "INFO"
  | warn => "WARN"
  | error => "ERROR"

/-- Something worth a line in the log. -/
inductive LogEvent
  | settingsLoaded (uri : String) (entityTypes : Nat) (maxRetries : UInt32)
  | unregistered (entityType : String)
  | retrying (e : StoreError) (attempt maxRetries : UInt32) (statements : Nat)
  | exhausted (e : StoreError) (attempts : UInt32)
  | writeFailed (e : StoreError)
  | batchCommitted (event : MetricEvent) (statements : Nat)
  | listenerPanicked (index : Nat) (kind : WriteKind)
  /-- A listener that writes every event to the log. -/
  | reported (event : MetricEvent)
  | connected (uri : String) (database : Option String)
  | rollingBack (failure : String) (statement : String)
  | recordsApplied (entities relationships : Nat) (policy : RemovalPolicy)

namespace LogEvent

def level : LogEvent → LogLevel
  | settingsLoaded .. | unregistered _ | batchCommitted .. | rollingBack .. => .debug
  | reported _ | connected .. | recordsApplied .. => .info
  | retrying .. => .warn
  | exhausted .. | writeFailed _ | listenerPanicked .. => .error

/-- The part of the program that writes the line. -/
def target : LogEvent → String
  | settingsLoaded .. => "metagraph_core::config"
  | unregistered _ => "metagraph_graph::registry"
  | retrying .. | exhausted .. | writeFailed _ => "metagraph_graph::executor"
  | batchCommitted .. => "metagraph_graph::writer"
  | listenerPanicked .. | reported _ => "metagraph_graph::metrics"
  | connected .. | rollingBack .. => "metagraph_graph::client"
  | recordsApplied .. => "metagraph_cli::batch"

def message : LogEvent → String
  | settingsLoaded .. => "Configuration loaded"
  | unregistered _ => "Unregistered entity type"
  | retrying .. => "Transient failure, retrying graph write transaction"
  | exhausted .. => "Graph write retries exhausted"
  | writeFailed _ => "Graph write failed"
  | batchCommitted .. => "Graph write batch committed"
  | listenerPanicked .. => "Metric listener panicked"
  | reported _ => "Graph write committed"
  | connected .. => "Connected to Neo4j"
  | rollingBack .. => "Rolling back graph write"
  | recordsApplied .. => "Record batch applied"

/-- Whole milliseconds within 64 bits. -/
def millis (d : Duration) : Json := Json.ofNat (d.millis % 0x10000000000000000)

def fields : LogEvent → List (String × Json)
  | settingsLoaded uri entityTypes maxRetries =>
      [("uri", .str uri), ("entity_types", Json.ofNat entityTypes),
        ("max_retries", Json.ofNat maxRetries.toNat)]
  | unregistered entityType => [("entity_type", .str entityType)]
  | retrying e attempt maxRetries statements =>
      [("error", .str e.message), ("attempt", Json.ofNat attempt.toNat),
        ("max_retries", Json.ofNat maxRetries.toNat), ("statements", Json.ofNat statements)]
  | exhausted e attempts =>
      [("error", .str e.message), ("attempts", Json.ofNat attempts.toNat)]
  | writeFailed e => [("error", .str e.message)]
  | batchCommitted event statements =>
      [("kind", .str event.kind.name), ("count", Json.ofNat event.count),
        ("statements", Json.ofNat statements), ("elapsed_ms", millis event.elapsed),
        ("retries", Json.ofNat event.retries.toNat)]
  | listenerPanicked index kind => [("listener", Json.ofNat index), ("kind", .str kind.name)]
  | reported event =>
      [("kind", .str event.kind.name), ("count", Json.ofNat event.count),
        ("elapsed_ms", millis event.elapsed), ("retries", Json.ofNat event.retries.toNat)]
  | connected uri database =>
      [("uri", .str uri), ("database", .str (Operation.optionalText database))]
  | rollingBack failure statement => [("error", .str failure), ("statement", .str statement)]
  | recordsApplied entities relationships policy =>
      [("entities", Json.ofNat entities), ("relationships", Json.ofNat relationships),
        ("policy", .str policy.title)]

end LogEvent

end RecordGraph
