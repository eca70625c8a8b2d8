import RecordGraph.Event
import RecordGraph.Record

/-!
# Settings

How to reach the graph server, how often to repeat a write, and which entity types there
are. Every setting has a default.
-/

namespace RecordGraph

/-- How to reach the graph server. -/
structure ServerSettings where
  uri : String
  user : String
  password : String
  /-- The database; the server's own default if there is none. -/
  database : Option String
  maxConnections : UInt32
  fetchSize : UInt64
deriving DecidableEq, Repr

/-- How writes are repeated. -/
structure WriterSettings where
  /-- Attempts beyond the first. -/
  maxRetries : UInt32
  /-- How many milliseconds an attempt may take. -/
  timeoutMillis : Option UInt64
  /-- The pause between attempts, in milliseconds. -/
  backoffMillis : UInt64
deriving DecidableEq, Repr

structure Settings where
  server : ServerSettings
  writer : WriterSettings
  entityTypes : List Descriptor
deriving DecidableEq, Repr

def ServerSettings.default : ServerSettings where
  uri := "bolt://localhost:7687"
  user := "neo4j"
  password := "metagraph-dev"
  database := none
  maxConnections := 16
  fetchSize := 256

def WriterSettings.default : WriterSettings where
  maxRetries := 3
  timeoutMillis := none
  backoffMillis := 0

namespace WriterSettings

def timeout (w : WriterSettings) : Option Duration := w.timeoutMillis.map .ofMillis

def backoff (w : WriterSettings) : Duration := .ofMillis w.backoffMillis

end WriterSettings

end RecordGraph
