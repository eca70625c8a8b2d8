import RecordGraph.Log
import RecordGraph.Settings.Source

/-!
# Loading settings

The environment wins over the file.
-/

namespace RecordGraph

namespace Settings

/-- Loads the settings of a file and the environment. -/
def load (files : Files) (environment : Environment) (name : String) :
    Except LoadError Settings := do
  let fromFile ← fileFields files name
  (Node.table none (Node.layered [fromFile, environmentFields environment])).toSettings

/-- The log line of settings that were loaded. -/
def loaded (s : Settings) : LogEvent :=
  .settingsLoaded s.server.uri s.entityTypes.length s.writer.maxRetries

end Settings

end RecordGraph
