import RecordGraph.Bolt.Server
import RecordGraph.Cli.Run

/-!
# The program

Reads the command line, the environment and the files that a run may look at, and prints
what the run leaves behind. Without a network layer every server is out of reach.
-/

open RecordGraph

/-- Reads one path. -/
def readPath (path : String) : IO (Except FileFault String) := do
  try
    return .ok (← IO.FS.readFile path)
  catch
    | .noFileOrDirectory .. => return .error .missing
    | .inappropriateType _ code _ =>
        return .error (if code = 21 then .directory else .notADirectory)
    | .permissionDenied .. => return .error .denied
    | _ => return .error .notText

/-- Reads the files that a run may look at. -/
def readFiles (a : Cli.Arguments) : IO Files := do
  let batch := match a.command with
    | .apply file => [file]
    | _ => []
  let paths := (Settings.candidates a.config).map Prod.fst ++ batch
  let found ← paths.mapM fun path => do return (path, ← readPath path)
  return fun path => ((found.find? (·.1 = path)).map Prod.snd).getD (.error .missing)

/-- Reads all variables of the environment. -/
def readEnvironment : IO Environment := do
  match ← readPath "/proc/self/environ" with
  | .ok block => return .ofBlock block
  | .error _ => return []

def main (args : List String) : IO UInt32 := do
  match Cli.Arguments.read args with
  | .error refusal =>
      if refusal.code = 0 then IO.print refusal.text else IO.eprint refusal.text
      return refusal.code
  | .ok a =>
      let outcome := Cli.run (← readFiles a) (← readEnvironment) Bolt.Server.driver.store
        (fun settings => .start settings false [] []) a
      IO.print outcome.output
      IO.eprint outcome.errors
      return outcome.code
