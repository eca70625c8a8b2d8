import RecordGraph.Cli.Arguments
import RecordGraph.Cli.Failure
import RecordGraph.Settings.Load

/-!
# Running commands

A run loads the settings, sets up a writer and carries out one command with it. What a
command printed before it failed stays printed.
-/

namespace RecordGraph.Cli

/-- What a run of the program leaves behind. -/
structure Outcome (σ : Type) where
  code : UInt32
  output : String
  errors : String
  /-- The store, if the run came as far as to one. -/
  store : Option σ

/-- What carrying out a command gives: what it printed, how it ended, and the scene it
leaves behind. -/
abbrev Effect (σ : Type) := String × Except Failure Unit × Scene σ Empty

/-- Reads a batch file. -/
def readBatch (files : Files) (file : String) : Except Failure Batch := do
  let text ← (files file).mapError (.unreadable file)
  (Batch.decode.ofText text).mapError (.invalidBatch file)

/-- One JSON value as it is printed. -/
def printed (v : Json) : String := v.indented ++ "\n"

/-- Prints the edges of a label that leave a node, after the text printed so far. -/
def inspectEdges (w : Writer σ) (urn : Urn) (label before : String) (s : Scene σ Empty) :
    Effect σ :=
  match w.getEdgesFromSource urn label s.world with
  | (.error e, world) => (before, .error (.graph e), { s with world := world })
  | (.ok edges, world) =>
      (before ++ printed (.arr (edges.map PropertyMap.toJson)), .ok (), { s with world := world })

/-- Prints a node, and the edges that leave it if they are asked for. -/
def inspect (w : Writer σ) (urn : Urn) (outgoing : Option String) (s : Scene σ Empty) :
    Effect σ :=
  match w.getNode urn s.world with
  | (.error e, world) => ("", .error (.graph e), { s with world := world })
  | (.ok none, world) => ("", .error (.noNode urn), { s with world := world })
  | (.ok (some node), world) =>
      let s := { s with world := world }
      match outgoing with
      | none => (printed node.toJson, .ok (), s)
      | some label => inspectEdges w urn label (printed node.toJson) s

/-- Carries out a command. -/
def Command.perform (files : Files) (w : Writer σ) (s : Scene σ Empty) : Command → Effect σ
  | apply file =>
      match readBatch files file with
      | .error e => ("", .error e, s)
      | .ok batch =>
          let (r, s) := batch.apply w s
          ("", r.mapError .apply, s)
  | removeEntities urns =>
      let (r, s) := w.removeEntities urns s
      ("", r.mapError .graph, s)
  | inspect urn outgoing => Cli.inspect w urn outgoing s

/-- Sets up a writer with the settings in effect. Nothing is sent to the server yet. -/
def setUp (files : Files) (environment : Environment) (store : Store σ)
    (connect : ServerSettings → σ) (config : String) :
    Except Failure (Writer σ × Scene σ Empty) := do
  let settings ← (Settings.load files environment config).mapError .settings
  let registry ← (Registry.ofDescriptors settings.entityTypes).mapError .registry
  (Bolt.Address.check settings.server.uri).mapError .connection
  let world := (World.ofStore (connect settings.server)).notes
    [Settings.loaded settings, .connected settings.server.uri settings.server.database]
  return (⟨store, registry, .structural, settings.writer⟩,
    ⟨world, Fanout.ofListeners [.reporting]⟩)

/-- Runs the program on a store that is connected to with the settings in effect. -/
def run (files : Files) (environment : Environment) (store : Store σ)
    (connect : ServerSettings → σ) (a : Arguments) : Outcome σ :=
  match setUp files environment store connect a.config with
  | .error e => ⟨1, "", e.report, none⟩
  | .ok (w, s) =>
      match a.command.perform files w s with
      | (output, .ok (), s) => ⟨0, output, "", some s.world.store⟩
      | (output, .error e, s) => ⟨1, output, e.report, some s.world.store⟩

end RecordGraph.Cli
