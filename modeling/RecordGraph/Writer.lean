import RecordGraph.Store.Execution
import RecordGraph.Fanout
import RecordGraph.Statement.Records

/-!
# Writing records

Each call validates all records, builds one batch of statements, executes it as a single
transaction and then tells the listeners once. A call has its whole effect or none. Reads
run outside any transaction and are not repeated.
-/

namespace RecordGraph

/-- How records get into a store. -/
structure Writer (σ : Type) where
  store : Store σ
  registry : Registry
  validator : Validator
  settings : WriterSettings

/-- A store in its present state, and the listeners. -/
structure Scene (σ ν : Type) where
  world : World σ
  fanout : Fanout ν

namespace Scene

/-- The event told to all listeners, whose lines go to the log. -/
def tell (s : Scene σ ν) (event : MetricEvent) : Scene σ ν :=
  let after := { s.fanout with log := [] }.notify event
  ⟨s.world.notes after.log, { after with log := [] }⟩

end Scene

/-- The first violation among records. -/
def Validator.all (check : α → Except Violation Unit) : List α → Except GraphError Unit
  | [] => .ok ()
  | r :: rest =>
      match check r with
      | .ok () => Validator.all check rest
      | .error v => .error (.schema v)

namespace Statement

/-- The urns whose labels are looked up for a record, if its label is an identifier. -/
def endsLookedUp (r : Relationship) : List Urn :=
  if Identifier.isValid r.label then [r.source, r.destination] else []

/-- The urns looked up until a record fails to become a statement. -/
def lookedUp (build : α → Except GraphError β) (urns : α → List Urn) : List α → List Urn
  | [] => []
  | r :: rest =>
      match build r with
      | .ok _ => urns r ++ lookedUp build urns rest
      | .error _ => urns r

/-- The urns looked up for a removal. -/
def removalLookedUp (policy : RemovalPolicy) : List Relationship → List Urn
  | [] => []
  | first :: _ =>
      (if policy.sharesSource then [first.source] else [])
        ++ if policy.sharesDestination then [first.destination] else []

/-- The urns looked up for a batch of relationships. -/
def additionLookedUp (registry : Registry) (policy : RemovalPolicy) (rs : List Relationship) :
    List Urn :=
  match removal registry policy rs with
  | .error _ => []
  | .ok _ =>
      removalLookedUp policy rs
        ++ lookedUp (upsertEdge registry)
            (fun r => r.source :: r.destination :: endsLookedUp r) rs

end Statement

/-- The log lines of looking up the labels of urns: one for each without a registered
type. -/
def Registry.lookups (r : Registry) (urns : List Urn) : List LogEvent :=
  (urns.filter fun u => !r.contains u.entityType).map fun u => .unregistered u.entityType

namespace Writer

/-- Executes the batch for a number of records and tells the listeners. -/
def commit (w : Writer σ) (kind : WriteKind) (count : Nat) (statements : List Statement)
    (s : Scene σ ν) : Except GraphError Unit × Scene σ ν :=
  if count = 0 then (.ok (), s.tell (.empty kind))
  else
    match w.store.execute w.settings statements s.world with
    | (.error e, world) => (.error e, { s with world := world })
    | (.ok execution, world) =>
        let event : MetricEvent := ⟨kind, count, execution.elapsed, execution.retries⟩
        let world := world.note (.batchCommitted event statements.length)
        (.ok (), { s with world := world }.tell event)

/-- Commits a batch that was built, after the lookups of its labels are logged. -/
def commitBuilt (w : Writer σ) (kind : WriteKind) (count : Nat) (urns : List Urn)
    (built : Except GraphError (List Statement)) (s : Scene σ ν) :
    Except GraphError Unit × Scene σ ν :=
  let s := { s with world := s.world.notes (w.registry.lookups urns) }
  match built with
  | .error e => (.error e, s)
  | .ok statements => w.commit kind count statements s

/-- Writes entities. Properties that a record does not have are kept. -/
def addEntities (w : Writer σ) (es : List Entity) (s : Scene σ ν) :
    Except GraphError Unit × Scene σ ν :=
  match Validator.all w.validator.entity es with
  | .error e => (.error e, s)
  | .ok () =>
      w.commitBuilt .entitiesAdded es.length
        (Statement.lookedUp (Statement.upsertNode w.registry) (fun e => [e.urn]) es)
        (Statement.upsertNodes w.registry es) s

/-- Deletes entities with all their edges. -/
def removeEntities (w : Writer σ) (urns : List Urn) (s : Scene σ ν) :
    Except GraphError Unit × Scene σ ν :=
  w.commitBuilt .entitiesRemoved urns.length urns
    (.ok (urns.map (Statement.deleteNode w.registry))) s

/-- Writes relationships, and nodes for ends that are not there. The policy first clears
the edges that the batch replaces, in the same transaction. -/
def addRelationships (w : Writer σ) (policy : RemovalPolicy) (rs : List Relationship)
    (s : Scene σ ν) : Except GraphError Unit × Scene σ ν :=
  match Validator.all w.validator.relationship rs with
  | .error e => (.error e, s)
  | .ok () =>
      w.commitBuilt .relationshipsAdded rs.length
        (Statement.additionLookedUp w.registry policy rs)
        (Statement.addRelationships w.registry policy rs) s

/-- Deletes the edges that match relationships. -/
def removeRelationships (w : Writer σ) (rs : List Relationship) (s : Scene σ ν) :
    Except GraphError Unit × Scene σ ν :=
  match Validator.all w.validator.relationship rs with
  | .error e => (.error e, s)
  | .ok () =>
      w.commitBuilt .relationshipsRemoved rs.length
        (Statement.lookedUp (Statement.deleteEdge w.registry) Statement.endsLookedUp rs)
        (Statement.deleteEdges w.registry rs) s

/-- Carries out a read that was built, after the lookups of its labels are logged. -/
def fetchBuilt (w : Writer σ) (urns : List Urn) (built : Except GraphError Statement)
    (world : World σ) : Except GraphError (List PropertyMap) × World σ :=
  match built with
  | .error e => (.error e, world)
  | .ok statement =>
      let (rows, store) := w.store.fetch statement world.store
      (rows.mapError .store, { world.notes (w.registry.lookups urns) with store := store })

/-- Every node for a urn. -/
def getAllNodes (w : Writer σ) (u : Urn) (world : World σ) :
    Except GraphError (List PropertyMap) × World σ :=
  w.fetchBuilt [u] (.ok (Statement.matchNodes w.registry u)) world

/-- The node for a urn. -/
def getNode (w : Writer σ) (u : Urn) (world : World σ) :
    Except GraphError (Option PropertyMap) × World σ :=
  let (rows, world) := w.getAllNodes u world
  (rows.map List.head?, world)

/-- The edges between the ends of a relationship that have its label. -/
def getEdges (w : Writer σ) (r : Relationship) (world : World σ) :
    Except GraphError (List PropertyMap) × World σ :=
  w.fetchBuilt [r.source, r.destination] (Statement.matchEdges w.registry r) world

/-- The edges of a label that leave a node. -/
def getEdgesFromSource (w : Writer σ) (source : Urn) (label : String) (world : World σ) :
    Except GraphError (List PropertyMap) × World σ :=
  w.fetchBuilt [source] (Statement.matchEdgesFromSource w.registry source label) world

end Writer

end RecordGraph
