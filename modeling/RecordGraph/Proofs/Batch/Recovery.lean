import RecordGraph.Batch.Apply
import RecordGraph.Proofs.Writer.Runs

/-!
# Applying a batch again

The halves of a batch are written one after the other, so a failure leaves nothing of it in
the graph or its entities alone. Entities that are there already are not changed by being
written again, so a batch that failed is repaired by applying it until it succeeds.
-/

namespace RecordGraph

namespace Memory

/-- Puts failures in line. -/
def failAll (m : Memory) (line : List StoreError) : Memory := line.foldl failNext m

theorem graph_failAll (m : Memory) (line : List StoreError) : (m.failAll line).graph = m.graph := by
  induction line generalizing m with
  | nil => rfl
  | cons e rest ih => exact ih (m.failNext e)

end Memory

/-- A scene in which failures are put in line. -/
def Scene.failAll (s : Scene Memory ν) (line : List StoreError) : Scene Memory ν :=
  { s with world := { s.world with store := s.world.store.failAll line } }

namespace Batch

open RecordGraph.Memory

/-- The entities of a batch, as they are written. -/
def written (b : Batch) : List Entity := b.entities.map EntityRecord.entity

/-- The relationships of a batch, as they are written. -/
def linked (b : Batch) : List Relationship := b.relationships.map RelationshipRecord.relationship

/-- Writes a batch while failures are put in line between its halves. -/
def applyAmid (b : Batch) (between : List StoreError) (w : Writer Memory) (s : Scene Memory ν) :
    Except ApplyError Unit × Scene Memory ν :=
  match w.addEntities b.written s with
  | (.error e, s) => (.error (.entities e), s)
  | (.ok (), s) =>
      match w.addRelationships b.policy b.linked (s.failAll between) with
      | (.error e, s) => (.error (.relationships e), s)
      | (.ok (), s) =>
          let applied : LogEvent :=
            .recordsApplied b.entities.length b.relationships.length b.policy
          (.ok (), { s with world := s.world.note applied })

theorem failAll_nil (s : Scene Memory ν) : s.failAll [] = s := rfl

theorem applyAmid_nil (b : Batch) (w : Writer Memory) (s : Scene Memory ν) :
    b.applyAmid [] w s = b.apply w s := by
  unfold applyAmid apply written linked
  simp only [failAll_nil]
  rcases w.addEntities (b.entities.map EntityRecord.entity) s with ⟨e | ⟨⟨⟩⟩, half⟩
  · rfl
  · dsimp only
    rcases w.addRelationships b.policy (b.relationships.map RelationshipRecord.relationship) half
      with ⟨e | ⟨⟨⟩⟩, whole⟩
    · rfl
    · rfl

/-- The three ways in which the application of a batch ends. -/
inductive Ending (b : Batch) (between : List StoreError) (w : Writer Memory)
    (s : Scene Memory ν) : Except ApplyError Unit → Scene Memory ν → Prop
  | entities {e : GraphError} {after : Scene Memory ν}
      (failed : w.addEntities b.written s = (.error e, after)) :
      Ending b between w s (.error (.entities e)) after
  | relationships {e : GraphError} {half after : Scene Memory ν}
      (added : w.addEntities b.written s = (.ok (), half))
      (failed : w.addRelationships b.policy b.linked (half.failAll between) = (.error e, after)) :
      Ending b between w s (.error (.relationships e)) after
  | applied {half whole after : Scene Memory ν}
      (added : w.addEntities b.written s = (.ok (), half))
      (linked : w.addRelationships b.policy b.linked (half.failAll between) = (.ok (), whole))
      (same : after.world.store = whole.world.store) : Ending b between w s (.ok ()) after

theorem ending_of_applyAmid {b : Batch} {between : List StoreError} {w : Writer Memory}
    {s after : Scene Memory ν} {result : Except ApplyError Unit}
    (done : b.applyAmid between w s = (result, after)) : Ending b between w s result after := by
  unfold applyAmid at done
  split at done
  · rename_i failed
    cases done
    exact .entities failed
  · rename_i added
    split at done
    · rename_i failed
      cases done
      exact .relationships added failed
    · rename_i linked
      cases done
      exact .applied added linked rfl

/-! ## What is left in the graph -/

/-- What the entities of a batch make of a graph. -/
def entitiesEffect (b : Batch) (registry : Registry) (g : Graph) : Graph :=
  (WriteCall.addEntities b.written).effect registry g

/-- What a batch makes of a graph. -/
def effect (b : Batch) (registry : Registry) (g : Graph) : Graph :=
  (WriteCall.addRelationships b.policy b.linked).effect registry (b.entitiesEffect registry g)

section Graphs

variable {b : Batch} {between : List StoreError} {registry : Registry} {validator : Validator}
  {settings : WriterSettings} {s half after : Scene Memory ν} {e : GraphError}

theorem graph_of_added
    (added : (writer registry validator settings).addEntities b.written s = (.ok (), half)) :
    half.world.store.graph = b.entitiesEffect registry s.world.store.graph := by
  change (WriteCall.addEntities b.written).run _ s = _ at added
  exact graph_of_run added

theorem unchanged_of_refused
    (failed : (writer registry validator settings).addEntities b.written s = (.error e, after)) :
    after.world.store.graph = s.world.store.graph := by
  change (WriteCall.addEntities b.written).run _ s = _ at failed
  exact (unchanged_of_run failed).graph

/-- Relationships that cannot be written leave the entities alone. -/
theorem unchanged_of_unlinked
    (failed : (writer registry validator settings).addRelationships b.policy b.linked
      (half.failAll between) = (.error e, after)) :
    after.world.store.graph = half.world.store.graph := by
  change (WriteCall.addRelationships b.policy b.linked).run _ _ = _ at failed
  rw [(unchanged_of_run failed).graph]
  exact graph_failAll half.world.store between

/-- A batch that is applied has its whole effect. -/
theorem graph_of_applyAmid
    (done : b.applyAmid between (writer registry validator settings) s = (.ok (), after)) :
    after.world.store.graph = b.effect registry s.world.store.graph := by
  cases ending_of_applyAmid done with
  | applied added linked same =>
      rename_i half whole
      change (WriteCall.addRelationships b.policy b.linked).run _ _ = _ at linked
      have kept : (half.failAll between).world.store.graph = half.world.store.graph :=
        graph_failAll half.world.store between
      rw [same, graph_of_run linked, kept, graph_of_added added, effect]

/-- A batch that fails leaves the graph as it was, or with the entities alone. -/
theorem graph_of_failure {failure : ApplyError}
    (done : b.applyAmid between (writer registry validator settings) s =
      (.error failure, after)) :
    after.world.store.graph = s.world.store.graph ∨
      after.world.store.graph = b.entitiesEffect registry s.world.store.graph := by
  cases ending_of_applyAmid done with
  | entities failed => exact .inl (unchanged_of_refused failed)
  | relationships added failed =>
      exact .inr ((unchanged_of_unlinked failed).trans (graph_of_added added))

/-- A batch that was applied is applied again when no failure is in line. -/
theorem applied_of_idle
    (done : b.applyAmid between (writer registry validator settings) s = (.ok (), after))
    {s' : Scene Memory ν'} (idle : s'.world.store.failures = []) :
    ∃ once, b.apply (writer registry validator settings) s' = (.ok (), once) := by
  cases ending_of_applyAmid done with
  | applied added linked same =>
      change (WriteCall.addEntities b.written).run _ s = _ at added
      change (WriteCall.addRelationships b.policy b.linked).run _ _ = _ at linked
      obtain ⟨ss, builtEntities, -⟩ := written_of_run added
      obtain ⟨ss', builtRelationships, -⟩ := written_of_run linked
      obtain ⟨half, added, stillIdle, -⟩ :=
        addEntities_of_idle _ _ settings b.written ⟨ss, builtEntities⟩ idle
      obtain ⟨whole, linked, -, -⟩ :=
        addRelationships_of_idle _ _ settings b.policy b.linked ⟨ss', builtRelationships⟩ stillIdle
      unfold apply
      rw [← written, added]
      dsimp only
      rw [← Batch.linked, linked]
      exact ⟨_, rfl⟩

end Graphs

/-! ## Applying it again -/

/-- Applications of a batch that fail, while failures are put in line. -/
inductive Failing (b : Batch) (registry : Registry) (start : Memory) : Memory → Prop
  | none : Failing b registry start start
  | failNext {m : Memory} (before : Failing b registry start m) (e : StoreError) :
      Failing b registry start (m.failNext e)
  | apply {ν : Type} {s after : Scene Memory ν} {failure : ApplyError}
      (before : Failing b registry start s.world.store) (between : List StoreError)
      (validator : Validator) (settings : WriterSettings)
      (done : b.applyAmid between (writer registry validator settings) s =
        (.error failure, after)) :
      Failing b registry start after.world.store

variable {b : Batch} {registry : Registry} {start m : Memory}

/-- Entities that are written again are as they were. -/
theorem entitiesEffect_again (reachable : start.Reachable) :
    b.entitiesEffect registry (b.entitiesEffect registry start.graph) =
      b.entitiesEffect registry start.graph :=
  Graph.upsertAll_again reachable.consistent reachable.ordered _

/-- However often a batch fails, the graph is as it was or has the entities alone. -/
theorem Failing.graph (reachable : start.Reachable) (failing : Failing b registry start m) :
    m.graph = start.graph ∨ m.graph = b.entitiesEffect registry start.graph := by
  induction failing with
  | none => exact .inl rfl
  | failNext before e ih => exact ih
  | apply before between validator settings done ih =>
      -- a half that is written a second time changes nothing, so there are still two graphs
      rcases graph_of_failure done with unchanged | half
      · rw [unchanged]
        exact ih
      · right
        rcases ih with same | written
        · rw [half, same]
        · rw [half, written, entitiesEffect_again reachable]

/-- However often a batch has failed, it has its effect on the first graph. -/
theorem Failing.effect (reachable : start.Reachable) (failing : Failing b registry start m) :
    b.effect registry m.graph = b.effect registry start.graph := by
  rcases failing.graph reachable with same | half
  · rw [same]
  · rw [Batch.effect, Batch.effect, half, entitiesEffect_again reachable]

/-- Recovery. The application of a batch ends in one of three ways, also when failures are put
in line between its halves: an error and the graph as it was, an error and the graph that the
entities alone give, or the graph of both halves. Once the batch is applied, the failures
before have left no trace in the graph. -/
theorem apply_recovers (b : Batch) (registry : Registry) (validator : Validator)
    (settings : WriterSettings) {start : Memory} (reachable : start.Reachable) :
    let w := writer registry validator settings
    (∀ (ν : Type) (s : Scene Memory ν), b.applyAmid [] w s = b.apply w s) ∧
    (∀ (ν : Type) (s : Scene Memory ν) (between : List StoreError), s.world.store = start →
      match b.applyAmid between w s with
      | (.error failure, after) =>
          (failure.message = "Failed to add entities" ∧
            after.world.store.graph = start.graph) ∨
          (failure.message = "Failed to add relationships" ∧
            after.world.store.graph = b.entitiesEffect registry start.graph ∧
            ∃ half, w.addEntities b.written s = (.ok (), half) ∧
              after.world.store.graph = half.world.store.graph)
      | (.ok (), after) =>
          after.world.store.graph = b.effect registry start.graph ∧
          ∃ half whole, w.addEntities b.written s = (.ok (), half) ∧
            w.addRelationships b.policy b.linked (half.failAll between) = (.ok (), whole) ∧
            after.world.store.graph = whole.world.store.graph) ∧
    ∀ (ν : Type) (s after : Scene Memory ν) (between : List StoreError),
      Failing b registry start s.world.store → b.applyAmid between w s = (.ok (), after) →
      (∃ once, b.apply w ⟨.ofStore { start with failures := [] }, s.fanout⟩ = (.ok (), once)) ∧
      ∀ (ν' : Type) (validator' : Validator) (settings' : WriterSettings)
        (s' once : Scene Memory ν') (between' : List StoreError),
        s'.world.store.graph = start.graph →
        b.applyAmid between' (writer registry validator' settings') s' = (.ok (), once) →
        after.world.store.graph = once.world.store.graph := by
  refine ⟨fun ν s => applyAmid_nil b _ s, ?_, ?_⟩
  · rintro ν s between rfl
    cases done : b.applyAmid between (writer registry validator settings) s with
    | mk result after =>
        cases ending_of_applyAmid done with
        | entities failed => exact .inl ⟨rfl, unchanged_of_refused failed⟩
        | relationships added failed =>
            rename_i e half
            have kept := unchanged_of_unlinked failed
            exact .inr ⟨rfl, kept.trans (graph_of_added added), half, added, kept⟩
        | applied added linked same =>
            rename_i half whole
            exact ⟨graph_of_applyAmid done, half, whole, added, linked,
              congrArg Memory.graph same⟩
  · intro ν s after between failing done
    refine ⟨applied_of_idle done rfl, ?_⟩
    intro ν' validator' settings' s' once between' same alone
    rw [graph_of_applyAmid done, graph_of_applyAmid alone, same]
    exact failing.effect reachable

/-- The first application leaves the entities alone, and the second one repairs it. -/
theorem apply_recovers_half :
    let b : Batch :=
      ⟨[⟨.ann, ⟨[("age", .int 36)], rfl⟩⟩], [⟨"KNOWS", .ann, .bob, .empty, []⟩], .allFromSource⟩
    let w := writer .empty .structural ⟨0, none, 0⟩
    let start : Scene Memory Unit := ⟨.ofStore .empty, .ofListeners []⟩
    ∃ e half after once,
      b.applyAmid [.transient "reset"] w start = (.error (.relationships e), half) ∧
      half.world.store.graph.nodes ≠ [] ∧
      b.apply w half = (.ok (), after) ∧ b.apply w start = (.ok (), once) ∧
      after.world.store.graph = once.world.store.graph := by
  intro b w start
  obtain ⟨e, half, after, once, first, changed, second, alone⟩ : ∃ e half after once,
      b.applyAmid [.transient "reset"] w start = (.error (.relationships e), half) ∧
        half.world.store.graph.nodes ≠ [] ∧
        b.apply w half = (.ok (), after) ∧ b.apply w start = (.ok (), once) :=
    ⟨_, _, _, _, rfl, List.cons_ne_nil _ _, rfl, rfl⟩
  obtain ⟨same, -, recovers⟩ :=
    apply_recovers b Registry.empty .structural ⟨0, none, 0⟩ Reachable.empty
  have failing : Failing b Registry.empty Memory.empty half.world.store :=
    .apply .none [.transient "reset"] .structural ⟨0, none, 0⟩ first
  obtain ⟨-, repaired⟩ := recovers Unit half after [] failing ((same Unit half).trans second)
  have graph := repaired Unit .structural ⟨0, none, 0⟩ start once [] rfl
    ((same Unit start).trans alone)
  exact ⟨e, half, after, once, first, changed, second, alone, graph⟩

end Batch

end RecordGraph
