import RecordGraph.Proofs.Writer.Runs

/-!
# Entities and relationships in either order

Relationships may arrive before the entities that they join. What is written first has no
influence on the graph: an end that is missing becomes a node which the entity then adds to,
and relationships leave the properties of nodes alone.
-/

namespace RecordGraph.Memory

variable {registry : Registry} {validator : Validator} {settings : WriterSettings}

/-- With no failure in line, of two calls that both succeed on their own each succeeds after
the other. -/
theorem ok_after_ok {first second : WriteCall} {s s₁ s₂ : Scene Memory ν}
    (idle : s.world.store.failures = [])
    (doneFirst : first.run (writer registry validator settings) s = (.ok (), s₁))
    (doneSecond : second.run (writer registry validator settings) s = (.ok (), s₂)) :
    ∃ after, second.run (writer registry validator settings) s₁ = (.ok (), after) ∧
      after.world.store.graph =
        second.effect registry (first.effect registry s.world.store.graph) := by
  obtain ⟨ss, builtFirst, -⟩ := written_of_run doneFirst
  obtain ⟨ts, builtSecond, -⟩ := written_of_run doneSecond
  obtain ⟨again, same, idleFirst, graphFirst⟩ := ok_of_idle ⟨ss, builtFirst⟩ idle
  cases doneFirst.symm.trans same
  obtain ⟨after, done, -, graph⟩ := ok_of_idle ⟨ts, builtSecond⟩ idleFirst
  refine ⟨after, done, ?_⟩
  rw [graph, graphFirst]

/-- Entities and relationships that are accepted may be written in either order: all calls
succeed, and the graph is the same. -/
theorem either_order {s entitiesFirst relationshipsFirst : Scene Memory ν}
    (reachable : Reachable s.world.store) (idle : s.world.store.failures = [])
    {es : List Entity} {policy : RemovalPolicy} {rs : List Relationship}
    (added : (writer registry validator settings).addEntities es s = (.ok (), entitiesFirst))
    (linked : (writer registry validator settings).addRelationships policy rs s =
      (.ok (), relationshipsFirst)) :
    ∃ left right,
      (writer registry validator settings).addRelationships policy rs entitiesFirst =
        (.ok (), left) ∧
      (writer registry validator settings).addEntities es relationshipsFirst =
        (.ok (), right) ∧
      left.world.store.graph = right.world.store.graph := by
  have doneEntities : (WriteCall.addEntities es).run (writer registry validator settings) s =
      (.ok (), entitiesFirst) := added
  have doneRelationships : (WriteCall.addRelationships policy rs).run
      (writer registry validator settings) s = (.ok (), relationshipsFirst) := linked
  obtain ⟨left, doneLeft, graphLeft⟩ := ok_after_ok idle doneEntities doneRelationships
  obtain ⟨right, doneRight, graphRight⟩ := ok_after_ok idle doneRelationships doneEntities
  refine ⟨left, right, doneLeft, doneRight, ?_⟩
  rw [graphLeft, graphRight]
  exact Graph.replace_upsertAll reachable.consistent _ _ _

/-- Ann, who knows Cay, is given a name and knows Bob and herself instead, in either order. -/
theorem either_order_ann :
    let w := writer Registry.empty .structural .default
    let es : List Entity := [⟨.ann, .ok ⟨[("name", .str "Ann")], rfl⟩⟩, ⟨.bob, .ok .empty⟩]
    let rs : List Relationship := [.knows .ann .bob, .knows .ann .ann]
    let start : Scene Memory Unit := ⟨.ofStore .empty, .ofListeners []⟩
    ∃ s entitiesFirst relationshipsFirst left right,
      w.addRelationships .none [.knows .ann .cay] start = (.ok (), s) ∧
      w.addEntities es s = (.ok (), entitiesFirst) ∧
      w.addRelationships .allFromSource rs entitiesFirst = (.ok (), left) ∧
      w.addRelationships .allFromSource rs s = (.ok (), relationshipsFirst) ∧
      w.addEntities es relationshipsFirst = (.ok (), right) ∧
      left.world.store.graph = right.world.store.graph := by
  intro w es rs start
  have fresh : start.world.store.failures = [] := rfl
  obtain ⟨s, done, idle, -⟩ :=
    addRelationships_of_idle .empty .structural .default .none [.knows .ann .cay] ⟨_, rfl⟩ fresh
  obtain ⟨entitiesFirst, added, -⟩ :=
    addEntities_of_idle .empty .structural .default es ⟨_, rfl⟩ idle
  obtain ⟨relationshipsFirst, linked, -⟩ :=
    addRelationships_of_idle .empty .structural .default .allFromSource rs ⟨_, rfl⟩ idle
  obtain ⟨left, right, doneLeft, doneRight, same⟩ :=
    either_order (Reachable.empty.addRelationships done) idle added linked
  exact ⟨s, entitiesFirst, relationshipsFirst, left, right, done, added, doneLeft, linked,
    doneRight, same⟩

end RecordGraph.Memory
